import WebTidy.Stylesheet.Comments
import WebTidy.Stylesheet.Filter
import WebTidy.Stylesheet.Media

/-!
# Tidying a stylesheet

A stylesheet is its top-level rules and its media blocks, each in the order of the text. Tidying
merges the rules of each selector, drops the unused ones and writes the rest compactly. The media
blocks follow the top-level rules, each tidied by itself; a block that keeps no rule is left out.
-/

namespace WebTidy

structure Sheet where
  rules : List Rule
  media : List MediaBlock
  deriving DecidableEq, Repr

def Sheet.parse (css : Text) : Sheet :=
  let split := extractMedia (withoutComments css)
  ⟨readRules split.2, split.1⟩

/-- A media block whose rules are grouped. -/
structure MediaGroups where
  query : Text
  groups : Groups
  deriving DecidableEq, Repr

/-- A stylesheet whose rules are grouped. -/
structure GroupedSheet where
  top : Groups
  media : List MediaGroups
  deriving DecidableEq, Repr

def MediaBlock.grouped (filter : ClassFilter) (block : MediaBlock) : MediaGroups :=
  ⟨block.query, Groups.applyFilter filter (Groups.ofRules block.rules)⟩

/-- The groups of a sheet that pass the filter, without the media blocks that keep none. -/
def Sheet.grouped (filter : ClassFilter) (sheet : Sheet) : GroupedSheet :=
  ⟨Groups.applyFilter filter (Groups.ofRules sheet.rules),
    (sheet.media.map (MediaBlock.grouped filter)).filter (!·.groups.isEmpty)⟩

def MediaGroups.render (block : MediaGroups) : Text :=
  mediaWord ++ ' ' :: block.query ++ '{' :: block.groups.render ++ ['}']

def GroupedSheet.render (sheet : GroupedSheet) : Text :=
  sheet.top.render ++ sheet.media.flatMap MediaGroups.render

/-- The tidied text of a stylesheet. -/
def tidy (filter : ClassFilter) (css : Text) : Text :=
  ((Sheet.parse css).grouped filter).render

/-- Tidies after each step: the new text goes behind the old and the whole is tidied again. -/
def tidySteps (css : Text) : List (Text × ClassFilter) → List Text
  | [] => []
  | (addition, filter) :: steps =>
    tidy filter (css ++ addition) :: tidySteps (tidy filter (css ++ addition)) steps

end WebTidy
