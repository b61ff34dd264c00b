import WebTidy.Checks.LineRule

/-!
# Reviewing a source

Each dialect has its list of line rules, to which a caller may add rules of the catalogue. Findings
come line by line, and within a line in the order of the rules; those about the whole source follow
the ones of its first line.
-/

namespace WebTidy

namespace Dialect

def componentRules : List LineRule :=
  [.hashComment, .forbiddenHtmlComment, .classAttribute, .forAttribute, .unclosedTag, .stringStyle,
    .lowercaseEvents, .missingSemicolon]

def scriptRules : List LineRule := [.hashComment, .forbiddenHtmlComment, .missingSemicolon]

def lineRules : Dialect → List LineRule
  | jsx => componentRules
  | tsx => componentRules
  | js => scriptRules
  | ts => scriptRules
  | php => [.phpHtmlComment, .classNameInMarkup]
  | html => [.scriptCommentInMarkup, .classNameInMarkup, .unclosedTag]
  | vue => [.unclosedTag]

def sourceRules : Dialect → List SourceRule
  | php => [.phpOpenTag]
  | _ => []

end Dialect

def lineFindings (d : Dialect) (rules : List LineRule) (number : Int) (line : Text) :
    List Finding :=
  rules.flatMap fun rule => rule.check d number line

/-- The findings on lines of which the first has the given number. -/
def linesFindings (d : Dialect) (rules : List LineRule) : Int → List Text → List Finding
  | _, [] => []
  | number, line :: lines =>
    lineFindings d rules number line ++ linesFindings d rules (number + 1) lines

def sourceFindings (d : Dialect) (source : Text) : List Finding :=
  d.sourceRules.flatMap fun rule => rule.check d source

/-- All findings on a source, in order; an empty source has none. -/
def findings (d : Dialect) (extra : List LineRule) (source : Text) : List Finding :=
  let rules := d.lineRules ++ extra
  match source, source.lines with
  | [], _ => []
  | _, [] => []
  | _, first :: rest =>
    lineFindings d rules 1 first ++ sourceFindings d source ++ linesFindings d rules 2 rest

def review (d : Dialect) (extra : List LineRule) (source : Text) : Review :=
  Review.ofFindings (findings d extra source)

theorem linesFindings_append (d : Dialect) (rules : List LineRule) (number : Int)
    (xs ys : List Text) :
    linesFindings d rules number (xs ++ ys)
      = linesFindings d rules number xs ++ linesFindings d rules (number + xs.length) ys := by
  induction xs generalizing number with
  | nil => simp [linesFindings]
  | cons x xs ih =>
    simp only [List.cons_append, linesFindings, ih, List.append_assoc, List.length_cons]
    congr 3
    omega

theorem linesFindings_shift (d : Dialect) (rules : List LineRule) (number shift : Int)
    (lines : List Text) :
    linesFindings d rules (number + shift) lines
      = (linesFindings d rules number lines).map fun f => { f with line := f.line + shift } := by
  induction lines generalizing number with
  | nil => rfl
  | cons line lines ih =>
    have : number + shift + 1 = number + 1 + shift := by omega
    simp only [linesFindings, lineFindings, this, ih, LineRule.check_shift, List.map_append,
      List.map_flatMap]

end WebTidy
