import WebTidy.Proofs.Stylesheet.ParsedSheet

/-!
# Tidying twice

The text of a rereadable sheet is parsed to the rules of its groups, and these group to the same
sheet again. So a second tidying only applies its filter, and the two filters act as one.
-/

namespace WebTidy

def MediaGroups.applyFilter (f : ClassFilter) (block : MediaGroups) : MediaGroups :=
  ⟨block.query, Groups.applyFilter f block.groups⟩

/-- The part of a sheet that one more filter keeps. -/
def GroupedSheet.applyFilter (f : ClassFilter) (sheet : GroupedSheet) : GroupedSheet :=
  ⟨Groups.applyFilter f sheet.top,
    (sheet.media.map (MediaGroups.applyFilter f)).filter (!·.groups.isEmpty)⟩

theorem MediaBlock.grouped_toBlock {block : MediaGroups} (h : block.WellFormed) (f : ClassFilter) :
    MediaBlock.grouped f block.toBlock = block.applyFilter f := by
  rw [MediaBlock.grouped, MediaGroups.toBlock, h.groups.ofRules_toRules, MediaGroups.applyFilter]

theorem GroupedSheet.grouped_toSheet {sheet : GroupedSheet} (h : sheet.WellFormed)
    (f : ClassFilter) : sheet.toSheet.grouped f = sheet.applyFilter f := by
  have hmedia : (sheet.media.map MediaGroups.toBlock).map (MediaBlock.grouped f) =
      sheet.media.map (MediaGroups.applyFilter f) := by
    rw [List.map_map]
    exact List.map_congr_left fun b hb => MediaBlock.grouped_toBlock (h.media b hb) f
  rw [Sheet.grouped, toSheet, applyFilter, h.top.ofRules_toRules, hmedia]

/-- A block without groups has none under a further filter either. -/
theorem filter_map_applyFilter (g : ClassFilter) (blocks : List MediaGroups) :
    ((blocks.filter (!·.groups.isEmpty)).map (MediaGroups.applyFilter g)).filter
        (!·.groups.isEmpty) =
      (blocks.map (MediaGroups.applyFilter g)).filter (!·.groups.isEmpty) := by
  rw [List.filter_map, List.filter_filter, List.filter_map]
  congr 1
  apply List.filter_congr
  intro block _
  cases he : block.groups with
  | nil => simp [MediaGroups.applyFilter, he, Groups.applyFilter_eq_restrict, Table.restrict]
  | cons e groups => simp

theorem Sheet.applyFilter_grouped (sheet : Sheet) (f g : ClassFilter) :
    (sheet.grouped f).applyFilter g = sheet.grouped (f.inter g) := by
  have hblock : ∀ block : MediaBlock,
      (block.grouped f).applyFilter g = block.grouped (f.inter g) := by
    intro block
    rw [MediaBlock.grouped, MediaGroups.applyFilter, Groups.applyFilter_applyFilter,
      MediaBlock.grouped]
  have hmedia : (sheet.media.map (MediaBlock.grouped f)).map (MediaGroups.applyFilter g) =
      sheet.media.map (MediaBlock.grouped (f.inter g)) := by
    rw [List.map_map]
    exact List.map_congr_left fun b _ => hblock b
  rw [Sheet.grouped, GroupedSheet.applyFilter, filter_map_applyFilter, hmedia,
    Groups.applyFilter_applyFilter, Sheet.grouped]

theorem tidy_tidy_of_rereadable {css : Text} {f : ClassFilter}
    (h : ((Sheet.parse css).grouped f).Rereadable) (g : ClassFilter) :
    tidy g (tidy f css) = tidy (f.inter g) css := by
  have hw := (Sheet.wellFormed_parse css).grouped f
  rw [tidy, tidy, GroupedSheet.parse_render_of_rereadable hw h, GroupedSheet.grouped_toSheet hw,
    Sheet.applyFilter_grouped, tidy]

theorem rereadable_grouped_parse {css : Text} (hc : ¬ commentStart <:+: withoutComments css)
    (hm : ∀ rule ∈ (Sheet.parse css).rules ++ (Sheet.parse css).media.flatMap (·.rules),
      ¬ mediaWord <:+: rule.selector) (f : ClassFilter) :
    ((Sheet.parse css).grouped f).Rereadable := by
  have hmedia : (Sheet.parse css).TextsIn (Lacks mediaWord) (fun _ => True) (fun _ => True)
      fun _ => True := by
    refine ⟨fun r hr => ⟨hm r (by simp [hr]), by simp, by simp⟩, fun b hb => ⟨trivial, ?_⟩⟩
    intro r hr
    have hmem : r ∈ (Sheet.parse css).media.flatMap (·.rules) := List.mem_flatMap.mpr ⟨b, hb, hr⟩
    exact ⟨hm r (by simp [hmem]), by simp, by simp⟩
  exact GroupedSheet.rereadable_of_lacks ((Sheet.lacks_parse hc).grouped f) (hmedia.grouped f)

/-- Successive filters act as their intersection. So a filter used again changes nothing, the order
of two filters does not matter, and tidying without a filter first has no effect. -/
theorem tidy_tidy {css : Text} (hc : ¬ commentStart <:+: withoutComments css)
    (hm : ∀ rule ∈ (Sheet.parse css).rules ++ (Sheet.parse css).media.flatMap (·.rules),
      ¬ mediaWord <:+: rule.selector) (f g : ClassFilter) :
    tidy g (tidy f css) = tidy (f.inter g) css ∧ tidy f (tidy f css) = tidy f css ∧
      tidy g (tidy f css) = tidy f (tidy g css) ∧ tidy g (tidy none css) = tidy g css := by
  have hboth : ∀ u v, tidy v (tidy u css) = tidy (u.inter v) css :=
    fun u => tidy_tidy_of_rereadable (rereadable_grouped_parse hc hm u)
  refine ⟨hboth f g, ?_, ?_, hboth none g⟩
  · rw [hboth, ClassFilter.inter_self]
  · rw [hboth, hboth, ClassFilter.inter_comm]

/-- Stray braces, a comment, a body without declarations and rules that are absorbed by a block. -/
theorem tidy_tidy_absorbed_rules :
    let css := "\x7d.x.y{a:b}/* c */.x{;}p\x7b .y{c:d}@media q{.x{e:f}}.y{g:h}k{l:m}".toList
    let f := some (ClassSet.ofList [['x'], ['z']])
    let g := some (ClassSet.ofList [['y'], ['z']])
    (¬ commentStart <:+: withoutComments css) ∧
      (∀ rule ∈ (Sheet.parse css).rules ++ (Sheet.parse css).media.flatMap (·.rules),
        ¬ mediaWord <:+: rule.selector) ∧
      tidy g (tidy f css) = tidy (ClassFilter.inter f g) css ∧ tidy f (tidy f css) = tidy f css ∧
      tidy g (tidy f css) = tidy f (tidy g css) ∧ tidy g (tidy none css) = tidy g css :=
  ⟨by decide +kernel, by decide +kernel, tidy_tidy (by decide +kernel) (by decide +kernel) _ _⟩

end WebTidy
