import WebTidy.Proofs.Stylesheet.MergedBodies
import WebTidy.Proofs.Stylesheet.Refiltering

/-!
# Stylesheets of flat rules

A stylesheet that is only flat rules, with blanks wherever a reader would put them, is read rule by
rule. Tidying keeps the group of a selector exactly when the filter keeps the selector, and every
property of it has the value of its last setting.
-/

namespace WebTidy

namespace RuleText

/-- Besides being readable, the selector is no media query. -/
structure WellFormed (r : RuleText) : Prop extends Readable r where
  media : Lacks mediaWord r.selector

theorem wellFormed_iff {r : RuleText} : r.WellFormed ↔
    ('{' ∉ r.selector ∧ '}' ∉ r.selector) ∧ ('{' ∉ r.body ∧ '}' ∉ r.body) ∧
      r.selector.trim ≠ [] ∧ Declarations.ofBody r.body ≠ [] ∧ Lacks mediaWord r.selector := by
  rw [← braceFree_iff, ← braceFree_iff]
  exact ⟨fun ⟨⟨hs, hb, hn, hd⟩, hm⟩ => ⟨hs, hb, hn, hd, hm⟩,
    fun ⟨hs, hb, hn, hd, hm⟩ => ⟨⟨hs, hb, hn, hd⟩, hm⟩⟩

instance : DecidablePred WellFormed := fun _ => decidable_of_iff _ wellFormed_iff.symm

/-- Rules in front of a text are top-level rules, whatever the text holds. -/
theorem parse_append {rules : List RuleText} (h : ∀ r ∈ rules, r.WellFormed) {t : Text}
    (hc : Lacks commentStart (rules.flatMap render ++ t)) :
    Sheet.parse (rules.flatMap render ++ t) =
      ⟨rules.map rule ++ readRules (extractMedia t).2, (extractMedia t).1⟩ := by
  have hreadable : ∀ r ∈ rules, r.Readable := fun r hr => (h r hr).toReadable
  have hopens : ∀ r ∈ rules, ¬ OpensMedia r.selector := fun r hr ho =>
    (h r hr).media ho.mediaWord_isInfix
  have hmedia := extractMedia_append (RuleText.firstOpening?_append hreadable hopens t)
  rw [Sheet.parse, withoutComments_of_no_opening hc, hmedia, readRules_append hreadable]

theorem parse_eq {rules : List RuleText} (h : ∀ r ∈ rules, r.WellFormed) {w : Text}
    (hw : ∀ c ∈ w, isBlank c = true) (hc : Lacks commentStart (rules.flatMap render ++ w)) :
    Sheet.parse (rules.flatMap render ++ w) = ⟨rules.map rule, []⟩ := by
  have hblank : Lacks mediaWord w := by
    intro hi
    exact absurd (hw '@' (hi.subset (by decide))) (by decide)
  rw [parse_append h hc, extractMedia_of_no_mediaWord hblank,
    readRules_of_braceFree (braceFree_of_blank hw), List.append_nil]

/-- The value that the last setting of a property gives it in the rules of a selector. -/
def lastValue? (selector property : Text) (rules : List RuleText) : Option Text :=
  Table.get? property
    ((rules.filter (·.selector.trim = selector)).flatMap (bodyEntries ·.body)).reverse

theorem get?_settings (selector property : Text) (rules : List RuleText) :
    Table.get? property (Groups.settings selector (rules.map rule)).reverse =
      lastValue? selector property rules := by
  have hrules : rules.map rule =
      (rules.map fun r => (r.selector.trim, r.body)).map Rule.ofBody := by
    rw [List.map_map]
    rfl
  have hbodies : (Groups.bodies selector (rules.map fun r => (r.selector.trim, r.body))).flatMap
      bodyEntries = (rules.filter (·.selector.trim = selector)).flatMap (bodyEntries ·.body) := by
    rw [Groups.bodies, List.filter_map, List.map_map, List.flatMap_map]
    rfl
  rw [hrules, lastValue?, ← hbodies, ← Table.get?_ofEntries, ← Table.get?_ofEntries]
  exact congrArg (Table.get? property) (Groups.setAll_settings selector [] _)

end RuleText

theorem Groups.mem_applyFilter {f : ClassFilter} {groups : Groups} {g : Text × Declarations} :
    g ∈ applyFilter f groups ↔ g ∈ groups ∧ f.keeps g.1 = true := by
  rw [applyFilter_eq_restrict, Table.restrict, List.mem_filter]

/-- The group that the rules of a selector make has the last value of every property. -/
theorem Groups.exists_mem_ofRules {rules : List RuleText} {selector property value : Text}
    (hv : RuleText.lastValue? selector property rules = some value) :
    ∃ ds, (selector, ds) ∈ ofRules (rules.map RuleText.rule) ∧
      Table.get? property ds = some value := by
  have hlast : Table.get? property
      ((Table.get? selector (ofRules (rules.map RuleText.rule))).getD []) = some value := by
    rw [get?_get?_ofRules, RuleText.get?_settings, hv]
  cases hg : Table.get? selector (ofRules (rules.map RuleText.rule)) with
  | none => simp [hg, Table.get?] at hlast
  | some ds => exact ⟨ds, Table.mem_of_get?_eq_some hg, by simpa [hg] using hlast⟩

/-- The tidied text has a rule of a selector with the last value of a property exactly when the
filter keeps the selector. -/
theorem exists_rule_parse_tidy_iff {rules : List RuleText} (h : ∀ r ∈ rules, r.WellFormed)
    {w : Text} (hw : ∀ c ∈ w, isBlank c = true)
    (hc : Lacks commentStart (rules.flatMap RuleText.render ++ w)) (f : ClassFilter)
    {selector property value : Text}
    (hv : RuleText.lastValue? selector property rules = some value) :
    (∃ rule ∈ (Sheet.parse (tidy f (rules.flatMap RuleText.render ++ w))).rules,
      rule.selector = selector ∧ Table.get? property rule.declarations = some value) ↔
      f.keeps selector = true := by
  have hparse := RuleText.parse_eq h hw hc
  have hselectors : ∀ rule ∈ (Sheet.parse (rules.flatMap RuleText.render ++ w)).rules ++
      (Sheet.parse (rules.flatMap RuleText.render ++ w)).media.flatMap (·.rules),
      ¬ mediaWord <:+: rule.selector := by
    rw [hparse]
    intro rule hm
    obtain ⟨r, hr, rfl⟩ := List.mem_map.mp (by simpa using hm)
    exact fun hi => (h r hr).media (hi.trans (Text.trim_isInfix r.selector))
  have hcomment : ¬ commentStart <:+: withoutComments (rules.flatMap RuleText.render ++ w) := by
    rwa [withoutComments_of_no_opening hc]
  have hread := GroupedSheet.parse_render_of_rereadable
    ((Sheet.wellFormed_parse _).grouped f) (rereadable_grouped_parse hcomment hselectors f)
  have hrules : (Sheet.parse (tidy f (rules.flatMap RuleText.render ++ w))).rules =
      Groups.toRules (Groups.applyFilter f (Groups.ofRules (rules.map RuleText.rule))) := by
    rw [tidy, hread, hparse]
    rfl
  rw [hrules]
  constructor
  · rintro ⟨rule, hm, rfl, -⟩
    obtain ⟨g, hg, rfl⟩ := List.mem_map.mp hm
    exact (Groups.mem_applyFilter.mp hg).2
  · intro hk
    obtain ⟨ds, hm, hds⟩ := Groups.exists_mem_ofRules hv
    have hkept : (selector, ds) ∈
        Groups.applyFilter f (Groups.ofRules (rules.map RuleText.rule)) :=
      Groups.mem_applyFilter.mpr ⟨hm, hk⟩
    exact ⟨⟨selector, ds⟩, List.mem_map.mpr ⟨(selector, ds), hkept, rfl⟩, rfl, hds⟩

end WebTidy
