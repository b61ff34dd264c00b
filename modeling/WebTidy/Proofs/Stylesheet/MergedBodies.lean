import WebTidy.Proofs.Stylesheet.Grouping
import WebTidy.Proofs.Text.Words

/-!
# Rules merge as their bodies join

The rules of one selector leave what a single rule leaves whose body is all their bodies, with a
semicolon between neighbours. So a property stands where its first valid setting put it and has the
value of its last one, whether these are in one body or in several, and rules of other selectors do
not matter.
-/

namespace WebTidy

theorem bodyEntries_join (bodies : List Text) :
    bodyEntries (Text.join [';'] bodies) = bodies.flatMap bodyEntries := by
  induction bodies with
  | nil => exact bodyEntries_nil
  | cons body bodies ih =>
    cases bodies with
    | nil => simp [Text.join]
    | cons next bodies =>
      have hcut : body ++ [';'] ++ Text.join [';'] (next :: bodies) =
          body ++ ';' :: Text.join [';'] (next :: bodies) := by simp
      rw [Text.join_cons_cons, hcut, bodyEntries_append, ih, ← List.flatMap_cons]

theorem declaration?_eq_none_iff {entry : Text} :
    declaration? entry = none ↔
      (Text.cutAt ':' entry).1.trim = [] ∨ (Text.cutAt ':' entry).2.trim = [] := by
  rw [declaration?, ← List.isEmpty_iff, ← List.isEmpty_iff, ← Bool.or_eq_true]
  split <;> simp [*]

/-- The rule of a selector and a body, as they stand. -/
def Rule.ofBody (rule : Text × Text) : Rule := ⟨rule.1, Declarations.ofBody rule.2⟩

/-- An entry that sets nothing can be left out of a body. -/
theorem Declarations.ofBody_join_of_idle {idle : Text} (hs : ';' ∉ idle)
    (hi : (Text.cutAt ':' idle).1.trim = [] ∨ (Text.cutAt ':' idle).2.trim = [])
    (entries more : List Text) :
    ofBody (Text.join [';'] (entries ++ idle :: more)) =
      ofBody (Text.join [';'] (entries ++ more)) := by
  have hnone : bodyEntries idle = [] := by
    rw [bodyEntries_singleton hs, declaration?_eq_none_iff.mpr hi, Option.toList_none]
  rw [ofBody, ofBody, bodyEntries_join, bodyEntries_join, List.flatMap_append,
    List.flatMap_cons, hnone, List.nil_append, ← List.flatMap_append]

namespace Groups

theorem keys_ofRules (rules : List Rule) :
    Table.keys (ofRules rules) = (rules.map Rule.selector).eraseDups := by
  induction rules using List.reverseRecOn with
  | nil => rfl
  | append_singleton rules rule ih =>
    rw [ofRules_concat, add, Table.keys_set, ih, List.map_append, List.map_singleton,
      Table.eraseDups_concat]
    simp only [List.mem_eraseDups]

/-- A selector of a rule has a group, and the settings of its rules make it. -/
theorem get?_ofRules {selector : Text} {rules : List Rule}
    (h : selector ∈ rules.map Rule.selector) :
    Table.get? selector (ofRules rules) = some (Table.ofEntries (settings selector rules)) := by
  have hgroup := getD_get?_foldl_add selector [] rules
  cases hg : Table.get? selector (ofRules rules) with
  | none =>
    rw [Table.get?_eq_none_iff, keys_ofRules, List.mem_eraseDups] at hg
    exact absurd h hg
  | some group =>
    rw [← ofRules, hg] at hgroup
    exact congrArg some hgroup

/-- The bodies of the rules of a selector, in order. -/
def bodies (selector : Text) (rules : List (Text × Text)) : List Text :=
  (rules.filter (·.1 = selector)).map Prod.snd

theorem setAll_settings (selector : Text) (ds : Declarations) (rules : List (Text × Text)) :
    Table.setAll ds (settings selector (rules.map Rule.ofBody)) =
      Table.setAll ds ((bodies selector rules).flatMap bodyEntries) := by
  induction rules generalizing ds with
  | nil => rfl
  | cons rule rules ih =>
    rw [List.map_cons]
    by_cases hs : (Rule.ofBody rule).selector = selector
    · have hbodies : bodies selector (rule :: rules) = rule.2 :: bodies selector rules :=
        congrArg (List.map Prod.snd) (List.filter_cons_of_pos (decide_eq_true hs))
      rw [settings_cons_of_eq hs, hbodies, List.flatMap_cons, Table.setAll_append,
        Table.setAll_append, ih, Rule.ofBody, Declarations.ofBody, Table.setAll_ofEntries]
    · have hbodies : bodies selector (rule :: rules) = bodies selector rules :=
        congrArg (List.map Prod.snd) (List.filter_cons_of_neg (mt of_decide_eq_true hs))
      rw [settings_cons_of_ne hs, hbodies, ih]

theorem get?_ofRules_ofBody {selector : Text} {rules : List (Text × Text)}
    (h : selector ∈ rules.map Prod.fst) :
    Table.get? selector (ofRules (rules.map Rule.ofBody)) =
      some (Table.ofEntries ((bodies selector rules).flatMap bodyEntries)) := by
  have hs : selector ∈ (rules.map Rule.ofBody).map Rule.selector := by
    rw [List.map_map]
    exact h
  rw [get?_ofRules hs]
  exact congrArg some (setAll_settings selector [] rules)

/-- The selectors stand in the order of their first rules. The group of a selector is what its
bodies set when they are joined, each property at the place of its first setting and with the value
of its last. An entry without a name or a value changes nothing. -/
theorem ofRules_bodies (rules : List (Text × Text)) :
    Table.keys (ofRules (rules.map Rule.ofBody)) =
        (rules.map Prod.fst).eraseDups ∧
      (∀ selector ∈ rules.map Prod.fst, ∃ group,
        Table.get? selector (ofRules (rules.map Rule.ofBody)) = some group ∧
          group = Declarations.ofBody (Text.join [';'] (bodies selector rules)) ∧
          Table.Records ((bodies selector rules).flatMap bodyEntries) group) ∧
      ∀ (earlier later : List Rule) (selector idle : Text) (entries more : List Text),
        ';' ∉ idle →
        (Text.cutAt ':' idle).1.trim = [] ∨ (Text.cutAt ':' idle).2.trim = [] →
        ofRules (earlier ++
            Rule.ofBody (selector, Text.join [';'] (entries ++ idle :: more)) :: later) =
          ofRules (earlier ++
            Rule.ofBody (selector, Text.join [';'] (entries ++ more)) :: later) := by
  refine ⟨?_, ?_, ?_⟩
  · rw [keys_ofRules, List.map_map]
    rfl
  · intro selector hs
    refine ⟨_, get?_ofRules_ofBody hs, ?_, Table.records_ofEntries _⟩
    rw [Declarations.ofBody, bodyEntries_join]
  · intro earlier later selector idle entries more hs hi
    rw [Rule.ofBody, Rule.ofBody, Declarations.ofBody_join_of_idle hs hi]

/-- Properties set again within a body and across bodies, with rules of another selector and idle
entries between them. -/
theorem ofRules_bodies_interleaved :
    let rules := [(".a".toList, "p:1; q : 2;p:3".toList), ("b".toList, "x:y".toList),
      (".a".toList, "p: ;q:4;:5;r:6".toList), ("b".toList, ";;".toList), (".a".toList, [])]
    ".a".toList ∈ rules.map Prod.fst ∧ ';' ∉ "p: ".toList ∧
      ((Text.cutAt ':' "p: ".toList).1.trim = [] ∨ (Text.cutAt ':' "p: ".toList).2.trim = []) ∧
      (∃ group, Table.get? ".a".toList (ofRules (rules.map Rule.ofBody)) = some group ∧
        group = Declarations.ofBody (Text.join [';'] (bodies ".a".toList rules)) ∧
        Table.Records ((bodies ".a".toList rules).flatMap bodyEntries) group) ∧
      ofRules ([] ++ Rule.ofBody ("b".toList, Text.join [';']
          (["p:1".toList] ++ "p: ".toList :: ["q:2".toList])) :: rules.map Rule.ofBody) =
        ofRules ([] ++ Rule.ofBody ("b".toList, Text.join [';']
          (["p:1".toList] ++ ["q:2".toList])) :: rules.map Rule.ofBody) := by
  intro rules
  have hmem : ".a".toList ∈ rules.map Prod.fst := by decide
  have hsemi : ';' ∉ "p: ".toList := by decide
  have hidle : (Text.cutAt ':' "p: ".toList).1.trim = [] ∨
      (Text.cutAt ':' "p: ".toList).2.trim = [] := by decide +kernel
  have hmerge := ofRules_bodies rules
  exact ⟨hmem, hsemi, hidle, hmerge.2.1 _ hmem, hmerge.2.2 [] _ _ _ _ _ hsemi hidle⟩

end Groups

end WebTidy
