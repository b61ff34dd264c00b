import WebTidy.Proofs.Stylesheet.Grouping

/-!
# Unused selectors

A selector names the whole runs of class characters behind its dots. It is unused if it has no colon
and one of these classes is not in use, so a filter may drop rules before they merge, two filters
act as their intersection, a larger set of classes keeps more, and a class that no selector without
a colon names does not matter.
-/

namespace WebTidy

/-- `name` is a whole run of class characters behind a dot. -/
def NamesClass (selector name : Text) : Prop :=
  ∃ lead rest, selector = lead ++ '.' :: (name ++ rest) ∧ name ≠ [] ∧
    (∀ c ∈ name, isClassChar c = true) ∧ ∀ c, rest.head? = some c → isClassChar c = false

/-- No colon, and a class that is not in use. -/
def Unused (used : ClassSet) (selector : Text) : Prop :=
  ':' ∉ selector ∧ ∃ name, NamesClass selector name ∧ name ∉ used

theorem takeWhile_eq_iff {p : Char → Bool} {t run : Text} :
    t.takeWhile p = run ↔ ∃ rest, t = run ++ rest ∧ (∀ c ∈ run, p c = true) ∧
      ∀ c, rest.head? = some c → p c = false := by
  constructor
  · rintro rfl
    refine ⟨t.dropWhile p, List.takeWhile_append_dropWhile.symm,
      fun c hc => List.mem_takeWhile_imp hc, fun c hc => ?_⟩
    have hhead := List.head?_dropWhile_not p t
    rw [hc] at hhead
    simpa using hhead
  · rintro ⟨rest, rfl, hrun, hrest⟩
    rw [List.takeWhile_append_of_pos hrun]
    cases rest with
    | nil => simp
    | cons c rest => simp [hrest c rfl]

theorem not_namesClass_nil (name : Text) : ¬ NamesClass [] name := by
  rintro ⟨lead, rest, h, -⟩
  exact absurd h.symm (by simp)

theorem namesClass_cons_iff {c : Char} {t name : Text} :
    NamesClass (c :: t) name ↔
      (c = '.' ∧ t.takeWhile isClassChar = name ∧ name ≠ []) ∨ NamesClass t name := by
  constructor
  · rintro ⟨lead, rest, h, hn, hname, hrest⟩
    cases lead with
    | nil =>
      obtain ⟨rfl, rfl⟩ := List.cons_eq_cons.mp h
      exact .inl ⟨rfl, takeWhile_eq_iff.mpr ⟨rest, rfl, hname, hrest⟩, hn⟩
    | cons d lead =>
      obtain ⟨rfl, rfl⟩ := List.cons_eq_cons.mp h
      exact .inr ⟨lead, rest, rfl, hn, hname, hrest⟩
  · rintro (⟨rfl, ht, hn⟩ | ⟨lead, rest, rfl, hn, hname, hrest⟩)
    · obtain ⟨rest, rfl, hname, hrest⟩ := takeWhile_eq_iff.mp ht
      exact ⟨[], rest, rfl, hn, hname, hrest⟩
    · exact ⟨c :: lead, rest, rfl, hn, hname, hrest⟩

/-- The scan for class names misses no run and cuts none. -/
theorem mem_namedClasses_iff {selector name : Text} :
    name ∈ namedClasses selector ↔ NamesClass selector name := by
  induction selector with
  | nil => simp [namedClasses, not_namesClass_nil]
  | cons c t ih =>
    rw [namedClasses, namesClass_cons_iff]
    split
    · next h =>
      rw [List.mem_cons, ih]
      refine or_congr_left ⟨?_, fun hrun => hrun.2.1.symm⟩
      rintro rfl
      exact ⟨h.1, rfl, h.2⟩
    · next h =>
      rw [ih, or_iff_right]
      rintro ⟨hc, rfl, hn⟩
      exact h ⟨hc, hn⟩

theorem keeps_some_iff_not_unused {used : ClassSet} {selector : Text} :
    ClassFilter.keeps (some used) selector = true ↔ ¬ Unused used selector := by
  simp only [ClassFilter.keeps_some_iff, mem_namedClasses_iff, Unused, or_iff_not_imp_left,
    not_and, not_exists, not_not]

instance (used : ClassSet) : DecidablePred (Unused used) := fun _ =>
  decidable_of_iff _ (not_congr keeps_some_iff_not_unused |>.trans not_not)

namespace Groups

theorem keepUsed_eq_restrict (used : ClassSet) (groups : Groups) :
    keepUsed used groups = Table.restrict (ClassFilter.keeps (some used)) groups :=
  applyFilter_eq_restrict (some used) groups

theorem keepUsed_ofRules (used : ClassSet) (rules : List Rule) :
    keepUsed used (ofRules rules) = ofRules (rules.filter (¬ Unused used ·.selector)) := by
  have hkeeps : ClassFilter.keeps (some used) =
      fun selector => decide (¬ Unused used selector) := by
    funext selector
    rw [Bool.eq_iff_iff, keeps_some_iff_not_unused, decide_eq_true_eq]
  rw [keepUsed_eq_restrict, ofRules, restrict_foldl_add, hkeeps]
  rfl

theorem keepUsed_sublist_of_subset {used other : ClassSet} (h : ∀ name ∈ used, name ∈ other)
    (groups : Groups) : (keepUsed used groups).Sublist (keepUsed other groups) := by
  rw [keepUsed_eq_restrict, keepUsed_eq_restrict]
  apply List.monotone_filter_right
  intro g hg
  rw [ClassFilter.keeps_some_iff] at hg ⊢
  exact hg.imp_right fun hnames name hn => h name (hnames name hn)

theorem keepUsed_congr {used other : ClassSet} {groups : Groups}
    (h : ∀ g ∈ groups, ':' ∉ g.1 → ∀ name, NamesClass g.1 name → (name ∈ used ↔ name ∈ other)) :
    keepUsed used groups = keepUsed other groups := by
  rw [keepUsed_eq_restrict, keepUsed_eq_restrict]
  apply List.filter_congr
  intro g hg
  rw [Bool.eq_iff_iff, ClassFilter.keeps_some_iff, ClassFilter.keeps_some_iff]
  by_cases hc : ':' ∈ g.1
  · simp [hc]
  · refine or_congr_right (forall₂_congr fun name hn => ?_)
    exact h g hg hc name (mem_namedClasses_iff.mp hn)

/-- Dropping unused rules before they merge is filtering their groups. Two filters act as their
intersection, of two sets of classes the larger keeps more, and two sets keep the same if they agree
on the classes that the selectors without a colon name. -/
theorem keepUsed_laws (used other : ClassSet) :
    (∀ rules : List Rule,
      keepUsed used (ofRules rules) = ofRules (rules.filter (¬ Unused used ·.selector))) ∧
    (∀ groups : Groups,
      keepUsed other (keepUsed used groups) = keepUsed (used.inter other) groups) ∧
    ((∀ name ∈ used, name ∈ other) →
      ∀ groups : Groups, (keepUsed used groups).Sublist (keepUsed other groups)) ∧
    ∀ groups : Groups,
      (∀ g ∈ groups, ':' ∉ g.1 → ∀ name, NamesClass g.1 name → (name ∈ used ↔ name ∈ other)) →
      keepUsed used groups = keepUsed other groups :=
  ⟨keepUsed_ofRules used, applyFilter_applyFilter (some used) (some other),
    keepUsed_sublist_of_subset, fun _ => keepUsed_congr⟩

/-- Adjacent and trailing dots, a repeated class, a colon, and a class that only a selector with a
colon names. -/
theorem keepUsed_laws_dots :
    let used := ClassSet.ofList ["x".toList]
    let other := ClassSet.ofList ["x".toList, "y".toList]
    let groups : Groups := [("a.x..x.".toList, [("p".toList, "u".toList)]),
      (".y:hover".toList, [("p".toList, "v".toList)]),
      (".x.z-1".toList, [("p".toList, "w".toList)])]
    (∀ name ∈ used, name ∈ other) ∧
      (∀ g ∈ groups, ':' ∉ g.1 → ∀ name, NamesClass g.1 name → (name ∈ used ↔ name ∈ other)) ∧
      (keepUsed used groups).Sublist (keepUsed other groups) ∧
      keepUsed used groups = keepUsed other groups := by
  intro used other groups
  have hsubset : ∀ name ∈ used, name ∈ other := by
    intro name hn
    rw [ClassSet.mem_ofList] at hn ⊢
    exact List.mem_append_left _ hn
  have hnamed : ∀ g ∈ groups, ':' ∉ g.1 → ∀ name ∈ namedClasses g.1,
      (name ∈ used ↔ name ∈ other) := by decide +kernel
  have hagree : ∀ g ∈ groups, ':' ∉ g.1 → ∀ name, NamesClass g.1 name →
      (name ∈ used ↔ name ∈ other) := fun g hg hc name hn =>
    hnamed g hg hc name (mem_namedClasses_iff.mpr hn)
  obtain ⟨-, -, hlarger, hsame⟩ := keepUsed_laws used other
  exact ⟨hsubset, hagree, hlarger hsubset groups, hsame groups hagree⟩

end Groups

end WebTidy
