import WebTidy.Proofs.Table
import WebTidy.Stylesheet.Filter

/-!
# Grouping and filtering

Groups with distinct selectors and properties are their own grouping. A filter only looks at the
selector, so it commutes with adding a rule, and one filter behind another keeps what both keep.
-/

namespace WebTidy

theorem ClassSet.ext {s t : ClassSet} (h : ∀ name, name ∈ s ↔ name ∈ t) : s = t := by
  have hp : s.names.Perm t.names :=
    (List.perm_ext_iff_of_nodup s.ascending.nodup t.ascending.nodup).mpr h
  have hn : s.names = t.names := hp.eq_of_pairwise' s.ascending t.ascending
  cases s
  cases t
  simpa using hn

namespace ClassFilter

def keeps : ClassFilter → Text → Bool
  | none, _ => true
  | some used, selector => !namesUnusedClass used selector

theorem inter_self (f : ClassFilter) : f.inter f = f := by
  cases f with
  | none => rfl
  | some s =>
    have h : s.inter s = s := ClassSet.ext fun _ => by simp only [ClassSet.mem_inter, and_self]
    simp only [inter, h]

theorem inter_comm (f g : ClassFilter) : f.inter g = g.inter f := by
  cases f with
  | none => cases g <;> rfl
  | some s =>
    cases g with
    | none => rfl
    | some t =>
      have h : s.inter t = t.inter s := ClassSet.ext fun _ => by
        simp only [ClassSet.mem_inter, and_comm]
      simp only [inter, h]

theorem keeps_some_iff {used : ClassSet} {selector : Text} :
    keeps (some used) selector = true ↔
      ':' ∈ selector ∨ ∀ name ∈ namedClasses selector, name ∈ used := by
  simp only [keeps, namesUnusedClass, Bool.not_eq_true', Bool.and_eq_false_iff, Bool.not_eq_false',
    List.contains_iff_mem, List.any_eq_false, decide_eq_true_eq, not_not]

theorem keeps_inter (f g : ClassFilter) (selector : Text) :
    keeps (f.inter g) selector = (keeps f selector && keeps g selector) := by
  cases f with
  | none => simp [inter, keeps]
  | some s =>
    cases g with
    | none => simp [inter, keeps]
    | some t =>
      rw [Bool.eq_iff_iff, Bool.and_eq_true, inter, keeps_some_iff, keeps_some_iff, keeps_some_iff]
      constructor
      · rintro (h | h)
        · exact ⟨.inl h, .inl h⟩
        · exact ⟨.inr fun n hn => (ClassSet.mem_inter.mp (h n hn)).1,
            .inr fun n hn => (ClassSet.mem_inter.mp (h n hn)).2⟩
      · rintro ⟨h | h, h' | h'⟩
        · exact .inl h
        · exact .inl h
        · exact .inl h'
        · exact .inr fun n hn => ClassSet.mem_inter.mpr ⟨h n hn, h' n hn⟩

end ClassFilter

def Rule.group (rule : Rule) : Text × Declarations := (rule.selector, rule.declarations)

namespace Groups

def toRules (groups : Groups) : List Rule := groups.map fun g => ⟨g.1, g.2⟩

theorem add_of_notMem {groups : Groups} {rule : Rule} (hs : rule.selector ∉ Table.keys groups)
    (hd : (Table.keys rule.declarations).Nodup) : add groups rule = groups ++ [rule.group] := by
  have hg : Table.get? rule.selector groups = none := Table.get?_eq_none_iff.mpr hs
  have hself : Table.setAll [] rule.declarations = rule.declarations := Table.ofEntries_eq_self hd
  rw [add, hg, Option.getD_none, hself, Table.set_of_notMem hs, Rule.group]

theorem foldl_add_toRules {groups more : Groups} (hk : (Table.keys (groups ++ more)).Nodup)
    (hd : ∀ g ∈ more, (Table.keys g.2).Nodup) :
    (toRules more).foldl add groups = groups ++ more := by
  induction more generalizing groups with
  | nil => simp [toRules]
  | cons g more ih =>
    have hn : g.1 ∉ Table.keys groups := by
      simp only [Table.keys, List.map_append, List.map_cons, List.nodup_append] at hk ⊢
      intro hm
      exact hk.2.2 _ hm _ (by simp) rfl
    have hadd : add groups ⟨g.1, g.2⟩ = groups ++ [g] := add_of_notMem hn (hd g (by simp))
    have hrest := @ih (groups ++ [g]) (by simpa using hk) fun e he => hd e (by simp [he])
    simp only [toRules, List.map_cons, List.foldl_cons, hadd] at hrest ⊢
    rw [hrest, List.append_assoc, List.singleton_append]

theorem ofRules_toRules {groups : Groups} (hk : (Table.keys groups).Nodup)
    (hd : ∀ g ∈ groups, (Table.keys g.2).Nodup) : ofRules (toRules groups) = groups := by
  rw [ofRules, foldl_add_toRules (by simpa using hk) hd, List.nil_append]

/-- The declarations of the rules of one selector, in order and with repetitions. -/
def settings (selector : Text) (rules : List Rule) : List (Text × Text) :=
  (rules.filter (·.selector = selector)).flatMap (·.declarations)

theorem settings_cons_of_eq {selector : Text} {rule : Rule} (h : rule.selector = selector)
    (rules : List Rule) :
    settings selector (rule :: rules) = rule.declarations ++ settings selector rules := by
  simp [settings, h]

theorem settings_cons_of_ne {selector : Text} {rule : Rule} (h : rule.selector ≠ selector)
    (rules : List Rule) : settings selector (rule :: rules) = settings selector rules := by
  simp [settings, h]

theorem getD_get?_foldl_add (selector : Text) (groups : Groups) (rules : List Rule) :
    (Table.get? selector (rules.foldl add groups)).getD [] =
      Table.setAll ((Table.get? selector groups).getD []) (settings selector rules) := by
  induction rules generalizing groups with
  | nil => rfl
  | cons rule rules ih =>
    rw [List.foldl_cons, ih]
    by_cases hs : rule.selector = selector
    · rw [add, hs, Table.get?_set_self, Option.getD_some, settings_cons_of_eq hs,
        Table.setAll_append]
    · rw [add, Table.get?_set_of_ne hs, settings_cons_of_ne hs]

/-- A property of a group has the value that the last rule of the selector gives it. -/
theorem get?_get?_ofRules (selector property : Text) (rules : List Rule) :
    Table.get? property ((Table.get? selector (ofRules rules)).getD []) =
      Table.get? property (settings selector rules).reverse := by
  rw [ofRules, getD_get?_foldl_add, Table.get?, Option.getD_none, Table.get?_setAll, Table.get?,
    Option.or_none]

theorem restrict_add (p : Text → Bool) (groups : Groups) (rule : Rule) :
    Table.restrict p (add groups rule) =
      if p rule.selector then add (Table.restrict p groups) rule else Table.restrict p groups := by
  rw [add, Table.restrict_set]
  split
  · next hp => rw [add, Table.get?_restrict hp]
  · rfl

/-- It does not matter whether rules are dropped before they are merged or after. -/
theorem restrict_foldl_add (p : Text → Bool) (groups : Groups) (rules : List Rule) :
    Table.restrict p (rules.foldl add groups) =
      (rules.filter (p ·.selector)).foldl add (Table.restrict p groups) := by
  induction rules generalizing groups with
  | nil => rfl
  | cons rule rules ih =>
    rw [List.foldl_cons, ih, restrict_add]
    cases hp : p rule.selector <;> simp [hp]

theorem applyFilter_eq_restrict (f : ClassFilter) (groups : Groups) :
    applyFilter f groups = Table.restrict f.keeps groups := by
  cases f with
  | none => simp [applyFilter, Table.restrict, ClassFilter.keeps]
  | some used => rfl

theorem applyFilter_applyFilter (f g : ClassFilter) (groups : Groups) :
    applyFilter g (applyFilter f groups) = applyFilter (f.inter g) groups := by
  simp only [applyFilter_eq_restrict, Table.restrict_restrict]
  congr 1
  funext selector
  exact (ClassFilter.keeps_inter f g selector).symm

theorem applyFilter_sublist (f : ClassFilter) (groups : Groups) :
    (applyFilter f groups).Sublist groups := by
  rw [applyFilter_eq_restrict]
  exact List.filter_sublist

/-- The groups that a filter keeps of the rules of a text. -/
def ofText (f : ClassFilter) (t : Text) : Groups := applyFilter f (ofRules (readRules t))

/-- A filter at every stage keeps what one filter at the end keeps. -/
theorem applyFilter_foldl_add (f : ClassFilter) (groups : Groups) (rules : List Rule) :
    applyFilter f (rules.foldl add (applyFilter f groups)) =
      applyFilter f (rules.foldl add groups) := by
  simp only [applyFilter_eq_restrict, restrict_foldl_add, Table.restrict_restrict, Bool.and_self]

end Groups

end WebTidy
