import WebTidy.Text.Basic

/-!
# Sets of class names

A set of class names is the strictly ascending list of its members by code point, so two sets with
the same members are equal. A filter is such a set, or `none` to keep everything.
-/

namespace WebTidy

/-- The names with `name` in its place, unless it is there already. -/
def insertName (name : Text) : List Text → List Text
  | [] => [name]
  | n :: names =>
    if name < n then name :: n :: names
    else if n < name then n :: insertName name names
    else n :: names

theorem eq_of_not_lt {s t : Text} (h : ¬ s < t) (h' : ¬ t < s) : s = t :=
  List.le_antisymm (List.not_lt.mp h') (List.not_lt.mp h)

theorem mem_insertName {name x : Text} {names : List Text} :
    x ∈ insertName name names ↔ x = name ∨ x ∈ names := by
  induction names with
  | nil => simp [insertName]
  | cons n names ih =>
    by_cases h : name < n
    · simp [insertName, h]
    · by_cases h' : n < name
      · simp only [insertName, h, h', if_false, if_true, List.mem_cons, ih]
        grind
      · have := eq_of_not_lt h h'
        subst this
        rw [insertName, if_neg h, if_neg h]
        simp

theorem insertName_ascending {name : Text} {names : List Text}
    (h : names.Pairwise (· < ·)) : (insertName name names).Pairwise (· < ·) := by
  induction names with
  | nil => simp [insertName]
  | cons n names ih =>
    rw [List.pairwise_cons] at h
    by_cases hn : name < n
    · simp only [insertName, hn, if_true, List.pairwise_cons, List.mem_cons]
      refine ⟨?_, h.1, h.2⟩
      rintro x (rfl | hx)
      · exact hn
      · exact List.lt_trans hn (h.1 x hx)
    · by_cases hn' : n < name
      · simp only [insertName, hn, hn', if_false, if_true, List.pairwise_cons]
        refine ⟨fun x hx => ?_, ih h.2⟩
        rcases mem_insertName.mp hx with rfl | hx
        · exact hn'
        · exact h.1 x hx
      · simp only [insertName, hn, hn', if_false, List.pairwise_cons]
        exact h

structure ClassSet where
  names : List Text
  ascending : names.Pairwise (· < ·)
  deriving DecidableEq

/-- What a stylesheet is filtered by; `none` keeps everything. -/
abbrev ClassFilter := Option ClassSet

namespace ClassSet

instance : Membership Text ClassSet := ⟨fun s name => name ∈ s.names⟩

instance (name : Text) (s : ClassSet) : Decidable (name ∈ s) :=
  inferInstanceAs (Decidable (name ∈ s.names))

def empty : ClassSet := ⟨[], List.Pairwise.nil⟩

def insert (s : ClassSet) (name : Text) : ClassSet :=
  ⟨insertName name s.names, insertName_ascending s.ascending⟩

def ofList (names : List Text) : ClassSet := names.foldl insert empty

def inter (s t : ClassSet) : ClassSet :=
  ⟨s.names.filter (· ∈ t), s.ascending.filter _⟩

def size (s : ClassSet) : Nat := s.names.length

theorem mem_insert {s : ClassSet} {name x : Text} : x ∈ s.insert name ↔ x = name ∨ x ∈ s :=
  mem_insertName

theorem not_mem_empty (x : Text) : x ∉ empty := List.not_mem_nil

theorem mem_inter {s t : ClassSet} {x : Text} : x ∈ s.inter t ↔ x ∈ s ∧ x ∈ t := by
  change x ∈ s.names.filter (· ∈ t) ↔ _
  simp only [List.mem_filter, decide_eq_true_eq]
  exact Iff.rfl

theorem mem_foldl_insert {names : List Text} {s : ClassSet} {x : Text} :
    x ∈ names.foldl insert s ↔ x ∈ names ∨ x ∈ s := by
  induction names generalizing s with
  | nil => simp
  | cons n names ih =>
    rw [List.foldl_cons, ih, mem_insert]
    simp only [List.mem_cons]
    grind

theorem mem_ofList {names : List Text} {x : Text} : x ∈ ofList names ↔ x ∈ names := by
  simp [ofList, mem_foldl_insert, not_mem_empty]

end ClassSet

/-- The filter that keeps what both filters keep. -/
def ClassFilter.inter : ClassFilter → ClassFilter → ClassFilter
  | none, g => g
  | f, none => f
  | some s, some t => some (s.inter t)

end WebTidy
