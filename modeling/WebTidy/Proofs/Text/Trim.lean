import Mathlib
import WebTidy.Text.Blank

/-!
# Trimming

Trimming cuts a piece out of a text that blanks neither start nor end. What is trimmed already
stays as it is, and blanks put before a text do not change what trimming leaves.
-/

namespace WebTidy.Text

theorem trimLeft_isSuffix (t : Text) : trimLeft t <:+ t := List.dropWhile_suffix _

theorem trimRight_isPrefix (t : Text) : trimRight t <+: t := List.rdropWhile_prefix isBlank t

theorem trim_isInfix (t : Text) : trim t <:+: t :=
  (trimRight_isPrefix _).isInfix.trans (trimLeft_isSuffix t).isInfix

theorem mem_of_mem_trim {c : Char} {t : Text} (h : c ∈ trim t) : c ∈ t :=
  (trim_isInfix t).subset h

theorem trimLeft_eq_self_iff {t : Text} :
    trimLeft t = t ↔ ∀ c, t.head? = some c → isBlank c = false := by
  cases t with
  | nil => simp [trimLeft]
  | cons c t =>
    cases h : isBlank c with
    | false => simp [trimLeft, h]
    | true =>
      have hl := (trimLeft_isSuffix t).length_le
      constructor
      · intro he
        have := congrArg List.length he
        simp only [trimLeft, h, List.dropWhile_cons_of_pos, List.length_cons] at this hl
        omega
      · intro hc
        simp [h] at hc

theorem trimLeft_trimLeft (t : Text) : trimLeft (trimLeft t) = trimLeft t :=
  List.dropWhile_idempotent isBlank t

theorem trimRight_trimRight (t : Text) : trimRight (trimRight t) = trimRight t :=
  List.rdropWhile_idempotent isBlank t

theorem trimLeft_eq_self_of_isPrefix {s t : Text} (hp : s <+: t) (h : trimLeft t = t) :
    trimLeft s = s := by
  rw [trimLeft_eq_self_iff] at h ⊢
  obtain ⟨u, rfl⟩ := hp
  intro c hc
  exact h c (by simp [hc])

theorem trimLeft_trim (t : Text) : trimLeft (trim t) = trim t :=
  trimLeft_eq_self_of_isPrefix (trimRight_isPrefix _) (trimLeft_trimLeft t)

theorem trim_trim (t : Text) : trim (trim t) = trim t := by
  rw [trim, trimLeft_trim, trim, trimRight_trimRight]

theorem trimLeft_eq_self_of_trim_eq {t : Text} (h : trim t = t) : trimLeft t = t := by
  rw [← h, trimLeft_trim]

/-- A trimmed text keeps its place at the head of whatever follows it. -/
theorem trimLeft_append_of_trim_eq {s : Text} (h : trim s = s) (hn : s ≠ []) (t : Text) :
    trimLeft (s ++ t) = s ++ t := by
  have hs := trimLeft_eq_self_iff.mp (trimLeft_eq_self_of_trim_eq h)
  rw [trimLeft_eq_self_iff]
  cases s with
  | nil => exact absurd rfl hn
  | cons c s => simpa using hs

theorem trimLeft_eq_nil_iff {t : Text} : trimLeft t = [] ↔ ∀ c ∈ t, isBlank c = true :=
  List.dropWhile_eq_nil_iff

theorem trimLeft_append {s : Text} (h : trimLeft s ≠ []) (t : Text) :
    trimLeft (s ++ t) = trimLeft s ++ t := by
  simp only [trimLeft] at h ⊢
  rw [List.dropWhile_append, if_neg (by simpa using h)]

theorem trimLeft_append_of_blank {w : Text} (h : ∀ c ∈ w, isBlank c = true) (t : Text) :
    trimLeft (w ++ t) = trimLeft t :=
  List.dropWhile_append_of_pos h

theorem trim_append_of_blank {w : Text} (h : ∀ c ∈ w, isBlank c = true) (t : Text) :
    trim (w ++ t) = trim t := by
  rw [trim, trimLeft_append_of_blank h, trim]

/-- No blank is a letter, a digit or a hyphen. -/
theorem toNat_of_isBlank {c : Char} (h : isBlank c = true) : c.toNat < 45 ∨ 122 < c.toNat := by
  obtain ⟨r, hr, hfirst, hlast⟩ := CodeRanges.exists_range_of_coversCode h
  have hout : ∀ r ∈ blankRanges, r.2 < 45 ∨ 122 < r.1 := by decide
  have hrange := hout r hr
  omega

theorem isBlank_space : isBlank ' ' = true := by decide

theorem trim_space_cons (t : Text) : trim (' ' :: t) = trim t := by
  apply trim_append_of_blank (w := [' '])
  simp [isBlank_space]

theorem trimRight_append (s t : Text) :
    trimRight (s ++ t) = if trimRight t = [] then trimRight s else s ++ trimRight t := by
  simp only [trimRight, List.reverse_append, List.dropWhile_append, List.isEmpty_iff,
    List.reverse_eq_nil_iff]
  split
  · rfl
  · rw [List.reverse_append, List.reverse_reverse]

theorem exists_blank_of_trimRight (t : Text) :
    ∃ w : Text, (∀ c ∈ w, isBlank c = true) ∧ t = trimRight t ++ w := by
  refine ⟨List.rtakeWhile isBlank t, fun c hc => ?_, ?_⟩
  · exact List.mem_rtakeWhile_imp hc
  · exact (List.rdropWhile_append_rtakeWhile ..).symm

theorem trimRight_eq_nil_iff {t : Text} : trimRight t = [] ↔ ∀ c ∈ t, isBlank c = true :=
  List.rdropWhile_eq_nil_iff

theorem trimRight_append_of_blank {w : Text} (h : ∀ c ∈ w, isBlank c = true) (t : Text) :
    trimRight (t ++ w) = trimRight t := by
  rw [trimRight_append, if_pos (trimRight_eq_nil_iff.mpr h)]

theorem trim_append_blank {w : Text} (h : ∀ c ∈ w, isBlank c = true) (t : Text) :
    trim (t ++ w) = trim t := by
  by_cases hn : trimLeft t = []
  · rw [trim, trimLeft_append_of_blank (trimLeft_eq_nil_iff.mp hn), trimLeft_eq_nil_iff.mpr h, trim,
      hn]
  · rw [trim, trimLeft_append hn, trimRight_append_of_blank h, trim]

/-- A text is what trimming leaves of it, between blanks. -/
theorem trim_trimRight (t : Text) : trim (trimRight t) = trim t := by
  obtain ⟨w, hw, hsplit⟩ := exists_blank_of_trimRight t
  conv_rhs => rw [hsplit, trim_append_blank hw]

theorem exists_blanks_around (t : Text) : ∃ w v : Text, (∀ c ∈ w, isBlank c = true) ∧
    (∀ c ∈ v, isBlank c = true) ∧ t = w ++ trim t ++ v := by
  obtain ⟨v, hv, hsplit⟩ := exists_blank_of_trimRight (trimLeft t)
  refine ⟨t.takeWhile isBlank, v, fun c hc => List.mem_takeWhile_imp hc, hv, ?_⟩
  rw [List.append_assoc, trim, ← hsplit, trimLeft, List.takeWhile_append_dropWhile]

/-- Around a piece without blanks a text is trimmed on each side by itself. -/
theorem trim_append_solid {x : Text} (hn : x ≠ []) (hx : ∀ c ∈ x, isBlank c = false)
    (s t : Text) : trim (s ++ x ++ t) = trimLeft s ++ x ++ trimRight t := by
  obtain ⟨c, u, rfl⟩ := List.exists_cons_of_ne_nil hn
  have hleft : trimLeft (s ++ (c :: u) ++ t) = trimLeft s ++ (c :: u) ++ t := by
    rw [List.append_assoc, List.append_assoc]
    by_cases hs : trimLeft s = []
    · rw [trimLeft_append_of_blank (trimLeft_eq_nil_iff.mp hs), hs, List.nil_append,
        trimLeft_eq_self_iff]
      intro d hd
      obtain rfl : c = d := by simpa using hd
      exact hx c (by simp)
    · exact trimLeft_append hs _
  have hright : trimRight (c :: u) = c :: u := by
    obtain ⟨v, hv, hsplit⟩ := exists_blank_of_trimRight (c :: u)
    cases v with
    | nil => simpa using hsplit.symm
    | cons d v =>
      have hd : d ∈ c :: u := by
        rw [hsplit]
        simp
      simp [hx d hd] at hv
  rw [trim, hleft, trimRight_append]
  split
  · next ht => rw [trimRight_append, hright, if_neg hn, ht, List.append_nil]
  · rfl

theorem trim_eq_nil_iff {t : Text} : trim t = [] ↔ ∀ c ∈ t, isBlank c = true := by
  rw [trim, trimRight_eq_nil_iff]
  constructor
  · intro h c hc
    rw [← List.takeWhile_append_dropWhile (p := isBlank) (l := t), List.mem_append] at hc
    rcases hc with hc | hc
    · exact List.mem_takeWhile_imp hc
    · exact h c hc
  · intro h c hc
    exact h c ((trimLeft_isSuffix t).subset hc)

end WebTidy.Text
