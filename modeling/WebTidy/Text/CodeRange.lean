import WebTidy.Text.Basic

/-!
# Ranges of code points

A class of characters is given by its closed ranges of code points in ascending order.
-/

namespace WebTidy

abbrev CodeRanges := List (Nat × Nat)

namespace CodeRanges

/-- Whether one of the ascending ranges holds the code point. -/
def coversCode : CodeRanges → Nat → Bool
  | [], _ => false
  | (first, last) :: ranges, n =>
    if n < first then false else n ≤ last || coversCode ranges n

def covers (ranges : CodeRanges) (c : Char) : Bool := ranges.coversCode c.toNat

theorem exists_range_of_coversCode {ranges : CodeRanges} {n : Nat}
    (h : ranges.coversCode n = true) : ∃ r ∈ ranges, r.1 ≤ n ∧ n ≤ r.2 := by
  induction ranges with
  | nil => simp [coversCode] at h
  | cons r ranges ih =>
    obtain ⟨first, last⟩ := r
    by_cases hf : n < first
    · simp [coversCode, hf] at h
    · simp only [coversCode, hf, if_false, Bool.or_eq_true, decide_eq_true_eq] at h
      rcases h with h | h
      · exact ⟨(first, last), by simp, by simpa using hf, h⟩
      · obtain ⟨r, hr, hn⟩ := ih h
        exact ⟨r, by simp [hr], hn⟩

end CodeRanges

end WebTidy
