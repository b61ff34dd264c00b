import WebTidy.Proofs.Text.Captured
import WebTidy.Text.Utf8

/-!
# Line ends

Captured output joins a carriage return to the newline behind it, and a file is read with newlines
for all line ends. The two are the same unless a carriage return stands by itself.
-/

namespace WebTidy.Text

theorem joinLineEnds_cons {c : Char} {t : Text} (h : c = '\r' → t.head? ≠ some '\n') :
    joinLineEnds (c :: t) = c :: joinLineEnds t := by
  rw [joinLineEnds]
  rintro u rfl rfl
  exact h rfl rfl

theorem joinLineEnds_line {t : Text} (h : '\n' ∉ t) : joinLineEnds t = t := by
  induction t with
  | nil => rfl
  | cons c t ih =>
    rw [joinLineEnds_cons fun _ hhead => h (List.mem_cons_of_mem c (List.mem_of_head? hhead)),
      ih fun hm => h (List.mem_cons_of_mem c hm)]

/-- A line loses at most the carriage return at its end. -/
theorem exists_joinLineEnds_append {s : Text} (hs : '\n' ∉ s) (t : Text) :
    ∃ line, joinLineEnds (s ++ '\n' :: t) = line ++ '\n' :: joinLineEnds t ∧
      (s = line ∨ s = line ++ ['\r']) := by
  induction s with
  | nil => exact ⟨[], joinLineEnds_cons fun h => absurd h (by decide), .inl rfl⟩
  | cons c s ih =>
    by_cases hreturn : c = '\r' ∧ s = []
    · obtain ⟨rfl, rfl⟩ := hreturn
      exact ⟨[], rfl, .inr rfl⟩
    · obtain ⟨line, hline, hs'⟩ := ih fun hm => hs (List.mem_cons_of_mem c hm)
      have hhead : c = '\r' → (s ++ '\n' :: t).head? ≠ some '\n' := by
        intro hc hhead
        cases s with
        | nil => exact hreturn ⟨hc, rfl⟩
        | cons d s => exact hs (List.mem_cons_of_mem c (List.mem_of_head? hhead))
      refine ⟨c :: line, ?_, hs'.imp (by rintro rfl; rfl) (by rintro rfl; rfl)⟩
      rw [List.cons_append, joinLineEnds_cons hhead, hline, List.cons_append]

/-- Every carriage return has a newline behind it. -/
def ReturnsJoined (t : Text) : Prop := ∀ u, '\r' :: u <:+ t → u.head? = some '\n'

theorem normalizeNewlines_eq_joinLineEnds {t : Text} (h : ReturnsJoined t) :
    normalizeNewlines t = joinLineEnds t := by
  fun_induction normalizeNewlines t with
  | case1 => rfl
  | case2 t ih =>
    rw [ih fun u hu => h u (hu.trans ((List.suffix_cons '\n' t).trans (List.suffix_cons '\r' _))),
      joinLineEnds]
  | case3 t hn ih =>
    obtain ⟨u, rfl⟩ := List.head?_eq_some_iff.mp (h t List.suffix_rfl)
    exact absurd rfl (hn u)
  | case4 c t hn hc ih =>
    rw [ih fun u hu => h u (hu.trans (List.suffix_cons c t)),
      joinLineEnds_cons fun hreturn => absurd hreturn hc]

theorem normalizeNewlines_of_notMem {t : Text} (h : '\r' ∉ t) : normalizeNewlines t = t := by
  rw [normalizeNewlines_eq_joinLineEnds fun u hu => absurd (hu.subset (by simp)) h,
    joinLineEnds_of_notMem h]

end WebTidy.Text
