import WebTidy.Proofs.Text.Occurrence

/-!
# Words

The words of a text are its longest runs without blanks. Words never reach across a blank, so a
list of texts with spaces between them has the words of its members.
-/

namespace WebTidy.Text

/-- A text without blanks is one word. -/
theorem words_of_solid {t : Text} (hn : t ≠ []) (h : ∀ c ∈ t, isBlank c = false) :
    words t = [t] := by
  rw [words, List.splitOnP_eq_singleton h]
  simp [hn]

theorem join_cons_cons (separator s t : Text) (ts : List Text) :
    join separator (s :: t :: ts) = s ++ separator ++ join separator (t :: ts) := rfl

theorem words_join_space (ts : List Text) : words (join [' '] ts) = ts.flatMap words := by
  induction ts with
  | nil => rfl
  | cons s ts ih =>
    cases ts with
    | nil => simp [join]
    | cons t ts =>
      have hcut : s ++ [' '] ++ join [' '] (t :: ts) = s ++ ' ' :: join [' '] (t :: ts) := by simp
      rw [join_cons_cons, hcut, words_append_cons isBlank_space, ih]
      rfl

theorem mem_of_mem_join {c : Char} {separator : Text} {ts : List Text}
    (h : c ∈ join separator ts) : c ∈ separator ∨ ∃ t ∈ ts, c ∈ t := by
  induction ts with
  | nil => simp [join] at h
  | cons s ts ih =>
    cases ts with
    | nil => exact .inr ⟨s, by simp, h⟩
    | cons t ts =>
      rw [join_cons_cons, List.mem_append, List.mem_append] at h
      rcases h with (h | h) | h
      · exact .inr ⟨s, by simp, h⟩
      · exact .inl h
      · rcases ih h with hs | ⟨u, hu, hc⟩
        · exact .inl hs
        · exact .inr ⟨u, List.mem_cons_of_mem _ hu, hc⟩

theorem join_ne_nil {t : Text} (hn : t ≠ []) {ts : List Text} (hm : t ∈ ts) :
    join [' '] ts ≠ [] := by
  cases ts with
  | nil => simp at hm
  | cons s ts =>
    cases ts with
    | nil =>
      rw [List.mem_singleton] at hm
      rwa [← hm]
    | cons next ts => simp [join_cons_cons]

end WebTidy.Text
