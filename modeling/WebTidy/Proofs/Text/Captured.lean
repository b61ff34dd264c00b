import Mathlib
import WebTidy.CommandLine.Captured

/-!
# What is lost when output is captured

Only control sequences and carriage returns are lost when output is captured. A text without both
is captured as it is, and so is the newline behind a text.
-/

namespace WebTidy.Text

/-- A control sequence begins somewhere in the text. -/
def HoldsControlSequence (t : Text) : Prop := ∃ s, s <:+ t ∧ afterControlSequence? s ≠ none

theorem afterControlSequence?_isSuffix {t rest : Text} (h : afterControlSequence? t = some rest) :
    rest <:+ t := by
  obtain ⟨u, hu, h⟩ := Option.bind_eq_some_iff.mp h
  rw [after?_eq_some_iff.mp hu]
  split at h
  · cases h
  · next c rest' hr =>
    split at h
    · cases h
      have htail : rest <:+ u := calc
        rest <:+ c :: rest := List.suffix_cons c rest
        _ <:+ u.dropWhile isParameter := hr ▸ List.dropWhile_suffix isIntermediate
        _ <:+ u := List.dropWhile_suffix isParameter
      exact htail.trans (List.suffix_append _ u)
    · cases h

theorem withoutControlSequences_of_some {c : Char} {t rest : Text}
    (h : afterControlSequence? (c :: t) = some rest) :
    withoutControlSequences (c :: t) = withoutControlSequences rest := by
  rw [withoutControlSequences]
  split
  · next rest' h' =>
    rw [h] at h'
    cases h'
    rfl
  · next h' => simp [h] at h'

theorem withoutControlSequences_of_none {c : Char} {t : Text}
    (h : afterControlSequence? (c :: t) = none) :
    withoutControlSequences (c :: t) = c :: withoutControlSequences t := by
  rw [withoutControlSequences]
  split
  · next h' => simp [h] at h'
  · rfl

/-- Induction along the control sequences of a text and the characters between them. -/
theorem controlSequence_induction {motive : Text → Prop} (nil : motive [])
    (sequence : ∀ c t rest, afterControlSequence? (c :: t) = some rest → motive rest →
      motive (c :: t))
    (plain : ∀ c t, afterControlSequence? (c :: t) = none → motive t → motive (c :: t))
    (t : Text) : motive t := by
  induction hn : t.length using Nat.strong_induction_on generalizing t with
  | _ n ih =>
    cases t with
    | nil => exact nil
    | cons c t =>
      cases h : afterControlSequence? (c :: t) with
      | none => exact plain c t h (ih t.length (by simp at hn; omega) t rfl)
      | some rest =>
        have hlt := length_lt_of_afterControlSequence? h
        exact sequence c t rest h (ih rest.length (by omega) rest rfl)

theorem withoutControlSequences_sublist (t : Text) : (withoutControlSequences t).Sublist t := by
  induction t using controlSequence_induction with
  | nil => rw [withoutControlSequences]
  | sequence c t rest h ih =>
    rw [withoutControlSequences_of_some h]
    exact ih.trans (afterControlSequence?_isSuffix h).sublist
  | plain c t h ih =>
    rw [withoutControlSequences_of_none h]
    exact ih.cons_cons c

/-- A control sequence begins with an escape. -/
theorem not_holdsControlSequence_of_notMem {t : Text} (h : '\x1b' ∉ t) :
    ¬ HoldsControlSequence t := by
  rintro ⟨s, hs, hn⟩
  obtain ⟨rest, hrest⟩ := Option.ne_none_iff_exists'.mp hn
  obtain ⟨u, hu, -⟩ := Option.bind_eq_some_iff.mp hrest
  rw [after?_eq_some_iff.mp hu] at hs
  exact h (hs.subset (by simp))

/-- A text stays as it is exactly if no control sequence begins in it. -/
theorem withoutControlSequences_eq_self_iff {t : Text} :
    withoutControlSequences t = t ↔ ¬ HoldsControlSequence t := by
  induction t using controlSequence_induction with
  | nil =>
    rw [withoutControlSequences]
    refine iff_of_true rfl ?_
    rintro ⟨s, hs, h⟩
    rw [List.suffix_nil.mp hs] at h
    exact h rfl
  | sequence c t rest h ih =>
    refine iff_of_false ?_ (not_not_intro ⟨c :: t, List.suffix_rfl, by simp [h]⟩)
    intro he
    have hle := (withoutControlSequences_sublist rest).length_le
    have hlt := length_lt_of_afterControlSequence? h
    rw [← withoutControlSequences_of_some h, he] at hle
    omega
  | plain c t h ih =>
    rw [withoutControlSequences_of_none h, List.cons_inj_right, ih, not_iff_not]
    constructor
    · rintro ⟨s, hs, hn⟩
      exact ⟨s, hs.trans (List.suffix_cons c t), hn⟩
    · rintro ⟨s, hs, hn⟩
      rcases List.suffix_cons_iff.mp hs with rfl | hs
      · exact absurd h hn
      · exact ⟨s, hs, hn⟩

/-! ## A line -/

theorem dropWhile_concat_newline {p : Char → Bool} (hp : p '\n' = false) (t : Text) :
    (t ++ ['\n']).dropWhile p = t.dropWhile p ++ ['\n'] := by
  induction t with
  | nil => simp [hp]
  | cons c t ih =>
    cases hc : p c with
    | true => simp [hc, ih]
    | false => simp [hc]

theorem after?_concat {lead : Text} {c : Char} (hc : c ∉ lead) (t : Text) :
    after? lead (t ++ [c]) = (after? lead t).map (· ++ [c]) := by
  induction lead generalizing t with
  | nil => rfl
  | cons d lead ih =>
    rw [List.mem_cons, not_or] at hc
    cases t with
    | nil => simp [after?, Ne.symm hc.1]
    | cons e t =>
      rw [List.cons_append, after?, after?]
      split
      · exact ih hc.2 t
      · rfl

/-- A newline behind a text neither ends a control sequence nor begins one. -/
theorem afterControlSequence?_concat_newline (t : Text) :
    afterControlSequence? (t ++ ['\n']) = (afterControlSequence? t).map (· ++ ['\n']) := by
  rw [afterControlSequence?, afterControlSequence?, after?_concat (by decide)]
  cases after? ['\x1b', '['] t with
  | none => rfl
  | some u =>
    rw [Option.map_some, Option.bind_some, Option.bind_some,
      dropWhile_concat_newline (by decide), dropWhile_concat_newline (by decide)]
    cases (u.dropWhile isParameter).dropWhile isIntermediate with
    | nil => rfl
    | cons c rest =>
      rw [List.cons_append]
      dsimp only
      split <;> rfl

theorem withoutControlSequences_concat_newline (t : Text) :
    withoutControlSequences (t ++ ['\n']) = withoutControlSequences t ++ ['\n'] := by
  induction t using controlSequence_induction with
  | nil =>
    have h : afterControlSequence? ['\n'] = none := by decide
    rw [List.nil_append, withoutControlSequences_of_none h, withoutControlSequences]
    rfl
  | sequence c t rest h ih =>
    have hline : afterControlSequence? (c :: (t ++ ['\n'])) = some (rest ++ ['\n']) := by
      rw [← List.cons_append, afterControlSequence?_concat_newline, h, Option.map_some]
    rw [withoutControlSequences_of_some h, ← ih, List.cons_append,
      withoutControlSequences_of_some hline]
  | plain c t h ih =>
    have hline : afterControlSequence? (c :: (t ++ ['\n'])) = none := by
      rw [← List.cons_append, afterControlSequence?_concat_newline, h, Option.map_none]
    rw [withoutControlSequences_of_none h, List.cons_append,
      withoutControlSequences_of_none hline, ih, List.cons_append]

theorem joinLineEnds_of_notMem {t : Text} (h : '\r' ∉ t) : joinLineEnds t = t := by
  fun_induction joinLineEnds t with
  | case1 => rfl
  | case2 t ih => simp at h
  | case3 c t hn ih => rw [ih fun hm => h (List.mem_cons_of_mem c hm)]

/-- A line without carriage returns loses its control sequences only. -/
theorem captured_line {t : Text} (h : '\r' ∉ t) :
    captured (t ++ ['\n']) = withoutControlSequences t ++ ['\n'] := by
  rw [captured, withoutControlSequences_concat_newline, joinLineEnds_of_notMem]
  rw [List.mem_append, not_or]
  exact ⟨fun hm => h ((withoutControlSequences_sublist t).subset hm), by decide⟩

/-- A text without carriage returns and control sequences is captured as it is. -/
theorem captured_eq_self {t : Text} (h : '\r' ∉ t) (hsequences : ¬ HoldsControlSequence t) :
    captured t = t := by
  rw [captured, withoutControlSequences_eq_self_iff.mpr hsequences, joinLineEnds_of_notMem h]

end WebTidy.Text
