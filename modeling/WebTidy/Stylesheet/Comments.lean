import WebTidy.Text.Basic

/-!
# Block comments of a stylesheet

A comment runs from `/*` to the first `*/` behind it, so `/*/` opens one and does not close it. A
comment that is never closed is no comment: it stays, and so does everything after it.
-/

namespace WebTidy

def commentStart : Text := ['/', '*']

def commentEnd : Text := ['*', '/']

/-- The stylesheet text without its comments. -/
def withoutComments (css : Text) : Text :=
  match hs : Text.cutAround? commentStart css with
  | none => css
  | some (before, inside) =>
    match he : Text.cutAround? commentEnd inside with
    | none => css
    | some (_, rest) =>
      have := Text.length_lt_of_cutAround? (by decide) hs
      have := Text.length_lt_of_cutAround? (by decide) he
      before ++ withoutComments rest
termination_by css.length

theorem withoutComments_of_no_start {css : Text} (h : Text.cutAround? commentStart css = none) :
    withoutComments css = css := by
  rw [withoutComments]
  split
  · rfl
  · next h' => simp [h] at h'

theorem withoutComments_of_no_end {css before inside : Text}
    (hs : Text.cutAround? commentStart css = some (before, inside))
    (he : Text.cutAround? commentEnd inside = none) : withoutComments css = css := by
  rw [withoutComments]
  split
  · rfl
  · next h =>
    simp only [hs, Option.some.injEq, Prod.mk.injEq] at h
    obtain ⟨rfl, rfl⟩ := h
    split
    · rfl
    · next h' => simp [he] at h'

theorem withoutComments_of_comment {css before inside comment rest : Text}
    (hs : Text.cutAround? commentStart css = some (before, inside))
    (he : Text.cutAround? commentEnd inside = some (comment, rest)) :
    withoutComments css = before ++ withoutComments rest := by
  rw [withoutComments]
  split
  · next h => simp [hs] at h
  · next h =>
    simp only [hs, Option.some.injEq, Prod.mk.injEq] at h
    obtain ⟨rfl, rfl⟩ := h
    split
    · next h' => simp [he] at h'
    · next h' =>
      simp only [he, Option.some.injEq, Prod.mk.injEq] at h'
      obtain ⟨rfl, rfl⟩ := h'
      rfl

end WebTidy
