import WebTidy.Proofs.Text.Occurrence
import WebTidy.Stylesheet.Comments

/-!
# Complete comments

A text holds a complete comment when an opening has a closing behind it. Taking the comments out
leaves exactly the texts that hold none as they are, and cuts a part out of every other.
-/

namespace WebTidy

/-- Some opening of a comment has a closing behind it. -/
def HoldsComment (css : Text) : Prop :=
  ∃ before comment rest, css = before ++ commentStart ++ comment ++ commentEnd ++ rest

theorem HoldsComment.start_isInfix {css : Text} (h : HoldsComment css) : commentStart <:+: css := by
  obtain ⟨before, comment, rest, rfl⟩ := h
  exact ⟨before, comment ++ commentEnd ++ rest, by simp⟩

/-- The closing stands behind the first opening as well. -/
theorem HoldsComment.end_isInfix {css before inside : Text} (h : HoldsComment css)
    (hs : Text.cutAround? commentStart css = some (before, inside)) :
    commentEnd <:+: inside := by
  obtain ⟨b, comment, rest, rfl⟩ := h
  have hle := Text.length_le_of_cutAround? hs (s := b) (u := comment ++ commentEnd ++ rest)
    (by simp)
  have he := Text.eq_of_cutAround? hs
  have hlen := congrArg List.length he
  have hrest : comment ++ commentEnd ++ rest <:+ before ++ commentStart ++ inside :=
    ⟨b ++ commentStart, by rw [← he]; simp⟩
  have hsuffix : comment ++ commentEnd ++ rest <:+ inside := by
    refine List.suffix_of_suffix_length_le hrest (List.suffix_append _ _) ?_
    simp only [List.length_append] at hlen ⊢
    omega
  exact List.IsInfix.trans ⟨comment, rest, rfl⟩ hsuffix.isInfix

/-- The scan finds a comment wherever a text holds one. -/
theorem HoldsComment.exists_cut {css : Text} (h : HoldsComment css) :
    ∃ before inside comment rest, Text.cutAround? commentStart css = some (before, inside) ∧
      Text.cutAround? commentEnd inside = some (comment, rest) := by
  cases hs : Text.cutAround? commentStart css with
  | none => exact absurd h.start_isInfix ((Text.cutAround?_eq_none_iff (by decide)).mp hs)
  | some cut =>
    obtain ⟨before, inside⟩ := cut
    cases he : Text.cutAround? commentEnd inside with
    | none => exact absurd (h.end_isInfix hs) ((Text.cutAround?_eq_none_iff (by decide)).mp he)
    | some cut => exact ⟨before, inside, cut.1, cut.2, rfl, he⟩

theorem eq_of_cut {css before inside comment rest : Text}
    (hs : Text.cutAround? commentStart css = some (before, inside))
    (he : Text.cutAround? commentEnd inside = some (comment, rest)) :
    css = before ++ commentStart ++ comment ++ commentEnd ++ rest := by
  rw [Text.eq_of_cutAround? hs, Text.eq_of_cutAround? he]
  simp

theorem withoutComments_of_not_holdsComment {css : Text} (h : ¬ HoldsComment css) :
    withoutComments css = css := by
  cases hs : Text.cutAround? commentStart css with
  | none => exact withoutComments_of_no_start hs
  | some cut =>
    obtain ⟨before, inside⟩ := cut
    cases he : Text.cutAround? commentEnd inside with
    | none => exact withoutComments_of_no_end hs he
    | some cut => exact absurd ⟨before, cut.1, cut.2, eq_of_cut hs he⟩ h

/-- What the scan does, by the first opening and the first closing behind it. -/
theorem withoutComments_cases (css : Text) :
    (¬ HoldsComment css ∧ withoutComments css = css) ∨
      ∃ before comment rest, css = before ++ commentStart ++ comment ++ commentEnd ++ rest ∧
        withoutComments css = before ++ withoutComments rest := by
  by_cases h : HoldsComment css
  · obtain ⟨before, inside, comment, rest, hs, he⟩ := h.exists_cut
    exact .inr ⟨before, comment, rest, eq_of_cut hs he, withoutComments_of_comment hs he⟩
  · exact .inl ⟨h, withoutComments_of_not_holdsComment h⟩

theorem withoutComments_sublist (css : Text) : (withoutComments css).Sublist css := by
  induction hn : css.length using Nat.strong_induction_on generalizing css with
  | _ n ih =>
    rcases withoutComments_cases css with ⟨-, h⟩ | ⟨before, comment, rest, rfl, h⟩
    · rw [h]
    · rw [h, List.append_assoc before, List.append_assoc before, List.append_assoc before]
      apply List.Sublist.append_left
      have hr := ih rest.length (by simp [commentStart] at hn; omega) rest rfl
      exact hr.trans (List.sublist_append_right _ _)

theorem withoutComments_eq_self_iff {css : Text} :
    withoutComments css = css ↔ ¬ HoldsComment css := by
  constructor
  · intro h hc
    rcases withoutComments_cases css with ⟨hn, -⟩ | ⟨before, comment, rest, hcss, he⟩
    · exact hn hc
    · have hrest := (withoutComments_sublist rest).length_le
      have hlength := congrArg List.length (he.symm.trans (h.trans hcss))
      simp only [commentStart, commentEnd, List.length_append, List.length_cons,
        List.length_nil] at hlength
      omega
  · exact withoutComments_of_not_holdsComment

theorem withoutComments_of_no_opening {css : Text} (h : ¬ commentStart <:+: css) :
    withoutComments css = css :=
  withoutComments_of_not_holdsComment fun hc => h hc.start_isInfix

end WebTidy
