import WebTidy.Proofs.Stylesheet.CommentScan
import WebTidy.Proofs.Text.Pattern

/-!
# Comments as matches of a pattern

The scan for comments gives up at the first opening without a closing behind it, while a search for
a pattern goes on to every later place. Both find the same comments, since a closing behind a later
opening is behind the first one as well.
-/

namespace WebTidy

/-- A comment, by what it says; the star of the opening is not that of the closing. -/
def commentPattern : Pattern Text where
  text content := commentStart ++ content ++ commentEnd
  fits _ _ := True
  ne_nil := by simp [commentStart]
  captures_unique := by
    intro a b rest _ _ h
    exact List.append_cancel_left (List.append_cancel_right h)

theorem commentPattern_matches_iff {t content rest : Text} :
    commentPattern.Matches t content rest ↔
      t = commentStart ++ (content ++ commentEnd ++ rest) := by
  have htext : commentPattern.text content ++ rest =
      commentStart ++ (content ++ commentEnd ++ rest) := by simp [commentPattern]
  constructor
  · intro h
    rw [h.split, htext]
  · intro h
    exact ⟨by rw [h, htext], trivial⟩

theorem holdsComment_iff_matchesHead {css : Text} :
    HoldsComment css ↔ ∃ u, u <:+ css ∧ commentPattern.MatchesHead u := by
  constructor
  · rintro ⟨before, content, rest, rfl⟩
    refine ⟨commentStart ++ (content ++ commentEnd ++ rest), ⟨before, by simp⟩, content, rest, ?_⟩
    exact commentPattern_matches_iff.mpr rfl
  · rintro ⟨u, ⟨before, rfl⟩, content, rest, hm⟩
    refine ⟨before, content, rest, ?_⟩
    rw [commentPattern_matches_iff.mp hm]
    simp

/-- A text cut at its comments: each starts at the first opening behind the one before and ends at
the first closing behind that opening, and behind the last one there is no complete comment. -/
inductive CommentCut : Text → List (Text × Text) → Text → Prop
  | last {css : Text} : ¬ HoldsComment css → CommentCut css [] css
  | next {css before inside content rest tail : Text} {cuts : List (Text × Text)} :
      Text.FirstPlace commentStart css before inside →
      Text.FirstPlace commentEnd inside content rest → CommentCut rest cuts tail →
      CommentCut css ((before, content) :: cuts) tail

theorem first_of_firstPlace {css before inside content rest : Text}
    (hs : Text.FirstPlace commentStart css before inside)
    (he : Text.FirstPlace commentEnd inside content rest) :
    commentPattern.First css before content rest := by
  have hshortest : commentPattern.Shortest (commentStart ++ inside) content rest := by
    refine ⟨commentPattern_matches_iff.mpr (by rw [he.split]), fun b u hb => ?_⟩
    have hinside := List.append_cancel_left (commentPattern_matches_iff.mp hb)
    have hle := he.length_le b u hinside
    simp only [commentPattern, List.length_append]
    omega
  have hsplit : css = before ++ (commentStart ++ inside) := by rw [hs.split, List.append_assoc]
  rw [hsplit]
  apply hshortest.first_append
  -- a comment that begins in front would have its opening in front of the first one
  rintro v ⟨s, rfl⟩ hn ⟨b, u, hm⟩
  have hle := hs.length_le s (b ++ commentEnd ++ u) (by
    rw [hsplit, List.append_assoc, commentPattern_matches_iff.mp hm, ← List.append_assoc])
  have hpos := List.length_pos_iff.mpr hn
  simp only [List.length_append] at hle
  omega

theorem CommentCut.scan {css tail : Text} {cuts : List (Text × Text)}
    (h : CommentCut css cuts tail) : commentPattern.Scan css cuts tail := by
  induction h with
  | last hn => exact .last fun u hu hm => hn (holdsComment_iff_matchesHead.mpr ⟨u, hu, hm⟩)
  | next hs he _ ih => exact .next (first_of_firstPlace hs he) ih

theorem exists_commentCut (css : Text) : ∃ cuts tail, CommentCut css cuts tail ∧
    withoutComments css = cuts.flatMap Prod.fst ++ tail := by
  induction hn : css.length using Nat.strong_induction_on generalizing css with
  | _ n ih =>
    by_cases h : HoldsComment css
    · obtain ⟨before, inside, content, rest, hs, he⟩ := h.exists_cut
      have hstart := (Text.cutAround?_eq_some_iff (by decide)).mp hs
      have hend := (Text.cutAround?_eq_some_iff (by decide)).mp he
      have hlt := (first_of_firstPlace hstart hend).length_lt
      obtain ⟨cuts, tail, hcut, hrest⟩ := ih _ (hn ▸ hlt) rest rfl
      refine ⟨(before, content) :: cuts, tail, .next hstart hend hcut, ?_⟩
      rw [withoutComments_of_comment hs he, hrest, List.flatMap_cons, List.append_assoc]
    · exact ⟨[], css, .last h, withoutComments_of_not_holdsComment h⟩

/-- Taking the comments out deletes the leftmost shortest matches of their pattern. These are what
lies between the first openings and the first closings behind them, and the text is cut at them in
one way only. Nothing changes exactly when the text holds no complete comment. -/
theorem withoutComments_scan (css : Text) :
    ∃ cuts tail, css = cuts.flatMap (fun cut => cut.1 ++ commentPattern.text cut.2) ++ tail ∧
      withoutComments css = cuts.flatMap Prod.fst ++ tail ∧
      (∀ cuts' tail', commentPattern.Scan css cuts' tail' ↔ cuts' = cuts ∧ tail' = tail) ∧
      (∀ cuts' tail', CommentCut css cuts' tail' ↔ cuts' = cuts ∧ tail' = tail) ∧
      (withoutComments css = css ↔ ¬ HoldsComment css) := by
  obtain ⟨cuts, tail, hcut, hwithout⟩ := exists_commentCut css
  have hscan := hcut.scan
  refine ⟨cuts, tail, hscan.split, hwithout, hscan.scan_iff, ?_, withoutComments_eq_self_iff⟩
  intro cuts' tail'
  constructor
  · exact fun h => h.scan.unique hscan
  · rintro ⟨rfl, rfl⟩
    exact hcut

end WebTidy
