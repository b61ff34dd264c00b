import WebTidy.Proofs.Stylesheet.ParsedSheet

/-!
# Tidying in increments

Rules may be tidied as they come. A text that ends with a closing brace and blanks leaves no rule
open, so the rules behind it are read as if they stood alone, and adding them to the groups that
were written merges them as if they had been there from the start.
-/

namespace WebTidy

/-- A piece of flat rules without comments that leaves no rule open at its end. -/
structure Increment (t : Text) : Prop where
  comment : Lacks commentStart t
  media : Lacks mediaWord t
  closed : EndsClosed (Text.trimRight t)

instance : DecidablePred Increment := fun t =>
  decidable_of_iff (Lacks commentStart t ∧ Lacks mediaWord t ∧
      (Text.trimRight t = [] ∨ (Text.trimRight t).getLast? = some '}'))
    ⟨fun ⟨hc, hm, he⟩ => ⟨hc, hm, he⟩, fun ⟨hc, hm, he⟩ => ⟨hc, hm, he⟩⟩

namespace Increment

theorem exists_blank {t : Text} (h : Increment t) :
    ∃ b w : Text, EndsClosed b ∧ (∀ c ∈ w, isBlank c = true) ∧ t = b ++ w := by
  obtain ⟨w, hw, ht⟩ := Text.exists_blank_of_trimRight t
  exact ⟨Text.trimRight t, w, h.closed, hw, ht⟩

theorem last {t : Text} (h : Increment t) {c : Char} (hc : t.getLast? = some c) :
    c = '}' ∨ isBlank c = true := by
  obtain ⟨b, w, hb, hw, rfl⟩ := h.exists_blank
  rw [List.getLast?_append] at hc
  cases hlast : w.getLast? with
  | some d =>
    rw [hlast] at hc
    obtain rfl : d = c := by simpa using hc
    exact .inr (hw _ (List.mem_of_getLast? hlast))
  | none =>
    rw [hlast, Option.none_or] at hc
    rcases hb with rfl | hb
    · simp at hc
    · rw [hb] at hc
      exact .inl (Option.some.inj hc).symm

theorem lacks_append {piece s t : Text} (h : Increment s) (hp : Unbroken piece)
    (hs : Lacks piece s) (ht : Lacks piece t) : Lacks piece (s ++ t) := by
  intro hi
  obtain ⟨c, hc, -, -, hlast, -⟩ := hs.exists_seam ht hi
  rcases h.last hlast with rfl | hb
  · exact hp.free _ (by simp) hc
  · simp [hp.solid c hc] at hb

theorem append {s t : Text} (hs : Increment s) (ht : Increment t) : Increment (s ++ t) where
  comment := hs.lacks_append unbroken_commentStart hs.comment ht.comment
  media := hs.lacks_append unbroken_mediaWord hs.media ht.media
  closed := by
    rw [Text.trimRight_append]
    split
    · exact hs.closed
    · next hn =>
      have hlast : (Text.trimRight t).getLast? = some '}' := ht.closed.resolve_left hn
      right
      rw [List.getLast?_append, hlast]
      rfl

theorem readRules_append {t : Text} (h : Increment t) (piece : Text) :
    readRules (t ++ piece) = readRules t ++ readRules piece := by
  obtain ⟨b, w, hb, hw, rfl⟩ := h.exists_blank
  have hblank : readRules w = [] := by
    rw [← List.append_nil w, readRules_append_of_blank hw, readRules_nil]
  rw [List.append_assoc, WebTidy.readRules_append hb, WebTidy.readRules_append hb, hblank,
    List.append_nil, readRules_append_of_blank hw]

end Increment

theorem tidy_of_lacks {t : Text} (hc : Lacks commentStart t) (hm : Lacks mediaWord t)
    (f : ClassFilter) : tidy f t = (Groups.ofText f t).render := by
  have hparse : Sheet.parse t = ⟨readRules t, []⟩ := by
    rw [Sheet.parse, withoutComments_of_no_opening hc, extractMedia_of_no_mediaWord hm]
  rw [tidy, hparse]
  simp [Sheet.grouped, GroupedSheet.render, Groups.ofText]

namespace Groups

theorem wellFormed_ofText (f : ClassFilter) (t : Text) : WellFormed (ofText f t) :=
  (wellFormed_ofRules fun _ hr => wellFormedGroup_of_mem_readRules hr).applyFilter f

theorem lacks_ofText {piece t : Text} (h : Lacks piece t) (f : ClassFilter) :
    ∀ g ∈ ofText f t, TextsIn (Lacks piece) (Lacks piece) (Lacks piece) g := by
  intro g hg
  have hmem : g ∈ ofRules (readRules t) := (applyFilter_sublist f _).subset hg
  exact textsIn_ofRules h.of_mem_readRules g hmem

/-- The rules behind written groups merge with the rules that these came from. -/
theorem ofText_render_append {t : Text} (ht : Increment t) (f : ClassFilter) (piece : Text) :
    ofText f ((ofText f t).render ++ piece) = ofText f (t ++ piece) := by
  have hw := wellFormed_ofText f t
  have hread : ofRules (readRules ((ofText f t).render ++ piece)) =
      (readRules piece).foldl add (ofText f t) := by
    rw [readRules_render_append hw.group, ofRules, List.foldl_append]
    exact congrArg (List.foldl add · (readRules piece)) hw.ofRules_toRules
  have hjoin : ofRules (readRules (t ++ piece)) =
      (readRules piece).foldl add (ofRules (readRules t)) := by
    rw [ht.readRules_append, ofRules, List.foldl_append, ofRules]
  calc ofText f ((ofText f t).render ++ piece)
      = applyFilter f ((readRules piece).foldl add (applyFilter f (ofRules (readRules t)))) := by
        rw [ofText, hread, ofText]
    _ = applyFilter f ((readRules piece).foldl add (ofRules (readRules t))) :=
        applyFilter_foldl_add f _ _
    _ = ofText f (t ++ piece) := by rw [ofText, hjoin]

end Groups

/-- What is tidied already counts as the text that it came from. -/
theorem tidy_tidy_append {t piece : Text} (ht : Increment t) (hp : Increment piece)
    (f : ClassFilter) : tidy f (tidy f t ++ piece) = tidy f (t ++ piece) := by
  have hwritten := tidy_of_lacks ht.comment ht.media f
  have hcomment : Lacks commentStart ((Groups.ofText f t).render ++ piece) :=
    Groups.lacks_render_append unbroken_commentStart (Groups.lacks_ofText ht.comment f) hp.comment
  have hmedia : Lacks mediaWord ((Groups.ofText f t).render ++ piece) :=
    Groups.lacks_render_append unbroken_mediaWord (Groups.lacks_ofText ht.media f) hp.media
  have hjoin := ht.append hp
  rw [hwritten, tidy_of_lacks hcomment hmedia, Groups.ofText_render_append ht,
    tidy_of_lacks hjoin.comment hjoin.media]

/-- From a text that further pieces cannot tell from `t`, the run ends with all of it tidied. -/
theorem getLast?_tidySteps {f : ClassFilter} {css t : Text} (ht : Increment t)
    (hcss : ∀ piece, Increment piece → tidy f (css ++ piece) = tidy f (t ++ piece))
    {pieces : List Text} (hn : pieces ≠ []) (hp : ∀ piece ∈ pieces, Increment piece) :
    (tidySteps css (pieces.map (·, f))).getLast? = some (tidy f (t ++ pieces.flatten)) := by
  -- the untidied first text meets `hcss`, and so does every text that a step leaves
  induction pieces generalizing css t with
  | nil => exact absurd rfl hn
  | cons piece pieces ih =>
    have hpiece := hp piece (by simp)
    have hstep := hcss piece hpiece
    have hjoin := ht.append hpiece
    rw [List.map_cons, tidySteps, hstep, List.flatten_cons, ← List.append_assoc]
    cases pieces with
    | nil => simp [tidySteps]
    | cons next pieces =>
      have hrest := ih hjoin (fun _ hq => tidy_tidy_append hjoin hq f) (by simp)
        fun q hq => hp q (by simp [hq])
      rw [List.getLast?_cons, hrest]
      rfl

/-- Tidying piece after piece gives what tidying all of them at once gives. -/
theorem tidySteps_increments (f : ClassFilter) {first : Text} {pieces : List Text}
    (hn : pieces ≠ []) (h : ∀ piece ∈ first :: pieces, Increment piece) :
    (tidySteps first (pieces.map (·, f))).getLast? = some (tidy f (first ++ pieces.flatten)) :=
  getLast?_tidySteps (h first (by simp)) (fun _ _ => rfl) hn fun q hq => h q (by simp [hq])

/-- Stray braces, a blank piece, and settings that a later piece changes. -/
theorem tidySteps_increments_unbalanced :
    let first := "h1{a:b;c:d}\x7d\n".toList
    let pieces := [".x{c:d} \x7b.y{e:f}".toList, "  ".toList, ".x{c:g;a:b}h1{;a:z}".toList]
    let f : ClassFilter := some (ClassSet.ofList [['x']])
    pieces ≠ [] ∧ (∀ piece ∈ first :: pieces, Increment piece) ∧
      (tidySteps first (pieces.map (·, f))).getLast? = some (tidy f (first ++ pieces.flatten)) := by
  have hpieces : ∀ piece ∈ ["h1{a:b;c:d}\x7d\n".toList, ".x{c:d} \x7b.y{e:f}".toList, "  ".toList,
      ".x{c:g;a:b}h1{;a:z}".toList], Increment piece := by decide +kernel
  exact ⟨by simp, hpieces, tidySteps_increments _ (by simp) hpieces⟩

end WebTidy
