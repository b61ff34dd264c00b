import WebTidy.Proofs.Stylesheet.Refiltering
import WebTidy.Proofs.Stylesheet.Weight

/-!
# When a second tidying changes nothing

A tidied text is tidied to itself only if its sheet is rereadable. Otherwise the second pass loses
something that can be counted: the stars of a complete comment, or the colons of the declarations
that fall between a mistaken boundary and the one that was written.
-/

namespace WebTidy

theorem weight_withoutComments_lt {w : Char → Nat} (hw : 0 < w '*') {css : Text}
    (h : HoldsComment css) : Text.weight w (withoutComments css) < Text.weight w css := by
  rcases withoutComments_cases css with ⟨hn, -⟩ | ⟨before, comment, rest, hcss, he⟩
  · exact absurd h hn
  · have hrest := Text.weight_le_of_sublist w (withoutComments_sublist rest)
    rw [he, hcss]
    simp only [commentStart, commentEnd, Text.weight_append, Text.weight_cons]
    omega

/-- A weight of characters that tidying never adds. -/
structure Unadded (w : Char → Nat) : Prop where
  semicolon : w ';' = 0
  blank : w ' ' = 0

namespace Unadded

variable {w : Char → Nat} (hw : Unadded w)

include hw

theorem mediaSlack_eq_zero (blocks : List MediaGroups) : mediaSlack w blocks = 0 := by
  simp [mediaSlack, hw.semicolon, hw.blank]

theorem semicolon_le : w ';' ≤ w '}' := by
  rw [hw.semicolon]
  exact Nat.zero_le _

theorem weight_tidy_le_mediaWeight (f : ClassFilter) (css : Text) :
    Text.weight w (tidy f css) ≤ mediaWeight w f (withoutComments css) := by
  have htidy := WebTidy.weight_tidy_le_mediaWeight hw.semicolon_le f css
  rw [hw.semicolon, Nat.mul_zero, Nat.add_zero] at htidy
  exact htidy

theorem mediaWeight_le (f : ClassFilter) (t : Text) : mediaWeight w f t ≤ Text.weight w t := by
  have hmedia := WebTidy.mediaWeight_le hw.semicolon_le f t
  rw [hw.mediaSlack_eq_zero, Nat.add_zero] at hmedia
  exact hmedia

theorem not_holdsComment (hstar : 0 < w '*') {f : ClassFilter} {css : Text}
    (h : tidy f css = css) : ¬ HoldsComment css := by
  intro hc
  have hlost := weight_withoutComments_lt hstar hc
  have htidy := hw.weight_tidy_le_mediaWeight f css
  have hmedia := hw.mediaWeight_le f (withoutComments css)
  rw [h] at htidy
  omega

end Unadded

/-- Nothing of the text is lost on the way through its media blocks. -/
def Conserves (w : Char → Nat) (f : ClassFilter) (t : Text) : Prop :=
  Text.weight w t ≤ mediaWeight w f t

/-- A lighter text has the same rules. -/
def Wasteful (w : Char → Nat) (t : Text) : Prop :=
  ∃ v, readRules t = readRules v ∧ Text.weight w v < Text.weight w t

namespace Conserves

variable {w : Char → Nat} {f : ClassFilter}

theorem of_append {s t : Text} (h : Conserves w f (s ++ t))
    (ho : firstOpening? (s ++ t) = (firstOpening? t).map fun cut => (s ++ cut.1, cut.2)) :
    Conserves w f t := by
  have he := extractMedia_append ho
  simp only [Conserves, mediaWeight, mediaGroups, he, Text.weight_append] at h ⊢
  omega

/-- No content of a block is wasteful, and nothing is lost behind the block. -/
theorem of_firstMedia? (hw : Unadded w) {t : Text} {cut : MediaCut} (h : Conserves w f t)
    (ht : firstMedia? t = some cut) : ¬ Wasteful w cut.content ∧ Conserves w f cut.rest := by
  have hstep : ∀ v, readRules cut.content = readRules v →
      Text.weight w cut.content + Text.weight w cut.rest ≤
        Text.weight w v + mediaWeight w f cut.rest := by
    intro v hv
    have hblock := mediaWeight_of_some hw.semicolon_le ht hv f
    rw [hw.mediaSlack_eq_zero, hw.mediaSlack_eq_zero] at hblock
    rw [Conserves] at h
    omega
  have hrest := hw.mediaWeight_le f cut.rest
  constructor
  · rintro ⟨v, hv, hlt⟩
    have hcontent := hstep v hv
    omega
  · have hcontent := hstep _ rfl
    rw [Conserves]
    omega

end Conserves

/-! ## Mistaken boundaries -/

theorem WellFormedGroup.weight_pos {w : Char → Nat} (hw : 0 < w ':') {group : Text × Declarations}
    (h : WellFormedGroup group) : 0 < Text.weight w (Declarations.render group.2) := by
  obtain ⟨d, ds, hd⟩ := List.exists_cons_of_ne_nil h.ne_nil
  rw [hd, Declarations.weight_render_cons]
  omega

namespace Wasteful

variable {w : Char → Nat} {s b : Text}

theorem of_braceFree (hb : BraceFree b) (hpos : 0 < Text.weight w b) : Wasteful w b := by
  refine ⟨[], ?_, by simpa using hpos⟩
  rw [readRules_of_braceFree hb, readRules_nil]

theorem of_close (hb : BraceFree b) (hpos : 0 < Text.weight w b) (t : Text) :
    Wasteful w (b ++ '}' :: t) := by
  refine ⟨t, readRules_close hb t, ?_⟩
  simp only [Text.weight_append, Text.weight_cons]
  omega

theorem of_unclosed (hs : BraceFree s) (hb : BraceFree b) (hpos : 0 < Text.weight w b) :
    Wasteful w (s ++ '{' :: b) := by
  refine ⟨[], ?_, ?_⟩
  · rw [readRules_unclosed hs hb, readRules_nil]
  · simp only [Text.weight_append, Text.weight_cons, Text.weight_nil]
    omega

theorem pair_append (hs : BraceFree s) (hb : BraceFree b) {t : Text} (h : Wasteful w t) :
    Wasteful w (s ++ '{' :: (b ++ '}' :: t)) := by
  obtain ⟨v, hv, hlt⟩ := h
  refine ⟨s ++ '{' :: (b ++ '}' :: v), ?_, ?_⟩
  · rw [readRules_pair hs hb, readRules_pair hs hb, hv]
  · simp only [Text.weight_append, Text.weight_cons]
    omega

/-- The body behind a mistaken opening has lost its selector. -/
theorem of_mediaContent? {u content rest : Text} (hb : BraceFree b) (hpos : 0 < Text.weight w b)
    (h : mediaContent? (b ++ '}' :: u) = some (content, rest)) : Wasteful w content := by
  rw [mediaContent?_append (braceFree_iff.mp hb).2, mediaContent?_close] at h
  obtain ⟨⟨tail, r⟩, htail, he⟩ := Option.map_eq_some_iff.mp h
  obtain ⟨rfl, rfl⟩ := Prod.mk.inj he
  split at htail
  · obtain ⟨rfl, -⟩ := by simpa using htail
    simpa using of_braceFree hb hpos
  · obtain ⟨⟨v, r'⟩, -, he'⟩ := Option.map_eq_some_iff.mp htail
    obtain ⟨rfl, -⟩ := Prod.mk.inj he'
    exact of_close hb hpos v

end Wasteful

/-- A selector that starts with `@media` behind another group ends the block too early. -/
theorem exists_wasteful_content {w : Char → Nat} (hw : 0 < w ':') {g : Text × Declarations}
    {groups : Groups} (h : ∀ e ∈ g :: groups, WellFormedGroup e)
    (hm : ∃ e ∈ groups, mediaWord <+: e.1) (t : Text) :
    ∃ cut, mediaContent? (Groups.render (g :: groups) ++ t) = some cut ∧ Wasteful w cut.1 := by
  induction groups generalizing g with
  | nil => simp at hm
  | cons e groups ih =>
    have hg := h g (by simp)
    have hopen : closesMedia (Groups.render (e :: groups) ++ t) = true ↔ mediaWord <+: e.1 := by
      rw [Groups.render_cons_append]
      exact closesMedia_group_append (h e (by simp)) _
    rw [Groups.render_cons_append, mediaContent?_group_append hg]
    by_cases hp : mediaWord <+: e.1
    · -- the brace of `g` is taken for that of the block, so `g` itself is left open
      rw [if_pos (hopen.mpr hp)]
      exact ⟨_, rfl, .of_unclosed hg.selector_braceFree hg.body_braceFree (hg.weight_pos hw)⟩
    · have hrest : ∃ e ∈ groups, mediaWord <+: e.1 := by
        obtain ⟨d, hd, hdm⟩ := hm
        rcases List.mem_cons.mp hd with rfl | hd
        · exact absurd hdm hp
        · exact ⟨d, hd, hdm⟩
      obtain ⟨cut, hcut, hwaste⟩ := @ih e (fun d hd => h d (List.mem_cons_of_mem g hd)) hrest
      rw [if_neg (mt hopen.mp hp), hcut]
      exact ⟨_, rfl, hwaste.pair_append hg.selector_braceFree hg.body_braceFree⟩

theorem endsClosed_render_append (groups : Groups) {t : Text} (h : EndsClosed t) :
    EndsClosed (groups.render ++ t) := by
  induction groups with
  | nil => exact h
  | cons g groups ih =>
    have hlast := ih.append_cons (g.1 ++ '{' :: Declarations.render g.2)
    rw [Groups.render_cons_append]
    exact .inr (by simpa using hlast)

theorem endsClosed_blocks (blocks : List MediaGroups) :
    EndsClosed (blocks.flatMap MediaGroups.render) := by
  induction blocks with
  | nil => exact .inl rfl
  | cons block blocks ih =>
    have hlast := ih.append_cons (mediaWord ++ ' ' :: (block.query ++ '{' :: block.groups.render))
    rw [List.flatMap_cons, MediaGroups.render_append]
    exact .inr (by simpa using hlast)

section Boundaries

variable {w : Char → Nat} (hcolon : 0 < w ':')

include hcolon

theorem exists_wasteful_opening {g : Text × Declarations} (hg : WellFormedGroup g)
    (ho : OpensMedia g.1) {groups : Groups} {t : Text} (ht : EndsClosed t) :
    ∃ cut, firstMedia? (Groups.render (g :: groups) ++ t) = some cut ∧ Wasteful w cut.content := by
  have hends := endsClosed_render_append groups ht
  obtain ⟨lead, query, -, hfirst⟩ := firstOpening?_of_opensMedia hg.selector_braceFree ho
    (Declarations.render g.2 ++ '}' :: (Groups.render groups ++ t))
  obtain ⟨⟨content, rest⟩, hcut⟩ := exists_mediaContent? (hends.append_cons (Declarations.render g.2))
  refine ⟨⟨lead, query, content, rest⟩, ?_, ?_⟩
  · rw [Groups.render_cons_append, firstMedia?, hfirst, Option.bind_some, hcut, Option.map_some]
  · exact .of_mediaContent? hg.body_braceFree (hg.weight_pos hcolon) hcut

theorem exists_wasteful_block {block : MediaGroups} (hb : block.WellFormed)
    (hm : ∃ g ∈ block.groups.tail, mediaWord <+: g.1) (t : Text) :
    ∃ cut, firstMedia? (block.render ++ t) = some cut ∧ Wasteful w cut.content := by
  obtain ⟨query, groups⟩ := block
  obtain ⟨g, rest, rfl⟩ := List.exists_cons_of_ne_nil hb.ne_nil
  obtain ⟨⟨content, behind⟩, hcut, hwaste⟩ :=
    exists_wasteful_content hcolon hb.groups.group hm ('}' :: t)
  refine ⟨⟨[], ' ' :: query, content, behind⟩, ?_, hwaste⟩
  rw [MediaGroups.render_append, firstMedia?, firstOpening?_block_append hb.query,
    Option.bind_some, hcut, Option.map_some]

end Boundaries

namespace Conserves

variable {w : Char → Nat} {f : ClassFilter} (hw : Unadded w) (hcolon : 0 < w ':')

include hw hcolon

/-- Where nothing is lost, no selector of the written groups opens a block. -/
theorem of_render_append {groups : Groups} (hg : ∀ g ∈ groups, WellFormedGroup g) {t : Text}
    (ht : EndsClosed t) (h : Conserves w f (groups.render ++ t)) :
    (∀ g ∈ groups, ¬ OpensMedia g.1) ∧ Conserves w f t := by
  induction groups with
  | nil => exact ⟨by simp, h⟩
  | cons g groups ih =>
    have hgroup := hg g (by simp)
    have hclosed : ¬ OpensMedia g.1 := by
      intro ho
      obtain ⟨cut, hcut, hwaste⟩ := @exists_wasteful_opening w hcolon g hgroup ho groups t ht
      exact (h.of_firstMedia? hw hcut).1 hwaste
    have hone : Groups.render (g :: groups) ++ t =
        Groups.render [g] ++ (Groups.render groups ++ t) := by
      rw [← List.append_assoc, ← Groups.render_append, List.singleton_append]
    have hskip := @firstOpening?_render_append [g] (by simpa using hgroup)
      (by simpa using hclosed) (Groups.render groups ++ t)
    rw [hone] at h
    obtain ⟨hopen, hrest⟩ := ih (fun e he => hg e (by simp [he])) (h.of_append hskip)
    refine ⟨?_, hrest⟩
    intro e he
    rcases List.mem_cons.mp he with rfl | he
    · exact hclosed
    · exact hopen e he

/-- Where nothing is lost, every written block ends at its own brace. -/
theorem of_blocks {blocks : List MediaGroups} (hb : ∀ b ∈ blocks, b.WellFormed)
    (h : Conserves w f (blocks.flatMap MediaGroups.render)) :
    ∀ b ∈ blocks, ∀ g ∈ b.groups.tail, ¬ mediaWord <+: g.1 := by
  induction blocks with
  | nil => simp
  | cons block blocks ih =>
    have hblock := hb block (by simp)
    rw [List.flatMap_cons] at h
    have hclosing : ∀ g ∈ block.groups.tail, ¬ mediaWord <+: g.1 := by
      intro g hg hp
      obtain ⟨cut, hcut, hwaste⟩ := exists_wasteful_block hcolon hblock ⟨g, hg, hp⟩
        (blocks.flatMap MediaGroups.render)
      exact (h.of_firstMedia? hw hcut).1 hwaste
    have hmedia := firstMedia?_block_append hblock hclosing (closesMedia_blocks blocks)
    have hrest := ih (fun b hm => hb b (by simp [hm])) (h.of_firstMedia? hw hmedia).2
    intro b hm
    rcases List.mem_cons.mp hm with rfl | hm
    · exact hclosing
    · exact hrest b hm

end Conserves

/-! ## The exact condition -/

theorem unadded_countOf {c : Char} (hs : c ≠ ';') (hb : c ≠ ' ') : Unadded (countOf c) :=
  ⟨if_neg hs.symm, if_neg hb.symm⟩

theorem countOf_self (c : Char) : 0 < countOf c c := by simp [countOf]

theorem GroupedSheet.rereadable_of_tidy_eq {sheet : GroupedSheet} (h : sheet.WellFormed)
    {f : ClassFilter} (he : tidy f sheet.render = sheet.render) : sheet.Rereadable := by
  have hstar : Unadded (countOf '*') := unadded_countOf (by decide) (by decide)
  have hcolon : Unadded (countOf ':') := unadded_countOf (by decide) (by decide)
  have hcomment := hstar.not_holdsComment (countOf_self '*') he
  have hconserves : Conserves (countOf ':') f sheet.render := by
    have htidy := hcolon.weight_tidy_le_mediaWeight f sheet.render
    rw [he, withoutComments_of_not_holdsComment hcomment] at htidy
    exact htidy
  obtain ⟨hopening, hmedia⟩ := Conserves.of_render_append hcolon (countOf_self ':') h.top.group
    (endsClosed_blocks sheet.media) hconserves
  exact ⟨hcomment, hopening, hmedia.of_blocks hcolon (countOf_self ':') h.media⟩

/-- A second tidying changes nothing exactly when the sheet of the first is rereadable. -/
theorem tidy_tidy_eq_iff (f : ClassFilter) (css : Text) :
    tidy f (tidy f css) = tidy f css ↔ ((Sheet.parse css).grouped f).Rereadable := by
  constructor
  · exact GroupedSheet.rereadable_of_tidy_eq ((Sheet.wellFormed_parse css).grouped f)
  · intro h
    rw [tidy_tidy_of_rereadable h, ClassFilter.inter_self]

/-- Taking out the comment of this text joins the opening of another one. -/
theorem tidy_not_idempotent : ¬ ∀ f css, tidy f (tidy f css) = tidy f css := by
  intro h
  exact absurd (h none "a//**/*b{c:d}e*/f{g:h}".toList) (by decide +kernel)

end WebTidy
