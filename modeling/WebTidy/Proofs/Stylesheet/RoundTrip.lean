import WebTidy.Proofs.Stylesheet.CommentScan
import WebTidy.Proofs.Stylesheet.RuleText
import WebTidy.Proofs.Stylesheet.WrittenText

/-!
# Reading what was written

A well-formed sheet is read back from its text: every scan finds the boundaries that writing put
there. Three things could move one: a complete comment in the text, a top-level selector that opens
a media block, and a selector inside a block that starts with `@media` behind another group.
-/

namespace WebTidy

/-! ## Declarations and flat rules -/

theorem declaration?_render {p v : Text} (hp : Clean [':', ';', '{', '}'] p)
    (hv : Clean [';', '{', '}'] v) : declaration? (p ++ ':' :: v) = some (p, v) := by
  have hcut : Text.cutAt ':' (p ++ ':' :: v) = (p, v) :=
    Text.cutAt_append (hp.free _ (by simp))
  simp [declaration?, hcut, hp.trimmed, hv.trimmed, hp.ne_nil, hv.ne_nil]

theorem bodyEntries_render {ds : Declarations}
    (h : ∀ d ∈ ds, Clean [':', ';', '{', '}'] d.1 ∧ Clean [';', '{', '}'] d.2) :
    bodyEntries (Declarations.render ds) = ds := by
  induction ds with
  | nil => exact bodyEntries_nil
  | cons d ds ih =>
    obtain ⟨hp, hv⟩ := h d (by simp)
    have hsemi : ';' ∉ d.1 ++ ':' :: d.2 := by
      simp [hp.free ';' (by simp), hv.free ';' (by simp)]
    have hcons : Declarations.render (d :: ds) =
        (d.1 ++ ':' :: d.2) ++ ';' :: Declarations.render ds := by
      rw [Declarations.render_cons]
      simp
    rw [hcons, bodyEntries_append, bodyEntries_singleton hsemi, declaration?_render hp hv,
      ih fun e he => h e (by simp [he])]
    rfl

theorem braceFree_render {ds : Declarations}
    (h : ∀ d ∈ ds, Clean [':', ';', '{', '}'] d.1 ∧ Clean [';', '{', '}'] d.2) :
    BraceFree (Declarations.render ds) := by
  induction ds with
  | nil => exact braceFree_nil
  | cons d ds ih =>
    obtain ⟨hp, hv⟩ := h d (by simp)
    have hrest := ih fun e he => h e (by simp [he])
    have hcolon : BraceFree [':'] := by simp [BraceFree, isBrace]
    have hsemi : BraceFree [';'] := by simp [BraceFree, isBrace]
    rw [Declarations.render_cons]
    exact hp.braceFree.append (hcolon.append (hv.braceFree.append (hsemi.append hrest)))

/-- A group as it is written. -/
def Groups.ruleText (g : Text × Declarations) : RuleText := ⟨g.1, Declarations.render g.2⟩

theorem Groups.render_eq_flatMap (groups : Groups) :
    groups.render = (groups.map ruleText).flatMap RuleText.render := by
  have hgroup : ∀ g, renderGroup g = (ruleText g).render := fun g => by
    simp [renderGroup, ruleText, RuleText.render]
  rw [Groups.render, List.flatMap_map]
  exact congrArg (groups.flatMap ·) (funext hgroup)

namespace WellFormedGroup

variable {group : Text × Declarations} (h : WellFormedGroup group)

include h

theorem entries : ∀ d ∈ group.2, Clean [':', ';', '{', '}'] d.1 ∧ Clean [';', '{', '}'] d.2 :=
  fun d hd => ⟨h.texts.property d hd, h.texts.value d hd⟩

theorem selector_braceFree : BraceFree group.1 := h.texts.selector.braceFree

theorem body_braceFree : BraceFree (Declarations.render group.2) := braceFree_render h.entries

theorem ofBody_render : Declarations.ofBody (Declarations.render group.2) = group.2 := by
  rw [Declarations.ofBody, bodyEntries_render h.entries, Table.ofEntries_eq_self h.distinct]

theorem readable : (Groups.ruleText group).Readable where
  selector_free := h.selector_braceFree
  body_free := h.body_braceFree
  named := by
    rw [Groups.ruleText, h.texts.selector.trimmed]
    exact h.texts.selector.ne_nil
  sets := by
    rw [Groups.ruleText, h.ofBody_render]
    exact h.ne_nil

theorem rule_ruleText : (Groups.ruleText group).rule = ⟨group.1, group.2⟩ := by
  rw [RuleText.rule, Groups.ruleText, h.texts.selector.trimmed, h.ofBody_render]

end WellFormedGroup

theorem readable_ruleTexts {groups : Groups} (h : ∀ g ∈ groups, WellFormedGroup g) :
    ∀ r ∈ groups.map Groups.ruleText, r.Readable := by
  intro r hr
  obtain ⟨g, hg, rfl⟩ := List.mem_map.mp hr
  exact (h g hg).readable

theorem readRules_render_append {groups : Groups} (h : ∀ g ∈ groups, WellFormedGroup g) (t : Text) :
    readRules (groups.render ++ t) = groups.toRules ++ readRules t := by
  have hrules : (groups.map Groups.ruleText).map RuleText.rule = groups.toRules := by
    rw [List.map_map]
    exact List.map_congr_left fun g hg => (h g hg).rule_ruleText
  rw [Groups.render_eq_flatMap, RuleText.readRules_append (readable_ruleTexts h), hrules]

theorem readRules_render {groups : Groups} (h : ∀ g ∈ groups, WellFormedGroup g) :
    readRules groups.render = groups.toRules := by
  simpa [readRules_nil] using readRules_render_append h []

/-! ## Media blocks -/

/-- Nothing opens in written groups unless a selector does. -/
theorem firstOpening?_render_append {groups : Groups} (h : ∀ g ∈ groups, WellFormedGroup g)
    (ho : ∀ g ∈ groups, ¬ OpensMedia g.1) (t : Text) :
    firstOpening? (groups.render ++ t) =
      (firstOpening? t).map fun cut => (groups.render ++ cut.1, cut.2) := by
  have hselectors : ∀ r ∈ groups.map Groups.ruleText, ¬ OpensMedia r.selector := by
    intro r hr
    obtain ⟨g, hg, rfl⟩ := List.mem_map.mp hr
    exact ho g hg
  rw [Groups.render_eq_flatMap]
  exact RuleText.firstOpening?_append (readable_ruleTexts h) hselectors t

theorem mediaContent?_group_append {g : Text × Declarations} (hg : WellFormedGroup g) (t : Text) :
    mediaContent? (g.1 ++ '{' :: (Declarations.render g.2 ++ '}' :: t)) =
      if closesMedia t then some (g.1 ++ '{' :: Declarations.render g.2, t)
      else (mediaContent? t).map fun cut =>
        (g.1 ++ '{' :: (Declarations.render g.2 ++ '}' :: cut.1), cut.2) :=
  RuleText.mediaContent?_append hg.readable t

theorem closesMedia_group_append {g : Text × Declarations} (hg : WellFormedGroup g) (t : Text) :
    closesMedia (g.1 ++ '{' :: t) = true ↔ mediaWord <+: g.1 := by
  have hs := hg.texts.selector
  rw [closesMedia, Text.trimLeft_append_of_trim_eq hs.trimmed hs.ne_nil, Bool.or_eq_true,
    Text.startsWith_iff, Text.isPrefix_append_cons_iff (by decide)]
  simp

/-- A block ends behind its groups when no group but the first could be another block. -/
theorem mediaContent?_render_append {g : Text × Declarations} {groups : Groups}
    (h : ∀ e ∈ g :: groups, WellFormedGroup e) (hm : ∀ e ∈ groups, ¬ mediaWord <+: e.1)
    {t : Text} (ht : closesMedia t = true) :
    mediaContent? (Groups.render (g :: groups) ++ '}' :: t) =
      some (Groups.render (g :: groups), t) := by
  induction groups generalizing g with
  | nil =>
    have hg := h g (by simp)
    have hone : Groups.render [g] = g.1 ++ '{' :: (Declarations.render g.2 ++ ['}']) := by
      simpa [Groups.render_nil] using Groups.render_cons_append g [] []
    rw [Groups.render_cons_append, Groups.render_nil, List.nil_append,
      mediaContent?_group_append hg, closesMedia_close, mediaContent?_close, if_pos ht, hone]
    simp
  | cons e groups ih =>
    have hg := h g (by simp)
    have he := h e (by simp)
    have hrest := @ih e (fun d hd => h d (by simp [hd])) fun d hd => hm d (by simp [hd])
    -- the brace of `g` stays inside since no `@media` follows it
    have hopen : closesMedia (Groups.render (e :: groups) ++ '}' :: t) = false := by
      rw [Bool.eq_false_iff, Groups.render_cons_append]
      intro hc
      exact hm e (by simp) ((closesMedia_group_append he _).mp hc)
    have hcons : Groups.render (g :: e :: groups) =
        g.1 ++ '{' :: (Declarations.render g.2 ++ '}' :: Groups.render (e :: groups)) := by
      simpa using Groups.render_cons_append g (e :: groups) []
    rw [Groups.render_cons_append, mediaContent?_group_append hg, hopen, hrest, hcons]
    simp

theorem firstOpening?_block_append {query : Text} (hq : WellFormedQuery query) (t : Text) :
    firstOpening? (mediaWord ++ ' ' :: (query ++ '{' :: t)) = some ([], ' ' :: query, t) := by
  have hchars : ∀ c ∈ ' ' :: query, isQueryChar c = true := by
    have hquery := forall_isQueryChar_iff.mpr hq.free
    simpa using ⟨by decide, hquery⟩
  exact firstOpening?_mediaWord_append (by simp) hchars t

theorem firstMedia?_block_append {block : MediaGroups} (hb : block.WellFormed)
    (hm : ∀ g ∈ block.groups.tail, ¬ mediaWord <+: g.1) {t : Text} (ht : closesMedia t = true) :
    firstMedia? (block.render ++ t) = some ⟨[], ' ' :: block.query, block.groups.render, t⟩ := by
  obtain ⟨query, groups⟩ := block
  cases groups with
  | nil => exact absurd rfl hb.ne_nil
  | cons g groups =>
    have hc := mediaContent?_render_append (fun e he => hb.groups.group e he) hm ht
    rw [MediaGroups.render_append, firstMedia?, firstOpening?_block_append hb.query,
      Option.bind_some, hc, Option.map_some]

def MediaGroups.toBlock (block : MediaGroups) : MediaBlock := ⟨block.query, block.groups.toRules⟩

theorem closesMedia_blocks (blocks : List MediaGroups) :
    closesMedia (blocks.flatMap MediaGroups.render) = true := by
  cases blocks with
  | nil => exact closesMedia_nil
  | cons block blocks =>
    rw [List.flatMap_cons, MediaGroups.render_append]
    exact closesMedia_mediaWord_append _

theorem extractMedia_blocks {blocks : List MediaGroups} (h : ∀ b ∈ blocks, b.WellFormed)
    (hm : ∀ b ∈ blocks, ∀ g ∈ b.groups.tail, ¬ mediaWord <+: g.1) :
    extractMedia (blocks.flatMap MediaGroups.render) = (blocks.map MediaGroups.toBlock, []) := by
  induction blocks with
  | nil => exact extractMedia_of_no_mediaWord (by decide)
  | cons block blocks ih =>
    have hb := h block (by simp)
    have hfirst := firstMedia?_block_append hb (hm block (by simp)) (closesMedia_blocks blocks)
    have hrest := ih (fun b hb => h b (by simp [hb])) fun b hb => hm b (by simp [hb])
    have hquery : Text.trim (' ' :: block.query) = block.query := by
      rw [Text.trim_space_cons, hb.query.trimmed]
    rw [List.flatMap_cons, extractMedia_of_some hfirst, hrest, hquery,
      readRules_render hb.groups.group]
    rfl

/-! ## Whole sheets -/

namespace GroupedSheet

def toSheet (sheet : GroupedSheet) : Sheet :=
  ⟨sheet.top.toRules, sheet.media.map MediaGroups.toBlock⟩

/-- Nothing in the text of the sheet is taken for a comment, for the opening of a block or for the
end of one that is none. -/
structure Rereadable (sheet : GroupedSheet) : Prop where
  comment : ¬ HoldsComment sheet.render
  opening : ∀ g ∈ sheet.top, ¬ OpensMedia g.1
  closing : ∀ b ∈ sheet.media, ∀ g ∈ b.groups.tail, ¬ mediaWord <+: g.1

theorem parse_render_of_rereadable {sheet : GroupedSheet} (h : sheet.WellFormed)
    (hr : sheet.Rereadable) : Sheet.parse sheet.render = sheet.toSheet := by
  have htop := extractMedia_append (firstOpening?_render_append h.top.group hr.opening
    (sheet.media.flatMap MediaGroups.render))
  have hmedia := extractMedia_blocks h.media hr.closing
  have hrules := readRules_render h.top.group
  rw [Sheet.parse, withoutComments_of_not_holdsComment hr.comment, render, htop, hmedia]
  simp only [List.append_nil, hrules]
  rfl

/-- Without comment openings in its texts and `@media` in its selectors a sheet is reread. -/
theorem rereadable_of_lacks {sheet : GroupedSheet}
    (hc : sheet.TextsIn (Lacks commentStart) (Lacks commentStart) (Lacks commentStart)
      (Lacks commentStart))
    (hm : sheet.TextsIn (Lacks mediaWord) (fun _ => True) (fun _ => True) fun _ => True) :
    sheet.Rereadable := by
  refine ⟨fun h => lacks_render_commentStart hc h.start_isInfix, ?_, ?_⟩
  · intro g hg ho
    exact (hm.top g hg).selector ho.mediaWord_isInfix
  · intro b hb g hg hp
    exact ((hm.media b hb).2 g (List.mem_of_mem_tail hg)).selector hp.isInfix

/-- Parsing undoes writing: the rules are the groups, in order and with their declarations in
order, and the media blocks are the written ones. -/
theorem parse_render {sheet : GroupedSheet} (h : sheet.WellFormed)
    (hcomment : sheet.TextsIn (Lacks commentStart) (Lacks commentStart) (Lacks commentStart)
      (Lacks commentStart))
    (hmedia : sheet.TextsIn (Lacks mediaWord) (fun _ => True) (fun _ => True) fun _ => True) :
    Sheet.parse sheet.render =
      ⟨sheet.top.map fun g => ⟨g.1, g.2⟩,
        sheet.media.map fun b => ⟨b.query, b.groups.map fun g => ⟨g.1, g.2⟩⟩⟩ :=
  parse_render_of_rereadable h (rereadable_of_lacks hcomment hmedia)

/-- A value may hold a colon or `@media`, a query may be empty, and a selector may recur. -/
theorem parse_render_media_in_value :
    let groups : Groups := [("p".toList, [("a".toList, "b:c @media d".toList)]),
      (".x /".toList, [("* y".toList, "@media".toList), ("a".toList, "z".toList)])]
    let sheet : GroupedSheet := ⟨groups, [⟨[], groups⟩, ⟨"(q: 1)".toList, groups.reverse⟩]⟩
    sheet.WellFormed ∧ Sheet.parse sheet.render =
      ⟨sheet.top.map fun g => ⟨g.1, g.2⟩,
        sheet.media.map fun b => ⟨b.query, b.groups.map fun g => ⟨g.1, g.2⟩⟩⟩ :=
  ⟨by decide +kernel, parse_render (by decide +kernel) (by decide +kernel) (by decide +kernel)⟩

end GroupedSheet

end WebTidy
