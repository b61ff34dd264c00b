import WebTidy.Proofs.Stylesheet.FlatSheet

/-!
# Rules behind a media block

A media block takes in the rules that are written behind it, up to the next block. Its end is found
at the brace of the last one of them, so that rule is left open and is lost. Every other rule is
read, in the order of the text.
-/

namespace WebTidy

/-- A media block as it is written, with blanks before its closing brace, the rules behind it and
blanks before the next block. -/
structure MediaText where
  query : Text
  inside : List RuleText
  gap : Text
  behind : List RuleText
  trail : Text
  deriving DecidableEq, Repr

namespace RuleText

theorem closesMedia_selector {r : RuleText} (h : r.WellFormed) (t : Text) :
    closesMedia (r.selector ++ '{' :: t) = false := by
  rw [closesMedia, Bool.or_eq_false_iff, Bool.eq_false_iff, Bool.eq_false_iff]
  have hleft : Text.trimLeft r.selector ≠ [] := by
    intro hn
    exact h.named (by rw [Text.trim, hn]; rfl)
  rw [Text.trimLeft_append hleft]
  constructor
  · simp
  · rw [ne_eq, Text.startsWith_iff, Text.isPrefix_append_cons_iff (by decide)]
    exact fun hp => h.media (hp.isInfix.trans (Text.trimLeft_isSuffix _).isInfix)

theorem closesMedia_append {rules : List RuleText} (h : ∀ r ∈ rules, r.WellFormed) {t : Text}
    (ht : closesMedia t = false) : closesMedia (rules.flatMap render ++ t) = false := by
  cases rules with
  | nil => exact ht
  | cons r rules =>
    rw [flatMap_render_cons]
    exact closesMedia_selector (h r (by simp)) _

/-- No block ends inside rules that more than blanks follow. -/
theorem mediaContent?_flatMap_append {rules : List RuleText} (h : ∀ r ∈ rules, r.WellFormed)
    {t : Text} (ht : closesMedia t = false) :
    mediaContent? (rules.flatMap render ++ t) =
      (mediaContent? t).map fun cut => (rules.flatMap render ++ cut.1, cut.2) := by
  induction rules with
  | nil => simp
  | cons r rules ih =>
    have hrest : ∀ e ∈ rules, e.WellFormed := fun e he => h e (by simp [he])
    rw [flatMap_render_cons, mediaContent?_append (h r (by simp)).toReadable,
      closesMedia_append hrest ht, if_neg (by simp), ih hrest, Option.map_map]
    congr 1
    funext cut
    simp [render]

end RuleText

namespace MediaText

def render (m : MediaText) : Text :=
  mediaWord ++ (m.query ++ '{' :: (m.inside.flatMap RuleText.render ++ (m.gap ++ '}' ::
    (m.behind.flatMap RuleText.render ++ m.trail))))

/-- The block that is read: the last rule behind it is missing. -/
def block (m : MediaText) : MediaBlock :=
  ⟨m.query.trim, m.inside.map RuleText.rule ++ (m.behind.map RuleText.rule).dropLast⟩

/-- The rule that is not read. -/
def lost? (m : MediaText) : Option Rule := (m.behind.map RuleText.rule).getLast?

structure WellFormed (m : MediaText) : Prop where
  query_ne_nil : m.query ≠ []
  query_free : ∀ c ∈ ['{', '}', '@'], c ∉ m.query
  inside : ∀ r ∈ m.inside, r.WellFormed
  gap : ∀ c ∈ m.gap, isBlank c = true
  behind : ∀ r ∈ m.behind, r.WellFormed
  trail : ∀ c ∈ m.trail, isBlank c = true

instance : DecidablePred WellFormed := fun m =>
  decidable_of_iff (m.query ≠ [] ∧ ['{', '}', '@'].all (· ∉ m.query) = true ∧
      (∀ r ∈ m.inside, r.WellFormed) ∧ m.gap.all isBlank = true ∧
      (∀ r ∈ m.behind, r.WellFormed) ∧ m.trail.all isBlank = true)
    ⟨fun ⟨hn, hq, hi, hg, hb, ht⟩ =>
      ⟨hn, by simpa using hq, hi, by simpa using hg, hb, by simpa using ht⟩,
    fun ⟨hn, hq, hi, hg, hb, ht⟩ =>
      ⟨hn, by simpa using hq, hi, by simpa using hg, hb, by simpa using ht⟩⟩

theorem render_append (m : MediaText) (t : Text) :
    m.render ++ t = mediaWord ++ (m.query ++ '{' :: (m.inside.flatMap RuleText.render ++
      (m.gap ++ '}' :: (m.behind.flatMap RuleText.render ++ (m.trail ++ t))))) := by
  simp [render]

/-- From the brace of a block on: the block ends at the brace of the last rule behind it, and all
rules before that one are read. -/
theorem exists_mediaContent?_behind {gap : Text} (hg : ∀ c ∈ gap, isBlank c = true)
    {behind : List RuleText} (h : ∀ r ∈ behind, r.WellFormed) {t : Text}
    (ht : closesMedia t = true) :
    ∃ content, mediaContent? (gap ++ '}' :: (behind.flatMap RuleText.render ++ t)) =
        some (content, t) ∧ readRules content = (behind.map RuleText.rule).dropLast := by
  have hfree := braceFree_of_blank hg
  have hgap : '}' ∉ gap := (braceFree_iff.mp hfree).2
  rcases List.eq_nil_or_concat behind with rfl | ⟨before, last, rfl⟩
  · refine ⟨gap, ?_, readRules_of_braceFree hfree⟩
    simp [mediaContent?_append hgap, mediaContent?_close, ht]
  · rw [List.concat_eq_append] at h ⊢
    have hbefore : ∀ r ∈ before, r.WellFormed := fun r hr => h r (by simp [hr])
    have hlast := h last (by simp)
    have hopen := RuleText.closesMedia_selector hlast (last.body ++ '}' :: t)
    have hsplit : (before ++ [last]).flatMap RuleText.render ++ t =
        before.flatMap RuleText.render ++ (last.selector ++ '{' :: (last.body ++ '}' :: t)) := by
      simp [RuleText.render]
    refine ⟨gap ++ '}' :: (before.flatMap RuleText.render ++ (last.selector ++ '{' :: last.body)),
      ?_, ?_⟩
    · rw [hsplit, mediaContent?_append hgap, mediaContent?_close,
        RuleText.closesMedia_append hbefore hopen, if_neg (by simp),
        RuleText.mediaContent?_flatMap_append hbefore hopen,
        RuleText.mediaContent?_append hlast.toReadable, if_pos ht]
      simp
    · -- the last rule has lost its brace to the block
      rw [readRules_close hfree, RuleText.readRules_append fun r hr => (hbefore r hr).toReadable,
        readRules_unclosed hlast.selector_free hlast.body_free]
      simp

theorem exists_firstMedia? {m : MediaText} (h : m.WellFormed) {t : Text}
    (ht : closesMedia t = true) :
    ∃ content, firstMedia? (m.render ++ t) = some ⟨[], m.query, content, m.trail ++ t⟩ ∧
      readRules content = m.block.rules := by
  have htrail : closesMedia (m.trail ++ t) = true := by
    rwa [closesMedia_append_of_blank h.trail]
  obtain ⟨content, hcontent, hrules⟩ := exists_mediaContent?_behind h.gap h.behind htrail
  have hgap : closesMedia (m.gap ++ '}' :: (m.behind.flatMap RuleText.render ++ (m.trail ++ t))) =
      false := by rw [closesMedia_append_of_blank h.gap, closesMedia_close]
  have hinside := RuleText.mediaContent?_flatMap_append h.inside hgap
  have hopen := firstOpening?_mediaWord_append h.query_ne_nil
    (forall_isQueryChar_iff.mpr h.query_free) (m.inside.flatMap RuleText.render ++ (m.gap ++ '}' ::
      (m.behind.flatMap RuleText.render ++ (m.trail ++ t))))
  refine ⟨m.inside.flatMap RuleText.render ++ content, ?_, ?_⟩
  · rw [render_append, firstMedia?, hopen, Option.bind_some, hinside, hcontent, Option.map_some,
      Option.map_some]
  · rw [RuleText.readRules_append fun r hr => (h.inside r hr).toReadable, hrules, block]

theorem closesMedia_flatMap (blocks : List MediaText) :
    closesMedia (blocks.flatMap render) = true := by
  cases blocks with
  | nil => exact closesMedia_nil
  | cons m blocks =>
    rw [List.flatMap_cons, render_append]
    exact closesMedia_mediaWord_append _

theorem extractMedia_flatMap {blocks : List MediaText} (h : ∀ m ∈ blocks, m.WellFormed) :
    extractMedia (blocks.flatMap render) = (blocks.map block, blocks.flatMap trail) := by
  induction blocks with
  | nil => exact extractMedia_of_no_mediaWord (by decide)
  | cons m blocks ih =>
    have hm := h m (by simp)
    obtain ⟨content, hfirst, hrules⟩ := exists_firstMedia? hm (closesMedia_flatMap blocks)
    rw [List.flatMap_cons, extractMedia_of_some hfirst, extractMedia_append_of_blank hm.trail,
      ih fun e he => h e (by simp [he]), hrules]
    rfl

theorem block_rules_append_lost? (m : MediaText) :
    m.block.rules ++ m.lost?.toList = (m.inside ++ m.behind).map RuleText.rule := by
  rcases List.eq_nil_or_concat m.behind with h | ⟨before, last, h⟩ <;> simp [block, lost?, h]

/-- The blocks and the lost rules together hold each written rule once. -/
theorem perm_rules_lost (blocks : List MediaText) :
    ((blocks.map block).flatMap MediaBlock.rules ++ blocks.filterMap lost?).Perm
      (blocks.flatMap fun m => (m.inside ++ m.behind).map RuleText.rule) := by
  induction blocks with
  | nil => exact .nil
  | cons m blocks ih =>
    have hlost : (m :: blocks).filterMap lost? = m.lost?.toList ++ blocks.filterMap lost? := by
      rw [List.filterMap_cons]
      cases m.lost? <;> rfl
    rw [List.map_cons, List.flatMap_cons, List.flatMap_cons, hlost, ← block_rules_append_lost?,
      List.append_assoc, List.append_assoc]
    refine List.Perm.append_left _ ?_
    exact (List.perm_append_comm_assoc _ _ _).trans (ih.append_left _)

end MediaText

/-- A sheet of flat rules and media blocks with rules behind them: the top-level rules are those in
front of the first block, and every block has its own rules and those behind it but the last one.
Each rule of the text is read once, apart from these last ones. -/
theorem Sheet.parse_mediaTexts {rules : List RuleText} (hr : ∀ r ∈ rules, r.WellFormed) {w : Text}
    (hw : ∀ c ∈ w, isBlank c = true) {blocks : List MediaText} (hb : ∀ m ∈ blocks, m.WellFormed)
    (hc : Lacks commentStart
      (rules.flatMap RuleText.render ++ (w ++ blocks.flatMap MediaText.render))) :
    let sheet := parse (rules.flatMap RuleText.render ++ (w ++ blocks.flatMap MediaText.render))
    sheet = ⟨rules.map RuleText.rule, blocks.map MediaText.block⟩ ∧
      (sheet.rules ++ sheet.media.flatMap MediaBlock.rules ++
          blocks.filterMap MediaText.lost?).Perm
        (rules.map RuleText.rule ++
          blocks.flatMap fun m => (m.inside ++ m.behind).map RuleText.rule) := by
  have hblanks : ∀ c ∈ w ++ blocks.flatMap MediaText.trail, isBlank c = true := by
    intro c hm
    rcases List.mem_append.mp hm with hm | hm
    · exact hw c hm
    · obtain ⟨m, hmem, hm⟩ := List.mem_flatMap.mp hm
      exact (hb m hmem).trail c hm
  have hparse : parse (rules.flatMap RuleText.render ++ (w ++ blocks.flatMap MediaText.render)) =
      ⟨rules.map RuleText.rule, blocks.map MediaText.block⟩ := by
    rw [RuleText.parse_append hr hc, extractMedia_append_of_blank hw,
      MediaText.extractMedia_flatMap hb, readRules_of_braceFree (braceFree_of_blank hblanks),
      List.append_nil]
  intro sheet
  have hsheet : sheet = ⟨rules.map RuleText.rule, blocks.map MediaText.block⟩ := hparse
  refine ⟨hsheet, ?_⟩
  rw [hsheet, List.append_assoc]
  exact (MediaText.perm_rules_lost blocks).append_left _

/-- Two blocks: the first loses its second rule, the second has only a lost one. -/
theorem Sheet.parse_mediaTexts_two_blocks :
    let rules : List RuleText := [⟨"a ".toList, " b: c ".toList⟩]
    let w : Text := "\n".toList
    let blocks : List MediaText := [
      ⟨" print ".toList, [⟨"d".toList, "e:@media f".toList⟩], " ".toList,
        [⟨"\n.g".toList, "h:i;".toList⟩, ⟨"j".toList, "k:l".toList⟩], "\n".toList⟩,
      ⟨"(x)".toList, [], [], [⟨"a".toList, "b:c".toList⟩], []⟩]
    let css := rules.flatMap RuleText.render ++ (w ++ blocks.flatMap MediaText.render)
    (∀ r ∈ rules, r.WellFormed) ∧ (∀ c ∈ w, isBlank c = true) ∧ (∀ m ∈ blocks, m.WellFormed) ∧
      Lacks commentStart css ∧
      Sheet.parse css = ⟨rules.map RuleText.rule, blocks.map MediaText.block⟩ ∧
      ((Sheet.parse css).rules ++ (Sheet.parse css).media.flatMap MediaBlock.rules ++
          blocks.filterMap MediaText.lost?).Perm
        (rules.map RuleText.rule ++
          blocks.flatMap fun m => (m.inside ++ m.behind).map RuleText.rule) :=
  ⟨by decide +kernel, List.all_eq_true.mp (by decide +kernel), by decide +kernel,
    by decide +kernel, Sheet.parse_mediaTexts (by decide +kernel)
      (List.all_eq_true.mp (by decide +kernel)) (by decide +kernel) (by decide +kernel)⟩

end WebTidy
