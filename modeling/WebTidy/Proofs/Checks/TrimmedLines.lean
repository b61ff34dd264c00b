import WebTidy.Proofs.Checks.ClassAttribute
import WebTidy.Proofs.Checks.JoinedSources

/-!
# Trimmed lines

A rule either looks at what trimming leaves of a line or searches the line for a piece without
blanks. So it says the same about a line and about the trimmed line, and a review depends only on
the trimmed lines of its source.
-/

namespace WebTidy

/-! ## Idle characters -/

/-- A character of which no rule takes notice that searches a line. -/
def isIdle (c : Char) : Bool := isBlank c || c == '#' || c == '/' || c == ';'

theorem isIdle_of_isBlank {c : Char} (h : isBlank c = true) : isIdle c = true := by
  simp [isIdle, h]

theorem toNat_of_isAlpha {c : Char} (h : c.isAlpha = true) : 65 ≤ c.toNat ∧ c.toNat ≤ 122 := by
  have hcode : c.val.toNat = c.toNat := rfl
  simp only [Char.isAlpha, Char.isUpper, Char.isLower, Bool.or_eq_true, Bool.and_eq_true,
    decide_eq_true_eq, ge_iff_le, UInt32.le_iff_toNat_le, hcode, Char.reduceVal,
    UInt32.reduceToNat] at h
  omega

theorem isAlpha_of_isIdle {c : Char} (h : isIdle c = true) : c.isAlpha = false := by
  rw [Bool.eq_false_iff]
  intro ha
  have hcode := toNat_of_isAlpha ha
  simp only [isIdle, Bool.or_eq_true, beq_iff_eq] at h
  obtain ((hb | rfl) | rfl) | rfl := h
  · have hblank := Text.toNat_of_isBlank hb
    omega
  all_goals exact absurd ha (by decide)

theorem lowerChar_of_not_isAlpha {c : Char} (hkelvin : c ≠ '\u212A') (h : c.isAlpha = false) :
    lowerChar c = c := by
  have hupper : ¬ c.isUpper = true := fun hu => by simp [Char.isAlpha, hu] at h
  rw [lowerChar, if_neg hkelvin, Char.toLower_eq_of_not_isUpper hupper]

theorem lowerChar_of_isIdle {c : Char} (h : isIdle c = true) : lowerChar c = c := by
  refine lowerChar_of_not_isAlpha ?_ (isAlpha_of_isIdle h)
  rintro rfl
  exact absurd h (by decide)

section Idle

variable {w v : Text} (hw : ∀ c ∈ w, isIdle c = true) (hv : ∀ c ∈ v, isIdle c = true)

include hw in
theorem notMem_of_idle {c : Char} (hc : isIdle c = false) : c ∉ w :=
  fun hm => by simp [hw c hm] at hc

include hw in
theorem lower_of_idle : Text.lower w = w := by
  rw [Text.lower, List.map_congr_left fun c hc => lowerChar_of_isIdle (hw c hc), List.map_id']

include hw hv

theorem occursIn_between_idle {piece : Text} (hn : piece ≠ []) (hp : piece.any isIdle = false)
    (t : Text) : Text.occursIn piece (w ++ t ++ v) = Text.occursIn piece t := by
  rw [List.any_eq_false] at hp
  have hout {u : Text} (hu : ∀ c ∈ u, isIdle c = true) : ∀ c ∈ u, c ∉ piece :=
    fun c hc hm => hp c hm (hu c hc)
  rw [Bool.eq_iff_iff, Text.occursIn_iff, Text.occursIn_iff,
    Text.infix_append_left_iff hn (hout hv), Text.infix_append_right_iff hn (hout hw)]

theorem misspellsEvent_between_idle {event : Text × Text} (he : event ∈ eventNames) (t : Text) :
    misspellsEvent event (w ++ t ++ v) = misspellsEvent event t := by
  have hevent : ∀ event ∈ eventNames, event.1 ≠ [] ∧ event.2 ≠ [] ∧
      event.1.any isIdle = false ∧ event.2.any isIdle = false := by decide
  obtain ⟨hlower, hcamel, hl, hc⟩ := hevent event he
  have happend : Text.lower (w ++ t ++ v) = w ++ t.lower ++ v := by
    rw [Text.lower, List.map_append, List.map_append, ← Text.lower, ← Text.lower, ← Text.lower,
      lower_of_idle hw, lower_of_idle hv]
  rw [misspellsEvent, happend, occursIn_between_idle hw hv hlower hl,
    occursIn_between_idle hw hv hcamel hc, misspellsEvent]

theorem contains_between_idle {c : Char} (hc : isIdle c = false) (t : Text) :
    (w ++ t ++ v).contains c = t.contains c := by
  simp [notMem_of_idle hw hc, notMem_of_idle hv hc]

end Idle

theorem danglingTag_append_right {w : Text} (hw : '<' ∉ w) (t : Text) :
    danglingTag (w ++ t) = danglingTag t := by
  induction w with
  | nil => rfl
  | cons c w ih =>
    have hc : (c == '<') = false := by
      rw [beq_eq_false_iff_ne]
      rintro rfl
      simp at hw
    rw [List.cons_append, danglingTag, hc, ih fun h => hw (by simp [h])]
    simp

theorem danglingTag_append_left {v : Text} (hv : ∀ c ∈ v, isIdle c = true) (t : Text) :
    danglingTag (t ++ v) = danglingTag t := by
  induction t with
  | nil =>
    have hright := danglingTag_append_right (notMem_of_idle hv (c := '<') (by decide)) []
    simpa using hright
  | cons c t ih =>
    have hhead : (t ++ v).head?.any Char.isAlpha = t.head?.any Char.isAlpha := by
      cases t with
      | cons d t => rfl
      | nil =>
        cases v with
        | nil => rfl
        | cons d v => exact isAlpha_of_isIdle (hv d (by simp))
    have hall : (v.all fun d => d != '<' && d != '>') = true := by
      rw [List.all_eq_true]
      intro d hd
      have hopen : d ≠ '<' := fun h => notMem_of_idle hv (by decide) (h ▸ hd)
      have hclose : d ≠ '>' := fun h => notMem_of_idle hv (by decide) (h ▸ hd)
      simp [hopen, hclose]
    rw [List.cons_append, danglingTag, ih, hhead, List.all_append, hall, Bool.and_true, danglingTag]

/-! ## Rules -/

namespace LineRule

/-- Whether the rule looks at how the trimmed line begins. -/
def readsStart : LineRule → Bool
  | hashComment | scriptCommentInMarkup | missingSemicolon => true
  | _ => false

theorem remarks_between_idle {rule : LineRule} (hrule : rule.readsStart = false) {w v : Text}
    (hw : ∀ c ∈ w, isIdle c = true) (hv : ∀ c ∈ v, isIdle c = true) (d : Dialect) (t : Text) :
    rule.remarks d (w ++ t ++ v) = rule.remarks d t := by
  have hoccurs {piece : Text} (hn : piece ≠ []) (hp : piece.any isIdle = false) :=
    occursIn_between_idle hw hv hn hp t
  cases rule with
  | hashComment => cases hrule
  | scriptCommentInMarkup => cases hrule
  | missingSemicolon => cases hrule
  | forbiddenHtmlComment => rw [remarks, hoccurs (by decide) (by decide), remarks]
  | phpHtmlComment =>
    rw [remarks, hoccurs (by decide) (by decide), hoccurs (by decide) (by decide), remarks]
  | classAttribute =>
    have hfree : QuoteFree v := by
      intro c hc
      rw [Bool.eq_false_iff, ne_eq, isQuote_iff]
      rintro (rfl | rfl)
      · exact notMem_of_idle hv (by decide) hc
      · exact notMem_of_idle hv (by decide) hc
    rw [remarks, hoccurs (by decide) (by decide), firstClassLiteral?_append_left hfree,
      firstClassLiteral?_append_right (notMem_of_idle hw (by decide)), remarks]
  | forAttribute => rw [remarks, hoccurs (by decide) (by decide), remarks]
  | classNameInMarkup => rw [remarks, hoccurs (by decide) (by decide), remarks]
  | stringStyle => rw [remarks, hoccurs (by decide) (by decide), remarks]
  | lowercaseEvents =>
    have hevents : eventNames.filter (misspellsEvent · (w ++ t ++ v)) =
        eventNames.filter (misspellsEvent · t) :=
      List.filter_congr fun event he => misspellsEvent_between_idle hw hv he t
    rw [remarks, hevents, remarks]
  | unclosedTag =>
    rw [remarks, contains_between_idle hw hv (by decide), danglingTag_append_left hv,
      danglingTag_append_right (notMem_of_idle hw (by decide)), remarks]

/-- A rule says the same about a line and about what trimming leaves of it. -/
theorem remarks_trim (rule : LineRule) (d : Dialect) (line : Text) :
    rule.remarks d line.trim = rule.remarks d line := by
  cases hrule : rule.readsStart with
  | false =>
    obtain ⟨w, v, hw, hv, hsplit⟩ := Text.exists_blanks_around line
    conv_rhs => rw [hsplit]
    exact (remarks_between_idle hrule (fun c hc => isIdle_of_isBlank (hw c hc))
      (fun c hc => isIdle_of_isBlank (hv c hc)) d _).symm
  | true =>
    cases rule with
    | hashComment => rw [remarks, Text.trim_trim, remarks]
    | scriptCommentInMarkup => rw [remarks, Text.trim_trim, remarks]
    | missingSemicolon => rw [remarks, Text.trim_trim, remarks]
    | _ => cases hrule

end LineRule

/-! ## Reviews -/

theorem lineFindings_trim (d : Dialect) (rules : List LineRule) (number : Int) (line : Text) :
    lineFindings d rules number line.trim = lineFindings d rules number line := by
  simp only [lineFindings, LineRule.check, LineRule.remarks_trim]

theorem linesFindings_map_trim (d : Dialect) (rules : List LineRule) (number : Int)
    (lines : List Text) :
    linesFindings d rules number (lines.map Text.trim) = linesFindings d rules number lines := by
  induction lines generalizing number with
  | nil => rfl
  | cons line lines ih =>
    rw [List.map_cons, linesFindings, lineFindings_trim, ih, linesFindings]

/-- A piece without line ends stands on one of the lines. -/
theorem Text.infix_iff_exists_line {piece : Text} (hp : '\n' ∉ piece) {t : Text} :
    piece <:+: t ↔ ∃ line ∈ t.lines, piece <:+: line := by
  induction t using Text.separator_induction '\n' with
  | last t ht => simp [Text.lines, List.splitOn_eq_singleton ht]
  | cut s t hs ih =>
    have hline : Text.lines s = [s] := List.splitOn_eq_singleton hs
    rw [Text.infix_append_cons_iff hp, ih, Text.lines_append_newline, hline]
    simp

theorem Text.mem_iff_exists_line {c : Char} (hc : c ≠ '\n') {t : Text} :
    c ∈ t ↔ ∃ line ∈ t.lines, c ∈ line := by
  have hsingle : '\n' ∉ [c] := by simpa using hc.symm
  simpa only [List.singleton_infix_iff] using Text.infix_iff_exists_line hsingle

/-- Trimming a text takes no piece from it that has no blanks. -/
theorem Text.infix_trim_iff {piece : Text} (hn : piece ≠ []) (hp : piece.any isBlank = false)
    (t : Text) : piece <:+: t.trim ↔ piece <:+: t := by
  rw [List.any_eq_false] at hp
  obtain ⟨w, v, hw, hv, hsplit⟩ := Text.exists_blanks_around t
  conv_rhs => rw [hsplit]
  rw [Text.infix_append_left_iff hn fun c hc hm => hp c hm (hv c hc),
    Text.infix_append_right_iff hn fun c hc hm => hp c hm (hw c hc)]

theorem lacksOpenTag_iff_lines {d : Dialect} {source : Text} : LacksOpenTag d source ↔
    d = .php ∧ (∃ line ∈ source.lines.map Text.trim, line ≠ []) ∧
      ∀ line ∈ source.lines.map Text.trim, ¬ "<?php".toList <:+: line := by
  have htag : "<?php".toList <:+: source ↔
      ∃ line ∈ source.lines.map Text.trim, "<?php".toList <:+: line := by
    have htrim := Text.infix_trim_iff (show "<?php".toList ≠ [] by decide) (by decide)
    rw [Text.infix_iff_exists_line (by decide)]
    simp only [List.mem_map, exists_exists_and_eq_and, htrim]
  have hblank : (∃ c ∈ source, isBlank c = false) ↔
      ∃ line ∈ source.lines.map Text.trim, line ≠ [] := by
    simp only [List.mem_map, exists_exists_and_eq_and, ne_eq, Text.trim_eq_nil_iff, not_forall,
      Bool.not_eq_true, exists_prop]
    have hend {c : Char} (hc : isBlank c = false) : c ≠ '\n' := by
      rintro rfl
      cases hc
    constructor
    · rintro ⟨c, hc, hsolid⟩
      obtain ⟨line, hline, hmem⟩ := (Text.mem_iff_exists_line (hend hsolid)).mp hc
      exact ⟨line, hline, c, hmem, hsolid⟩
    · rintro ⟨line, hline, c, hmem, hsolid⟩
      exact ⟨c, (Text.mem_iff_exists_line (hend hsolid)).mpr ⟨line, hline, hmem⟩, hsolid⟩
  rw [LacksOpenTag, hblank, htag]
  simp only [not_exists, not_and]

/-- A review sees of a source no more than its trimmed lines. -/
theorem review_congr_trim {a b : Text} (h : a.lines.map Text.trim = b.lines.map Text.trim)
    (d : Dialect) (extra : List LineRule) : review d extra a = review d extra b := by
  obtain ⟨x, xs, ha⟩ := exists_lines_eq_cons a
  obtain ⟨y, ys, hb⟩ := exists_lines_eq_cons b
  have hsource : sourceFindings d a = sourceFindings d b := by
    rw [sourceFindings_eq, sourceFindings_eq]
    simp only [lacksOpenTag_iff_lines, h]
  rw [ha, hb, List.map_cons, List.map_cons] at h
  obtain ⟨hfirst, hrest⟩ := List.cons_eq_cons.mp h
  rw [review, review, findings_of_lines d extra ha, findings_of_lines d extra hb, hsource,
    ← lineFindings_trim _ _ _ x, ← linesFindings_map_trim _ _ _ xs, hfirst, hrest,
    lineFindings_trim, linesFindings_map_trim]

end WebTidy
