import WebTidy.Checks.Review
import WebTidy.Proofs.Text.Occurrence

/-!
# Reviewing joined sources

The rules of a dialect look at one line at a time and say nothing about an empty one. So the review
of two sources with a line end between them is the review of the first and then that of the second,
further down by the lines of the first. Only a finding about the whole source is not made up of
those on the parts.
-/

namespace WebTidy

namespace Text

theorem lines_append_newline (a b : Text) : lines (a ++ '\n' :: b) = lines a ++ lines b :=
  List.splitOn_append_cons_self a b

theorem length_lines (t : Text) : (lines t).length = t.count '\n' + 1 := by
  induction t using separator_induction '\n' with
  | last t ht =>
    rw [lines, List.splitOn_eq_singleton ht, List.count_eq_zero_of_not_mem ht]
    rfl
  | cut s t hs ih =>
    rw [lines_append_newline, List.length_append, ih, lines, List.splitOn_eq_singleton hs]
    simp [List.count_eq_zero_of_not_mem hs]
    omega

end Text

namespace Finding

/-- The same finding further down. -/
def shift (n : Int) (f : Finding) : Finding := { f with line := f.line + n }

/-- Whether a rule about the whole source made the finding. -/
def aboutSource (f : Finding) : Bool := (SourceRule.ofName? f.rule).isSome

end Finding

/-! ## Findings on lines and findings on the source -/

theorem LineRule.remarks_nil (rule : LineRule) (d : Dialect) : rule.remarks d [] = [] := by
  cases rule <;> rfl

theorem LineRule.ofName?_source (rule : LineRule) : SourceRule.ofName? rule.name = none := by
  cases rule <;> decide

theorem lineFindings_nil (d : Dialect) (rules : List LineRule) (number : Int) :
    lineFindings d rules number [] = [] := by
  simp [lineFindings, LineRule.check, LineRule.remarks_nil]

theorem aboutSource_of_mem_lineFindings {d : Dialect} {rules : List LineRule} {number : Int}
    {line : Text} {f : Finding} (h : f ∈ lineFindings d rules number line) :
    f.aboutSource = false := by
  obtain ⟨rule, -, hf⟩ := List.mem_flatMap.mp h
  obtain ⟨remark, -, rfl⟩ := List.mem_map.mp hf
  simp [Finding.aboutSource, LineRule.ofName?_source]

theorem aboutSource_of_mem_linesFindings {d : Dialect} {rules : List LineRule} {number : Int}
    {lines : List Text} {f : Finding} (h : f ∈ linesFindings d rules number lines) :
    f.aboutSource = false := by
  induction lines generalizing number with
  | nil => simp [linesFindings] at h
  | cons line lines ih =>
    rcases List.mem_append.mp h with h | h
    · exact aboutSource_of_mem_lineFindings h
    · exact ih h

/-- A source of PHP that holds something has no opening tag. -/
def LacksOpenTag (d : Dialect) (source : Text) : Prop :=
  d = .php ∧ (∃ c ∈ source, isBlank c = false) ∧ ¬ "<?php".toList <:+: source

instance (d : Dialect) (source : Text) : Decidable (LacksOpenTag d source) :=
  inferInstanceAs (Decidable (_ ∧ _ ∧ _))

def openTagFinding : Finding where
  line := 1
  message := "PHP file should start with <?php tag"
  category := .structural
  severity := .warning
  suggestion := some "<?php".toList
  rule := SourceRule.phpOpenTag.name

theorem lacksOpenTag_php_iff {source : Text} : LacksOpenTag .php source ↔
    (!source.trim.isEmpty && !Text.occursIn "<?php".toList source) = true := by
  have hblank : (∃ c ∈ source, isBlank c = false) ↔ source.trim ≠ [] := by
    rw [ne_eq, Text.trim_eq_nil_iff]
    simp
  rw [LacksOpenTag, hblank, ← Text.occursIn_iff]
  simp

theorem sourceFindings_eq (d : Dialect) (source : Text) :
    sourceFindings d source = if LacksOpenTag d source then [openTagFinding] else [] := by
  cases d with
  | php =>
    simp only [sourceFindings, Dialect.sourceRules, List.flatMap_cons, List.flatMap_nil,
      List.append_nil, SourceRule.check, lacksOpenTag_php_iff]
    rfl
  | _ => rw [if_neg fun h => nomatch h.1]; rfl

theorem eq_of_mem_sourceFindings {d : Dialect} {source : Text} {f : Finding}
    (h : f ∈ sourceFindings d source) : f = openTagFinding := by
  rw [sourceFindings_eq] at h
  split at h
  · exact List.mem_singleton.mp h
  · exact absurd h List.not_mem_nil

theorem aboutSource_of_mem_sourceFindings {d : Dialect} {source : Text} {f : Finding}
    (h : f ∈ sourceFindings d source) : f.aboutSource = true ∧ f.severity = .warning := by
  obtain rfl := eq_of_mem_sourceFindings h
  exact ⟨rfl, rfl⟩

/-- All that the line rules of a review find. -/
def allLineFindings (d : Dialect) (extra : List LineRule) (source : Text) : List Finding :=
  linesFindings d (d.lineRules ++ extra) 1 source.lines

theorem aboutSource_of_mem_allLineFindings {d : Dialect} {extra : List LineRule} {source : Text}
    {f : Finding} (h : f ∈ allLineFindings d extra source) : f.aboutSource = false :=
  aboutSource_of_mem_linesFindings h

theorem exists_lines_eq_cons (source : Text) : ∃ line lines, source.lines = line :: lines :=
  List.exists_cons_of_ne_nil (List.splitOn_ne_nil '\n' source)

/-- What is found about the whole source stands between what is found on its first line and what is
found on the others. -/
theorem findings_of_lines {source line : Text} {lines : List Text} (d : Dialect)
    (extra : List LineRule) (h : source.lines = line :: lines) : findings d extra source =
      lineFindings d (d.lineRules ++ extra) 1 line ++ sourceFindings d source ++
        linesFindings d (d.lineRules ++ extra) 2 lines := by
  cases source with
  | nil =>
    obtain ⟨rfl, rfl⟩ : line = [] ∧ lines = [] := by simpa [Text.lines, eq_comm] using h
    rw [lineFindings_nil, linesFindings]
    cases d <;> rfl
  | cons c t => simp only [findings, h]

/-- What is found about the whole source stands behind what is found on its first line. -/
theorem findings_eq (d : Dialect) (extra : List LineRule) (source : Text) :
    ∃ first rest, allLineFindings d extra source = first ++ rest ∧
      findings d extra source = first ++ sourceFindings d source ++ rest := by
  obtain ⟨line, lines, h⟩ := exists_lines_eq_cons source
  refine ⟨_, _, ?_, findings_of_lines d extra h⟩
  rw [allLineFindings, h]
  rfl

theorem filter_not_aboutSource_findings (d : Dialect) (extra : List LineRule) (source : Text) :
    (findings d extra source).filter (!·.aboutSource) = allLineFindings d extra source := by
  obtain ⟨first, rest, hl, hf⟩ := findings_eq d extra source
  have hsource : (sourceFindings d source).filter (!·.aboutSource) = [] := by
    rw [List.filter_eq_nil_iff]
    intro f hm
    simp [(aboutSource_of_mem_sourceFindings hm).1]
  have hlines : (allLineFindings d extra source).filter (!·.aboutSource) =
      allLineFindings d extra source := by
    rw [List.filter_eq_self]
    intro f hm
    simp [aboutSource_of_mem_allLineFindings hm]
  rw [hl, List.filter_append] at hlines
  rw [hf, List.filter_append, List.filter_append, hsource, List.append_nil, hlines, hl]

theorem mem_findings {d : Dialect} {extra : List LineRule} {source : Text} {f : Finding} :
    f ∈ findings d extra source ↔
      f ∈ allLineFindings d extra source ∨ f ∈ sourceFindings d source := by
  obtain ⟨first, rest, hl, hf⟩ := findings_eq d extra source
  rw [hl, hf]
  simp only [List.mem_append]
  grind

/-! ## Joined sources -/

/-- The findings on the lines of joined sources are those on the parts. -/
theorem allLineFindings_append_newline (d : Dialect) (extra : List LineRule) (a b : Text) :
    allLineFindings d extra (a ++ '\n' :: b) = allLineFindings d extra a ++
      (allLineFindings d extra b).map (Finding.shift (a.count '\n' + 1)) := by
  have hlength : ((Text.lines a).length : Int) = a.count '\n' + 1 := by
    rw [Text.length_lines]
    simp
  rw [allLineFindings, Text.lines_append_newline, linesFindings_append, hlength,
    linesFindings_shift]
  rfl

namespace Review

/-- The warnings apart from those about the whole source. -/
def lineWarnings (r : Review) : List Finding := r.warnings.filter (!·.aboutSource)

end Review

theorem errors_review (d : Dialect) (extra : List LineRule) (source : Text) :
    (review d extra source).errors =
      (allLineFindings d extra source).filter (·.severity = .error) := by
  have hlines : ∀ f ∈ findings d extra source,
      (decide (f.severity = .error) && !f.aboutSource) = decide (f.severity = .error) := by
    intro f hf
    rcases mem_findings.mp hf with hf | hf
    · simp [aboutSource_of_mem_allLineFindings hf]
    · simp [(aboutSource_of_mem_sourceFindings hf).2]
  rw [← filter_not_aboutSource_findings, List.filter_filter]
  exact (List.filter_congr hlines).symm

theorem lineWarnings_review (d : Dialect) (extra : List LineRule) (source : Text) :
    (review d extra source).lineWarnings =
      (allLineFindings d extra source).filter (·.severity = .warning) := by
  rw [← filter_not_aboutSource_findings, List.filter_filter, Review.lineWarnings, review,
    Review.ofFindings, List.filter_filter]
  simp only [Bool.and_comm]

theorem filter_map_shift (s : Severity) (n : Int) (fs : List Finding) :
    (fs.map (Finding.shift n)).filter (·.severity = s) =
      (fs.filter (·.severity = s)).map (Finding.shift n) :=
  List.filter_map

/-- Only PHP has rules about the whole source. -/
theorem warnings_eq_lineWarnings {d : Dialect} (hd : d ≠ .php) (extra : List LineRule)
    (source : Text) : (review d extra source).warnings = (review d extra source).lineWarnings := by
  have hsource : sourceFindings d source = [] := by
    cases d with
    | php => exact absurd rfl hd
    | _ => rfl
  have hlines : ∀ f ∈ (review d extra source).warnings, (!f.aboutSource) = true := by
    intro f hf
    have hm : f ∈ findings d extra source := List.mem_of_mem_filter hf
    rw [mem_findings, hsource] at hm
    have hline : f ∈ allLineFindings d extra source := by simpa using hm
    simp [aboutSource_of_mem_allLineFindings hline]
  exact (List.filter_eq_self.mpr hlines).symm

theorem exists_aboutSource_php_iff (extra : List LineRule) (source : Text) :
    (∃ f ∈ (review .php extra source).warnings, f.aboutSource = true) ↔
      (∃ c ∈ source, isBlank c = false) ∧ ¬ "<?php".toList <:+: source := by
  have hsource : (∃ f, f ∈ sourceFindings .php source) ↔
      (∃ c ∈ source, isBlank c = false) ∧ ¬ "<?php".toList <:+: source := by
    rw [sourceFindings_eq]
    split
    · next h => simpa using h.2
    · next h => simpa [LacksOpenTag] using h
  rw [← hsource]
  constructor
  · rintro ⟨f, hf, hs⟩
    have hm : f ∈ findings .php extra source := List.mem_of_mem_filter hf
    rcases mem_findings.mp hm with hm | hm
    · simp [aboutSource_of_mem_allLineFindings hm] at hs
    · exact ⟨f, hm⟩
  · rintro ⟨f, hf⟩
    obtain ⟨hs, hw⟩ := aboutSource_of_mem_sourceFindings hf
    have hm : f ∈ findings .php extra source := mem_findings.mpr (.inr hf)
    exact ⟨f, List.mem_filter.mpr ⟨hm, by simpa using hw⟩, hs⟩

/-- The review of joined sources is the review of the first and then that of the second, as many
lines down as the first has. The finding of PHP about the whole source is there exactly when the
joined text holds something and no opening tag. -/
theorem review_append_newline (d : Dialect) (extra : List LineRule) (a b : Text) :
    (review d extra (a ++ '\n' :: b)).errors = (review d extra a).errors ++
        (review d extra b).errors.map (Finding.shift (a.count '\n' + 1)) ∧
      (d ≠ .php → (review d extra (a ++ '\n' :: b)).warnings = (review d extra a).warnings ++
        (review d extra b).warnings.map (Finding.shift (a.count '\n' + 1))) ∧
      (d = .php →
        (review d extra (a ++ '\n' :: b)).lineWarnings = (review d extra a).lineWarnings ++
          (review d extra b).lineWarnings.map (Finding.shift (a.count '\n' + 1)) ∧
        ((∃ f ∈ (review d extra (a ++ '\n' :: b)).warnings, f.aboutSource = true) ↔
          (∃ c ∈ a ++ '\n' :: b, isBlank c = false) ∧ ¬ "<?php".toList <:+: a ++ '\n' :: b)) := by
  have hlines := allLineFindings_append_newline d extra a b
  have hwarnings : (review d extra (a ++ '\n' :: b)).lineWarnings =
      (review d extra a).lineWarnings ++
        (review d extra b).lineWarnings.map (Finding.shift (a.count '\n' + 1)) := by
    rw [lineWarnings_review, hlines, List.filter_append, filter_map_shift, lineWarnings_review,
      lineWarnings_review]
  refine ⟨?_, ?_, ?_⟩
  · rw [errors_review, hlines, List.filter_append, filter_map_shift, errors_review, errors_review]
  · intro hd
    rw [warnings_eq_lineWarnings hd, warnings_eq_lineWarnings hd, warnings_eq_lineWarnings hd]
    exact hwarnings
  · rintro rfl
    exact ⟨hwarnings, exists_aboutSource_php_iff extra _⟩

end WebTidy
