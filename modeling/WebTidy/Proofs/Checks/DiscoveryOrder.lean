import WebTidy.Proofs.Checks.JoinedSources

/-!
# The order of findings

A review goes down the lines of its source and through the rules on each of them. Errors and
warnings are parted without a change of order and without a loss. The one finding about the whole
source that there may be comes behind those on the first line.
-/

namespace WebTidy

/-! ## Findings on lines -/

section Lines

variable {d : Dialect} {rules : List LineRule} {f : Finding}

theorem line_of_mem_lineFindings {number : Int} {line : Text}
    (h : f ∈ lineFindings d rules number line) : f.line = number := by
  obtain ⟨rule, -, hf⟩ := List.mem_flatMap.mp h
  obtain ⟨remark, -, rfl⟩ := List.mem_map.mp hf
  rfl

theorem line_of_mem_linesFindings {number : Int} {lines : List Text}
    (h : f ∈ linesFindings d rules number lines) :
    number ≤ f.line ∧ f.line < number + lines.length := by
  induction lines generalizing number with
  | nil => simp [linesFindings] at h
  | cons line lines ih =>
    rw [List.length_cons]
    rcases List.mem_append.mp h with h | h
    · have := line_of_mem_lineFindings h
      omega
    · have := ih h
      omega

variable (d rules)

theorem pairwise_line_linesFindings (number : Int) (lines : List Text) :
    (linesFindings d rules number lines).Pairwise (·.line ≤ ·.line) := by
  induction lines generalizing number with
  | nil => exact .nil
  | cons line lines ih =>
    refine List.pairwise_append.mpr ⟨?_, ih (number + 1), ?_⟩
    · refine List.pairwise_of_forall_mem_list fun f hf g hg => ?_
      rw [line_of_mem_lineFindings hf, line_of_mem_lineFindings hg]
    · intro f hf g hg
      have hfirst := line_of_mem_lineFindings hf
      have hrest := (line_of_mem_linesFindings hg).1
      omega

/-- Of the findings on all lines, those with the number of one line are the ones on that line. -/
theorem filter_line_linesFindings {lines : List Text} {k : Nat} {line : Text}
    (h : lines[k]? = some line) (number : Int) :
    (linesFindings d rules number lines).filter (·.line = number + k) =
      lineFindings d rules (number + k) line := by
  induction lines generalizing number k with
  | nil => simp at h
  | cons first lines ih =>
    rw [linesFindings, List.filter_append]
    cases k with
    | zero =>
      obtain rfl : first = line := by simpa using h
      have hfirst : (lineFindings d rules number first).filter (·.line = number + (0 : Nat)) =
          lineFindings d rules number first := by
        rw [List.filter_eq_self]
        intro f hf
        simpa using line_of_mem_lineFindings hf
      have hrest : (linesFindings d rules (number + 1) lines).filter
          (·.line = number + (0 : Nat)) = [] := by
        rw [List.filter_eq_nil_iff]
        intro f hf
        have hline := (line_of_mem_linesFindings hf).1
        have hne : f.line ≠ number + (0 : Nat) := by omega
        simpa using hne
      rw [hfirst, hrest]
      simp
    | succ k =>
      have hfirst : (lineFindings d rules number first).filter
          (·.line = number + (k + 1 : Nat)) = [] := by
        rw [List.filter_eq_nil_iff]
        intro f hf
        have hline := line_of_mem_lineFindings hf
        have hne : f.line ≠ number + (k + 1 : Nat) := by omega
        simpa using hne
      have hnumber : number + (k + 1 : Nat) = number + 1 + k := by omega
      rw [hfirst, hnumber, List.nil_append, ih (by simpa using h)]

theorem count_linesFindings (number : Nat) (lines : List Text) (f : Finding) :
    (linesFindings d rules number lines).count f =
      ((lines.zipIdx number).map fun l =>
        (rules.map fun rule => (rule.check d l.2 l.1).count f).sum).sum := by
  induction lines generalizing number with
  | nil => rfl
  | cons line lines ih =>
    have hrest := ih (number + 1)
    push_cast at hrest
    rw [linesFindings, List.count_append, hrest, lineFindings, List.count_flatMap]
    rfl

end Lines

/-! ## The finding about the whole source -/

theorem aboutSource_iff {f : Finding} :
    f.aboutSource = true ↔ f.rule = SourceRule.phpOpenTag.name := by
  unfold Finding.aboutSource SourceRule.ofName?
  split <;> simp_all

/-! ## Reviews -/

section Reviews

variable (d : Dialect) (extra : List LineRule) (source : Text)

theorem pairwise_line_findings : (findings d extra source).Pairwise (·.line ≤ ·.line) := by
  obtain ⟨line, lines, h⟩ := exists_lines_eq_cons source
  have hfirst : ∀ f ∈ lineFindings d (d.lineRules ++ extra) 1 line ++ sourceFindings d source,
      f.line = 1 := by
    intro f hf
    rcases List.mem_append.mp hf with hf | hf
    · exact line_of_mem_lineFindings hf
    · rw [eq_of_mem_sourceFindings hf, openTagFinding]
  rw [findings_of_lines d extra h]
  refine List.pairwise_append.mpr ⟨?_, pairwise_line_linesFindings _ _ 2 lines, ?_⟩
  · refine List.pairwise_of_forall_mem_list fun f hf g hg => ?_
    rw [hfirst f hf, hfirst g hg]
  · intro f hf g hg
    have hf := hfirst f hf
    have hg := (line_of_mem_linesFindings hg).1
    omega

theorem line_of_mem_findings {f : Finding} (h : f ∈ findings d extra source) :
    1 ≤ f.line ∧ f.line ≤ source.count '\n' + 1 := by
  have hlength := Text.length_lines source
  rcases mem_findings.mp h with h | h
  · have := line_of_mem_linesFindings h
    omega
  · have hfirst : f.line = 1 := by rw [eq_of_mem_sourceFindings h, openTagFinding]
    omega

/-- Parting the findings loses none of them and makes none. -/
theorem all_ofFindings_perm (fs : List Finding) : (Review.ofFindings fs).all.Perm fs := by
  have hwarnings : fs.filter (fun f => f.severity = .warning) =
      fs.filter (fun f => !decide (f.severity = .error)) := by
    refine List.filter_congr fun f _ => ?_
    cases f.severity <;> rfl
  rw [Review.all, Review.ofFindings, hwarnings]
  exact List.filter_append_perm _ fs

theorem count_all_review (f : Finding) : (review d extra source).all.count f =
    (allLineFindings d extra source).count f + (sourceFindings d source).count f := by
  obtain ⟨first, rest, hlines, hfindings⟩ := findings_eq d extra source
  rw [review, (all_ofFindings_perm _).count_eq, hlines, hfindings]
  simp only [List.count_append]
  omega

/-- The warnings are those of the first line, the one about the source if there is one, and those of
the other lines. -/
theorem warnings_review : ∃ first rest : List Finding,
    (∀ f ∈ first, f.line = 1 ∧ f.aboutSource = false) ∧
    (∀ f ∈ rest, 1 < f.line ∧ f.aboutSource = false) ∧
    (review d extra source).warnings = first ++ sourceFindings d source ++ rest := by
  obtain ⟨line, lines, h⟩ := exists_lines_eq_cons source
  refine ⟨(lineFindings d (d.lineRules ++ extra) 1 line).filter (·.severity = .warning),
    (linesFindings d (d.lineRules ++ extra) 2 lines).filter (·.severity = .warning), ?_, ?_, ?_⟩
  · intro f hf
    have hf := List.mem_of_mem_filter hf
    exact ⟨line_of_mem_lineFindings hf, aboutSource_of_mem_lineFindings hf⟩
  · intro f hf
    have hf := List.mem_of_mem_filter hf
    have hline := (line_of_mem_linesFindings hf).1
    exact ⟨by omega, aboutSource_of_mem_linesFindings hf⟩
  · have hsource : (sourceFindings d source).filter (·.severity = .warning) =
        sourceFindings d source := by
      rw [List.filter_eq_self]
      intro f hf
      simpa using (aboutSource_of_mem_sourceFindings hf).2
    rw [review, findings_of_lines d extra h, Review.ofFindings]
    simp only [List.filter_append, hsource]

end Reviews

/-- The findings of a review stand in the order in which a reader of the source and of the rules
comes to them, and each is there as often as a rule made it. -/
structure InDiscoveryOrder (d : Dialect) (extra : List LineRule) (source : Text) (r : Review) :
    Prop where
  errors_pairwise : r.errors.Pairwise (·.line ≤ ·.line)
  warnings_pairwise : r.warnings.Pairwise (·.line ≤ ·.line)
  severity : (∀ f ∈ r.errors, f.severity = .error) ∧ ∀ f ∈ r.warnings, f.severity = .warning
  line_within : ∀ f ∈ r.all, 1 ≤ f.line ∧ f.line ≤ source.count '\n' + 1
  /-- The errors on one line are in the order of the rules. -/
  errors_of_line : ∀ (k : Nat) (line : Text), source.lines[k]? = some line →
    r.errors.filter (·.line = (1 : Int) + k) =
      ((d.lineRules ++ extra).flatMap fun rule => rule.check d (1 + k) line).filter
        (·.severity = .error)
  warnings_of_line : ∀ (k : Nat) (line : Text), source.lines[k]? = some line →
    r.lineWarnings.filter (·.line = (1 : Int) + k) =
      ((d.lineRules ++ extra).flatMap fun rule => rule.check d (1 + k) line).filter
        (·.severity = .warning)
  /-- What was found is what each rule found on each line and about the source. -/
  count_all : ∀ f, r.all.count f =
    ((source.lines.zipIdx 1).map fun l =>
      ((d.lineRules ++ extra).map fun rule => (rule.check d l.2 l.1).count f).sum).sum +
    (d.sourceRules.map fun rule => (rule.check d source).count f).sum
  errors_openTag : ∀ f ∈ r.errors, f.rule ≠ SourceRule.phpOpenTag.name
  /-- One opening tag is missed, or none. -/
  count_openTag : r.warnings.countP (·.rule = SourceRule.phpOpenTag.name) =
    if LacksOpenTag d source then 1 else 0
  /-- The missed tag stands behind the first line and before the others. -/
  openTag_place : ∀ before f behind, r.warnings = before ++ f :: behind →
    f.rule = SourceRule.phpOpenTag.name →
      f.line = 1 ∧ (∀ g ∈ before, g.line = 1) ∧ ∀ g ∈ behind, 1 < g.line

theorem count_openTag_review (d : Dialect) (extra : List LineRule) (source : Text) :
    (review d extra source).warnings.countP (·.rule = SourceRule.phpOpenTag.name) =
      if LacksOpenTag d source then 1 else 0 := by
  have hnone : ∀ {fs : List Finding}, (∀ f ∈ fs, f.aboutSource = false) →
      fs.countP (·.rule = SourceRule.phpOpenTag.name) = 0 := by
    intro fs hfs
    rw [List.countP_eq_zero]
    intro f hf hrule
    have hsource := aboutSource_iff.mpr (of_decide_eq_true hrule)
    simp [hfs f hf] at hsource
  obtain ⟨first, rest, hfirst, hrest, hwarnings⟩ := warnings_review d extra source
  rw [hwarnings, List.countP_append, List.countP_append, hnone fun f hf => (hfirst f hf).2,
    hnone fun f hf => (hrest f hf).2, sourceFindings_eq]
  split <;> rfl

theorem openTag_place_review {d : Dialect} {extra : List LineRule} {source : Text}
    {before behind : List Finding} {f : Finding}
    (h : (review d extra source).warnings = before ++ f :: behind)
    (hrule : f.rule = SourceRule.phpOpenTag.name) :
    f.line = 1 ∧ (∀ g ∈ before, g.line = 1) ∧ ∀ g ∈ behind, 1 < g.line := by
  have hsource : f.aboutSource = true := aboutSource_iff.mpr hrule
  obtain ⟨first, rest, hfirst, hrest, hwarnings⟩ := warnings_review d extra source
  have hf : f ∉ first := fun hm => by simp [(hfirst f hm).2] at hsource
  have hr : f ∉ rest := fun hm => by simp [(hrest f hm).2] at hsource
  rw [h, sourceFindings_eq] at hwarnings
  split at hwarnings
  · rw [List.append_assoc, List.singleton_append] at hwarnings
    obtain ⟨rfl, htag, rfl⟩ := (List.append_cons_inj_of_notMem hf hr).mp hwarnings.symm
    exact ⟨by rw [← htag, openTagFinding], fun g hg => (hfirst g hg).1, fun g hg => (hrest g hg).1⟩
  · have hm : f ∈ first ++ [] ++ rest := by
      rw [← hwarnings]
      simp
    simp [hf, hr] at hm

/-- A review keeps the order of discovery, and its two lists lose nothing. -/
theorem review_inDiscoveryOrder (d : Dialect) (extra : List LineRule) (source : Text) :
    InDiscoveryOrder d extra source (review d extra source) where
  errors_pairwise := (pairwise_line_findings d extra source).filter _
  warnings_pairwise := (pairwise_line_findings d extra source).filter _
  severity := by
    constructor
    · exact fun f hf => by simpa using (List.mem_filter.mp hf).2
    · exact fun f hf => by simpa using (List.mem_filter.mp hf).2
  line_within f hf := line_of_mem_findings d extra source (Review.mem_all_ofFindings.mp hf)
  errors_of_line k line h := by
    rw [errors_review, List.filter_comm, allLineFindings, filter_line_linesFindings _ _ h]
    rfl
  warnings_of_line k line h := by
    rw [lineWarnings_review, List.filter_comm, allLineFindings, filter_line_linesFindings _ _ h]
    rfl
  count_all f := by
    have hlines := count_linesFindings d (d.lineRules ++ extra) 1 source.lines f
    rw [Nat.cast_one] at hlines
    rw [count_all_review, allLineFindings, hlines, sourceFindings, List.count_flatMap]
    rfl
  errors_openTag f hf hrule := by
    rw [errors_review] at hf
    have hline := aboutSource_of_mem_allLineFindings (List.mem_of_mem_filter hf)
    simp [aboutSource_iff.mpr hrule] at hline
  count_openTag := count_openTag_review d extra source
  openTag_place _ _ _ := openTag_place_review

end WebTidy
