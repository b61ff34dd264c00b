import Mathlib
import WebTidy.CommandLine.Run
import WebTidy.Json.Views

/-!
# What is reported about a review

The command prints a line for each finding, which tells its severity, line, category, message and
suggestion, and then how many there are. The application answers with an object for each finding,
which has its rule too.
-/

namespace WebTidy

/-- The words for a severity, as it is printed and as it is answered. -/
inductive Severity.Named : Severity → String → String → Prop
  | error : Named .error "ERROR" "error"
  | warning : Named .warning "WARNING" "warning"

inductive Category.Named : Category → String → Prop
  | comment : Named .comment "comment"
  | attributes : Named .attributes "attribute"
  | structural : Named .structural "structure"
  | style : Named .style "style"

/-- What is printed about a suggestion; an empty one is not shown. -/
inductive SuggestedAs : Option Text → String → Prop
  | missing : SuggestedAs none ""
  | empty : SuggestedAs (some []) ""
  | shown (t : Text) (h : t ≠ []) :
    SuggestedAs (some t) (" (suggestion: " ++ String.ofList t ++ ")")

namespace Finding

/-- The line tells what was found where. -/
inductive PrintedAs (f : Finding) : Text → Prop
  | line {title name category note : String} (hseverity : f.severity.Named title name)
    (hcategory : f.category.Named category) (hnote : SuggestedAs f.suggestion note) :
    PrintedAs f (title ++ " line " ++ toString f.line ++ " [" ++ category ++ "]: " ++ f.message
      ++ note).toList

/-- The object tells what was found where, and by which rule. -/
inductive AnsweredAs (f : Finding) : Json → Prop
  | object {title name category : String} {suggestion : Json}
    (hseverity : f.severity.Named title name) (hcategory : f.category.Named category)
    (hnone : f.suggestion = none → suggestion = .null)
    (hsome : ∀ t, f.suggestion = some t → suggestion = .str (String.ofList t)) :
    AnsweredAs f (.obj [("line", .int f.line), ("message", .str f.message),
      ("category", .str category), ("severity", .str name), ("suggestion", suggestion),
      ("rule", .str f.rule)])

end Finding

namespace Review

/-- The text tells that nothing was found in the file, or has a line for each finding, an empty one
and one with the numbers of errors and of warnings. -/
inductive PrintedAs (r : Review) (fileName : Text) (d : Dialect) : Text → Prop
  | valid (herrors : r.errors = []) (hwarnings : r.warnings = []) :
    PrintedAs r fileName d ("OK: ".toList ++ fileName ++ " looks valid ".toList
      ++ d.displayName.toList ++ " (0 diagnostics)\n".toList)
  | findings {lines : List Text} (h : r.errors ++ r.warnings ≠ [])
    (hlines : List.Forall₂ Finding.PrintedAs (r.errors ++ r.warnings) lines) :
    PrintedAs r fileName d (lines.flatMap (· ++ "\n".toList) ++ ("\nSummary: "
      ++ toString r.errors.length ++ " error(s), " ++ toString r.warnings.length
      ++ " warning(s)\n").toList)

/-- The object has a list of errors and a list of warnings. -/
inductive AnsweredAs (r : Review) : Json → Prop
  | object {errors warnings : List Json} (herrors : List.Forall₂ Finding.AnsweredAs r.errors errors)
    (hwarnings : List.Forall₂ Finding.AnsweredAs r.warnings warnings) :
    AnsweredAs r (.obj [("errors", .arr errors), ("warnings", .arr warnings)])

end Review

/-! ## Findings -/

theorem Severity.named_iff {s : Severity} {title name : String} :
    s.Named title name ↔ s.title = title ∧ s.name = name := by
  constructor
  · rintro (_ | _) <;> exact ⟨rfl, rfl⟩
  · rintro ⟨rfl, rfl⟩
    cases s with
    | error => exact .error
    | warning => exact .warning

theorem Category.named_iff {c : Category} {name : String} : c.Named name ↔ c.name = name := by
  constructor
  · rintro (_ | _ | _ | _) <;> rfl
  · rintro rfl
    cases c with
    | comment => exact .comment
    | attributes => exact .attributes
    | structural => exact .structural
    | style => exact .style

theorem Finding.printedAs_iff (f : Finding) (line : Text) :
    f.PrintedAs line ↔ f.render.toList = line := by
  obtain ⟨number, message, category, severity, suggestion, rule⟩ := f
  constructor
  · rintro ⟨hseverity, hcategory, hnote⟩
    obtain ⟨rfl, -⟩ := Severity.named_iff.mp hseverity
    obtain rfl := Category.named_iff.mp hcategory
    cases hnote with
    | missing => rfl
    | empty => rfl
    | shown t h =>
      cases t with
      | nil => exact absurd rfl h
      | cons c t => rfl
  · rintro rfl
    have hseverity : severity.Named severity.title severity.name :=
      Severity.named_iff.mpr ⟨rfl, rfl⟩
    have hcategory : category.Named category.name := Category.named_iff.mpr rfl
    cases suggestion with
    | none => exact .line hseverity hcategory .missing
    | some t =>
      cases t with
      | nil => exact .line hseverity hcategory .empty
      | cons c t => exact .line hseverity hcategory (.shown (c :: t) (List.cons_ne_nil c t))

theorem Finding.answeredAs_iff (f : Finding) (v : Json) : f.AnsweredAs v ↔ f.toJson = v := by
  obtain ⟨number, message, category, severity, suggestion, rule⟩ := f
  constructor
  · rintro ⟨hseverity, hcategory, hnone, hsome⟩
    obtain ⟨-, rfl⟩ := Severity.named_iff.mp hseverity
    obtain rfl := Category.named_iff.mp hcategory
    cases suggestion with
    | none =>
      rw [hnone rfl]
      rfl
    | some t =>
      rw [hsome t rfl]
      rfl
  · rintro rfl
    refine .object (Severity.named_iff.mpr ⟨rfl, rfl⟩) (Category.named_iff.mpr rfl) ?_ ?_
    · rintro rfl
      rfl
    · rintro t rfl
      rfl

/-! ## Reviews -/

theorem forall₂_iff_map_eq {α β : Type} {R : α → β → Prop} {f : α → β}
    (h : ∀ x y, R x y ↔ f x = y) {xs : List α} {ys : List β} :
    List.Forall₂ R xs ys ↔ xs.map f = ys := by
  have hR : R = fun x y => f x = y := funext₂ fun x y => propext (h x y)
  rw [hR, ← List.forall₂_eq_eq_eq, List.forall₂_map_left_iff]

namespace Review

theorem isEmpty_iff {r : Review} : r.isEmpty = true ↔ r.errors = [] ∧ r.warnings = [] := by
  simp [isEmpty]

theorem printedAs_iff {r : Review} {fileName : Text} {d : Dialect} {text : Text} :
    r.PrintedAs fileName d text ↔ unlines (r.lines fileName d) = text := by
  have hrender {lines : List Text} :
      List.Forall₂ Finding.PrintedAs (r.errors ++ r.warnings) lines ↔
        r.all.map (·.render.toList) = lines := forall₂_iff_map_eq Finding.printedAs_iff
  constructor
  · rintro (⟨herrors, hwarnings⟩ | ⟨hne, hlines⟩)
    · rw [lines, if_pos (isEmpty_iff.mpr ⟨herrors, hwarnings⟩)]
      simp [unlines]
    · have hfound : ¬ r.isEmpty = true := by
        rwa [isEmpty_iff, ← List.append_eq_nil_iff]
      rw [lines, if_neg hfound, hrender.mp hlines]
      simp [unlines]
  · rintro rfl
    by_cases hempty : r.isEmpty = true
    · obtain ⟨herrors, hwarnings⟩ := isEmpty_iff.mp hempty
      convert PrintedAs.valid herrors hwarnings using 1
      rw [lines, if_pos hempty]
      simp [unlines]
    · have hne : r.errors ++ r.warnings ≠ [] := by
        rwa [isEmpty_iff, ← List.append_eq_nil_iff] at hempty
      convert PrintedAs.findings hne (hrender.mpr rfl) using 1
      rw [lines, if_neg hempty]
      simp [unlines]

theorem answeredAs_iff {r : Review} {v : Json} : r.AnsweredAs v ↔ r.toJson = v := by
  constructor
  · rintro ⟨herrors, hwarnings⟩
    rw [toJson, (forall₂_iff_map_eq Finding.answeredAs_iff).mp herrors,
      (forall₂_iff_map_eq Finding.answeredAs_iff).mp hwarnings]
  · rintro rfl
    exact .object ((forall₂_iff_map_eq Finding.answeredAs_iff).mpr rfl)
      ((forall₂_iff_map_eq Finding.answeredAs_iff).mpr rfl)

end Review

end WebTidy
