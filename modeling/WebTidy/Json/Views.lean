import WebTidy.Checks.Review
import WebTidy.Json.Value
import WebTidy.Stylesheet.SizeReport

/-!
# JSON views of findings and reports

How findings, size reports and the outcome of a tidy run appear as JSON objects.
-/

namespace WebTidy

def Json.ofText (t : Text) : Json := .str (String.ofList t)

def Json.ofOption {α : Type} (view : α → Json) : Option α → Json
  | none => .null
  | some a => view a

def Finding.toJson (f : Finding) : Json :=
  .obj [("line", .int f.line), ("message", .str f.message), ("category", .str f.category.name),
    ("severity", .str f.severity.name), ("suggestion", Json.ofOption Json.ofText f.suggestion),
    ("rule", .str f.rule)]

def Review.toJson (r : Review) : Json :=
  .obj [("errors", .arr (r.errors.map Finding.toJson)),
    ("warnings", .arr (r.warnings.map Finding.toJson))]

/-- The double nearest to a percentage. -/
def Percent.toFloat (p : Percent) : Float :=
  let magnitude := Float.ofNat p.tenths / 10
  if p.negative then -magnitude else magnitude

def SizeReport.toJson (r : SizeReport) : Json :=
  .obj [("original_size", .int r.before), ("optimized_size", .int r.after),
    ("reduction", .real r.reduction.toFloat),
    ("used_class_count", Json.ofOption (fun n : Nat => .int n) r.classCount)]

def TidyOutcome.toJson (o : TidyOutcome) : Json :=
  .obj [("output", Json.ofText o.output), ("stats", Json.ofOption SizeReport.toJson o.size?),
    ("error", Json.ofOption Json.str o.error?)]

/-- Tidies a value that should be a string; any other value is refused with its kind. -/
def tidyValue (filter : ClassFilter) : Json → TidyOutcome
  | .str css => tidyReport filter css.toList
  | value => .failed ("'" ++ value.kindName ++ "' object has no attribute 'find'")

end WebTidy
