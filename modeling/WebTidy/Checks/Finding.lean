import WebTidy.Text.Basic

/-!
# Findings

A finding is one mistake in a source, tied to a line. A review splits findings into errors and
warnings, each in the order in which they were found.
-/

namespace WebTidy

inductive Severity where
  | error
  | warning
  deriving DecidableEq, Repr

inductive Category where
  | comment
  | attributes
  | structural
  | style
  deriving DecidableEq, Repr

namespace Severity

def name : Severity → String
  | error => "error"
  | warning => "warning"

def title : Severity → String
  | error => "ERROR"
  | warning => "WARNING"

def ofName? : String → Option Severity
  | "error" => some error
  | "warning" => some warning
  | _ => none

theorem ofName?_name (s : Severity) : ofName? s.name = some s := by cases s <;> rfl

end Severity

namespace Category

def name : Category → String
  | comment => "comment"
  | attributes => "attribute"
  | structural => "structure"
  | style => "style"

def ofName? : String → Option Category
  | "comment" => some comment
  | "attribute" => some attributes
  | "structure" => some structural
  | "style" => some style
  | _ => none

theorem ofName?_name (c : Category) : ofName? c.name = some c := by cases c <;> rfl

end Category

structure Finding where
  line : Int
  message : String
  category : Category
  severity : Severity
  /-- A replacement for what is wrong, where there is one. -/
  suggestion : Option Text
  /-- The name of the rule that found it. -/
  rule : String
  deriving DecidableEq, Repr

/-- The finding on one line of text; an empty suggestion is not shown. -/
def Finding.render (f : Finding) : String :=
  f.severity.title ++ " line " ++ toString f.line ++ " [" ++ f.category.name ++ "]: " ++ f.message
    ++ match f.suggestion with
      | none => ""
      | some [] => ""
      | some t => " (suggestion: " ++ String.ofList t ++ ")"

structure Review where
  errors : List Finding
  warnings : List Finding
  deriving DecidableEq, Repr

namespace Review

def ofFindings (findings : List Finding) : Review where
  errors := findings.filter (·.severity = .error)
  warnings := findings.filter (·.severity = .warning)

/-- All findings, the errors first. -/
def all (r : Review) : List Finding := r.errors ++ r.warnings

def passed (r : Review) : Bool := r.errors.isEmpty

def isEmpty (r : Review) : Bool := r.errors.isEmpty && r.warnings.isEmpty

theorem mem_all_ofFindings {findings : List Finding} {f : Finding} :
    f ∈ (ofFindings findings).all ↔ f ∈ findings := by
  simp only [all, ofFindings, List.mem_append, List.mem_filter, decide_eq_true_eq]
  cases h : f.severity <;> simp

end Review

/-- What stops a caller who asked for a review without errors. -/
structure ReviewFailure where
  errors : List Finding
  deriving DecidableEq, Repr

def joinStrings (separator : String) : List String → String
  | [] => ""
  | [s] => s
  | s :: rest => s ++ separator ++ joinStrings separator rest

def ReviewFailure.message (e : ReviewFailure) : String :=
  "Validation failed with " ++ toString e.errors.length ++ " error(s): "
    ++ joinStrings "; " (e.errors.map Finding.render)

/-- The review itself, provided that it has no errors. -/
def Review.requirePassed (r : Review) : Except ReviewFailure Review :=
  if r.passed then .ok r else .error ⟨r.errors⟩

end WebTidy
