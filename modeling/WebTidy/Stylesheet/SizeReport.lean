import WebTidy.Number.BinaryFraction
import WebTidy.Stylesheet.Tidy

/-!
# Size reports

What tidying saved: the sizes in bytes of both texts, and the reduction in percent to one place.
The percentage is computed in doubles and the exact value of the result is rounded, a tie to the
even tenth.
-/

namespace WebTidy

/-- A percentage in tenths; the sign is kept apart since a small loss rounds to `-0.0`. -/
structure Percent where
  negative : Bool
  tenths : Nat
  deriving DecidableEq, Repr

namespace Percent

def zero : Percent := ⟨false, 0⟩

def render (p : Percent) : String :=
  (if p.negative then "-" else "") ++ toString (p.tenths / 10) ++ "." ++ toString (p.tenths % 10)

def ofFraction (x : BinaryFraction) : Percent :=
  ⟨x.negative, divHalfEven (x.ratio.1 * 10) x.ratio.2⟩

/-- What `after` saves of `before`; of an empty text nothing is saved. -/
def reduction (before after : Nat) : Percent :=
  if before = 0 then zero
  else
    let saved := (1 - Float.ofNat after / Float.ofNat before) * 100
    ((BinaryFraction.ofBits? saved.toBits.toNat).map ofFraction).getD zero

end Percent

structure SizeReport where
  before : Nat
  after : Nat
  reduction : Percent
  classCount : Option Nat
  deriving DecidableEq, Repr

def SizeReport.compute (filter : ClassFilter) (css tidied : Text) : SizeReport where
  before := css.utf8ByteSize
  after := tidied.utf8ByteSize
  reduction := Percent.reduction css.utf8ByteSize tidied.utf8ByteSize
  classCount := filter.map ClassSet.size

/-- What a caller gets: a tidied text with its sizes, or the reason why there is none. -/
inductive TidyOutcome where
  | tidied (text : Text) (size : SizeReport)
  | failed (reason : String)
  deriving DecidableEq, Repr

namespace TidyOutcome

/-- The text to hand on; a failure shows its reason in a comment. -/
def output : TidyOutcome → Text
  | tidied text _ => text
  | failed reason => "/* Error: ".toList ++ reason.toList ++ " */".toList

def size? : TidyOutcome → Option SizeReport
  | tidied _ size => some size
  | failed _ => none

def error? : TidyOutcome → Option String
  | tidied _ _ => none
  | failed reason => some reason

end TidyOutcome

def tidyReport (filter : ClassFilter) (css : Text) : TidyOutcome :=
  .tidied (tidy filter css) (SizeReport.compute filter css (tidy filter css))

end WebTidy
