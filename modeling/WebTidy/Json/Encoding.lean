import WebTidy.Json.Reader
import WebTidy.Text.Utf8

/-!
# The encoding of a JSON text

A JSON text is in UTF-8, UTF-16 or UTF-32. A byte order mark in front tells which, and is dropped;
without one the zero bytes among the first four do.
-/

namespace WebTidy

namespace Json

inductive Encoding where
  | utf8
  | utf16 (bigEndian : Bool)
  | utf32 (bigEndian : Bool)
  deriving DecidableEq, Repr

/-- The byte order marks. One of UTF-32 begins with one of UTF-16, so that it goes first. -/
def Encoding.marks : List (Bytes × Encoding) := [
    ([0x00, 0x00, 0xFE, 0xFF], .utf32 true), ([0xFF, 0xFE, 0x00, 0x00], .utf32 false),
    ([0xFE, 0xFF], .utf16 true), ([0xFF, 0xFE], .utf16 false), ([0xEF, 0xBB, 0xBF], .utf8)]

/-- The encoding that a byte order mark tells, and the bytes behind it. -/
def Encoding.ofMark? (bytes : Bytes) : Option (Encoding × Bytes) :=
  (marks.find? (·.1.isPrefixOf bytes)).map fun mark => (mark.2, bytes.drop mark.1.length)

/-- The first character of a text is ASCII, so its zero bytes tell the encoding. -/
def Encoding.detect : Bytes → Encoding
  | a :: b :: c :: d :: _ =>
    if a = 0 then if b = 0 then .utf32 true else .utf16 true
    else if b = 0 then if c = 0 ∧ d = 0 then .utf32 false else .utf16 false
    else .utf8
  | [a, b] =>
    if a = 0 then .utf16 true
    else if b = 0 then .utf16 false
    else .utf8
  | _ => .utf8

def units16? (bigEndian : Bool) : Bytes → Option (List Nat)
  | [] => some []
  | [_] => none
  | a :: b :: bytes =>
    let unit := if bigEndian then a.toNat * 256 + b.toNat else b.toNat * 256 + a.toNat
    (units16? bigEndian bytes).map (unit :: ·)

def ofUnits16? : List Nat → Option Text
  | [] => some []
  | [n] => if isLeadUnit n || isTrailUnit n then none else some [Char.ofNat n]
  | n :: m :: units =>
    if isLeadUnit n && isTrailUnit m then
      (ofUnits16? units).map (Char.ofNat (0x10000 + (n - 0xD800) * 0x400 + (m - 0xDC00)) :: ·)
    else if isLeadUnit n || isTrailUnit n then none
    else (ofUnits16? (m :: units)).map (Char.ofNat n :: ·)

def ofBytes32? (bigEndian : Bool) : Bytes → Option Text
  | [] => some []
  | a :: b :: c :: d :: bytes =>
    let digits := if bigEndian then [a, b, c, d] else [d, c, b, a]
    let n := digits.foldl (fun n byte => n * 256 + byte.toNat) 0
    if n.isValidChar then (ofBytes32? bigEndian bytes).map (Char.ofNat n :: ·) else none
  | _ => none

def decode? (bytes : Bytes) : Option Text :=
  match (Encoding.ofMark? bytes).getD (Encoding.detect bytes, bytes) with
  | (.utf8, content) => (decodeUtf8 content).toOption
  | (.utf16 bigEndian, content) => (units16? bigEndian content).bind ofUnits16?
  | (.utf32 bigEndian, content) => ofBytes32? bigEndian content

/-- The value that bytes are in writing. -/
def ofBytes (nesting : Nat) (bytes : Bytes) : Except ReadError Json :=
  match decode? bytes with
  | some t => read nesting t
  | none => .error .malformed

/-- A text that begins like no byte order mark and without zeros is read back from its UTF-8. -/
theorem decode?_utf8 {t : Text} (hmark : Encoding.ofMark? t.utf8 = none)
    (h : Encoding.detect t.utf8 = .utf8) : decode? t.utf8 = some t := by
  simp [decode?, hmark, h, decodeUtf8_utf8, Except.toOption]

end Json

end WebTidy
