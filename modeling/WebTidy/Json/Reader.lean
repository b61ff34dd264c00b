import WebTidy.Json.Value
import WebTidy.Text.Integer

/-!
# Reading JSON

A text is cut into tokens, and a machine with a stack of open arrays and objects turns the tokens
into a value. It fails at the first token that does not fit, or where more brackets stand open than
it may nest. Besides standard JSON the names `NaN`, `Infinity` and `-Infinity` are numbers. A key
that is repeated keeps its place and takes the last value.
-/

namespace WebTidy

namespace Json

inductive Token where
  | openArray
  | closeArray
  | openObject
  | closeObject
  | comma
  | colon
  | scalar (value : Json)
  | text (s : String)
  /-- A part of the text that is no token. -/
  | junk

/-- The reals beyond the doubles are infinite, and those too small for them are zero. -/
def realOf (negative : Bool) (coefficient : Nat) (exponent : Int) : Float :=
  let size := (decimalDigits coefficient).length + exponent
  let magnitude : Float :=
    if coefficient = 0 then 0
    else if size > 400 then 1 / 0
    else if size < -400 then 0
    else Float.ofScientific coefficient (exponent < 0) exponent.natAbs
  if negative then -magnitude else magnitude

def digitOf (c : Char) : Nat := c.toNat - '0'.toNat

def numberOf (digits : Text) : Nat := ofDigits (digits.map digitOf)

/-- The digits behind a point and the rest; none of both without a digit there. -/
def fraction (t : Text) : Text × Text :=
  match t with
  | '.' :: r =>
    let digits := r.takeWhile Char.isDigit
    if digits.isEmpty then ([], t) else (digits, r.dropWhile Char.isDigit)
  | _ => ([], t)

/-- The power of ten behind a number and the rest. -/
def power? (t : Text) : Option Int × Text :=
  match t with
  | [] => (none, t)
  | e :: r =>
    let signed : Bool × Text := match r with
      | '-' :: r => (true, r)
      | '+' :: r => (false, r)
      | r => (false, r)
    let digits := signed.2.takeWhile Char.isDigit
    if (e = 'e' ∨ e = 'E') ∧ digits ≠ [] then
      let n : Int := numberOf digits
      (some (if signed.1 then -n else n), signed.2.dropWhile Char.isDigit)
    else (none, t)

/-- The number that an unsigned text begins with. A whole number may have no leading zero, and no
more digits than whole numbers have. -/
def number? (negative : Bool) (t : Text) : Option (Json × Text) :=
  let whole := match t with
    | '0' :: _ => ['0']
    | _ => t.takeWhile Char.isDigit
  if whole.isEmpty then none
  else
    let (part, afterPart) := fraction (t.drop whole.length)
    let (power, rest) := power? afterPart
    if part.isEmpty && power.isNone then
      if whole.length ≤ maxIntegerDigits then
        some (int (if negative then -(numberOf whole : Int) else numberOf whole), rest)
      else none
    else
      some (real (realOf negative (numberOf (whole ++ part)) (power.getD 0 - part.length)), rest)

def hexValue? (c : Char) : Option Nat :=
  if c.isDigit then some (c.toNat - '0'.toNat)
  else if 'a' ≤ c ∧ c ≤ 'f' then some (c.toNat - 'a'.toNat + 10)
  else if 'A' ≤ c ∧ c ≤ 'F' then some (c.toNat - 'A'.toNat + 10)
  else none

/-- The code unit that four hexadecimal digits give. -/
def unit? (a b c d : Char) : Option Nat := do
  let a ← hexValue? a
  let b ← hexValue? b
  let c ← hexValue? c
  let d ← hexValue? d
  some (((a * 16 + b) * 16 + c) * 16 + d)

def isLeadUnit (n : Nat) : Bool := 0xD800 ≤ n && n < 0xDC00

def isTrailUnit (n : Nat) : Bool := 0xDC00 ≤ n && n < 0xE000

def simpleEscape? : Char → Option Char
  | '"' => some '"'
  | '\\' => some '\\'
  | '/' => some '/'
  | 'b' => some '\x08'
  | 'f' => some '\x0c'
  | 'n' => some '\n'
  | 'r' => some '\r'
  | 't' => some '\t'
  | _ => none

/-- The characters of a string up to its closing quote, and the rest. A control character must be
escaped, and a pair of units for one character is joined. A unit that lacks its partner is no
character; it is read as a null, as no text has a place for it. -/
def stringBody? : Text → Option (Text × Text)
  | '"' :: t => some ([], t)
  | '\\' :: 'u' :: a :: b :: c :: d :: '\\' :: 'u' :: a' :: b' :: c' :: d' :: t =>
    match unit? a b c d, unit? a' b' c' d' with
    | some lead, some trail =>
      if isLeadUnit lead && isTrailUnit trail then
        (stringBody? t).map fun r =>
          (Char.ofNat (0x10000 + (lead - 0xD800) * 0x400 + (trail - 0xDC00)) :: r.1, r.2)
      else
        (stringBody? ('\\' :: 'u' :: a' :: b' :: c' :: d' :: t)).map fun r =>
          (Char.ofNat lead :: r.1, r.2)
    | _, _ => none
  | '\\' :: 'u' :: a :: b :: c :: d :: t =>
    (unit? a b c d).bind fun n => (stringBody? t).map fun r => (Char.ofNat n :: r.1, r.2)
  | '\\' :: c :: t =>
    (simpleEscape? c).bind fun c => (stringBody? t).map fun r => (c :: r.1, r.2)
  | c :: t =>
    if c.toNat < 0x20 ∨ c = '\\' then none
    else (stringBody? t).map fun r => (c :: r.1, r.2)
  | [] => none
termination_by t => t.length

/-- The words that stand for values. -/
def wordTokens : List (Text × Json) := [
    ("null".toList, null), ("true".toList, bool true), ("false".toList, bool false),
    ("NaN".toList, real (0 / 0)), ("Infinity".toList, real (1 / 0)),
    ("-Infinity".toList, real (-1 / 0))]

def wordToken? (t : Text) : Option (Json × Text) :=
  wordTokens.findSome? fun w => (Text.after? w.1 t).map fun rest => (w.2, rest)

/-- The token that a text without leading blanks begins with. -/
def token? : Text → Option (Token × Text)
  | '[' :: t => some (.openArray, t)
  | ']' :: t => some (.closeArray, t)
  | '{' :: t => some (.openObject, t)
  | '}' :: t => some (.closeObject, t)
  | ',' :: t => some (.comma, t)
  | ':' :: t => some (.colon, t)
  | '"' :: t => (stringBody? t).map fun r => (.text (String.ofList r.1), r.2)
  | t =>
    match wordToken? t with
    | some (value, rest) => some (.scalar value, rest)
    | none =>
      match t with
      | '-' :: t => (number? true t).map fun r => (.scalar r.1, r.2)
      | t => (number? false t).map fun r => (.scalar r.1, r.2)

def isJsonBlank (c : Char) : Bool := c == ' ' || c == '\t' || c == '\n' || c == '\r'

/-- The tokens of a text, which end at the first part of it that is no token. A token is never
empty, so `steps` need not exceed the length of the text. -/
def tokens (steps : Nat) (t : Text) : List Token :=
  match steps, t.dropWhile isJsonBlank with
  | _, [] => []
  | 0, _ => [.junk]
  | steps + 1, t =>
    match token? t with
    | none => [.junk]
    | some (token, rest) => token :: tokens steps rest

/-- An array or object whose end has not been read. -/
inductive Frame where
  | array (items : List Json)
  | object (members : Table String Json) (key : String)

/-- What the machine waits for. -/
inductive Expecting where
  | value
  | itemOrEnd
  | keyOrEnd (members : Table String Json)
  | key (members : Table String Json)
  | colon (members : Table String Json) (key : String)
  | next (value : Json)

/-- The machine while it reads. A frame is put on the stack when a value inside it begins. -/
structure Reading where
  expecting : Expecting
  stack : List Frame

inductive ReadError where
  | malformed
  | tooDeep
  deriving DecidableEq, Repr

namespace Reading

def start : Reading := ⟨.value, []⟩

/-- Reads one token. A finished value goes into the innermost open frame, which then is the one in
progress. -/
def step? : Reading → Token → Option Reading
  | ⟨.value, stack⟩, .scalar v => some ⟨.next v, stack⟩
  | ⟨.value, stack⟩, .text s => some ⟨.next (str s), stack⟩
  | ⟨.value, stack⟩, .openArray => some ⟨.itemOrEnd, stack⟩
  | ⟨.value, stack⟩, .openObject => some ⟨.keyOrEnd [], stack⟩
  | ⟨.itemOrEnd, stack⟩, .closeArray => some ⟨.next (arr []), stack⟩
  | ⟨.itemOrEnd, stack⟩, .scalar v => some ⟨.next v, .array [] :: stack⟩
  | ⟨.itemOrEnd, stack⟩, .text s => some ⟨.next (str s), .array [] :: stack⟩
  | ⟨.itemOrEnd, stack⟩, .openArray => some ⟨.itemOrEnd, .array [] :: stack⟩
  | ⟨.itemOrEnd, stack⟩, .openObject => some ⟨.keyOrEnd [], .array [] :: stack⟩
  | ⟨.keyOrEnd members, stack⟩, .closeObject => some ⟨.next (obj members), stack⟩
  | ⟨.keyOrEnd members, stack⟩, .text s => some ⟨.colon members s, stack⟩
  | ⟨.key members, stack⟩, .text s => some ⟨.colon members s, stack⟩
  | ⟨.colon members key, stack⟩, .colon => some ⟨.value, .object members key :: stack⟩
  | ⟨.next value, .array items :: stack⟩, .comma => some ⟨.value, .array (value :: items) :: stack⟩
  | ⟨.next value, .array items :: stack⟩, .closeArray =>
    some ⟨.next (arr (value :: items).reverse), stack⟩
  | ⟨.next value, .object members key :: stack⟩, .comma =>
    some ⟨.key (Table.set key value members), stack⟩
  | ⟨.next value, .object members key :: stack⟩, .closeObject =>
    some ⟨.next (obj (Table.set key value members)), stack⟩
  | _, _ => none

/-- The brackets that stand open: those of the stack, and the one whose frame is not on it yet. -/
def depth (r : Reading) : Nat :=
  match r.expecting with
  | .value | .next _ => r.stack.length
  | _ => r.stack.length + 1

/-- The value that has been read, if it is finished. -/
def value? : Reading → Option Json
  | ⟨.next value, []⟩ => some value
  | _ => none

/-- Reads all tokens, with at most `nesting` brackets open at a time. -/
def run (nesting : Nat) (r : Reading) : List Token → Except ReadError Json
  | [] =>
    match r.value? with
    | some value => .ok value
    | none => .error .malformed
  | token :: ts =>
    match r.step? token with
    | none => .error .malformed
    | some after => if nesting < after.depth then .error .tooDeep else run nesting after ts

end Reading

/-- The value that a text is in writing. -/
def read (nesting : Nat) (t : Text) : Except ReadError Json :=
  Reading.start.run nesting (tokens t.length t)

/-- The value of a text however deep it is: it opens no more brackets than it has characters. -/
def read? (t : Text) : Option Json := (read t.length t).toOption

end Json

end WebTidy
