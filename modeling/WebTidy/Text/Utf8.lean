import WebTidy.Text.Quoted

/-!
# UTF-8

Bytes are read as UTF-8 one character at a time. A reader that meets bytes of no character reports
the first of them, with as many of its neighbours as a character could have begun with.
-/

namespace WebTidy

abbrev Bytes := List UInt8

namespace Text

def utf8 (t : Text) : Bytes := t.flatMap String.utf8EncodeChar

/-- The size that is counted for a text is the number of its bytes. -/
theorem length_utf8 (t : Text) : (utf8 t).length = utf8ByteSize t := by
  induction t with
  | nil => rfl
  | cons c t ih =>
    have hc : utf8 (c :: t) = String.utf8EncodeChar c ++ utf8 t := rfl
    rw [hc, List.length_append, String.length_utf8EncodeChar, ih, utf8ByteSize]

end Text

/-- Why bytes are not UTF-8. -/
inductive Utf8Reason where
  | invalidStart
  | invalidContinuation
  | unexpectedEnd
  deriving DecidableEq, Repr

/-- The bytes from `position` on, `length` of them, begin no character. -/
structure Utf8Error where
  position : Nat
  length : Nat
  firstByte : UInt8
  reason : Utf8Reason
  deriving DecidableEq, Repr

def Utf8Reason.message : Utf8Reason → String
  | invalidStart => "invalid start byte"
  | invalidContinuation => "invalid continuation byte"
  | unexpectedEnd => "unexpected end of data"

def Utf8Error.message (e : Utf8Error) : String :=
  "'utf-8' codec can't decode "
    ++ (if e.length = 1 then
          "byte 0x" ++ String.ofList (hexDigits 2 e.firstByte.toNat) ++ " in position "
            ++ toString e.position
        else
          "bytes in position " ++ toString e.position ++ "-"
            ++ toString (e.position + e.length - 1))
    ++ ": " ++ e.reason.message

/-- The bytes that may follow a first byte, each a closed range; none for no first byte. -/
def continuations? (first : UInt8) : Option (List (Nat × Nat)) :=
  let b := first.toNat
  let tail := (0x80, 0xBF)
  if b < 0xC2 then none
  else if b < 0xE0 then some [tail]
  else if b = 0xE0 then some [(0xA0, 0xBF), tail]
  else if b = 0xED then some [(0x80, 0x9F), tail]
  else if b < 0xF0 then some [tail, tail]
  else if b = 0xF0 then some [(0x90, 0xBF), tail, tail]
  else if b < 0xF4 then some [tail, tail, tail]
  else if b = 0xF4 then some [(0x80, 0x8F), tail, tail]
  else none

/-- How many of the bytes fit the ranges, and whether the bytes ended before the ranges did. -/
def fitting : List (Nat × Nat) → Bytes → Nat × Bool
  | [], _ => (0, false)
  | _ :: _, [] => (0, true)
  | (low, high) :: ranges, b :: bytes =>
    if low ≤ b.toNat ∧ b.toNat ≤ high then
      ((fitting ranges bytes).1 + 1, (fitting ranges bytes).2)
    else (0, false)

/-- The error at bytes that begin no character. -/
def utf8Fault (position : Nat) (first : UInt8) (bytes : Bytes) : Utf8Error :=
  match continuations? first with
  | none => ⟨position, 1, first, .invalidStart⟩
  | some ranges =>
    let fit := fitting ranges bytes
    ⟨position, fit.1 + 1, first, if fit.2 then .unexpectedEnd else .invalidContinuation⟩

/-- The character that the bytes begin with. -/
def leadingChar? (bytes : Bytes) : Option Char :=
  (bytes.take 4).toByteArray.utf8DecodeChar? 0

/-- Reads bytes that stand at `position`; `skip` bytes of the last character are passed over. -/
def decodeFrom : Nat → Nat → Bytes → Except Utf8Error Text
  | _, _, [] => .ok []
  | position, skip + 1, _ :: bytes => decodeFrom (position + 1) skip bytes
  | position, 0, b :: bytes =>
    match leadingChar? (b :: bytes) with
    | none => .error (utf8Fault position b bytes)
    | some c =>
      match decodeFrom (position + 1) (c.utf8Size - 1) bytes with
      | .ok t => .ok (c :: t)
      | .error e => .error e

def decodeUtf8 (bytes : Bytes) : Except Utf8Error Text := decodeFrom 0 0 bytes

/-- Every line end as a single newline. -/
def Text.normalizeNewlines : Text → Text
  | [] => []
  | '\r' :: '\n' :: t => '\n' :: normalizeNewlines t
  | '\r' :: t => '\n' :: normalizeNewlines t
  | c :: t => c :: normalizeNewlines t

theorem leadingChar?_utf8 (c : Char) (bytes : Bytes) :
    leadingChar? (String.utf8EncodeChar c ++ bytes) = some c := by
  have h : (String.utf8EncodeChar c).length ≤ 4 := by
    rw [String.length_utf8EncodeChar]
    exact Char.utf8Size_le_four c
  rw [leadingChar?, List.take_append, List.take_of_length_le h, List.toByteArray_append,
    ByteArray.utf8DecodeChar?_utf8EncodeChar_append]

theorem decodeFrom_skip (position : Nat) (skipped bytes : Bytes) :
    decodeFrom position skipped.length (skipped ++ bytes)
      = decodeFrom (position + skipped.length) 0 bytes := by
  induction skipped generalizing position with
  | nil => simp
  | cons b skipped ih =>
    simp only [List.length_cons, List.cons_append, decodeFrom, ih]
    congr 1
    omega

theorem decodeFrom_utf8 (position : Nat) (t : Text) : decodeFrom position 0 t.utf8 = .ok t := by
  induction t generalizing position with
  | nil => rfl
  | cons c t ih =>
    have hc : Text.utf8 (c :: t) = String.utf8EncodeChar c ++ Text.utf8 t := rfl
    rw [hc]
    cases he : String.utf8EncodeChar c with
    | nil =>
      have hl := congrArg List.length he
      rw [String.length_utf8EncodeChar, List.length_nil] at hl
      have := Char.utf8Size_pos c
      omega
    | cons b tail =>
      have hl : leadingChar? (b :: (tail ++ Text.utf8 t)) = some c := by
        rw [← List.cons_append, ← he, leadingChar?_utf8]
      have hs : c.utf8Size - 1 = tail.length := by
        have := congrArg List.length he
        rw [String.length_utf8EncodeChar] at this
        simp [this]
      rw [List.cons_append, decodeFrom]
      simp only [hl, hs, decodeFrom_skip, ih]

/-- What was written as UTF-8 is read back. -/
theorem decodeUtf8_utf8 (t : Text) : decodeUtf8 t.utf8 = .ok t := decodeFrom_utf8 0 t

end WebTidy
