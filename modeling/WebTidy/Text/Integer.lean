import WebTidy.Text.Blank

/-!
# Whole numbers in text

A whole number is a sign, which may be missing, and decimal digits of any script, with single
underscores between them. Blanks around it do not count, the information separators excepted. Each
script with decimal digits has ten of them in a row of code points, so the zeros of Unicode 14
determine them all.
-/

namespace WebTidy

/-- The code points of the zeros. -/
def digitZeros : List Nat := [
    0x30, 0x660, 0x6F0, 0x7C0, 0x966, 0x9E6, 0xA66, 0xAE6, 0xB66, 0xBE6, 0xC66, 0xCE6, 0xD66,
    0xDE6, 0xE50, 0xED0, 0xF20, 0x1040, 0x1090, 0x17E0, 0x1810, 0x1946, 0x19D0, 0x1A80, 0x1A90,
    0x1B50, 0x1BB0, 0x1C40, 0x1C50, 0xA620, 0xA8D0, 0xA900, 0xA9D0, 0xA9F0, 0xAA50, 0xABF0,
    0xFF10, 0x104A0, 0x10D30, 0x11066, 0x110F0, 0x11136, 0x111D0, 0x112F0, 0x11450, 0x114D0,
    0x11650, 0x116C0, 0x11730, 0x118E0, 0x11950, 0x11C50, 0x11D50, 0x11DA0, 0x16A60, 0x16AC0,
    0x16B50, 0x1D7CE, 0x1D7D8, 0x1D7E2, 0x1D7EC, 0x1D7F6, 0x1E140, 0x1E2F0, 0x1E950, 0x1FBF0]

/-- The value of a decimal digit of any script. -/
def digitValue? (c : Char) : Option Nat :=
  (digitZeros.find? fun first => first ≤ c.toNat && c.toNat < first + 10).map (c.toNat - ·)

/-- The most digits a number may have, leading zeros included. -/
def maxIntegerDigits : Nat := 4300

def isNumberBlank (c : Char) : Bool := isBlank c && !(0x1C ≤ c.toNat && c.toNat ≤ 0x1F)

/-- The digits of a text of digits with single underscores between them. -/
def separatedDigits? : Text → Option (List Nat)
  | [] => none
  | [c] => (digitValue? c).map ([·])
  | c :: '_' :: t => (digitValue? c).bind fun d => (separatedDigits? t).map (d :: ·)
  | c :: t => (digitValue? c).bind fun d => (separatedDigits? t).map (d :: ·)

def ofDigits (digits : List Nat) : Nat := digits.foldl (fun n d => 10 * n + d) 0

def unsigned? (t : Text) : Option Nat :=
  (separatedDigits? t).bind fun digits =>
    if digits.length ≤ maxIntegerDigits then some (ofDigits digits) else none

/-- The whole number that a text is in writing. -/
def readInteger? (t : Text) : Option Int :=
  match ((t.dropWhile isNumberBlank).reverse.dropWhile isNumberBlank).reverse with
  | '-' :: digits => (unsigned? digits).map fun n => -(n : Int)
  | '+' :: digits => (unsigned? digits).map Int.ofNat
  | digits => (unsigned? digits).map Int.ofNat

end WebTidy
