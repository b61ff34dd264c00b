import WebTidy.Text.Printable

/-!
# Quoted text

Messages show a text between single quotes, or between double quotes if it holds a single quote and
no double one. The quote in use, the backslash, line ends, tabs and all that is not printable are
escaped.
-/

namespace WebTidy

/-- A hexadecimal digit in lower case. -/
def hexDigit (n : Nat) : Char := (['0', '1', '2', '3', '4', '5', '6', '7', '8', '9', 'a', 'b', 'c',
  'd', 'e', 'f'][n]?).getD '0'

/-- The last `width` hexadecimal digits of a number. -/
def hexDigits (width n : Nat) : Text :=
  match width with
  | 0 => []
  | width + 1 => hexDigits width (n / 16) ++ [hexDigit (n % 16)]

def quoteMark (t : Text) : Char :=
  if t.contains '\'' && !t.contains '"' then '"' else '\''

/-- The shortest of the three escapes by number that has room for the character. -/
def escapeCode (n : Nat) : Text :=
  if n < 0x100 then '\\' :: 'x' :: hexDigits 2 n
  else if n < 0x10000 then '\\' :: 'u' :: hexDigits 4 n
  else '\\' :: 'U' :: hexDigits 8 n

def escapeChar (quote c : Char) : Text :=
  if c = quote ∨ c = '\\' then ['\\', c]
  else if c = '\n' then ['\\', 'n']
  else if c = '\r' then ['\\', 'r']
  else if c = '\t' then ['\\', 't']
  else if isPrintable c then [c]
  else escapeCode c.toNat

namespace Text

def quoted (t : Text) : Text :=
  quoteMark t :: t.flatMap (escapeChar (quoteMark t)) ++ [quoteMark t]

/-- The quoted text as part of a message. -/
def shown (t : Text) : String := String.ofList t.quoted

end Text

end WebTidy
