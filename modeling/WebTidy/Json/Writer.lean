import WebTidy.Json.Value
import WebTidy.Text.Basic

/-!
# Writing JSON

A value is written on one line without blanks. In strings the quote, the backslash, control
characters, the Unicode line ends and the byte order mark are escaped.
-/

namespace WebTidy

namespace Json

/-- The characters that a string shows by number only. -/
def numberedRanges : CodeRanges := [
    (0x0, 0x1F), (0x7F, 0x9F), (0x2028, 0x2029), (0xFEFF, 0xFEFF)]

def escapeInString (c : Char) : Text :=
  if c = '"' ∨ c = '\\' then ['\\', c]
  else if numberedRanges.covers c then '\\' :: 'u' :: hexDigits 4 c.toNat
  else [c]

def writeString (s : String) : Text := '"' :: s.toList.flatMap escapeInString ++ ['"']

mutual

def write : Json → Text
  | null => "null".toList
  | bool true => "true".toList
  | bool false => "false".toList
  | int n => (toString n).toList
  | real x => (renderFloat x).toList
  | str s => writeString s
  | arr items => '[' :: writeItems items ++ [']']
  | obj members => '{' :: writeMembers members ++ ['}']

def writeItems : List Json → Text
  | [] => []
  | [item] => write item
  | item :: items => write item ++ ',' :: writeItems items

def writeMembers : List (String × Json) → Text
  | [] => []
  | [(key, value)] => writeString key ++ ':' :: write value
  | (key, value) :: members =>
    writeString key ++ ':' :: write value ++ ',' :: writeMembers members

end

end Json

end WebTidy
