import WebTidy.Number.Shortest
import WebTidy.Table
import WebTidy.Text.Quoted

/-!
# JSON values

Whole numbers are kept apart from reals, since the text of a value shows the difference. A value
that stands where a text is wanted is shown by `display`.
-/

namespace WebTidy

inductive Json where
  | null
  | bool (b : Bool)
  | int (n : Int)
  | real (x : Float)
  | str (s : String)
  | arr (items : List Json)
  | obj (members : List (String × Json))
  deriving Inhabited

namespace Json

/-- The member of an object, if the value is one and has it. -/
def member? (key : String) : Json → Option Json
  | obj members => Table.get? key members
  | _ => none

def asText? : Json → Option Text
  | str s => some s.toList
  | _ => none

/-- Values that count as missing where one is optional: null, false, zeros, and what is empty. -/
def isFalsy : Json → Bool
  | null => true
  | bool b => !b
  | int n => n == 0
  | real x => x == 0
  | str s => s.isEmpty
  | arr items => items.isEmpty
  | obj members => members.isEmpty

def kindName : Json → String
  | null => "NoneType"
  | bool _ => "bool"
  | int _ => "int"
  | real _ => "float"
  | str _ => "str"
  | arr _ => "list"
  | obj _ => "dict"

mutual

/-- A value inside brackets; a text is quoted there. -/
def inner : Json → Text
  | null => "None".toList
  | bool true => "True".toList
  | bool false => "False".toList
  | int n => (toString n).toList
  | real x => (renderFloat x).toList
  | str s => Text.quoted s.toList
  | arr items => '[' :: innerItems items ++ [']']
  | obj members => '{' :: innerMembers members ++ ['}']

def innerItems : List Json → Text
  | [] => []
  | [item] => inner item
  | item :: items => inner item ++ ',' :: ' ' :: innerItems items

def innerMembers : List (String × Json) → Text
  | [] => []
  | [(key, value)] => Text.quoted key.toList ++ ':' :: ' ' :: inner value
  | (key, value) :: members =>
    Text.quoted key.toList ++ ':' :: ' ' :: inner value ++ ',' :: ' ' :: innerMembers members

end

/-- The value as a text: a string is itself, all else is as inside brackets. -/
def display : Json → Text
  | str s => s.toList
  | value => inner value

end Json

end WebTidy
