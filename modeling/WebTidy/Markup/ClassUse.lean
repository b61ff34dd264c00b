import WebTidy.ClassSet
import WebTidy.Text.Blank
import WebTidy.Text.WordChar

/-!
# Class names in use

Markup uses the class names that stand as literals in its class attributes. An attribute has a
quoted value, a braced literal or a braced expression, and each form is looked for by a scan of its
own. Names put together at run time are not seen.
-/

namespace WebTidy

def isQuote (c : Char) : Bool := c == '"' || c == '\''

/-- The content of the literal that the text begins with. Any two quotes delimit one, and a literal
is not empty. -/
def literal? : Text → Option Text
  | [] => none
  | c :: t =>
    if isQuote c ∧ t.takeWhile (!isQuote ·) ≠ [] ∧ t.dropWhile (!isQuote ·) ≠ [] then
      some (t.takeWhile (!isQuote ·))
    else none

/-- The literals of an expression after `skip` characters, from left to right. -/
def literalsAfter : Nat → Text → List Text
  | _, [] => []
  | skip + 1, _ :: t => literalsAfter skip t
  | 0, c :: t =>
    match literal? (c :: t) with
    | some content => content :: literalsAfter (content.length + 1) t
    | none => literalsAfter 0 t

def literals (expression : Text) : List Text := literalsAfter 0 expression

inductive ValueForm where
  | quoted
  | bracedLiteral
  | bracedExpression
  deriving DecidableEq, Repr

/-- What is read of an attribute: its literals, and how many characters it takes up. -/
structure AttributeValue where
  literals : List Text
  length : Nat
  deriving DecidableEq, Repr

/-- The value that stands behind an attribute name. An expression ends before the first closing
brace. -/
def ValueForm.read? : ValueForm → Text → Option AttributeValue
  | quoted, t =>
    (Text.after? ['='] t).bind fun t =>
      (literal? t).map fun content => ⟨[content], content.length + 3⟩
  | bracedLiteral, t =>
    (Text.after? ['=', '{'] t).bind fun t =>
      (literal? t).bind fun content =>
        if (t.drop (content.length + 2)).head? = some '}' then
          some ⟨[content], content.length + 5⟩
        else none
  | bracedExpression, t =>
    (Text.after? ['=', '{'] t).map fun t =>
      let expression := t.takeWhile (· != '}')
      ⟨WebTidy.literals expression, expression.length + 2⟩

/-- An attribute name starts at the beginning, or behind a character that cannot be part of a
longer name. -/
def startsName : Option Char → Bool
  | none => true
  | some c => !(isWordChar c || c == ':' || c == '.' || c == '-')

/-- The attribute that the text begins with, where `before` is the character in front of it. -/
def attribute? (form : ValueForm) (name : Text) (before : Option Char) (t : Text) :
    Option AttributeValue :=
  if startsName before then
    (Text.after? name t).bind fun t =>
      (form.read? t).map fun value => { value with length := value.length + name.length }
  else none

/-- The literals of all attributes of one form after `skip` characters. -/
def attributeLiterals (form : ValueForm) (name : Text) : Nat → Option Char → Text → List Text
  | _, _, [] => []
  | skip + 1, _, c :: t => attributeLiterals form name skip (some c) t
  | 0, before, c :: t =>
    match attribute? form name before (c :: t) with
    | some value => value.literals ++ attributeLiterals form name (value.length - 1) (some c) t
    | none => attributeLiterals form name 0 (some c) t

/-- The class names that one scan finds. -/
def scanClasses (form : ValueForm) (name markup : Text) : List Text :=
  (attributeLiterals form name 0 none markup).flatMap Text.words

/-- The class names that the markup uses in the given attributes. -/
def usedClasses (attributes : List Text) (markup : Text) : ClassSet :=
  ClassSet.ofList <| attributes.flatMap fun name =>
    scanClasses .quoted name markup ++ scanClasses .bracedLiteral name markup
      ++ scanClasses .bracedExpression name markup

/-- The attribute that is read where none is asked for. -/
def defaultAttributes : List Text := ["className".toList]

theorem mem_usedClasses {attributes : List Text} {markup name : Text} :
    name ∈ usedClasses attributes markup ↔
      ∃ a ∈ attributes, name ∈ scanClasses .quoted a markup ∨
        name ∈ scanClasses .bracedLiteral a markup ∨
        name ∈ scanClasses .bracedExpression a markup := by
  simp [usedClasses, ClassSet.mem_ofList, List.mem_flatMap, List.mem_append]

end WebTidy
