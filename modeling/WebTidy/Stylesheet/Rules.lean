import WebTidy.Stylesheet.Declarations

/-!
# Flat rules

A rule is a selector before a pair of braces with no brace between them. `readRules` reads a text
from left to right: a brace that does not pair with the next one is passed over, and the text
behind it may be the selector of a later rule.
-/

namespace WebTidy

/-- One occurrence of `selector { declarations }` in the text. -/
structure Rule where
  selector : Text
  declarations : Declarations
  deriving DecidableEq, Repr

def isBrace (c : Char) : Bool := c == '{' || c == '}'

/-- The rule of a selector and a body; none if either holds nothing. -/
def Rule.of? (selector body : Text) : Option Rule :=
  let rule : Rule := ⟨selector.trim, Declarations.ofBody body⟩
  if rule.selector.isEmpty || rule.declarations.isEmpty then none else some rule

theorem length_dropWhile_le (p : Char → Bool) (t : Text) : (t.dropWhile p).length ≤ t.length :=
  (List.dropWhile_sublist p).length_le

theorem length_lt_of_dropWhile {p : Char → Bool} {t r : Text} {c : Char}
    (h : t.dropWhile p = c :: r) : r.length < t.length := by
  have := length_dropWhile_le p t
  rw [h] at this
  exact this

/-- The rules of a text, in order. -/
def readRules (t : Text) : List Rule :=
  match h : t.dropWhile (!isBrace ·) with
  | [] => []
  | brace :: inside =>
    have := length_lt_of_dropWhile h
    if brace = '{' then
      match h' : inside.dropWhile (!isBrace ·) with
      | [] => []
      | closing :: rest =>
        have := length_lt_of_dropWhile h'
        if closing = '}' then
          (Rule.of? (t.takeWhile (!isBrace ·)) (inside.takeWhile (!isBrace ·))).toList
            ++ readRules rest
        else readRules inside
    else readRules inside
termination_by t.length

theorem of?_eq_some {selector body : Text} {rule : Rule} (h : Rule.of? selector body = some rule) :
    rule = ⟨selector.trim, Declarations.ofBody body⟩ ∧ selector.trim ≠ [] ∧
      Declarations.ofBody body ≠ [] := by
  simp only [Rule.of?] at h
  split at h
  · simp at h
  · next hn =>
    simp only [Bool.or_eq_true, List.isEmpty_iff, not_or] at hn
    exact ⟨(Option.some.inj h).symm, hn⟩

end WebTidy
