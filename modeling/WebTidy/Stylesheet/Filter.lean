import WebTidy.ClassSet
import WebTidy.Stylesheet.Groups

/-!
# The unused-class filter

A selector goes when any class it names is not in use, so a compound selector goes as soon as one
of its classes is unused. A selector with a colon, such as one with a pseudo-class, always stays.
-/

namespace WebTidy

/-- The characters of a class name in a selector. -/
def isClassChar (c : Char) : Bool := c.isAlphanum || c == '_' || c == '-'

/-- The classes that a selector names, each a maximal run of class characters behind a dot. -/
def namedClasses : Text → List Text
  | [] => []
  | c :: t =>
    if c = '.' ∧ t.takeWhile isClassChar ≠ [] then t.takeWhile isClassChar :: namedClasses t
    else namedClasses t

def namesUnusedClass (used : ClassSet) (selector : Text) : Bool :=
  !selector.contains ':' && (namedClasses selector).any (· ∉ used)

namespace Groups

/-- The groups that stay when only the classes in `used` are in use. -/
def keepUsed (used : ClassSet) (groups : Groups) : Groups :=
  groups.filter (!namesUnusedClass used ·.1)

def applyFilter : ClassFilter → Groups → Groups
  | none, groups => groups
  | some used, groups => keepUsed used groups

end Groups

end WebTidy
