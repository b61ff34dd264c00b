import WebTidy.Table
import WebTidy.Text.Blank

/-!
# Declarations

The body of a rule is cut at its semicolons, and each entry at its first colon. Blanks around a
property and around a value do not count, and an entry that lacks one of the two is dropped.
-/

namespace WebTidy

/-- Values by property, in the order of the first settings. -/
abbrev Declarations := Table Text Text

/-- The property and the value of one entry of a body. -/
def declaration? (entry : Text) : Option (Text × Text) :=
  let property := (Text.cutAt ':' entry).1.trim
  let value := (Text.cutAt ':' entry).2.trim
  if property.isEmpty || value.isEmpty then none else some (property, value)

/-- The entries of a body that set a property, in order and with repetitions. -/
def bodyEntries (body : Text) : List (Text × Text) :=
  (body.splitOn ';').filterMap declaration?

def Declarations.ofBody (body : Text) : Declarations := Table.ofEntries (bodyEntries body)

theorem bodyEntries_append (a b : Text) :
    bodyEntries (a ++ ';' :: b) = bodyEntries a ++ bodyEntries b := by
  simp [bodyEntries, List.splitOn_append_cons_self]

theorem bodyEntries_singleton {entry : Text} (h : ';' ∉ entry) :
    bodyEntries entry = (declaration? entry).toList := by
  rw [bodyEntries, List.splitOn_eq_singleton h]
  cases hd : declaration? entry <;> simp [hd]

theorem bodyEntries_nil : bodyEntries [] = [] := by
  rw [bodyEntries_singleton (by simp)]
  rfl

theorem ne_nil_of_declaration? {entry property value : Text}
    (h : declaration? entry = some (property, value)) : property ≠ [] ∧ value ≠ [] := by
  simp only [declaration?] at h
  split at h
  · simp at h
  · next hn =>
    simp only [Option.some.injEq, Prod.mk.injEq] at h
    obtain ⟨rfl, rfl⟩ := h
    simpa using hn

/-- The entries in writing, each closed by a semicolon. -/
def Declarations.render (ds : Declarations) : Text :=
  ds.flatMap fun d => d.1 ++ ':' :: d.2 ++ [';']

end WebTidy
