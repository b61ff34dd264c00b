import WebTidy.Text.Basic

/-!
# Similar texts

Two texts share the longest run of characters that stands in both, and further runs before it and
behind it, found in the same way. They are similar if the shared characters, counted in both texts,
make up three fifths of them.
-/

namespace WebTidy

namespace Text

/-- How many characters the texts have in common at their heads. -/
def commonLead : Text → Text → Nat
  | c :: s, d :: t => if c = d then commonLead s t + 1 else 0
  | _, _ => 0

theorem commonLead_le_left (s t : Text) : commonLead s t ≤ s.length := by
  induction s generalizing t with
  | nil => simp [commonLead]
  | cons c s ih =>
    cases t with
    | nil => simp [commonLead]
    | cons d t =>
      have := ih t
      rw [commonLead]
      split <;> simp only [List.length_cons] <;> omega

end Text

/-- A run that stands in two texts: how much precedes it in each of them, and its length. -/
structure SharedRun where
  left : Nat
  right : Nat
  length : Nat
  deriving DecidableEq, Repr

namespace SharedRun

/-- The longest run that begins the first text and stands in the second, the first of equals. -/
def atHead (s : Text) : Text → SharedRun
  | [] => ⟨0, 0, 0⟩
  | d :: t =>
    let later := atHead s t
    if Text.commonLead s (d :: t) < later.length then { later with right := later.right + 1 }
    else ⟨0, 0, Text.commonLead s (d :: t)⟩

/-- The longest run that stands in both texts, the first of equals in the first text. -/
def longest : Text → Text → SharedRun
  | [], _ => ⟨0, 0, 0⟩
  | c :: s, t =>
    let later := longest s t
    if (atHead (c :: s) t).length < later.length then { later with left := later.left + 1 }
    else atHead (c :: s) t

theorem atHead_fits (s t : Text) : (atHead s t).left = 0 ∧ (atHead s t).length ≤ s.length := by
  induction t with
  | nil => simp [atHead]
  | cons d t ih =>
    rw [atHead]
    split
    · exact ih
    · exact ⟨rfl, Text.commonLead_le_left s (d :: t)⟩

theorem longest_fits (s t : Text) : (longest s t).left + (longest s t).length ≤ s.length := by
  induction s with
  | nil => simp [longest]
  | cons c s ih =>
    rw [longest]
    split
    · simp only [List.length_cons]
      omega
    · have := atHead_fits (c :: s) t
      omega

end SharedRun

namespace Text

/-- The number of characters that two texts share. -/
def sharedLength (s t : Text) : Nat :=
  match h : SharedRun.longest s t with
  | ⟨_, _, 0⟩ => 0
  | ⟨left, right, n + 1⟩ =>
    have : left + (n + 1) ≤ s.length := by simpa [h] using SharedRun.longest_fits s t
    sharedLength (s.take left) (t.take right) + (n + 1)
      + sharedLength (s.drop (left + (n + 1))) (t.drop (right + (n + 1)))
termination_by s.length
decreasing_by
  · simp only [List.length_take]
    omega
  · simp only [List.length_drop]
    omega

/-- A text with what it shares with another, out of the length of both. -/
structure Likeness where
  text : Text
  shared : Nat
  total : Nat
  deriving DecidableEq, Repr

def likeness (word text : Text) : Likeness :=
  ⟨text, sharedLength text word, text.length + word.length⟩

namespace Likeness

def close (l : Likeness) : Bool := 3 * l.total ≤ 10 * l.shared

/-- Whether `l` shares a greater part than `m`, or as great a part and follows it in order. -/
def precedes (l m : Likeness) : Bool :=
  if l.shared * m.total = m.shared * l.total then !decide (l.text < m.text)
  else m.shared * l.total < l.shared * m.total

end Likeness

/-- The three texts most similar to a word, if as many are similar to it, in order. -/
def similarTo (word : Text) (texts : List Text) : List Text :=
  let close := (texts.map (likeness word)).filter Likeness.close
  let nearest := (close.mergeSort Likeness.precedes).take 3
  (nearest.map Likeness.text).mergeSort fun s t => !decide (t < s)

end Text

end WebTidy
