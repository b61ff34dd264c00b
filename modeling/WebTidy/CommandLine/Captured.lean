import WebTidy.Text.Basic

/-!
# Captured output

The output of a run goes to a file or a pipe, not to a terminal, so that control sequences are left
out of what is printed. A control sequence is an escape and a bracket, parameters, intermediate
characters and a final character. Whoever captures the output joins its line ends into newlines.
-/

namespace WebTidy

namespace Text

def isParameter (c : Char) : Bool := 0x30 ≤ c.toNat && c.toNat ≤ 0x3F

def isIntermediate (c : Char) : Bool := 0x20 ≤ c.toNat && c.toNat ≤ 0x2F

def isFinal (c : Char) : Bool := 0x40 ≤ c.toNat && c.toNat ≤ 0x7E

/-- What follows the control sequence that the text begins with. -/
def afterControlSequence? (t : Text) : Option Text :=
  (after? ['\x1b', '['] t).bind fun t =>
    match (t.dropWhile isParameter).dropWhile isIntermediate with
    | [] => none
    | c :: rest => if isFinal c then some rest else none

theorem length_lt_of_afterControlSequence? {t rest : Text}
    (h : afterControlSequence? t = some rest) : rest.length < t.length := by
  obtain ⟨u, hu, h⟩ := Option.bind_eq_some_iff.mp h
  rw [after?_eq_some_iff.mp hu]
  have hp := (List.dropWhile_sublist isParameter (l := u)).length_le
  have hi := (List.dropWhile_sublist isIntermediate (l := u.dropWhile isParameter)).length_le
  split at h
  · simp at h
  · next c r hr =>
    split at h
    · simp only [Option.some.injEq] at h
      subst h
      simp only [hr, List.length_cons] at hi
      simp only [List.length_append, List.length_cons, List.length_nil]
      omega
    · simp at h

def withoutControlSequences (t : Text) : Text :=
  match t with
  | [] => []
  | c :: t =>
    match h : afterControlSequence? (c :: t) with
    | some rest =>
      have := length_lt_of_afterControlSequence? h
      withoutControlSequences rest
    | none => c :: withoutControlSequences t
termination_by t.length
decreasing_by
  · assumption
  · exact Nat.lt_succ_self _

/-- Joins a carriage return to the newline behind it; one by itself stays. -/
def joinLineEnds : Text → Text
  | [] => []
  | '\r' :: '\n' :: t => '\n' :: joinLineEnds t
  | c :: t => c :: joinLineEnds t

/-- What is captured of a printed text. -/
def captured (t : Text) : Text := joinLineEnds (withoutControlSequences t)

end Text

end WebTidy
