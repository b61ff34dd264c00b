/-!
# Text as a list of characters

Every scanner of this library is a recursion on the characters of its input, so a text is their
list. `occursIn` and `cutAround?` look for a piece of a text; `occursIn_iff` and `eq_of_cutAround?`
say what they find.
-/

namespace WebTidy

abbrev Text := List Char

instance : LawfulBEq Text := inferInstanceAs (LawfulBEq (List Char))

namespace Text

/-- What follows `lead` in a text that starts with it. -/
def after? : Text → Text → Option Text
  | [], t => some t
  | _ :: _, [] => none
  | c :: lead, d :: t => if c = d then after? lead t else none

theorem after?_eq_some_iff {lead t rest : Text} :
    after? lead t = some rest ↔ t = lead ++ rest := by
  induction lead generalizing t with
  | nil => simp [after?, eq_comm]
  | cons c lead ih =>
    cases t with
    | nil => simp [after?]
    | cons d t =>
      by_cases h : c = d
      · simp [after?, h, ih]
      · simp [after?, h, Ne.symm h]

def startsWith (t lead : Text) : Bool := lead.isPrefixOf t

theorem startsWith_iff {t lead : Text} : startsWith t lead = true ↔ lead <+: t :=
  List.isPrefixOf_iff_prefix

def endsWith (t tail : Text) : Bool := tail.isSuffixOf t

/-- Whether `piece` stands anywhere in the text. -/
def occursIn (piece : Text) : Text → Bool
  | [] => piece.isEmpty
  | c :: t => startsWith (c :: t) piece || occursIn piece t

theorem occursIn_iff {piece t : Text} : occursIn piece t = true ↔ piece <:+: t := by
  induction t with
  | nil => simp [occursIn]
  | cons c t ih =>
    simp [occursIn, startsWith, ih, List.infix_cons_iff]

/-- What stands before and after the first place of `piece`. -/
def cutAround? (piece : Text) : Text → Option (Text × Text)
  | [] => none
  | c :: t =>
    match after? piece (c :: t) with
    | some rest => some ([], rest)
    | none => (cutAround? piece t).map fun cut => (c :: cut.1, cut.2)

theorem eq_of_cutAround? {piece t before rest : Text}
    (h : cutAround? piece t = some (before, rest)) : t = before ++ piece ++ rest := by
  induction t generalizing before with
  | nil => simp [cutAround?] at h
  | cons c t ih =>
    rw [cutAround?] at h
    split at h
    · next rest' hr =>
      simp only [Option.some.injEq, Prod.mk.injEq] at h
      obtain ⟨rfl, rfl⟩ := h
      simpa using after?_eq_some_iff.mp hr
    · obtain ⟨⟨b, r⟩, hb, he⟩ := Option.map_eq_some_iff.mp h
      simp only [Prod.mk.injEq] at he
      obtain ⟨rfl, rfl⟩ := he
      simp [ih hb]

theorem length_lt_of_cutAround? {piece t before rest : Text} (hp : piece ≠ [])
    (h : cutAround? piece t = some (before, rest)) : rest.length < t.length := by
  have := List.length_pos_iff.mpr hp
  simp only [eq_of_cutAround? h, List.length_append]
  omega

/-- The text split around the first place of `c`, which is in neither half. -/
def cutAt (c : Char) (t : Text) : Text × Text :=
  (t.takeWhile (· != c), (t.dropWhile (· != c)).drop 1)

theorem cutAt_append {c : Char} {s t : Text} (h : c ∉ s) : cutAt c (s ++ c :: t) = (s, t) := by
  induction s with
  | nil => simp [cutAt]
  | cons d s ih =>
    have hd : (d != c) = true := by
      simp only [bne_iff_ne]
      rintro rfl
      simp at h
    have := ih fun hc => h (by simp [hc])
    simp only [cutAt, Prod.mk.injEq] at this
    simp [cutAt, hd, this]

/-- The pieces joined with `separator` between neighbours. -/
def join (separator : Text) : List Text → Text
  | [] => []
  | [t] => t
  | t :: ts => t ++ separator ++ join separator ts

def lines (t : Text) : List Text := t.splitOn '\n'

/-- The number of bytes of the text in UTF-8. -/
def utf8ByteSize : Text → Nat
  | [] => 0
  | c :: t => c.utf8Size + utf8ByteSize t

end Text

end WebTidy
