import WebTidy.Checks.LineRule
import Mathlib.Data.List.Infix
import Mathlib.Data.List.TakeWhile

/-!
# Counting the tags of a line

The rule about unclosed tags searches a line for a tag that runs to its end. It stands for a count:
are more tags opened on the line than closed? On a line without `>` the two agree, since every
complete tag ends in one, and then the tag that is left open begins at the last `<` of the line.
-/

namespace WebTidy

/-! ## Complete tags -/

inductive TagKind where
  | opening
  | closing
  | selfClosing
  deriving DecidableEq, Repr

namespace TagKind

/-- What stands between the brackets of a tag: `x ...` with no slash at the end, `/x ...`, or
`x .../`, where `x` is a letter. -/
inductive Inside : TagKind → Text → Prop
  | opening {x : Char} {more : Text} : x.isAlpha = true → more.getLast? ≠ some '/' →
      Inside opening (x :: more)
  | closing {x : Char} {more : Text} : x.isAlpha = true → Inside closing ('/' :: x :: more)
  | selfClosing {x : Char} {more : Text} : x.isAlpha = true →
      Inside selfClosing (x :: more ++ ['/'])

def ofInside? : Text → Option TagKind
  | [] => none
  | x :: more =>
    if x.isAlpha then some (if more.getLast? = some '/' then selfClosing else opening)
    else if x = '/' ∧ more.head?.any Char.isAlpha then some closing
    else none

theorem ofInside?_eq_some_iff {inside : Text} {kind : TagKind} :
    ofInside? inside = some kind ↔ kind.Inside inside := by
  constructor
  · intro h
    cases inside with
    | nil => simp [ofInside?] at h
    | cons x more =>
      rw [ofInside?] at h
      split at h
      · next hx =>
        obtain rfl := Option.some.inj h
        split
        · next hlast =>
          obtain ⟨front, rfl⟩ := List.getLast?_eq_some_iff.mp hlast
          exact .selfClosing hx
        · next hlast => exact .opening hx hlast
      · split at h
        · next hslash =>
          obtain rfl := Option.some.inj h
          obtain ⟨rfl, hhead⟩ := hslash
          cases more with
          | nil => simp at hhead
          | cons y more => exact .closing hhead
        · exact absurd h.symm (by simp)
  · rintro (⟨hx, hlast⟩ | hx | hx)
    · simp [ofInside?, hx, hlast]
    · simp [ofInside?, hx]
    · simp [ofInside?, hx]

end TagKind

def BracketFree (t : Text) : Prop := ∀ c ∈ t, c ≠ '<' ∧ c ≠ '>'

/-- A complete tag of the kind begins the text; no other bracket stands between its own two. -/
def BeginsTag (kind : TagKind) (t : Text) : Prop :=
  ∃ inside rest, t = '<' :: (inside ++ '>' :: rest) ∧ BracketFree inside ∧ kind.Inside inside

/-- What stands between the brackets that the text begins with. -/
def bracketed? : Text → Option Text
  | [] => none
  | c :: t =>
    if c = '<' ∧ (t.dropWhile fun d => d != '<' && d != '>').head? = some '>' then
      some (t.takeWhile fun d => d != '<' && d != '>')
    else none

theorem bracketed?_eq_some_iff {t inside : Text} :
    bracketed? t = some inside ↔
      BracketFree inside ∧ ∃ rest, t = '<' :: (inside ++ '>' :: rest) := by
  constructor
  · intro h
    cases t with
    | nil => simp [bracketed?] at h
    | cons c t =>
      rw [bracketed?] at h
      split at h
      · next hbracket =>
        obtain ⟨rfl, hhead⟩ := hbracket
        obtain rfl := Option.some.inj h
        refine ⟨fun d hd => by simpa using List.mem_takeWhile_imp hd, ?_⟩
        obtain ⟨rest, hrest⟩ := List.head?_eq_some_iff.mp hhead
        refine ⟨rest, ?_⟩
        rw [← hrest, List.takeWhile_append_dropWhile]
      · exact absurd h.symm (by simp)
  · rintro ⟨hfree, rest, rfl⟩
    have hpass : ∀ d ∈ inside, (d != '<' && d != '>') = true := fun d hd => by
      simpa using hfree d hd
    rw [bracketed?, List.dropWhile_append_of_pos hpass, List.takeWhile_append_of_pos hpass]
    simp

theorem beginsTag_iff {kind : TagKind} {t : Text} :
    BeginsTag kind t ↔ (bracketed? t).bind TagKind.ofInside? = some kind := by
  simp only [Option.bind_eq_some_iff, bracketed?_eq_some_iff, TagKind.ofInside?_eq_some_iff]
  constructor
  · rintro ⟨inside, rest, rfl, hfree, hinside⟩
    exact ⟨inside, ⟨hfree, rest, rfl⟩, hinside⟩
  · rintro ⟨inside, ⟨hfree, rest, rfl⟩, hinside⟩
    exact ⟨inside, rest, rfl, hfree, hinside⟩

instance (kind : TagKind) : DecidablePred (BeginsTag kind) :=
  fun _ => decidable_of_iff _ beginsTag_iff.symm

/-- At how many places of the text a complete tag of the kind begins. No two of them overlap, since
a tag holds no `<` but its first character. -/
def tagCount (kind : TagKind) (t : Text) : Nat := t.tails.countP (BeginsTag kind ·)

example : [TagKind.opening, .closing, .selfClosing].map
    (tagCount · "<a b='/'> < <c/><d <e></a>".toList) = [2, 1, 1] := by decide

/-! ## A tag that runs to the end -/

/-- A tag begins in the text, with a letter behind its `<`, and the text ends before any other
bracket. -/
def EndsInTag (t : Text) : Prop :=
  ∃ inside, '<' :: inside <:+ t ∧ inside.head?.any Char.isAlpha = true ∧ BracketFree inside

theorem danglingTag_iff {t : Text} : danglingTag t = true ↔ EndsInTag t := by
  induction t with
  | nil => simp [danglingTag, EndsInTag]
  | cons c t ih =>
    -- the tag begins at the first character or behind it, as the suffixes of the text do
    have hhead :
        (c == '<' && t.head?.any Char.isAlpha && t.all fun d => d != '<' && d != '>') = true ↔
          ∃ inside, '<' :: inside = c :: t ∧ inside.head?.any Char.isAlpha = true ∧
            BracketFree inside := by
      simp [BracketFree, and_assoc, eq_comm (a := c)]
    rw [danglingTag, Bool.or_eq_true, hhead, ih, EndsInTag, EndsInTag]
    simp only [List.suffix_cons_iff, or_and_right, exists_or]

instance : DecidablePred EndsInTag := fun _ => decidable_of_iff _ danglingTag_iff

theorem EndsInTag.mem {t : Text} (h : EndsInTag t) : '<' ∈ t := by
  obtain ⟨inside, hsuffix, -⟩ := h
  exact hsuffix.subset (by simp)

section Unclosed

variable {t : Text} (ht : '>' ∉ t)

include ht

theorem tagCount_eq_zero (kind : TagKind) : tagCount kind t = 0 := by
  rw [tagCount, List.countP_eq_zero]
  intro u hu hbegins
  obtain ⟨inside, rest, rfl, -⟩ := of_decide_eq_true hbegins
  have hsuffix := (List.mem_tails _ t).mp hu
  exact ht (hsuffix.subset (by simp))

/-- The tag that runs to the end is the only one that counts. -/
theorem tagCount_lt_iff :
    tagCount .closing t + tagCount .selfClosing t
      < tagCount .opening t + (if EndsInTag t then 1 else 0) ↔ EndsInTag t := by
  rw [tagCount_eq_zero ht, tagCount_eq_zero ht, tagCount_eq_zero ht]
  by_cases hends : EndsInTag t <;> simp [hends]

/-- Without a `>` behind it, the last `<` leaves a tag open if a letter follows. -/
theorem endsInTag_iff_last : EndsInTag t ↔ ∃ lead after, t = lead ++ '<' :: after ∧ '<' ∉ after ∧
    after.head?.any Char.isAlpha = true := by
  constructor
  · rintro ⟨after, ⟨lead, rfl⟩, hletter, hfree⟩
    exact ⟨lead, after, rfl, fun hm => (hfree '<' hm).1 rfl, hletter⟩
  · rintro ⟨lead, after, rfl, hlast, hletter⟩
    refine ⟨after, List.suffix_append lead _, hletter, fun c hc => ⟨?_, ?_⟩⟩
    · rintro rfl
      exact hlast hc
    · rintro rfl
      exact ht (by simp [hc])

end Unclosed

/-! ## The rule -/

theorem exists_warning_unclosedTag_iff (d : Dialect) (number : Int) (line : Text) :
    (∃ f ∈ LineRule.unclosedTag.check d number line, f.severity = .warning) ↔
      '>' ∉ line ∧ EndsInTag line := by
  rw [← danglingTag_iff]
  simp [LineRule.check, LineRule.remarks, LineRule.severity]

/-- The rule warns about a line exactly if the line holds a `<` and no `>` and more tags are opened
on it than closed, where a tag that runs to the end is opened as well. And that is so exactly if the
line holds no `>` and a letter stands behind its last `<`, whatever stands in front of it. -/
theorem unclosedTag_reports_iff (d : Dialect) (number : Int) (line : Text) :
    ((∃ f ∈ LineRule.unclosedTag.check d number line, f.severity = .warning) ↔
      '<' ∈ line ∧ '>' ∉ line ∧
        tagCount .closing line + tagCount .selfClosing line
          < tagCount .opening line + (if EndsInTag line then 1 else 0)) ∧
    ((∃ f ∈ LineRule.unclosedTag.check d number line, f.severity = .warning) ↔
      '>' ∉ line ∧ ∃ lead after, line = lead ++ '<' :: after ∧ '<' ∉ after ∧
        after.head?.any Char.isAlpha = true) := by
  rw [exists_warning_unclosedTag_iff]
  refine ⟨?_, and_congr_right endsInTag_iff_last⟩
  constructor
  · rintro ⟨hclose, hends⟩
    exact ⟨hends.mem, hclose, (tagCount_lt_iff hclose).mpr hends⟩
  · rintro ⟨-, hclose, hcount⟩
    exact ⟨hclose, (tagCount_lt_iff hclose).mp hcount⟩

end WebTidy
