import WebTidy.Stylesheet.Rules

/-!
# Media blocks

A media block opens with `@media`, a query free of braces and of `@`, and a brace. It runs to the
first closing brace that only blanks part from another `@media` or from the end of the text, so the
rules written behind a block belong to it. Once an opening has no such brace behind it, no later
block has one either.
-/

namespace WebTidy

structure MediaBlock where
  query : Text
  rules : List Rule
  deriving DecidableEq, Repr

def mediaWord : Text := ['@', 'm', 'e', 'd', 'i', 'a']

def isQueryChar (c : Char) : Bool := !(isBrace c || c == '@')

/-- The query of a block that opens at the head of the text, and what follows the brace. -/
def mediaOpening? (t : Text) : Option (Text × Text) :=
  (Text.after? mediaWord t).bind fun t =>
    match t.dropWhile isQueryChar with
    | [] => none
    | brace :: inside =>
      if brace = '{' ∧ t.takeWhile isQueryChar ≠ [] then some (t.takeWhile isQueryChar, inside)
      else none

/-- Whether a closing brace before this text closes a media block. -/
def closesMedia (t : Text) : Bool :=
  t.trimLeft.isEmpty || Text.startsWith t.trimLeft mediaWord

/-- The content of an open media block and the text behind its closing brace. -/
def mediaContent? : Text → Option (Text × Text)
  | [] => none
  | c :: t =>
    if c = '}' ∧ closesMedia t then some ([], t)
    else (mediaContent? t).map fun cut => (c :: cut.1, cut.2)

/-- A media block with the text around it. -/
structure MediaCut where
  before : Text
  query : Text
  content : Text
  rest : Text
  deriving DecidableEq, Repr

/-- The first opening of a media block in the text: what precedes it, its query and what follows. -/
def firstOpening? : Text → Option (Text × Text × Text)
  | [] => none
  | c :: t =>
    match mediaOpening? (c :: t) with
    | some (query, inside) => some ([], query, inside)
    | none => (firstOpening? t).map fun cut => (c :: cut.1, cut.2)

def firstMedia? (t : Text) : Option MediaCut :=
  (firstOpening? t).bind fun cut =>
    (mediaContent? cut.2.2).map fun block => ⟨cut.1, cut.2.1, block.1, block.2⟩

theorem eq_of_mediaOpening? {t query inside : Text}
    (h : mediaOpening? t = some (query, inside)) :
    t = mediaWord ++ query ++ '{' :: inside := by
  obtain ⟨u, hu, h⟩ := Option.bind_eq_some_iff.mp h
  rw [Text.after?_eq_some_iff.mp hu]
  split at h
  · simp at h
  · next hd =>
    split at h
    · next hc =>
      simp only [Option.some.injEq, Prod.mk.injEq] at h
      obtain ⟨rfl, rfl⟩ := h
      have := List.takeWhile_append_dropWhile (p := isQueryChar) (l := u)
      rw [hd, hc.1] at this
      rw [List.append_assoc, this]
    · simp at h

theorem eq_of_mediaContent? {t content rest : Text}
    (h : mediaContent? t = some (content, rest)) : t = content ++ '}' :: rest := by
  induction t generalizing content with
  | nil => simp [mediaContent?] at h
  | cons c t ih =>
    rw [mediaContent?] at h
    split at h
    · next hc =>
      simp only [Option.some.injEq, Prod.mk.injEq] at h
      obtain ⟨rfl, rfl⟩ := h
      simp [hc.1]
    · obtain ⟨⟨a, b⟩, hab, he⟩ := Option.map_eq_some_iff.mp h
      simp only [Prod.mk.injEq] at he
      obtain ⟨rfl, rfl⟩ := he
      simp [ih hab]

theorem eq_of_firstOpening? {t before query inside : Text}
    (h : firstOpening? t = some (before, query, inside)) :
    t = before ++ mediaWord ++ query ++ '{' :: inside := by
  induction t generalizing before with
  | nil => simp [firstOpening?] at h
  | cons c t ih =>
    rw [firstOpening?] at h
    split at h
    · next ho =>
      simp only [Option.some.injEq, Prod.mk.injEq] at h
      obtain ⟨rfl, rfl, rfl⟩ := h
      simpa using eq_of_mediaOpening? ho
    · obtain ⟨⟨a, b⟩, hab, he⟩ := Option.map_eq_some_iff.mp h
      simp only [Prod.mk.injEq] at he
      obtain ⟨rfl, rfl⟩ := he
      simp [ih hab]

theorem eq_of_firstMedia? {t : Text} {cut : MediaCut} (h : firstMedia? t = some cut) :
    t = cut.before ++ mediaWord ++ cut.query ++ '{' :: cut.content ++ '}' :: cut.rest := by
  obtain ⟨⟨before, query, inside⟩, ho, h⟩ := Option.bind_eq_some_iff.mp h
  obtain ⟨⟨content, rest⟩, hc, rfl⟩ := Option.map_eq_some_iff.mp h
  have hi : inside = content ++ '}' :: rest := eq_of_mediaContent? hc
  simpa [hi] using eq_of_firstOpening? ho

theorem length_lt_of_firstMedia? {t : Text} {cut : MediaCut} (h : firstMedia? t = some cut) :
    cut.rest.length < t.length := by
  have := congrArg List.length (eq_of_firstMedia? h)
  simp only [List.length_append, List.length_cons] at this
  omega

/-- The media blocks of a text, in order, and the text that is left without them. -/
def extractMedia (t : Text) : List MediaBlock × Text :=
  match h : firstMedia? t with
  | none => ([], t)
  | some cut =>
    have := length_lt_of_firstMedia? h
    let split := extractMedia cut.rest
    (⟨cut.query.trim, readRules cut.content⟩ :: split.1, cut.before ++ split.2)
termination_by t.length

end WebTidy
