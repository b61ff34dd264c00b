import WebTidy.Proofs.Stylesheet.MediaScan
import WebTidy.Proofs.Text.Pattern

/-!
# Media blocks as matches of a pattern

A media block is one pattern: `@media`, a query, a brace, a content, and a closing brace in front
of blanks and another `@media` or the end. The scan looks for the opening and for the end apart and
stops at the first opening that has no end. It finds what a search for the whole pattern finds,
since an end behind a later opening is behind an earlier one as well.
-/

namespace WebTidy

/-- The query and the content of a media block, as they are written. -/
structure MediaMatch where
  query : Text
  content : Text
  deriving DecidableEq, Repr

def MediaMatch.text (m : MediaMatch) : Text :=
  mediaWord ++ (m.query ++ '{' :: (m.content ++ ['}']))

/-- Blanks, and then another media block or nothing. -/
def MediaFollows (rest : Text) : Prop :=
  ∃ w t, (∀ c ∈ w, isBlank c = true) ∧ rest = w ++ t ∧ (t = [] ∨ mediaWord <+: t)

def mediaPattern : Pattern MediaMatch where
  text := MediaMatch.text
  fits m rest := m.query ≠ [] ∧ (∀ c ∈ ['{', '}', '@'], c ∉ m.query) ∧ MediaFollows rest
  ne_nil := by simp [MediaMatch.text, mediaWord]
  captures_unique := by
    rintro ⟨q, s⟩ ⟨r, u⟩ rest ⟨-, hq, -⟩ ⟨-, hr, -⟩ h
    have hcut := List.append_cancel_left h
    obtain ⟨hquery, hs⟩ := Text.eq_of_append_cons_eq_of_notMem (hq '{' (by simp))
      (hr '{' (by simp)) hcut
    exact congrArg₂ MediaMatch.mk hquery (List.append_cancel_right hs)

theorem closesMedia_iff {rest : Text} : closesMedia rest = true ↔ MediaFollows rest := by
  constructor
  · intro h
    rw [closesMedia, Bool.or_eq_true, List.isEmpty_iff, Text.startsWith_iff] at h
    have hsplit := List.takeWhile_append_dropWhile (p := isBlank) (l := rest)
    exact ⟨rest.takeWhile isBlank, rest.trimLeft, fun c hc => List.mem_takeWhile_imp hc,
      hsplit.symm, h⟩
  · rintro ⟨w, t, hw, rfl, rfl | ⟨u, rfl⟩⟩
    · rw [closesMedia_append_of_blank hw, closesMedia_nil]
    · rw [closesMedia_append_of_blank hw, closesMedia_mediaWord_append]

/-- A match is an opening and a brace behind it that closes. -/
theorem mediaPattern_matches_iff {t rest : Text} {m : MediaMatch} :
    mediaPattern.Matches t m rest ↔
      mediaOpening? t = some (m.query, m.content ++ '}' :: rest) ∧ closesMedia rest = true := by
  have htext : mediaPattern.text m ++ rest =
      mediaWord ++ m.query ++ '{' :: (m.content ++ '}' :: rest) := by
    simp [mediaPattern, MediaMatch.text]
  rw [mediaOpening?_eq_some_iff, forall_isQueryChar_iff, closesMedia_iff, ← htext]
  constructor
  · rintro ⟨hsplit, hn, hq, hf⟩
    exact ⟨⟨hsplit, hn, hq⟩, hf⟩
  · rintro ⟨⟨hsplit, hn, hq⟩, hf⟩
    exact ⟨hsplit, hn, hq, hf⟩

/-! ## The first closing brace -/

theorem closesMedia_of_mediaContent?_eq_none {t s u : Text} (h : mediaContent? t = none)
    (ht : t = s ++ '}' :: u) : closesMedia u = false := by
  induction s generalizing t with
  | nil =>
    rw [ht, List.nil_append, mediaContent?_close] at h
    split at h
    · simp at h
    · next hu => simpa using hu
  | cons c s ih =>
    rw [ht, List.cons_append, mediaContent?] at h
    split at h
    · simp at h
    · exact ih (Option.map_eq_none_iff.mp h) rfl

theorem length_le_of_mediaContent? {t content rest s u : Text}
    (h : mediaContent? t = some (content, rest)) (ht : t = s ++ '}' :: u)
    (hu : closesMedia u = true) : content.length ≤ s.length := by
  induction s generalizing t content rest with
  | nil =>
    rw [ht, List.nil_append, mediaContent?_close, if_pos hu] at h
    obtain ⟨rfl, -⟩ := by simpa using h
    exact le_rfl
  | cons c s ih =>
    rw [ht, List.cons_append, mediaContent?] at h
    split at h
    · obtain ⟨rfl, -⟩ := by simpa using h
      exact Nat.zero_le _
    · obtain ⟨⟨inner, r⟩, hinner, he⟩ := Option.map_eq_some_iff.mp h
      obtain ⟨rfl, rfl⟩ := Prod.mk.inj he
      exact Nat.succ_le_succ (ih hinner rfl)

/-! ## The two searches and the one -/

theorem shortest_of_mediaContent? {t query inside content rest : Text}
    (ho : mediaOpening? t = some (query, inside))
    (hc : mediaContent? inside = some (content, rest)) :
    mediaPattern.Shortest t ⟨query, content⟩ rest := by
  have hinside : inside = content ++ '}' :: rest := eq_of_mediaContent? hc
  refine ⟨mediaPattern_matches_iff.mpr ⟨by rw [ho, hinside], closesMedia_of_mediaContent? hc⟩, ?_⟩
  rintro ⟨query', content'⟩ rest' hm
  obtain ⟨ho', hcloses⟩ := mediaPattern_matches_iff.mp hm
  obtain ⟨rfl, rfl⟩ := Prod.mk.inj (Option.some.inj (ho.symm.trans ho'))
  have hle : content.length ≤ content'.length := length_le_of_mediaContent? hc rfl hcloses
  simp only [mediaPattern, MediaMatch.text, List.length_append, List.length_cons]
  omega

theorem not_matchesHead_of_mediaOpening? {t : Text} (h : mediaOpening? t = none) :
    ¬ mediaPattern.MatchesHead t := by
  rintro ⟨m, rest, hm⟩
  rw [(mediaPattern_matches_iff.mp hm).1] at h
  simp at h

/-- Without an end behind the opening at its head a text holds no block at all. -/
theorem not_matchesHead_of_mediaContent? {t query inside : Text}
    (ho : mediaOpening? t = some (query, inside)) (hc : mediaContent? inside = none) {u : Text}
    (hu : u <:+ t) : ¬ mediaPattern.MatchesHead u := by
  have hclosed : '}' ∉ mediaWord ++ query ++ ['{'] := by
    have hquery := forall_isQueryChar_iff.mp (mediaOpening?_eq_some_iff.mp ho).2.2
    simpa [mediaWord] using hquery '}' (by simp)
  -- the opening itself has no closing brace, so the whole text has no end either
  have hwhole : mediaContent? t = none := by
    have happend := mediaContent?_append hclosed inside
    rw [hc, Option.map_none] at happend
    rw [eq_of_mediaOpening? ho, ← happend]
    simp
  rintro ⟨m, rest, hm⟩
  obtain ⟨s, rfl⟩ := hu
  have hend : s ++ u = s ++ (mediaWord ++ (m.query ++ '{' :: m.content)) ++ '}' :: rest := by
    rw [hm.split]
    simp [mediaPattern, MediaMatch.text]
  have hopen := closesMedia_of_mediaContent?_eq_none hwhole hend
  rw [(mediaPattern_matches_iff.mp hm).2] at hopen
  simp at hopen

theorem firstMedia?_cons_of_none {c : Char} {t : Text} (h : mediaOpening? (c :: t) = none) :
    firstMedia? (c :: t) =
      (firstMedia? t).map fun cut => ⟨c :: cut.before, cut.query, cut.content, cut.rest⟩ :=
  firstMedia?_append (s := [c]) (firstOpening?_cons_of_none h)

theorem firstMedia?_of_mediaOpening? {c : Char} {t query inside : Text}
    (h : mediaOpening? (c :: t) = some (query, inside)) :
    firstMedia? (c :: t) =
      (mediaContent? inside).map fun block => ⟨[], query, block.1, block.2⟩ := by
  rw [firstMedia?, firstOpening?, h, Option.bind_some]

theorem first_of_firstMedia? {t : Text} {cut : MediaCut} (h : firstMedia? t = some cut) :
    mediaPattern.First t cut.before ⟨cut.query, cut.content⟩ cut.rest := by
  induction t generalizing cut with
  | nil => simp [firstMedia?, firstOpening?] at h
  | cons c t ih =>
    cases ho : mediaOpening? (c :: t) with
    | none =>
      rw [firstMedia?_cons_of_none ho] at h
      obtain ⟨inner, hinner, rfl⟩ := Option.map_eq_some_iff.mp h
      exact .later (not_matchesHead_of_mediaOpening? ho) (ih hinner)
    | some opening =>
      rw [firstMedia?_of_mediaOpening? ho] at h
      obtain ⟨block, hblock, rfl⟩ := Option.map_eq_some_iff.mp h
      exact .here (shortest_of_mediaContent? ho hblock)

/-- Where the first opening has no end, no place of the text is a block. -/
theorem not_matchesHead_of_firstMedia? {t : Text} (h : firstMedia? t = none) {u : Text}
    (hu : u <:+ t) : ¬ mediaPattern.MatchesHead u := by
  induction t with
  | nil =>
    obtain rfl := List.suffix_nil.mp hu
    exact Pattern.not_matchesHead_nil
  | cons c t ih =>
    cases ho : mediaOpening? (c :: t) with
    | none =>
      rw [firstMedia?_cons_of_none ho] at h
      rcases List.suffix_cons_iff.mp hu with rfl | hu
      · exact not_matchesHead_of_mediaOpening? ho
      · exact ih (Option.map_eq_none_iff.mp h) hu
    | some opening =>
      rw [firstMedia?_of_mediaOpening? ho] at h
      exact not_matchesHead_of_mediaContent? ho (Option.map_eq_none_iff.mp h) hu

theorem exists_mediaScan (t : Text) : ∃ cuts tail, mediaPattern.Scan t cuts tail ∧
    extractMedia t = (cuts.map fun cut => ⟨cut.2.query.trim, readRules cut.2.content⟩,
      cuts.flatMap Prod.fst ++ tail) := by
  induction t using media_induction with
  | last t ht =>
    exact ⟨[], t, .last fun u hu => not_matchesHead_of_firstMedia? ht hu, extractMedia_of_none ht⟩
  | block t cut ht ih =>
    obtain ⟨cuts, tail, hscan, hrest⟩ := ih
    refine ⟨(cut.before, ⟨cut.query, cut.content⟩) :: cuts, tail,
      .next (first_of_firstMedia? ht) hscan, ?_⟩
    rw [extractMedia_of_some ht, hrest, List.map_cons, List.flatMap_cons, List.append_assoc]

/-- The media blocks of a text are the leftmost shortest matches of their pattern, in order, and
what is left is the text without them. An opening without an end has no block behind it. -/
theorem extractMedia_scan (t : Text) :
    (∃ cuts tail, t = cuts.flatMap (fun cut => cut.1 ++ mediaPattern.text cut.2) ++ tail ∧
      extractMedia t = (cuts.map fun cut => ⟨cut.2.query.trim, readRules cut.2.content⟩,
        cuts.flatMap Prod.fst ++ tail) ∧
      ∀ cuts' tail', mediaPattern.Scan t cuts' tail' ↔ cuts' = cuts ∧ tail' = tail) ∧
    ∀ before query inside, firstOpening? t = some (before, query, inside) →
      mediaContent? inside = none → ∀ u, u <:+ t → ¬ mediaPattern.MatchesHead u := by
  obtain ⟨cuts, tail, hscan, hextract⟩ := exists_mediaScan t
  refine ⟨⟨cuts, tail, hscan.split, hextract, hscan.scan_iff⟩, ?_⟩
  intro before query inside ho hc u hu
  apply not_matchesHead_of_firstMedia? _ hu
  rw [firstMedia?, ho, Option.bind_some, hc, Option.map_none]

end WebTidy
