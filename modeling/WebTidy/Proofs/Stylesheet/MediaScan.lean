import WebTidy.Proofs.Stylesheet.FlatRules
import WebTidy.Stylesheet.Media

/-!
# The scan of media blocks

An opening of a media block ends with the first brace behind its `@media`, so the search for it
goes brace by brace: nothing opens before a closing brace, and what opens before an opening one is
decided by the text in front of that brace alone. The search for the end of a block goes from one
closing brace to the next.
-/

namespace WebTidy

theorem isQueryChar_iff {c : Char} : isQueryChar c = true ↔ isBrace c = false ∧ c ≠ '@' := by
  simp [isQueryChar]

theorem forall_isQueryChar_iff {query : Text} :
    (∀ c ∈ query, isQueryChar c = true) ↔ ∀ c ∈ ['{', '}', '@'], c ∉ query := by
  simp only [isQueryChar, isBrace, List.mem_cons, List.not_mem_nil, or_false, forall_eq_or_imp,
    forall_eq]
  constructor
  · intro h
    exact ⟨fun hc => by simpa using h _ hc, fun hc => by simpa using h _ hc,
      fun hc => by simpa using h _ hc⟩
  · rintro ⟨ho, hc, hat⟩ c hm
    have hno : c ≠ '{' := fun h => ho (h ▸ hm)
    have hnc : c ≠ '}' := fun h => hc (h ▸ hm)
    have hna : c ≠ '@' := fun h => hat (h ▸ hm)
    simp [hno, hnc, hna]

theorem braceFree_mediaWord : BraceFree mediaWord := by
  rw [braceFree_iff]
  decide

theorem mediaOpening?_eq_some_iff {t query inside : Text} :
    mediaOpening? t = some (query, inside) ↔
      t = mediaWord ++ query ++ '{' :: inside ∧ query ≠ [] ∧ ∀ c ∈ query, isQueryChar c = true := by
  constructor
  · intro h
    refine ⟨eq_of_mediaOpening? h, ?_⟩
    obtain ⟨u, -, h⟩ := Option.bind_eq_some_iff.mp h
    split at h
    · simp at h
    · split at h
      · next hc =>
        simp only [Option.some.injEq, Prod.mk.injEq] at h
        obtain ⟨rfl, rfl⟩ := h
        exact ⟨hc.2, fun c hm => List.mem_takeWhile_imp hm⟩
      · simp at h
  · rintro ⟨rfl, hn, hq⟩
    have hbrace : isQueryChar '{' = false := by decide
    have hd : (query ++ '{' :: inside).dropWhile isQueryChar = '{' :: inside := by
      rw [List.dropWhile_append_of_pos hq, List.dropWhile_cons_of_neg (by simp [hbrace])]
    have ht : (query ++ '{' :: inside).takeWhile isQueryChar = query := by
      rw [List.takeWhile_append_of_pos hq, List.takeWhile_cons_of_neg (by simp [hbrace]),
        List.append_nil]
    have ha : Text.after? mediaWord (mediaWord ++ query ++ '{' :: inside) =
        some (query ++ '{' :: inside) := Text.after?_eq_some_iff.mpr (by simp)
    rw [mediaOpening?, ha, Option.bind_some, hd, ht]
    simp [hn]

/-- Whether an opening ends with the first brace of a text depends on what stands before it. -/
theorem mediaOpening?_append_eq_some_iff {s t query inside : Text} {brace : Char}
    (hs : BraceFree s) (hb : isBrace brace = true) :
    mediaOpening? (s ++ brace :: t) = some (query, inside) ↔
      brace = '{' ∧ inside = t ∧ s = mediaWord ++ query ∧ query ≠ [] ∧ '@' ∉ query := by
  rw [mediaOpening?_eq_some_iff]
  constructor
  · rintro ⟨he, hn, hq⟩
    have hfree : BraceFree (mediaWord ++ query) :=
      braceFree_mediaWord.append fun c hc => (isQueryChar_iff.mp (hq c hc)).1
    obtain ⟨rfl, rfl, rfl⟩ := Text.eq_of_append_cons_eq hs hfree hb isBrace_open he
    exact ⟨rfl, rfl, rfl, hn, fun hc => (isQueryChar_iff.mp (hq _ hc)).2 rfl⟩
  · rintro ⟨rfl, rfl, rfl, hn, hat⟩
    refine ⟨rfl, hn, fun c hc => isQueryChar_iff.mpr ⟨hs c (by simp [hc]), ?_⟩⟩
    rintro rfl
    exact hat hc

/-- The text opens a media block when a brace follows it: its last `@media` has a query. -/
def OpensMedia (s : Text) : Prop :=
  ∃ lead query, s = lead ++ mediaWord ++ query ∧ query ≠ [] ∧ '@' ∉ query

theorem OpensMedia.cons {s : Text} (h : OpensMedia s) (c : Char) : OpensMedia (c :: s) := by
  obtain ⟨lead, query, rfl, hn, hat⟩ := h
  exact ⟨c :: lead, query, rfl, hn, hat⟩

theorem OpensMedia.mediaWord_isInfix {s : Text} (h : OpensMedia s) : mediaWord <:+: s := by
  obtain ⟨lead, query, rfl, -, -⟩ := h
  exact ⟨lead, query, rfl⟩

theorem mediaOpening?_eq_none {s t : Text} {brace : Char} (hs : BraceFree s)
    (hb : isBrace brace = true) (h : brace = '{' → ¬ OpensMedia s) :
    mediaOpening? (s ++ brace :: t) = none := by
  rw [Option.eq_none_iff_forall_ne_some]
  rintro ⟨query, inside⟩ he
  obtain ⟨hc, -, hq, hn, hat⟩ := (mediaOpening?_append_eq_some_iff hs hb).mp he
  exact h hc ⟨[], query, hq, hn, hat⟩

theorem firstOpening?_cons_of_none {c : Char} {t : Text} (h : mediaOpening? (c :: t) = none) :
    firstOpening? (c :: t) = (firstOpening? t).map fun cut => (c :: cut.1, cut.2) := by
  rw [firstOpening?, h]

theorem firstOpening?_append {s : Text} {brace : Char} (hs : BraceFree s)
    (hb : isBrace brace = true) (h : brace = '{' → ¬ OpensMedia s) (t : Text) :
    firstOpening? (s ++ brace :: t) =
      (firstOpening? t).map fun cut => (s ++ brace :: cut.1, cut.2) := by
  induction s with
  | nil =>
    have hn := mediaOpening?_eq_none (t := t) hs hb h
    exact firstOpening?_cons_of_none hn
  | cons c s ih =>
    have hn : mediaOpening? (c :: (s ++ brace :: t)) = none := mediaOpening?_eq_none hs hb h
    have hr := ih (fun d hd => hs d (by simp [hd])) fun he ho => h he (ho.cons c)
    rw [List.cons_append, firstOpening?_cons_of_none hn, hr, Option.map_map]
    rfl

theorem firstOpening?_of_opensMedia {s : Text} (hs : BraceFree s) (h : OpensMedia s) (t : Text) :
    ∃ lead query, s = lead ++ mediaWord ++ query ∧
      firstOpening? (s ++ '{' :: t) = some (lead, query, t) := by
  induction s with
  | nil => exact absurd h.mediaWord_isInfix (by decide)
  | cons c s ih =>
    rw [List.cons_append]
    cases ho : mediaOpening? (c :: (s ++ '{' :: t)) with
    | some opening =>
      obtain ⟨query, inside⟩ := opening
      obtain ⟨-, rfl, hq, -, -⟩ :=
        (mediaOpening?_append_eq_some_iff (s := c :: s) hs isBrace_open).mp ho
      exact ⟨[], query, hq, by rw [firstOpening?, ho]⟩
    | none =>
      -- not at the head, so the last `@media` with its query is in the rest
      have hrest : OpensMedia s := by
        obtain ⟨lead, query, he, hn, hat⟩ := h
        cases lead with
        | nil =>
          have hopen : mediaOpening? (c :: (s ++ '{' :: t)) = some (query, t) :=
            (mediaOpening?_append_eq_some_iff hs isBrace_open).mpr ⟨rfl, rfl, he, hn, hat⟩
          rw [ho] at hopen
          simp at hopen
        | cons d lead => exact ⟨lead, query, (List.cons_eq_cons.mp he).2, hn, hat⟩
      obtain ⟨lead, query, hq, hf⟩ := ih (fun d hd => hs d (by simp [hd])) hrest
      refine ⟨c :: lead, query, by rw [hq]; rfl, ?_⟩
      rw [firstOpening?_cons_of_none ho, hf]
      rfl

theorem firstOpening?_of_no_mediaWord {t : Text} (h : ¬ mediaWord <:+: t) :
    firstOpening? t = none := by
  rw [Option.eq_none_iff_forall_ne_some]
  rintro ⟨before, query, inside⟩ he
  refine h ⟨before, query ++ '{' :: inside, ?_⟩
  rw [eq_of_firstOpening? he]
  simp

theorem firstOpening?_mediaWord_append {query : Text} (hn : query ≠ [])
    (hq : ∀ c ∈ query, isQueryChar c = true) (t : Text) :
    firstOpening? (mediaWord ++ (query ++ '{' :: t)) = some ([], query, t) := by
  have hopen : mediaOpening? (mediaWord ++ (query ++ '{' :: t)) = some (query, t) :=
    mediaOpening?_eq_some_iff.mpr ⟨by simp, hn, hq⟩
  rw [show mediaWord ++ (query ++ '{' :: t) =
    '@' :: (mediaWord.drop 1 ++ (query ++ '{' :: t)) from rfl] at hopen ⊢
  rw [firstOpening?, hopen]

theorem firstOpening?_append_of_notMem {w : Text} (hw : '@' ∉ w) (t : Text) :
    firstOpening? (w ++ t) = (firstOpening? t).map fun cut => (w ++ cut.1, cut.2) := by
  induction w with
  | nil => simp
  | cons c w ih =>
    simp only [List.mem_cons, not_or] at hw
    have hn : mediaOpening? (c :: (w ++ t)) = none := by
      rw [Option.eq_none_iff_forall_ne_some]
      intro opening ho
      exact hw.1 (List.cons_eq_cons.mp (eq_of_mediaOpening? ho)).1.symm
    rw [List.cons_append, firstOpening?_cons_of_none hn, ih hw.2, Option.map_map]
    rfl

theorem isQueryChar_of_firstOpening? {t before query inside : Text}
    (h : firstOpening? t = some (before, query, inside)) : ∀ c ∈ query, isQueryChar c = true := by
  induction t generalizing before with
  | nil => simp [firstOpening?] at h
  | cons c t ih =>
    cases ho : mediaOpening? (c :: t) with
    | some opening =>
      rw [firstOpening?, ho] at h
      obtain ⟨-, rfl, -⟩ := by simpa using h
      exact (mediaOpening?_eq_some_iff.mp ho).2.2
    | none =>
      rw [firstOpening?_cons_of_none ho] at h
      obtain ⟨⟨b, q, i⟩, hb, he⟩ := Option.map_eq_some_iff.mp h
      obtain ⟨-, rfl, rfl⟩ := by simpa using he
      exact ih hb

/-! ## The end of a block -/

theorem closesMedia_nil : closesMedia [] = true := by decide

theorem closesMedia_mediaWord_append (t : Text) : closesMedia (mediaWord ++ t) = true := by
  have hl : Text.trimLeft (mediaWord ++ t) = mediaWord ++ t := rfl
  rw [closesMedia, hl, Bool.or_eq_true]
  exact .inr (Text.startsWith_iff.mpr (List.prefix_append _ _))

theorem closesMedia_append_of_blank {w : Text} (hw : ∀ c ∈ w, isBlank c = true) (t : Text) :
    closesMedia (w ++ t) = closesMedia t := by
  rw [closesMedia, Text.trimLeft_append_of_blank hw, closesMedia]

theorem closesMedia_close (t : Text) : closesMedia ('}' :: t) = false := by
  rw [closesMedia, show Text.trimLeft ('}' :: t) = '}' :: t from rfl]
  rfl

theorem mediaContent?_append {s : Text} (hs : '}' ∉ s) (t : Text) :
    mediaContent? (s ++ t) = (mediaContent? t).map fun cut => (s ++ cut.1, cut.2) := by
  induction s with
  | nil => simp
  | cons c s ih =>
    simp only [List.mem_cons, not_or] at hs
    rw [List.cons_append, mediaContent?, if_neg fun h => hs.1 h.1.symm, ih hs.2, Option.map_map]
    rfl

theorem mediaContent?_close (t : Text) :
    mediaContent? ('}' :: t) =
      if closesMedia t then some ([], t)
      else (mediaContent? t).map fun cut => ('}' :: cut.1, cut.2) := by
  rw [mediaContent?]
  simp

theorem exists_mediaContent? {t : Text} (h : t.getLast? = some '}') :
    ∃ cut, mediaContent? t = some cut := by
  induction t with
  | nil => simp at h
  | cons c t ih =>
    rw [mediaContent?]
    split
    · exact ⟨_, rfl⟩
    · next hc =>
      cases t with
      | nil =>
        obtain rfl : c = '}' := by simpa using h
        exact absurd ⟨rfl, closesMedia_nil⟩ hc
      | cons d t =>
        obtain ⟨cut, hcut⟩ := ih (by simpa using h)
        exact ⟨_, by rw [hcut, Option.map_some]⟩

theorem closesMedia_of_mediaContent? {t content rest : Text}
    (h : mediaContent? t = some (content, rest)) : closesMedia rest = true := by
  induction t generalizing content with
  | nil => simp [mediaContent?] at h
  | cons c t ih =>
    rw [mediaContent?] at h
    split at h
    · next hc =>
      obtain ⟨-, rfl⟩ := by simpa using h
      exact hc.2
    · obtain ⟨⟨a, b⟩, hab, he⟩ := Option.map_eq_some_iff.mp h
      obtain ⟨-, rfl⟩ := by simpa using he
      exact ih hab

/-! ## All blocks -/

theorem isQueryChar_of_firstMedia? {t : Text} {cut : MediaCut} (h : firstMedia? t = some cut) :
    ∀ c ∈ cut.query, isQueryChar c = true := by
  obtain ⟨⟨before, query, inside⟩, ho, h⟩ := Option.bind_eq_some_iff.mp h
  obtain ⟨⟨content, rest⟩, -, rfl⟩ := Option.map_eq_some_iff.mp h
  exact isQueryChar_of_firstOpening? ho

theorem closesMedia_of_firstMedia? {t : Text} {cut : MediaCut} (h : firstMedia? t = some cut) :
    closesMedia cut.rest = true := by
  obtain ⟨⟨before, query, inside⟩, -, h⟩ := Option.bind_eq_some_iff.mp h
  obtain ⟨⟨content, rest⟩, hc, rfl⟩ := Option.map_eq_some_iff.mp h
  exact closesMedia_of_mediaContent? hc

theorem isInfix_of_firstMedia? {t : Text} {cut : MediaCut} (h : firstMedia? t = some cut) :
    cut.before <:+: t ∧ cut.query <:+: t ∧ cut.content <:+: t ∧ cut.rest <:+: t := by
  have he := eq_of_firstMedia? h
  refine ⟨⟨[], mediaWord ++ cut.query ++ '{' :: cut.content ++ '}' :: cut.rest, ?_⟩,
    ⟨cut.before ++ mediaWord, '{' :: cut.content ++ '}' :: cut.rest, ?_⟩,
    ⟨cut.before ++ mediaWord ++ cut.query ++ ['{'], '}' :: cut.rest, ?_⟩,
    ⟨cut.before ++ mediaWord ++ cut.query ++ '{' :: cut.content ++ ['}'], [], ?_⟩⟩
  all_goals
    conv_rhs => rw [he]
    simp

/-- Induction from one media block to what is behind it. -/
theorem media_induction {motive : Text → Prop}
    (last : ∀ t, firstMedia? t = none → motive t)
    (block : ∀ t cut, firstMedia? t = some cut → motive cut.rest → motive t) (t : Text) :
    motive t := by
  induction hn : t.length using Nat.strong_induction_on generalizing t with
  | _ n ih =>
    cases h : firstMedia? t with
    | none => exact last t h
    | some cut =>
      have hlt := length_lt_of_firstMedia? h
      exact block t cut h (ih _ (by omega) _ rfl)

theorem extractMedia_of_none {t : Text} (h : firstMedia? t = none) : extractMedia t = ([], t) := by
  rw [extractMedia]
  split
  · rfl
  · next h' => simp [h] at h'

theorem extractMedia_of_some {t : Text} {cut : MediaCut} (h : firstMedia? t = some cut) :
    extractMedia t =
      (⟨cut.query.trim, readRules cut.content⟩ :: (extractMedia cut.rest).1,
        cut.before ++ (extractMedia cut.rest).2) := by
  rw [extractMedia]
  split
  · next h' => simp [h] at h'
  · next h' =>
    obtain rfl := Option.some.inj (h.symm.trans h')
    rfl

theorem extractMedia_of_no_mediaWord {t : Text} (h : ¬ mediaWord <:+: t) :
    extractMedia t = ([], t) := by
  apply extractMedia_of_none
  rw [firstMedia?, firstOpening?_of_no_mediaWord h]
  rfl

theorem firstMedia?_append {s t : Text}
    (h : firstOpening? (s ++ t) = (firstOpening? t).map fun cut => (s ++ cut.1, cut.2)) :
    firstMedia? (s ++ t) =
      (firstMedia? t).map fun cut => ⟨s ++ cut.before, cut.query, cut.content, cut.rest⟩ := by
  rw [firstMedia?, h, firstMedia?]
  cases firstOpening? t with
  | none => rfl
  | some cut => cases hc : mediaContent? cut.2.2 <;> simp [hc]

theorem of_mem_extractMedia {t : Text} {block : MediaBlock} (h : block ∈ (extractMedia t).1) :
    ∃ query content, query <:+: t ∧ content <:+: t ∧ (∀ c ∈ query, isQueryChar c = true) ∧
      block = ⟨Text.trim query, readRules content⟩ := by
  induction t using media_induction with
  | last t ht => simp [extractMedia_of_none ht] at h
  | block t cut ht ih =>
    rw [extractMedia_of_some ht, List.mem_cons] at h
    obtain ⟨-, hquery, hcontent, hrest⟩ := isInfix_of_firstMedia? ht
    rcases h with rfl | h
    · exact ⟨cut.query, cut.content, hquery, hcontent, isQueryChar_of_firstMedia? ht, rfl⟩
    · obtain ⟨query, content, hq, hc, hchars, hblock⟩ := ih h
      exact ⟨query, content, hq.trans hrest, hc.trans hrest, hchars, hblock⟩

/-- A text before which nothing opens only goes in front of what is left. -/
theorem extractMedia_append {s t : Text}
    (h : firstOpening? (s ++ t) = (firstOpening? t).map fun cut => (s ++ cut.1, cut.2)) :
    extractMedia (s ++ t) = ((extractMedia t).1, s ++ (extractMedia t).2) := by
  have hm := firstMedia?_append h
  cases ht : firstMedia? t with
  | none =>
    rw [ht, Option.map_none] at hm
    rw [extractMedia_of_none hm, extractMedia_of_none ht]
  | some cut =>
    rw [ht, Option.map_some] at hm
    rw [extractMedia_of_some hm, extractMedia_of_some ht, List.append_assoc]

theorem extractMedia_append_of_blank {w : Text} (hw : ∀ c ∈ w, isBlank c = true) (t : Text) :
    extractMedia (w ++ t) = ((extractMedia t).1, w ++ (extractMedia t).2) := by
  apply extractMedia_append
  apply firstOpening?_append_of_notMem
  exact fun hc => absurd (hw _ hc) (by decide)

end WebTidy
