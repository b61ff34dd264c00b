import WebTidy.Proofs.Text.Occurrence

/-!
# Leftmost shortest matches

A pattern is searched for from left to right. At the first place where it matches at all it takes
its shortest match, and the search goes on behind that match; a place where it does not match is
passed over by one character. No text has two such scans.
-/

namespace WebTidy

/-- A pattern of texts, by what a match captures: the text of a match, and what may follow it. -/
structure Pattern (α : Type) where
  text : α → Text
  fits : α → Text → Prop
  ne_nil : ∀ a, text a ≠ []
  captures_unique : ∀ {a b rest}, fits a rest → fits b rest → text a = text b → a = b

namespace Pattern

variable {α : Type} (p : Pattern α)

/-- The text starts with a match, and `rest` is what follows it. -/
structure Matches (t : Text) (a : α) (rest : Text) : Prop where
  split : t = p.text a ++ rest
  fits : p.fits a rest

def MatchesHead (t : Text) : Prop := ∃ a rest, p.Matches t a rest

structure Shortest (t : Text) (a : α) (rest : Text) : Prop extends p.Matches t a rest where
  length_le : ∀ b u, p.Matches t b u → (p.text a).length ≤ (p.text b).length

/-- The first match of a text, with what stands before it and behind it. -/
inductive First : Text → Text → α → Text → Prop
  | here {t rest : Text} {a : α} : p.Shortest t a rest → First t [] a rest
  | later {c : Char} {t lead rest : Text} {a : α} : ¬ p.MatchesHead (c :: t) →
      First t lead a rest → First (c :: t) (c :: lead) a rest

/-- The matches of a text in order, each with what stands between it and the one before, and the
text behind the last one, in which nothing matches anywhere. -/
inductive Scan : Text → List (Text × α) → Text → Prop
  | last {t : Text} : (∀ u, u <:+ t → ¬ p.MatchesHead u) → Scan t [] t
  | next {t lead rest tail : Text} {a : α} {cuts : List (Text × α)} : p.First t lead a rest →
      Scan rest cuts tail → Scan t ((lead, a) :: cuts) tail

variable {p}

theorem not_matchesHead_nil : ¬ p.MatchesHead [] := by
  rintro ⟨a, rest, hm⟩
  exact p.ne_nil a (List.append_eq_nil_iff.mp hm.split.symm).1

theorem Shortest.unique {t rest rest' : Text} {a a' : α} (h : p.Shortest t a rest)
    (h' : p.Shortest t a' rest') : a = a' ∧ rest = rest' := by
  have hlength : (p.text a).length = (p.text a').length :=
    le_antisymm (h.length_le a' rest' h'.toMatches) (h'.length_le a rest h.toMatches)
  have hsplit : p.text a ++ rest = p.text a' ++ rest' := by rw [← h.split, ← h'.split]
  obtain ⟨htext, rfl⟩ := List.append_inj hsplit hlength
  exact ⟨p.captures_unique h.fits h'.fits htext, rfl⟩

namespace First

variable {t lead rest : Text} {a : α}

theorem split (h : p.First t lead a rest) : t = lead ++ p.text a ++ rest := by
  induction h with
  | here hs => exact hs.split
  | later hn hf ih => rw [ih]; rfl

theorem exists_matchesHead (h : p.First t lead a rest) : ∃ u, u <:+ t ∧ p.MatchesHead u := by
  induction h with
  | here hs => exact ⟨_, List.suffix_rfl, _, _, hs.toMatches⟩
  | later hn hf ih =>
    obtain ⟨u, hu, hm⟩ := ih
    exact ⟨u, hu.trans (List.suffix_cons _ _), hm⟩

theorem unique (h : p.First t lead a rest) {lead' rest' : Text} {a' : α}
    (h' : p.First t lead' a' rest') : lead = lead' ∧ a = a' ∧ rest = rest' := by
  induction h generalizing lead' with
  | here hs =>
    cases h' with
    | here hs' => exact ⟨rfl, hs.unique hs'⟩
    | later hn _ => exact absurd ⟨_, _, hs.toMatches⟩ hn
  | later hn hf ih =>
    cases h' with
    | here hs' => exact absurd ⟨_, _, hs'.toMatches⟩ hn
    | later _ hf' =>
      obtain ⟨rfl, ha, hr⟩ := ih hf'
      exact ⟨rfl, ha, hr⟩

theorem length_lt (h : p.First t lead a rest) : rest.length < t.length := by
  have hpos := List.length_pos_iff.mpr (p.ne_nil a)
  have hlength := congrArg List.length h.split
  simp only [List.length_append] at hlength
  omega

end First

/-- A match is the first one if nothing matches at the places before it. -/
theorem Shortest.first_append {lead t rest : Text} {a : α} (h : p.Shortest t a rest)
    (hl : ∀ v, v <:+ lead → v ≠ [] → ¬ p.MatchesHead (v ++ t)) :
    p.First (lead ++ t) lead a rest := by
  induction lead with
  | nil => exact .here h
  | cons c lead ih =>
    refine .later (hl (c :: lead) List.suffix_rfl (by simp)) (ih fun v hv => ?_)
    exact hl v (hv.trans (List.suffix_cons c lead))

namespace Scan

variable {t tail : Text} {cuts : List (Text × α)}

/-- The matches and what stands between them are the whole text. -/
theorem split (h : p.Scan t cuts tail) :
    t = cuts.flatMap (fun cut => cut.1 ++ p.text cut.2) ++ tail := by
  induction h with
  | last hn => rfl
  | next hf hs ih =>
    rw [hf.split, ih, List.flatMap_cons]
    simp

theorem unique (h : p.Scan t cuts tail) {cuts' : List (Text × α)} {tail' : Text}
    (h' : p.Scan t cuts' tail') : cuts = cuts' ∧ tail = tail' := by
  induction h generalizing cuts' with
  | last hn =>
    cases h' with
    | last _ => exact ⟨rfl, rfl⟩
    | next hf _ =>
      obtain ⟨u, hu, hm⟩ := hf.exists_matchesHead
      exact absurd hm (hn u hu)
  | next hf hs ih =>
    cases h' with
    | last hn =>
      obtain ⟨u, hu, hm⟩ := hf.exists_matchesHead
      exact absurd hm (hn u hu)
    | next hf' hs' =>
      obtain ⟨rfl, rfl, rfl⟩ := hf.unique hf'
      obtain ⟨rfl, ht⟩ := ih hs'
      exact ⟨rfl, ht⟩

theorem scan_iff (h : p.Scan t cuts tail) (cuts' : List (Text × α)) (tail' : Text) :
    p.Scan t cuts' tail' ↔ cuts' = cuts ∧ tail' = tail := by
  constructor
  · exact fun h' => h'.unique h
  · rintro ⟨rfl, rfl⟩
    exact h

end Scan

end Pattern

end WebTidy
