import WebTidy.Proofs.Text.Trim

/-!
# Occurrences in joined texts

A piece of a joined text stands in one of its parts unless it holds what joins them, and a text
parts in one way only at its first character of a class.
-/

namespace WebTidy.Text

/-- A piece without the separator stands on one side of it. -/
theorem infix_append_cons_iff {piece s t : Text} {c : Char} (hc : c ∉ piece) :
    piece <:+: s ++ c :: t ↔ piece <:+: s ∨ piece <:+: t := by
  constructor
  · intro h
    rcases List.infix_append_iff.mp h with h | h | ⟨a, b, rfl, ha, hb⟩
    · exact .inl h
    · rcases List.infix_cons_iff.mp h with h | h
      · cases piece with
        | nil => exact .inl List.nil_infix
        | cons d piece =>
          obtain rfl := (List.cons_prefix_cons.mp h).1
          simp at hc
      · exact .inr h
    · cases b with
      | nil => exact .inl (by simpa using ha.isInfix)
      | cons d b =>
        obtain rfl := (List.cons_prefix_cons.mp hb).1
        simp at hc
  · rintro (h | h)
    · exact h.trans (List.prefix_append _ _).isInfix
    · exact h.trans ((List.suffix_cons c t).trans (List.suffix_append _ _)).isInfix

theorem infix_append_right_iff {piece w : Text} (hn : piece ≠ []) (hw : ∀ c ∈ w, c ∉ piece)
    (t : Text) : piece <:+: w ++ t ↔ piece <:+: t := by
  induction w with
  | nil => rfl
  | cons c w ih =>
    rw [List.cons_append, ← List.nil_append (c :: (w ++ t)),
      infix_append_cons_iff (hw c (by simp)), ih fun d hd => hw d (by simp [hd])]
    simp [hn]

theorem infix_append_left_iff {piece w : Text} (hn : piece ≠ []) (hw : ∀ c ∈ w, c ∉ piece)
    (t : Text) : piece <:+: t ++ w ↔ piece <:+: t := by
  cases w with
  | nil => rw [List.append_nil]
  | cons c w =>
    rw [infix_append_cons_iff (hw c (by simp)), or_iff_left]
    intro h
    obtain ⟨d, hd⟩ := List.exists_mem_of_ne_nil piece hn
    exact hw d (List.mem_cons_of_mem c (h.subset hd)) hd

theorem isPrefix_append_cons_iff {piece s t : Text} {c : Char} (hc : c ∉ piece) :
    piece <+: s ++ c :: t ↔ piece <+: s := by
  constructor
  · intro h
    rcases Nat.lt_or_ge s.length piece.length with hl | hl
    · have hs : s ++ [c] <+: piece := by
        refine List.prefix_of_prefix_length_le ?_ h ?_
        · exact ⟨t, by simp⟩
        · simpa using hl
      exact absurd (hs.subset (by simp)) hc
    · exact List.prefix_of_prefix_length_le h (List.prefix_append _ _) hl
  · exact fun h => h.trans (List.prefix_append _ _)

/-- Two ways to part a text at its first character in a class are one way. -/
theorem eq_of_append_cons_eq {p : Char → Bool} {a b s t : Text} {c d : Char}
    (ha : ∀ x ∈ a, p x = false) (hb : ∀ x ∈ b, p x = false) (hc : p c = true) (hd : p d = true)
    (h : a ++ c :: s = b ++ d :: t) : a = b ∧ c = d ∧ s = t := by
  induction a generalizing b with
  | nil =>
    cases b with
    | nil => simpa using h
    | cons x b =>
      obtain rfl : c = x := (List.cons_eq_cons.mp h).1
      simp [hb c (by simp)] at hc
  | cons x a ih =>
    cases b with
    | nil =>
      obtain rfl : x = d := (List.cons_eq_cons.mp h).1
      simp [ha x (by simp)] at hd
    | cons y b =>
      obtain ⟨rfl, hr⟩ := List.cons_eq_cons.mp h
      obtain ⟨rfl, hcd, hst⟩ := ih (fun z hz => ha z (by simp [hz]))
        (fun z hz => hb z (by simp [hz])) hr
      exact ⟨rfl, hcd, hst⟩

/-- Two ways to part a text at the first place of a character are one way. -/
theorem eq_of_append_cons_eq_of_notMem {a b s t : Text} {c : Char} (ha : c ∉ a) (hb : c ∉ b)
    (h : a ++ c :: s = b ++ c :: t) : a = b ∧ s = t := by
  have hfree : ∀ {u : Text}, c ∉ u → ∀ x ∈ u, (x == c) = false := by
    intro u hu x hx
    rw [beq_eq_false_iff_ne]
    rintro rfl
    exact hu hx
  obtain ⟨hab, -, hst⟩ := eq_of_append_cons_eq (p := (· == c)) (hfree ha) (hfree hb) (by simp)
    (by simp) h
  exact ⟨hab, hst⟩

/-- Induction along the pieces of a text between the places of a separator. -/
theorem separator_induction (c : Char) {motive : Text → Prop}
    (last : ∀ t, c ∉ t → motive t) (cut : ∀ s t, c ∉ s → motive t → motive (s ++ c :: t))
    (t : Text) : motive t := by
  induction hn : t.length using Nat.strong_induction_on generalizing t with
  | _ n ih =>
    by_cases h : c ∈ t
    · obtain ⟨s, u, rfl, hs⟩ := List.eq_append_cons_of_mem h
      exact cut s u hs (ih _ (by simp at hn; omega) u rfl)
    · exact last t h

theorem of_mem_splitOn {c : Char} {piece t : Text} (h : piece ∈ t.splitOn c) :
    c ∉ piece ∧ piece <:+: t := by
  induction t using separator_induction c with
  | last t ht =>
    rw [List.splitOn_eq_singleton ht, List.mem_singleton] at h
    subst h
    exact ⟨ht, List.infix_rfl⟩
  | cut s t hs ih =>
    rw [List.splitOn_append_cons_self_of_not_mem hs, List.mem_cons] at h
    rcases h with rfl | h
    · exact ⟨hs, (List.prefix_append _ _).isInfix⟩
    · have ht : t <:+ s ++ c :: t := (List.suffix_cons c t).trans (List.suffix_append _ _)
      exact ⟨(ih h).1, (ih h).2.trans ht.isInfix⟩

theorem after?_eq_none_iff {lead t : Text} : after? lead t = none ↔ ¬ lead <+: t := by
  rw [Option.eq_none_iff_forall_ne_some]
  constructor
  · rintro h ⟨rest, rfl⟩
    exact h rest (after?_eq_some_iff.mpr rfl)
  · intro h rest hr
    exact h ⟨rest, (after?_eq_some_iff.mp hr).symm⟩

theorem cutAround?_eq_none_iff {piece t : Text} (hp : piece ≠ []) :
    cutAround? piece t = none ↔ ¬ piece <:+: t := by
  induction t with
  | nil => simp [cutAround?, hp]
  | cons c t ih =>
    rw [cutAround?, List.infix_cons_iff]
    cases h : after? piece (c :: t) with
    | none => simp [ih, after?_eq_none_iff.mp h]
    | some rest => simp [after?_eq_some_iff.mp h]

/-- No place of the piece is before the one that is cut around. -/
theorem length_le_of_cutAround? {piece t before rest s u : Text}
    (h : cutAround? piece t = some (before, rest)) (ht : t = s ++ piece ++ u) :
    before.length ≤ s.length := by
  induction t generalizing before s with
  | nil => simp [cutAround?] at h
  | cons c t ih =>
    rw [cutAround?] at h
    split at h
    · simp only [Option.some.injEq, Prod.mk.injEq] at h
      simp [← h.1]
    · next hn =>
      obtain ⟨⟨b, r⟩, hb, he⟩ := Option.map_eq_some_iff.mp h
      obtain ⟨rfl, rfl⟩ := Prod.mk.inj he
      cases s with
      | nil => exact absurd ⟨u, by simpa using ht.symm⟩ (after?_eq_none_iff.mp hn)
      | cons d s =>
        have := ih hb (List.cons_eq_cons.mp ht).2
        simpa using this

/-- The first place of a piece in a text, by what stands before it and behind it. -/
structure FirstPlace (piece t before rest : Text) : Prop where
  split : t = before ++ piece ++ rest
  length_le : ∀ s u, t = s ++ piece ++ u → before.length ≤ s.length

theorem cutAround?_eq_some_iff {piece t before rest : Text} (hp : piece ≠ []) :
    cutAround? piece t = some (before, rest) ↔ FirstPlace piece t before rest := by
  constructor
  · exact fun h => ⟨eq_of_cutAround? h, fun _ _ => length_le_of_cutAround? h⟩
  · intro h
    cases hc : cutAround? piece t with
    | none => exact absurd ⟨before, rest, h.split.symm⟩ ((cutAround?_eq_none_iff hp).mp hc)
    | some cut =>
      obtain ⟨s, u⟩ := cut
      have hs := eq_of_cutAround? hc
      have hlength : before.length = s.length :=
        le_antisymm (h.length_le s u hs) (length_le_of_cutAround? hc h.split)
      have heq : before ++ (piece ++ rest) = s ++ (piece ++ u) := by
        rw [← List.append_assoc, ← h.split, hs, List.append_assoc]
      obtain ⟨rfl, hrest⟩ := List.append_inj heq hlength
      rw [List.append_cancel_left hrest]

end WebTidy.Text

namespace WebTidy

def Lacks (piece t : Text) : Prop := ¬ piece <:+: t

instance (piece : Text) : DecidablePred (Lacks piece) :=
  fun t => inferInstanceAs (Decidable (¬ piece <:+: t))

theorem Lacks.append_cons {piece s t : Text} {c : Char} (hs : Lacks piece s) (ht : Lacks piece t)
    (hc : c ∉ piece) : Lacks piece (s ++ c :: t) := by
  intro h
  rcases (Text.infix_append_cons_iff hc).mp h with h | h
  · exact hs h
  · exact ht h

/-- A piece that stands in neither part of a joined text takes characters on both sides. -/
theorem Lacks.exists_seam {piece s t : Text} (hs : Lacks piece s) (ht : Lacks piece t)
    (h : piece <:+: s ++ t) :
    ∃ c ∈ piece, ∃ d ∈ piece, s.getLast? = some c ∧ t.head? = some d := by
  rcases List.infix_append_iff.mp h with h | h | ⟨a, b, rfl, ⟨u, rfl⟩, ⟨v, rfl⟩⟩
  · exact absurd h hs
  · exact absurd h ht
  · cases hc : a.getLast? with
    | none =>
      obtain rfl := List.getLast?_eq_none_iff.mp hc
      exact absurd (List.prefix_append b v).isInfix ht
    | some c =>
      cases b with
      | nil =>
        rw [List.append_nil] at hs
        exact absurd (List.suffix_append u a).isInfix hs
      | cons d b =>
        refine ⟨c, List.mem_append_left _ (List.mem_of_getLast? hc), d, by simp, ?_, rfl⟩
        rw [List.getLast?_append, hc]
        rfl

theorem Lacks.of_isInfix {piece s t : Text} (ht : Lacks piece t) (h : s <:+: t) : Lacks piece s :=
  fun hs => ht (hs.trans h)

theorem Lacks.not_isPrefix {piece t : Text} (h : Lacks piece t) : ¬ piece <+: t :=
  fun hp => h hp.isInfix

end WebTidy
