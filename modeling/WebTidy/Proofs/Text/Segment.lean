import WebTidy.Proofs.Text.Occurrence

/-!
# Segments that a piece does not touch

A piece of a text that cannot overlap a segment stands before the segment or behind it. Whether two
texts can overlap is seen from them alone, so it does not matter what else is in the text, nor what
the segment is replaced with.
-/

namespace WebTidy.Text

/-- The second text may start at some place of the first: from there on they agree as far as both
go. -/
def Meets (a b : Text) : Prop := ∃ u ∈ a.tails, u ≠ [] ∧ (u <+: b ∨ b <+: u)

instance (a b : Text) : Decidable (Meets a b) :=
  inferInstanceAs (Decidable (∃ u ∈ a.tails, u ≠ [] ∧ (u <+: b ∨ b <+: u)))

/-- The texts cannot overlap, so that neither stands in the other. -/
structure Apart (piece segment : Text) : Prop where
  not_meets : ¬ Meets piece segment
  not_met : ¬ Meets segment piece

instance (piece segment : Text) : Decidable (Apart piece segment) :=
  decidable_of_iff (¬ Meets piece segment ∧ ¬ Meets segment piece)
    ⟨fun h => ⟨h.1, h.2⟩, fun h => ⟨h.1, h.2⟩⟩

theorem Meets.map (f : Char → Char) {a b : Text} (h : Meets a b) : Meets (a.map f) (b.map f) := by
  obtain ⟨u, hu, hn, hb⟩ := h
  rw [List.mem_tails] at hu
  exact ⟨u.map f, (List.mem_tails _ _).mpr (hu.map f), by simpa using hn,
    hb.imp (fun h => h.map f) fun h => h.map f⟩

theorem Apart.of_map (f : Char → Char) {piece segment : Text}
    (h : Apart (piece.map f) (segment.map f)) : Apart piece segment :=
  ⟨fun hm => h.not_meets (hm.map f), fun hm => h.not_met (hm.map f)⟩

/-- Two texts with the same text behind them, one of which stands inside the other, meet. -/
theorem meets_of_append_eq {a b u s t : Text} (hu : u <:+ a) (hn : u ≠ [])
    (h : u ++ s = b ++ t) : Meets a b :=
  ⟨u, (List.mem_tails _ _).mpr hu, hn,
    List.prefix_or_prefix_of_prefix (List.prefix_append u s) (h ▸ List.prefix_append b t)⟩

variable {piece x s t : Text}

theorem isPrefix_segment_iff (h : ¬ Meets piece x) : piece <+: s ++ x ++ t ↔ piece <+: s := by
  constructor
  · rintro ⟨b, hb⟩
    rw [List.append_assoc] at hb
    rcases List.append_eq_append_iff.mp hb with ⟨c, hs, -⟩ | ⟨c, hp, hc⟩
    · exact ⟨c, hs.symm⟩
    · by_cases hn : c = []
      · simp [hp, hn]
      · exact absurd (meets_of_append_eq ⟨s, hp.symm⟩ hn hc.symm) h
  · intro hp
    exact hp.trans ((List.prefix_append s x).trans (List.prefix_append _ t))

namespace Apart

/-- A piece that does not touch the segment stands as it is on one side of it. -/
theorem append_eq {a b : Text} (h : Apart piece x) (he : s ++ x ++ t = a ++ piece ++ b) :
    (∃ r, s = a ++ piece ++ r ∧ b = r ++ x ++ t) ∨ ∃ r, t = r ++ piece ++ b ∧ a = s ++ x ++ r := by
  rw [List.append_assoc, List.append_assoc] at he
  rcases List.append_eq_append_iff.mp he with ⟨c, rfl, hc⟩ | ⟨c, rfl, hc⟩
  · rcases List.append_eq_append_iff.mp hc with ⟨r, rfl, hr⟩ | ⟨d, rfl, hd⟩
    · exact .inr ⟨r, by simp [hr], by simp⟩
    · by_cases hn : d = []
      · subst hn
        exact .inr ⟨[], by simpa using hd.symm, by simp⟩
      · exact absurd (meets_of_append_eq (List.suffix_append c d) hn hd.symm) h.not_met
  · rcases List.append_eq_append_iff.mp hc with ⟨r, rfl, hr⟩ | ⟨d, rfl, hd⟩
    · exact .inl ⟨r, by simp, by simp [hr]⟩
    · by_cases hn : d = []
      · subst hn
        exact .inl ⟨[], by simp, by simpa using hd.symm⟩
      · exact absurd (meets_of_append_eq (List.suffix_append c d) hn hd.symm) h.not_meets

theorem infix_iff (h : Apart piece x) : piece <:+: s ++ x ++ t ↔ piece <:+: s ∨ piece <:+: t := by
  constructor
  · rintro ⟨a, b, he⟩
    rcases h.append_eq he.symm with ⟨r, rfl, -⟩ | ⟨r, rfl, -⟩
    · exact .inl ⟨a, r, rfl⟩
    · exact .inr ⟨r, b, rfl⟩
  · rintro (hs | ht)
    · exact hs.trans ((List.prefix_append s x).trans (List.prefix_append _ t)).isInfix
    · exact ht.trans (List.suffix_append _ t).isInfix

end Apart

end WebTidy.Text
