import WebTidy.Checks.LineRule
import WebTidy.Proofs.Markup.Literals
import WebTidy.Proofs.Text.Segment

/-!
# Class attributes on a line

A class attribute is the word, an equals sign and a quoted value. The search finds the first one of
a line, whatever stands before and behind it.
-/

namespace WebTidy

def classWord : Text := "class=".toList

theorem classWord_ne_nil : classWord ≠ [] := by decide

theorem isQuote_iff {c : Char} : isQuote c = true ↔ c = '"' ∨ c = '\'' := by
  simp [isQuote]

/-- A value between two quotes, together with them. -/
def QuotedValue (value : Text) : Prop :=
  ∃ opening body closing, isQuote opening = true ∧ isQuote closing = true ∧ QuoteFree body ∧
    value = opening :: (body ++ [closing])

theorem exists_firstQuote {t : Text} (h : ¬ QuoteFree t) :
    ∃ body q rest, QuoteFree body ∧ isQuote q = true ∧ t = body ++ q :: rest := by
  have hn : t.dropWhile (!isQuote ·) ≠ [] := by
    rw [ne_eq, List.dropWhile_eq_nil_iff]
    simpa [QuoteFree] using h
  obtain ⟨q, rest, hq⟩ := List.exists_cons_of_ne_nil hn
  have hquote := List.head_dropWhile_not (!isQuote ·) hn
  have hsplit := List.takeWhile_append_dropWhile (p := (!isQuote ·)) (l := t)
  simp only [hq, List.head_cons, Bool.not_eq_false'] at hquote
  rw [hq] at hsplit
  exact ⟨_, q, rest, fun c hc => by simpa using List.mem_takeWhile_imp hc, hquote, hsplit.symm⟩

theorem after?_classWord (t : Text) : Text.after? "class=".toList (classWord ++ t) = some t :=
  Text.after?_eq_some_iff.mpr rfl

theorem classLiteral?_unclosed {t : Text} (h : QuoteFree t) (opening : Char) :
    classLiteral? (classWord ++ opening :: t) = none := by
  have hdrop : t.dropWhile (!isQuote ·) = [] := by
    rw [List.dropWhile_eq_nil_iff]
    intro c hc
    simp [h c hc]
  rw [classLiteral?, after?_classWord]
  simp only [Option.bind_some, hdrop]

theorem classLiteral?_closed {body : Text} (hbody : QuoteFree body) {closing : Char}
    (hclosing : isQuote closing = true) (opening : Char) (rest : Text) :
    classLiteral? (classWord ++ opening :: (body ++ closing :: rest)) =
      if isQuote opening then some (opening :: (body ++ [closing])) else none := by
  rw [classLiteral?, after?_classWord]
  simp only [Option.bind_some, hbody.takeWhile_append hclosing, hbody.dropWhile_append hclosing]
  rfl

theorem classWord_append_quoted (opening : Char) (body : Text) (closing : Char) (rest : Text) :
    classWord ++ opening :: (body ++ [closing]) ++ rest =
      classWord ++ opening :: (body ++ closing :: rest) := by
  rw [List.append_assoc, List.cons_append, List.append_assoc, List.singleton_append]

theorem classLiteral?_eq_some_iff {t value : Text} :
    classLiteral? t = some value ↔ QuotedValue value ∧ classWord ++ value <+: t := by
  constructor
  · intro h
    obtain ⟨u, hu, hvalue⟩ := Option.bind_eq_some_iff.mp h
    obtain rfl := Text.after?_eq_some_iff.mp hu
    cases u with
    | nil => cases hvalue
    | cons opening u =>
      change classLiteral? (classWord ++ opening :: u) = some value at h
      by_cases hfree : QuoteFree u
      · rw [classLiteral?_unclosed hfree] at h
        cases h
      · obtain ⟨body, closing, rest, hbody, hclosing, rfl⟩ := exists_firstQuote hfree
        rw [classLiteral?_closed hbody hclosing] at h
        split at h
        · next hopening =>
          obtain rfl := Option.some.inj h
          exact ⟨⟨opening, body, closing, hopening, hclosing, hbody, rfl⟩, rest,
            classWord_append_quoted opening body closing rest⟩
        · cases h
  · rintro ⟨⟨opening, body, closing, hopening, hclosing, hbody, rfl⟩, rest, rfl⟩
    have hclosed := classLiteral?_closed hbody hclosing opening rest
    rw [classWord_append_quoted, hclosed, if_pos hopening]

theorem firstClassLiteral?_of_none {c : Char} {t : Text} (h : classLiteral? (c :: t) = none) :
    firstClassLiteral? (c :: t) = firstClassLiteral? t := by
  rw [firstClassLiteral?, h, Option.none_or]

theorem firstClassLiteral?_of_some {t value : Text} (h : classLiteral? t = some value) :
    firstClassLiteral? t = some value := by
  cases t with
  | nil => cases h
  | cons c t => rw [firstClassLiteral?, h, Option.some_or]

/-! ## The first class attribute -/

/-- The first class attribute of a line, with what stands before it and behind it. -/
structure FirstClassLiteral (line lead value rest : Text) : Prop where
  split : line = lead ++ (classWord ++ value) ++ rest
  quoted : QuotedValue value
  length_le : ∀ a v b, QuotedValue v → line = a ++ (classWord ++ v) ++ b → lead.length ≤ a.length

theorem FirstClassLiteral.firstClassLiteral?_eq_some {line lead value rest : Text}
    (h : FirstClassLiteral line lead value rest) : firstClassLiteral? line = some value := by
  induction lead generalizing line with
  | nil =>
    apply firstClassLiteral?_of_some
    exact classLiteral?_eq_some_iff.mpr ⟨h.quoted, rest, h.split.symm⟩
  | cons c lead ih =>
    obtain ⟨split, quoted, length_le⟩ := h
    subst split
    have hnone : classLiteral? (c :: (lead ++ (classWord ++ value) ++ rest)) = none := by
      rw [Option.eq_none_iff_forall_ne_some]
      intro v hv
      obtain ⟨hquoted, b, hb⟩ := classLiteral?_eq_some_iff.mp hv
      have hlength := length_le [] v b hquoted hb.symm
      simp at hlength
    rw [List.cons_append, List.cons_append, firstClassLiteral?_of_none hnone]
    refine ih ⟨rfl, quoted, fun a v b hv hsplit => ?_⟩
    have hlength := length_le (c :: a) v b hv (by simp [hsplit])
    simpa using hlength

theorem exists_firstClassLiteral {line value : Text} (h : firstClassLiteral? line = some value) :
    ∃ lead rest, FirstClassLiteral line lead value rest := by
  induction line with
  | nil => cases h
  | cons c t ih =>
    cases hc : classLiteral? (c :: t) with
    | some v =>
      rw [firstClassLiteral?_of_some hc] at h
      obtain rfl := Option.some.inj h
      obtain ⟨hquoted, rest, hrest⟩ := classLiteral?_eq_some_iff.mp hc
      exact ⟨[], rest, hrest.symm, hquoted, fun _ _ _ _ _ => Nat.zero_le _⟩
    | none =>
      rw [firstClassLiteral?_of_none hc] at h
      obtain ⟨lead, rest, hfirst⟩ := ih h
      refine ⟨c :: lead, rest, by simp [hfirst.split], hfirst.quoted, fun a v b hv hsplit => ?_⟩
      cases a with
      | nil =>
        have hv := classLiteral?_eq_some_iff.mpr ⟨hv, b, hsplit.symm⟩
        rw [hc] at hv
        cases hv
      | cons d a =>
        have hlength := hfirst.length_le a v b hv (List.cons_eq_cons.mp hsplit).2
        simpa using hlength

theorem firstClassLiteral?_eq_some_iff {line value : Text} : firstClassLiteral? line = some value ↔
    ∃ lead rest, FirstClassLiteral line lead value rest :=
  ⟨exists_firstClassLiteral, fun ⟨_, _, h⟩ => h.firstClassLiteral?_eq_some⟩

/-! ## Whether there is one -/

def HasClassLiteral (line : Text) : Prop :=
  ∃ value, QuotedValue value ∧ classWord ++ value <:+: line

theorem isSome_firstClassLiteral?_iff {line : Text} :
    (firstClassLiteral? line).isSome ↔ HasClassLiteral line := by
  induction line with
  | nil =>
    have hnone : ¬ HasClassLiteral [] := by
      rintro ⟨value, -, h⟩
      exact classWord_ne_nil (List.append_eq_nil_iff.mp (List.infix_nil.mp h)).1
    simp [firstClassLiteral?, hnone]
  | cons c t ih =>
    have hhead : (classLiteral? (c :: t)).isSome ↔
        ∃ value, QuotedValue value ∧ classWord ++ value <+: c :: t := by
      simp only [Option.isSome_iff_exists, classLiteral?_eq_some_iff]
    rw [firstClassLiteral?, Option.isSome_or, Bool.or_eq_true, ih, hhead]
    simp only [HasClassLiteral, List.infix_cons_iff, and_or_left, exists_or]

/-- There is a class attribute exactly if one opens and has a quote behind the first. -/
theorem hasClassLiteral_iff {line : Text} : HasClassLiteral line ↔
    ∃ a q b, isQuote q = true ∧ ¬ QuoteFree b ∧ line = a ++ (classWord ++ [q]) ++ b := by
  constructor
  · rintro ⟨value, ⟨q, body, closing, hq, hclosing, -, rfl⟩, a, b, hsplit⟩
    refine ⟨a, q, body ++ closing :: b, hq, fun hfree => ?_, by simp [← hsplit]⟩
    simp [hfree closing (by simp)] at hclosing
  · rintro ⟨a, q, b, hq, hb, rfl⟩
    obtain ⟨body, closing, rest, hbody, hclosing, rfl⟩ := exists_firstQuote hb
    exact ⟨_, ⟨q, body, closing, hq, hclosing, hbody, rfl⟩, a, rest, by simp⟩

/-- A segment that has no quote and cannot overlap the opening of a class attribute does not matter
to whether there is one. -/
theorem HasClassLiteral.replace {x s t : Text} (hx : QuoteFree x)
    (hapart : ∀ q, isQuote q = true → Text.Apart (classWord ++ [q]) x)
    (h : HasClassLiteral (s ++ x ++ t)) (y : Text) : HasClassLiteral (s ++ y ++ t) := by
  rw [hasClassLiteral_iff] at h ⊢
  obtain ⟨a, q, b, hq, hb, hsplit⟩ := h
  rcases (hapart q hq).append_eq hsplit with ⟨r, rfl, rfl⟩ | ⟨r, rfl, rfl⟩
  · refine ⟨a, q, r ++ y ++ t, hq, fun hfree => hb fun c hc => ?_, by simp⟩
    simp only [List.mem_append] at hc
    rcases hc with (hc | hc) | hc
    · exact hfree c (by simp [hc])
    · exact hx c hc
    · exact hfree c (by simp [hc])
  · exact ⟨s ++ y ++ r, q, b, hq, hb, by simp⟩

/-! ## What stands around it -/

theorem firstClassLiteral?_append_right {w : Text} (hw : 'c' ∉ w) (t : Text) :
    firstClassLiteral? (w ++ t) = firstClassLiteral? t := by
  induction w with
  | nil => rfl
  | cons c w ih =>
    have hnone : classLiteral? (c :: (w ++ t)) = none := by
      rw [Option.eq_none_iff_forall_ne_some]
      intro value hvalue
      obtain ⟨b, hb⟩ := (classLiteral?_eq_some_iff.mp hvalue).2
      obtain rfl : 'c' = c := (List.cons_eq_cons.mp hb).1
      exact hw (by simp)
    rw [List.cons_append, firstClassLiteral?_of_none hnone, ih fun hc => hw (by simp [hc])]

theorem classLiteral?_append_left {v : Text} (hv : QuoteFree v) (t : Text) :
    classLiteral? (t ++ v) = classLiteral? t := by
  refine Option.ext fun value => ?_
  simp only [classLiteral?_eq_some_iff]
  refine and_congr_right fun hquoted =>
    ⟨fun ⟨b, hb⟩ => ?_, fun h => h.trans (List.prefix_append t v)⟩
  obtain ⟨q, body, closing, -, hclosing, -, rfl⟩ := hquoted
  rcases List.append_eq_append_iff.mp hb with ⟨r, ht, -⟩ | ⟨r, ht, rfl⟩
  · exact ⟨r, ht.symm⟩
  · -- otherwise the closing quote would stand in what is put behind
    cases hlast : r.getLast? with
    | none =>
      obtain rfl := List.getLast?_eq_none_iff.mp hlast
      exact ⟨[], by simpa using ht⟩
    | some d =>
      have hend : (classWord ++ q :: (body ++ [closing])).getLast? = some closing := by
        rw [← List.cons_append, ← List.append_assoc, List.getLast?_concat]
      rw [ht, List.getLast?_append, hlast] at hend
      obtain rfl : d = closing := by simpa using hend
      have hfree := hv d (List.mem_append_left b (List.mem_of_getLast? hlast))
      simp [hclosing] at hfree

theorem firstClassLiteral?_append_left {v : Text} (hv : QuoteFree v) (t : Text) :
    firstClassLiteral? (t ++ v) = firstClassLiteral? t := by
  induction t with
  | nil =>
    cases hfirst : firstClassLiteral? v with
    | none => exact hfirst
    | some value =>
      obtain ⟨lead, rest, h⟩ := exists_firstClassLiteral hfirst
      obtain ⟨q, body, closing, hq, -, -, rfl⟩ := h.quoted
      simp [hv q (by simp [h.split])] at hq
  | cons c t ih =>
    rw [List.cons_append, firstClassLiteral?, ih, ← List.cons_append, classLiteral?_append_left hv,
      firstClassLiteral?]

end WebTidy
