import WebTidy.Proofs.Text.Occurrence
import WebTidy.Stylesheet.Rules

/-!
# The scan of flat rules

What `readRules` does is settled by the first two braces of the text. `brace_induction` goes by
the same five cases, so a fact about the scan needs one argument for each of them. Behind a text
that ends with a closing brace the scan starts afresh.
-/

namespace WebTidy

@[simp] theorem isBrace_open : isBrace '{' = true := rfl

@[simp] theorem isBrace_close : isBrace '}' = true := rfl

def BraceFree (t : Text) : Prop := ∀ c ∈ t, isBrace c = false

theorem braceFree_nil : BraceFree [] := by simp [BraceFree]

theorem braceFree_iff {t : Text} : BraceFree t ↔ '{' ∉ t ∧ '}' ∉ t := by
  constructor
  · intro h
    exact ⟨fun hc => absurd (h _ hc) (by simp), fun hc => absurd (h _ hc) (by simp)⟩
  · rintro ⟨ho, hc⟩ c hm
    simp only [isBrace, Bool.or_eq_false_iff, beq_eq_false_iff_ne]
    exact ⟨fun h => ho (h ▸ hm), fun h => hc (h ▸ hm)⟩

theorem BraceFree.append {s t : Text} (hs : BraceFree s) (ht : BraceFree t) :
    BraceFree (s ++ t) := by
  intro c hc
  rcases List.mem_append.mp hc with hc | hc
  · exact hs c hc
  · exact ht c hc

theorem BraceFree.takeWhile_append {s t : Text} {c : Char} (hs : BraceFree s)
    (hc : isBrace c = true) : (s ++ c :: t).takeWhile (!isBrace ·) = s := by
  rw [List.takeWhile_append_of_pos fun d hd => by simp [hs d hd]]
  simp [hc]

theorem BraceFree.dropWhile_append {s t : Text} {c : Char} (hs : BraceFree s)
    (hc : isBrace c = true) : (s ++ c :: t).dropWhile (!isBrace ·) = c :: t := by
  rw [List.dropWhile_append_of_pos fun d hd => by simp [hs d hd]]
  simp [hc]

theorem BraceFree.dropWhile_eq_nil {s : Text} (hs : BraceFree s) :
    s.dropWhile (!isBrace ·) = [] := by
  rw [List.dropWhile_eq_nil_iff]
  intro c hc
  simp [hs c hc]

/-- A text without braces, or the part before the first brace, that brace and the rest. -/
theorem braceFree_or_exists (t : Text) : BraceFree t ∨
    (∃ s u, BraceFree s ∧ t = s ++ '{' :: u) ∨ ∃ s u, BraceFree s ∧ t = s ++ '}' :: u := by
  induction t with
  | nil => exact .inl braceFree_nil
  | cons c t ih =>
    by_cases ho : c = '{'
    · exact .inr (.inl ⟨[], t, braceFree_nil, by simp [ho]⟩)
    by_cases hc : c = '}'
    · exact .inr (.inr ⟨[], t, braceFree_nil, by simp [hc]⟩)
    have hb : BraceFree [c] := by simp [BraceFree, isBrace, ho, hc]
    rcases ih with h | ⟨s, u, hs, rfl⟩ | ⟨s, u, hs, rfl⟩
    · exact .inl (hb.append h)
    · exact .inr (.inl ⟨c :: s, u, hb.append hs, rfl⟩)
    · exact .inr (.inr ⟨c :: s, u, hb.append hs, rfl⟩)

theorem readRules_of_braceFree {t : Text} (h : BraceFree t) : readRules t = [] := by
  rw [readRules]
  split
  · rfl
  · next hd => simp [h.dropWhile_eq_nil] at hd

theorem readRules_nil : readRules [] = [] := readRules_of_braceFree braceFree_nil

theorem readRules_close {s : Text} (hs : BraceFree s) (t : Text) :
    readRules (s ++ '}' :: t) = readRules t := by
  have h := hs.dropWhile_append (t := t) isBrace_close
  rw [readRules]
  split
  · next hd => simp [h] at hd
  · next hd =>
    rw [h] at hd
    obtain ⟨rfl, rfl⟩ := List.cons_eq_cons.mp hd
    simp

theorem readRules_unclosed {s b : Text} (hs : BraceFree s) (hb : BraceFree b) :
    readRules (s ++ '{' :: b) = [] := by
  have h := hs.dropWhile_append (t := b) isBrace_open
  rw [readRules]
  split
  · rfl
  · next hd =>
    rw [h] at hd
    obtain ⟨rfl, rfl⟩ := List.cons_eq_cons.mp hd
    simp only [if_true]
    split
    · rfl
    · next hi => simp [hb.dropWhile_eq_nil] at hi

theorem readRules_pair {s b : Text} (hs : BraceFree s) (hb : BraceFree b) (t : Text) :
    readRules (s ++ '{' :: (b ++ '}' :: t)) = (Rule.of? s b).toList ++ readRules t := by
  have h := hs.dropWhile_append (t := b ++ '}' :: t) isBrace_open
  have h' := hb.dropWhile_append (t := t) isBrace_close
  rw [readRules]
  split
  · next hd => simp [h] at hd
  · next hd =>
    rw [h] at hd
    obtain ⟨rfl, rfl⟩ := List.cons_eq_cons.mp hd
    simp only [if_true]
    split
    · next hi => simp [h'] at hi
    · next hi =>
      rw [h'] at hi
      obtain ⟨rfl, rfl⟩ := List.cons_eq_cons.mp hi
      rw [hs.takeWhile_append isBrace_open, hb.takeWhile_append isBrace_close]
      rfl

theorem readRules_nested {s b : Text} (hs : BraceFree s) (hb : BraceFree b) (t : Text) :
    readRules (s ++ '{' :: (b ++ '{' :: t)) = readRules (b ++ '{' :: t) := by
  have h := hs.dropWhile_append (t := b ++ '{' :: t) isBrace_open
  have h' := hb.dropWhile_append (t := t) isBrace_open
  rw [readRules]
  split
  · next hd => simp [h] at hd
  · next hd =>
    rw [h] at hd
    obtain ⟨rfl, rfl⟩ := List.cons_eq_cons.mp hd
    simp only [if_true]
    split
    · next hi => simp [h'] at hi
    · next hi =>
      rw [h'] at hi
      obtain ⟨rfl, rfl⟩ := List.cons_eq_cons.mp hi
      simp

/-- Induction along the scan: a text has no brace, closes first, leaves its only brace open, pairs
its first two braces, or opens twice. -/
theorem brace_induction {motive : Text → Prop}
    (free : ∀ s, BraceFree s → motive s)
    (close : ∀ s t, BraceFree s → motive t → motive (s ++ '}' :: t))
    (unclosed : ∀ s b, BraceFree s → BraceFree b → motive (s ++ '{' :: b))
    (pair : ∀ s b t, BraceFree s → BraceFree b → motive t → motive (s ++ '{' :: (b ++ '}' :: t)))
    (nested : ∀ s b t, BraceFree s → BraceFree b → motive (b ++ '{' :: t) →
      motive (s ++ '{' :: (b ++ '{' :: t)))
    (t : Text) : motive t := by
  induction hn : t.length using Nat.strong_induction_on generalizing t with
  | _ n ih =>
    rcases braceFree_or_exists t with h | ⟨s, u, hs, rfl⟩ | ⟨s, u, hs, rfl⟩
    · exact free t h
    · rcases braceFree_or_exists u with hu | ⟨b, v, hb, rfl⟩ | ⟨b, v, hb, rfl⟩
      · exact unclosed s u hs hu
      · exact nested s b v hs hb (ih _ (by simp at hn ⊢; omega) _ rfl)
      · exact pair s b v hs hb (ih _ (by simp at hn; omega) _ rfl)
    · exact close s u hs (ih _ (by simp at hn; omega) _ rfl)

/-- An empty text, or one that ends with a closing brace. -/
def EndsClosed (t : Text) : Prop := t = [] ∨ t.getLast? = some '}'

theorem EndsClosed.append_cons {t : Text} (h : EndsClosed t) (s : Text) :
    (s ++ '}' :: t).getLast? = some '}' := by
  rcases h with rfl | h
  · simp
  · rw [List.getLast?_append, List.getLast?_cons, h]
    rfl

theorem EndsClosed.of_append {s t : Text} (h : EndsClosed (s ++ t)) : EndsClosed t := by
  cases t with
  | nil => exact .inl rfl
  | cons c t =>
    rcases h with h | h
    · simp at h
    · rw [List.getLast?_append_of_ne_nil _ (by simp)] at h
      exact .inr h

theorem EndsClosed.of_cons {c : Char} {t : Text} (h : EndsClosed (c :: t)) : EndsClosed t :=
  EndsClosed.of_append (s := [c]) h

theorem EndsClosed.eq_nil {t : Text} (h : EndsClosed t) (hf : BraceFree t) : t = [] := by
  rcases h with h | h
  · exact h
  · exact absurd (List.mem_of_getLast? h) (braceFree_iff.mp hf).2

theorem readRules_append {p : Text} (h : EndsClosed p) (q : Text) :
    readRules (p ++ q) = readRules p ++ readRules q := by
  induction p using brace_induction with
  | free s hs =>
    rw [h.eq_nil hs, readRules_nil, List.nil_append, List.nil_append]
  | close s t hs ih =>
    rw [List.append_assoc, List.cons_append, readRules_close hs, readRules_close hs]
    exact ih h.of_append.of_cons
  | unclosed s b hs hb =>
    obtain rfl := h.of_append.of_cons.eq_nil hb
    rcases h.of_append with h | h <;> simp at h
  | pair s b t hs hb ih =>
    rw [show s ++ '{' :: (b ++ '}' :: t) ++ q = s ++ '{' :: (b ++ '}' :: (t ++ q)) by simp,
      readRules_pair hs hb, readRules_pair hs hb, ih h.of_append.of_cons.of_append.of_cons,
      List.append_assoc]
  | nested s b t hs hb ih =>
    rw [show s ++ '{' :: (b ++ '{' :: t) ++ q = s ++ '{' :: (b ++ '{' :: (t ++ q)) by simp,
      readRules_nested hs hb, readRules_nested hs hb, ← ih h.of_append.of_cons]
    simp

theorem of?_append_of_blank {w : Text} (hw : ∀ c ∈ w, isBlank c = true) (s b : Text) :
    Rule.of? (w ++ s) b = Rule.of? s b := by
  rw [Rule.of?, Text.trim_append_of_blank hw, Rule.of?]

theorem braceFree_of_blank {w : Text} (hw : ∀ c ∈ w, isBlank c = true) : BraceFree w := by
  rw [braceFree_iff]
  exact ⟨fun h => absurd (hw _ h) (by decide), fun h => absurd (hw _ h) (by decide)⟩

/-- Blanks before a text belong to no rule. -/
theorem readRules_append_of_blank {w : Text} (hw : ∀ c ∈ w, isBlank c = true) (t : Text) :
    readRules (w ++ t) = readRules t := by
  have hf := braceFree_of_blank hw
  induction t using brace_induction with
  | free s hs => rw [readRules_of_braceFree hs, readRules_of_braceFree (hf.append hs)]
  | close s t hs _ => rw [← List.append_assoc, readRules_close hs, readRules_close (hf.append hs)]
  | unclosed s b hs hb =>
    rw [← List.append_assoc, readRules_unclosed hs hb, readRules_unclosed (hf.append hs) hb]
  | pair s b t hs hb _ =>
    rw [← List.append_assoc, readRules_pair hs hb, readRules_pair (hf.append hs) hb,
      of?_append_of_blank hw]
  | nested s b t hs hb _ =>
    rw [← List.append_assoc, readRules_nested hs hb, readRules_nested (hf.append hs) hb]

end WebTidy
