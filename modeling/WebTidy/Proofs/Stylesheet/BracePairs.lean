import WebTidy.Proofs.Stylesheet.FlatRules

/-!
# Innermost pairs of braces

A text cut at its braces is a list of segments with one brace between neighbours. A segment is the
selector of a rule exactly when the two braces behind it open and close. So the rules of a text can
be read off brace by brace, and what the other braces do does not matter.
-/

namespace WebTidy

/-- What stands between the braces of a text, before the first and behind the last. -/
def segments (t : Text) : List Text := t.splitOnP isBrace

def braces (t : Text) : List Char := t.filter isBrace

/-- The rule at the `i`-th segment: the next two braces are a pair, the segment names something and
the one between the braces sets something. -/
def innermostRule? (t : Text) (i : Nat) : Option Rule :=
  (segments t)[i]?.bind fun selector => (segments t)[i + 1]?.bind fun body =>
    if (braces t)[i]? = some '{' ∧ (braces t)[i + 1]? = some '}' ∧ selector.trim ≠ [] ∧
        Declarations.ofBody body ≠ [] then
      some ⟨selector.trim, Declarations.ofBody body⟩
    else none

def innermostRules (t : Text) : List Rule :=
  (List.range (braces t).length).filterMap (innermostRule? t)

theorem braces_of_braceFree {s : Text} (hs : BraceFree s) : braces s = [] := by
  rw [braces, List.filter_eq_nil_iff]
  intro c hc
  simp [hs c hc]

theorem segments_of_braceFree {s : Text} (hs : BraceFree s) : segments s = [s] :=
  List.splitOnP_eq_singleton fun c hc => by simp [hs c hc]

theorem innermostRules_of_braceFree {s : Text} (hs : BraceFree s) : innermostRules s = [] := by
  rw [innermostRules, braces_of_braceFree hs]
  rfl

section Cut

variable {s : Text} (hs : BraceFree s) {c : Char} (hc : isBrace c = true) (t : Text)

include hs hc

theorem braces_append_cons : braces (s ++ c :: t) = c :: braces t := by
  have hnone := braces_of_braceFree hs
  rw [braces] at hnone
  rw [braces, List.filter_append, hnone, List.nil_append, List.filter_cons_of_pos hc, braces]

theorem segments_append_cons : segments (s ++ c :: t) = s :: segments t := by
  have hone := segments_of_braceFree hs
  rw [segments] at hone
  rw [segments, List.splitOnP_append_cons s t hc, hone, List.singleton_append, segments]

theorem innermostRule?_append_cons_succ (i : Nat) :
    innermostRule? (s ++ c :: t) (i + 1) = innermostRule? t i := by
  simp only [innermostRule?, segments_append_cons hs hc, braces_append_cons hs hc,
    List.getElem?_cons_succ]

theorem innermostRules_append_cons :
    innermostRules (s ++ c :: t) =
      (innermostRule? (s ++ c :: t) 0).toList ++ innermostRules t := by
  have hrest : innermostRule? (s ++ c :: t) ∘ Nat.succ = innermostRule? t :=
    funext fun i => innermostRule?_append_cons_succ hs hc t i
  rw [innermostRules, braces_append_cons hs hc, List.length_cons, List.range_succ_eq_map,
    List.filterMap_cons, List.filterMap_map, hrest, innermostRules]
  cases innermostRule? (s ++ c :: t) 0 <;> rfl

end Cut

/-- Induction along the braces of a text. -/
theorem brace_cut_induction {motive : Text → Prop} (free : ∀ s, BraceFree s → motive s)
    (cut : ∀ s c t, BraceFree s → isBrace c = true → motive t → motive (s ++ c :: t))
    (t : Text) : motive t := by
  induction t using brace_induction with
  | free s hs => exact free s hs
  | close s t hs ih => exact cut s '}' t hs isBrace_close ih
  | unclosed s b hs hb => exact cut s '{' b hs isBrace_open (free b hb)
  | pair s b t hs hb ih =>
    exact cut s '{' _ hs isBrace_open (cut b '}' t hb isBrace_close ih)
  | nested s b t hs hb ih => exact cut s '{' _ hs isBrace_open ih

theorem braceFree_of_mem_segments {s t : Text} (h : s ∈ segments t) : BraceFree s := by
  induction t using brace_cut_induction with
  | free u hu =>
    rw [segments_of_braceFree hu, List.mem_singleton] at h
    rwa [h]
  | cut u c t hu hc ih =>
    rw [segments_append_cons hu hc, List.mem_cons] at h
    rcases h with rfl | h
    · exact hu
    · exact ih h

/-- A text is its first segment and each of its braces with the segment behind it. -/
theorem exists_segments_eq_cons (t : Text) :
    ∃ first rest, segments t = first :: rest ∧ rest.length = (braces t).length ∧
      t = first ++ ((braces t).zip rest).flatMap fun part => part.1 :: part.2 := by
  induction t using brace_cut_induction with
  | free s hs =>
    exact ⟨s, [], segments_of_braceFree hs, by simp [braces_of_braceFree hs], by simp⟩
  | cut s c t hs hc ih =>
    obtain ⟨first, rest, hsegments, hlength, ht⟩ := ih
    refine ⟨s, first :: rest, by rw [segments_append_cons hs hc, hsegments], ?_, ?_⟩
    · rw [braces_append_cons hs hc, List.length_cons, List.length_cons, hlength]
    · rw [braces_append_cons hs hc, List.zip_cons_cons, List.flatMap_cons, List.cons_append, ← ht]

section Head

variable {s b : Text} (hs : BraceFree s) (hb : BraceFree b) (t : Text)

include hs

theorem innermostRule?_close : innermostRule? (s ++ '}' :: t) 0 = none := by
  simp [innermostRule?, braces_append_cons hs isBrace_close]

include hb

theorem innermostRule?_unclosed : innermostRule? (s ++ '{' :: b) 0 = none := by
  simp [innermostRule?, braces_append_cons hs isBrace_open, braces_of_braceFree hb]

theorem innermostRule?_nested : innermostRule? (s ++ '{' :: (b ++ '{' :: t)) 0 = none := by
  simp [innermostRule?, braces_append_cons hs isBrace_open, braces_append_cons hb isBrace_open]

theorem innermostRule?_pair : innermostRule? (s ++ '{' :: (b ++ '}' :: t)) 0 = Rule.of? s b := by
  simp only [innermostRule?, segments_append_cons hs isBrace_open,
    segments_append_cons hb isBrace_close, braces_append_cons hs isBrace_open,
    braces_append_cons hb isBrace_close, List.getElem?_cons_zero, List.getElem?_cons_succ,
    Option.bind_some, Rule.of?]
  by_cases hn : s.trim = [] <;> by_cases hd : Declarations.ofBody b = [] <;> simp [hn, hd]

end Head

theorem readRules_eq_innermostRules (t : Text) : readRules t = innermostRules t := by
  induction t using brace_induction with
  | free s hs => rw [readRules_of_braceFree hs, innermostRules_of_braceFree hs]
  | close s t hs ih =>
    rw [readRules_close hs, ih, innermostRules_append_cons hs isBrace_close,
      innermostRule?_close hs]
    rfl
  | unclosed s b hs hb =>
    rw [readRules_unclosed hs hb, innermostRules_append_cons hs isBrace_open,
      innermostRule?_unclosed hs hb, innermostRules_of_braceFree hb]
    rfl
  | pair s b t hs hb ih =>
    rw [readRules_pair hs hb, ih, innermostRules_append_cons hs isBrace_open,
      innermostRule?_pair hs hb, innermostRules_append_cons hb isBrace_close,
      innermostRule?_close hb]
    rfl
  | nested s b t hs hb ih =>
    rw [readRules_nested hs hb, ih, innermostRules_append_cons hs isBrace_open,
      innermostRule?_nested hs hb]
    rfl

/-- Behind any brace the scan starts afresh if an opening brace comes next. -/
theorem readRules_append_cons {c : Char} (hc : isBrace c = true) {s : Text} (hs : BraceFree s)
    (p t : Text) :
    readRules (p ++ c :: (s ++ '{' :: t)) = readRules (p ++ [c]) ++ readRules (s ++ '{' :: t) := by
  have hcases : c = '{' ∨ c = '}' := by simpa [isBrace] using hc
  induction p using brace_induction with
  | free r hr =>
    rcases hcases with rfl | rfl
    · rw [readRules_nested hr hs, readRules_unclosed hr braceFree_nil, List.nil_append]
    · rw [readRules_close hr, readRules_close hr, readRules_nil, List.nil_append]
  | close r u hr ih =>
    rw [List.append_assoc, List.append_assoc, List.cons_append, List.cons_append,
      readRules_close hr, readRules_close hr, ih]
  | unclosed r b hr hb =>
    rw [List.append_assoc, List.append_assoc, List.cons_append, List.cons_append]
    rcases hcases with rfl | rfl
    · rw [readRules_nested hr hb, readRules_nested hb hs, readRules_nested hr hb,
        readRules_unclosed hb braceFree_nil, List.nil_append]
    · rw [readRules_pair hr hb, readRules_pair hr hb, readRules_nil, List.append_nil]
  | pair r b u hr hb ih =>
    have hsplit : ∀ v, r ++ '{' :: (b ++ '}' :: u) ++ v = r ++ '{' :: (b ++ '}' :: (u ++ v)) := by
      simp
    rw [hsplit, hsplit, readRules_pair hr hb, readRules_pair hr hb, ih, List.append_assoc]
  | nested r b u hr hb ih =>
    have hsplit : ∀ v, r ++ '{' :: (b ++ '{' :: u) ++ v = r ++ '{' :: (b ++ '{' :: (u ++ v)) := by
      simp
    have hinner : ∀ v, b ++ '{' :: u ++ v = b ++ '{' :: (u ++ v) := by simp
    rw [hsplit, hsplit, readRules_nested hr hb, readRules_nested hr hb, ← hinner, ← hinner, ih]

/-- A text cut at its braces has the rules of its innermost pairs of braces, in order. Such a pair
is read wherever it stands, and what is in front of the brace before it and behind the pair is read
as it would be alone. -/
theorem readRules_innermost (t : Text) :
    (∃ first rest, segments t = first :: rest ∧ rest.length = (braces t).length ∧
        (∀ s ∈ segments t, BraceFree s) ∧
        t = first ++ ((braces t).zip rest).flatMap fun part => part.1 :: part.2) ∧
      readRules t = innermostRules t ∧
      ∀ p c s b u, isBrace c = true → BraceFree s → BraceFree b →
        t = p ++ c :: (s ++ '{' :: (b ++ '}' :: u)) →
        readRules t = readRules (p ++ [c]) ++ (Rule.of? s b).toList ++ readRules u := by
  obtain ⟨first, rest, hsegments, hlength, ht⟩ := exists_segments_eq_cons t
  refine ⟨⟨first, rest, hsegments, hlength, fun s => braceFree_of_mem_segments, ht⟩,
    readRules_eq_innermostRules t, ?_⟩
  rintro p c s b u hc hs hb rfl
  rw [readRules_append_cons hc hs, readRules_pair hs hb, List.append_assoc]

/-- Only `b` stands before an innermost pair that sets something. -/
example :
    (innermostRules "a\x7bb\x7bc:d\x7d\x7de\x7b;\x7d".toList).map Rule.selector = [['b']] := by
  decide +kernel

end WebTidy
