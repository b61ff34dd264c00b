import WebTidy.Markup.ClassUse
import WebTidy.Proofs.Text.Occurrence

/-!
# Literals of an expression

A text cut at its quotes is what stands before the first one, and each quote with what stands
between it and the next. The scan for literals goes from quote to quote: what stands behind one is a
literal if it is not empty and another quote follows, and then that quote opens nothing. An empty
literal is none, so the scan takes its second quote for an opening one. Whether a quote is open
behind a text, and with text behind it, decides what the next quote does.
-/

namespace WebTidy

def QuoteFree (t : Text) : Prop := ∀ c ∈ t, isQuote c = false

instance : DecidablePred QuoteFree := fun t =>
  decidable_of_iff (t.all (!isQuote ·) = true) (by simp [QuoteFree])

theorem QuoteFree.takeWhile_append {s t : Text} {q : Char} (hs : QuoteFree s)
    (hq : isQuote q = true) : (s ++ q :: t).takeWhile (!isQuote ·) = s := by
  rw [List.takeWhile_append_of_pos fun c hc => by simp [hs c hc]]
  simp [hq]

theorem QuoteFree.dropWhile_append {s t : Text} {q : Char} (hs : QuoteFree s)
    (hq : isQuote q = true) : (s ++ q :: t).dropWhile (!isQuote ·) = q :: t := by
  rw [List.dropWhile_append_of_pos fun c hc => by simp [hs c hc]]
  simp [hq]

theorem literal?_of_not_quote {c : Char} (hc : isQuote c = false) (t : Text) :
    literal? (c :: t) = none := by
  simp [literal?, hc]

/-- A literal needs a second quote. -/
theorem literal?_unclosed {s : Text} (hs : QuoteFree s) (q : Char) : literal? (q :: s) = none := by
  have hdrop : s.dropWhile (!isQuote ·) = [] := by
    rw [List.dropWhile_eq_nil_iff]
    intro c hc
    simp [hs c hc]
  simp [literal?, hdrop]

theorem literal?_quoted {q q' : Char} (hq : isQuote q = true) (hq' : isQuote q' = true) {s : Text}
    (hs : QuoteFree s) (t : Text) :
    literal? (q :: (s ++ q' :: t)) = if s = [] then none else some s := by
  rw [literal?, hs.takeWhile_append hq', hs.dropWhile_append hq']
  by_cases hn : s = [] <;> simp [hq, hn]

theorem eq_of_literal? {t content : Text} (h : literal? t = some content) :
    ∃ q q' rest, isQuote q = true ∧ isQuote q' = true ∧ content ≠ [] ∧ QuoteFree content ∧
      t = q :: (content ++ q' :: rest) := by
  cases t with
  | nil => simp [literal?] at h
  | cons q t =>
    rw [literal?] at h
    split at h
    · next hc =>
      obtain ⟨hq, hn, hd⟩ := hc
      obtain rfl := Option.some.inj h
      obtain ⟨q', rest, hr⟩ := List.exists_cons_of_ne_nil hd
      have hq' := List.head_dropWhile_not (!isQuote ·) hd
      have hsplit := List.takeWhile_append_dropWhile (p := (!isQuote ·)) (l := t)
      rw [hr] at hsplit
      simp only [hr, List.head_cons, Bool.not_eq_false'] at hq'
      refine ⟨q, q', rest, hq, hq', hn, ?_, by rw [hsplit]⟩
      intro c hc
      simpa using List.mem_takeWhile_imp hc
    · simp at h

/-! ## The scan along the quotes -/

theorem literalsAfter_append (s t : Text) :
    literalsAfter s.length (s ++ t) = literalsAfter 0 t := by
  induction s with
  | nil => rfl
  | cons c s ih => exact ih

theorem literalsAfter_quoteFree_append {s : Text} (hs : QuoteFree s) (t : Text) :
    literalsAfter 0 (s ++ t) = literalsAfter 0 t := by
  induction s with
  | nil => rfl
  | cons c s ih =>
    have hc : isQuote c = false := hs c (by simp)
    rw [List.cons_append, literalsAfter, literal?_of_not_quote hc]
    exact ih fun d hd => hs d (by simp [hd])

theorem literals_cons_of_not_quote {c : Char} (hc : isQuote c = false) (t : Text) :
    literals (c :: t) = literals t := by
  have hfree : QuoteFree [c] := fun d hd => by rwa [List.mem_singleton.mp hd]
  exact literalsAfter_quoteFree_append hfree t

theorem literals_of_quoteFree {s : Text} (hs : QuoteFree s) : literals s = [] := by
  have h := literalsAfter_quoteFree_append hs []
  rw [List.append_nil] at h
  exact h

theorem literalsAfter_unclosed {s : Text} (hs : QuoteFree s) (q : Char) :
    literalsAfter 0 (q :: s) = [] := by
  rw [literalsAfter, literal?_unclosed hs]
  exact literals_of_quoteFree hs

theorem literalsAfter_empty {q q' : Char} (hq : isQuote q = true) (hq' : isQuote q' = true)
    (t : Text) : literalsAfter 0 (q :: q' :: t) = literalsAfter 0 (q' :: t) := by
  have hl : literal? (q :: q' :: t) = none := by
    simpa using literal?_quoted hq hq' (s := []) (by simp [QuoteFree]) t
  rw [literalsAfter, hl]

theorem literalsAfter_quoted {q q' : Char} (hq : isQuote q = true) (hq' : isQuote q' = true)
    {s : Text} (hs : QuoteFree s) (hn : s ≠ []) (t : Text) :
    literalsAfter 0 (q :: (s ++ q' :: t)) = s :: literalsAfter 0 t := by
  have hl : literal? (q :: (s ++ q' :: t)) = some s := by
    rw [literal?_quoted hq hq' hs, if_neg hn]
  have hskip : literalsAfter (s.length + 1) (s ++ q' :: t) = literalsAfter 0 t := by
    have h := literalsAfter_append (s ++ [q']) t
    simpa using h
  rw [literalsAfter, hl]
  exact congrArg (s :: ·) hskip

/-! ## Quotes left open -/

/-- What the scan for literals has open: no quote, a quote with nothing behind it yet, or a quote
with some text behind it. -/
inductive QuoteState where
  | closed
  | opened
  | filled
  deriving DecidableEq, Repr

def QuoteState.step : QuoteState → Char → QuoteState
  | closed, c => if isQuote c then opened else closed
  | opened, c => if isQuote c then opened else filled
  | filled, c => if isQuote c then closed else filled

def quoteState (t : Text) : QuoteState := t.foldl QuoteState.step .closed

theorem quoteState_concat (t : Text) (c : Char) :
    quoteState (t ++ [c]) = (quoteState t).step c := by
  simp [quoteState]

/-- Where the scan goes on behind a text: behind the text itself if no quote is open, and at the
open quote otherwise, since no literal ends there yet. -/
def ScansTo : QuoteState → Text → Prop
  | .closed, t => ∀ u, literals (t ++ u) = literals t ++ literals u
  | .opened, t => ∃ s q, t = s ++ [q] ∧ isQuote q = true ∧
      ∀ u, literals (s ++ q :: u) = literals s ++ literals (q :: u)
  | .filled, t => ∃ s q b, t = s ++ q :: b ∧ isQuote q = true ∧ QuoteFree b ∧ b ≠ [] ∧
      ∀ u, literals (s ++ q :: u) = literals s ++ literals (q :: u)

theorem ScansTo.concat {state : QuoteState} {t : Text} (h : ScansTo state t) (c : Char) :
    ScansTo (state.step c) (t ++ [c]) := by
  cases state with
  | closed =>
    cases hc : isQuote c with
    | true =>
      simp only [QuoteState.step, hc, if_true]
      exact ⟨t, c, rfl, hc, fun u => h (c :: u)⟩
    | false =>
      simp only [QuoteState.step, hc, Bool.false_eq_true, if_false]
      intro u
      rw [h [c], literals_cons_of_not_quote hc, List.append_assoc, List.singleton_append, h,
        literals_cons_of_not_quote hc]
      simp [literals, literalsAfter]
  | opened =>
    obtain ⟨s, q, rfl, hq, hs⟩ := h
    cases hc : isQuote c with
    | true =>
      simp only [QuoteState.step, hc, if_true]
      refine ⟨s ++ [q], c, rfl, hc, fun u => ?_⟩
      have hnone : literals [q] = [] := literalsAfter_unclosed (by simp [QuoteFree]) q
      rw [hs [], hnone, List.append_nil, List.append_assoc, List.singleton_append, hs]
      exact congrArg (literals s ++ ·) (literalsAfter_empty hq hc u)
    | false =>
      simp only [QuoteState.step, hc, Bool.false_eq_true, if_false]
      exact ⟨s, q, [c], by simp, hq, fun d hd => by rwa [List.mem_singleton.mp hd], by simp, hs⟩
  | filled =>
    obtain ⟨s, q, b, rfl, hq, hb, hn, hs⟩ := h
    cases hc : isQuote c with
    | true =>
      simp only [QuoteState.step, hc, if_true]
      intro u
      have hread : ∀ u, literals (q :: (b ++ c :: u)) = b :: literals u :=
        fun u => literalsAfter_quoted hq hc hb hn u
      have hsplit : ∀ u, s ++ q :: b ++ [c] ++ u = s ++ q :: (b ++ c :: u) := by simp
      have hend := hsplit []
      rw [List.append_nil] at hend
      rw [hsplit, hend, hs, hs, hread, hread]
      simp [literals, literalsAfter]
    | false =>
      simp only [QuoteState.step, hc, Bool.false_eq_true, if_false]
      refine ⟨s, q, b ++ [c], by simp, hq, ?_, by simp, hs⟩
      intro d hd
      rcases List.mem_append.mp hd with hd | hd
      · exact hb d hd
      · rwa [List.mem_singleton.mp hd]

theorem scansTo_quoteState (t : Text) : ScansTo (quoteState t) t := by
  induction t using List.reverseRecOn with
  | nil => exact fun u => rfl
  | append_singleton t c ih =>
    rw [quoteState_concat]
    exact ih.concat c

section Literal

variable {q q' : Char} (hq : isQuote q = true) (hq' : isQuote q' = true) {content : Text}
  (hc : QuoteFree content) (hn : content ≠ [])

include hq hq' hc hn

/-- A literal is read behind a text that leaves no quote with text behind it open. -/
theorem literals_append_literal {t : Text} (h : quoteState t ≠ .filled) :
    literals (t ++ q :: (content ++ [q'])) = literals t ++ [content] := by
  have hread : literals (q :: (content ++ [q'])) = [content] := literalsAfter_quoted hq hq' hc hn []
  have hscan := scansTo_quoteState t
  cases hstate : quoteState t with
  | closed =>
    rw [hstate] at hscan
    rw [hscan, hread]
  | opened =>
    rw [hstate] at hscan
    obtain ⟨s, r, rfl, hr, hs⟩ := hscan
    have hskip : literals (r :: q :: (content ++ [q'])) = [content] := by
      rw [← hread]
      exact literalsAfter_empty hr hq _
    have hnone : literals [r] = [] := literalsAfter_unclosed (by simp [QuoteFree]) r
    rw [hs [], hnone, List.append_nil, List.append_assoc, List.singleton_append, hs, hskip]
  | filled => exact absurd hstate h

end Literal

/-! ## Paired quotes -/

/-- A text from its first quote on, cut at its quotes. -/
abbrev QuoteCut := List (Char × Text)

namespace QuoteCut

def render (cut : QuoteCut) : Text := cut.flatMap fun part => part.1 :: part.2

structure WellFormed (cut : QuoteCut) : Prop where
  quote : ∀ part ∈ cut, isQuote part.1 = true
  free : ∀ part ∈ cut, QuoteFree part.2

theorem WellFormed.tail {part : Char × Text} {cut : QuoteCut} (h : WellFormed (part :: cut)) :
    WellFormed cut :=
  ⟨fun p hp => h.quote p (by simp [hp]), fun p hp => h.free p (by simp [hp])⟩

/-- The texts that the quotes of a text delimit, paired from the left. -/
def paired : QuoteCut → List Text
  | [] => []
  | [_] => []
  | first :: second :: cut =>
    if first.2 = [] then paired (second :: cut) else first.2 :: paired cut

end QuoteCut

theorem literals_append_render {lead : Text} (hlead : QuoteFree lead) {cut : QuoteCut}
    (h : cut.WellFormed) : literals (lead ++ cut.render) = cut.paired := by
  rw [literals, literalsAfter_quoteFree_append hlead]
  fun_induction QuoteCut.paired cut with
  | case1 => rfl
  | case2 part =>
    have hs : QuoteFree part.2 := h.free part (by simp)
    simpa [QuoteCut.render] using literalsAfter_unclosed hs part.1
  | case3 first second cut he ih =>
    have hq : isQuote first.1 = true := h.quote first (by simp)
    have hq' : isQuote second.1 = true := h.quote second (by simp)
    rw [← ih h.tail]
    simpa [QuoteCut.render, he] using literalsAfter_empty hq hq' (second.2 ++ QuoteCut.render cut)
  | case4 first second cut he ih =>
    have hq : isQuote first.1 = true := h.quote first (by simp)
    have hq' : isQuote second.1 = true := h.quote second (by simp)
    have hread := literalsAfter_quoted hq hq' (h.free first (by simp)) he
      (second.2 ++ QuoteCut.render cut)
    have hskip := literalsAfter_quoteFree_append (h.free second (by simp)) (QuoteCut.render cut)
    rw [← ih h.tail.tail, ← hskip, ← hread]
    simp [QuoteCut.render]

end WebTidy
