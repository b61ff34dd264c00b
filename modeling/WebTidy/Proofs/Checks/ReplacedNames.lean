import WebTidy.Proofs.Checks.StatementPattern
import WebTidy.Proofs.Checks.TrimmedLines

/-!
# Replaced names

Where one attribute name of a line is replaced with another, no rule sees the difference unless it
looks for one of the two. What the other rules look for can neither overlap such a name nor be made
by it, and what they see of it is that it begins with a letter and ends in no terminator.
-/

namespace WebTidy

/-! ## Inert names -/

/-- What a rule searches a line for, unless that is an attribute name to be replaced. -/
def LineRule.pieces : LineRule → List Text
  | forbiddenHtmlComment => ["<!--".toList]
  | phpHtmlComment => ["<!--".toList, "?>".toList]
  | scriptCommentInMarkup => ["<script".toList]
  | forAttribute => ["for=".toList]
  | stringStyle => ["style=\"".toList]
  | missingSemicolon => ["=>".toList]
  | _ => []

/-- What rules look for at the start of a trimmed line. -/
def lineStarts : List Text := ["#", "#!/", "//", "/*"].map String.toList ++ statementWords

/-- A character that is no part of a tag, the end of a statement or a gap. -/
def isPlain (c : Char) : Bool := !isBlank c && c != '<' && c != '>' && !isTerminator c

/-- A name of which none of the rules takes notice unless it looks for attribute names. -/
structure Inert (rules : List LineRule) (x : Text) : Prop where
  two_le : 2 ≤ x.length
  head : x.head?.any Char.isAlpha = true
  plain : x.all isPlain = true
  starts : ∀ start ∈ lineStarts, ¬ Text.Meets start x
  apart : ∀ rule ∈ rules, ∀ piece ∈ rule.pieces, Text.Apart piece x

instance (rules : List LineRule) (x : Text) : Decidable (Inert rules x) :=
  decidable_of_iff (2 ≤ x.length ∧ x.head?.any Char.isAlpha = true ∧ x.all isPlain = true ∧
      (∀ start ∈ lineStarts, ¬ Text.Meets start x) ∧
      ∀ rule ∈ rules, ∀ piece ∈ rule.pieces, Text.Apart piece x)
    ⟨fun ⟨hl, hh, hp, hs, ha⟩ => ⟨hl, hh, hp, hs, ha⟩,
      fun h => ⟨h.two_le, h.head, h.plain, h.starts, h.apart⟩⟩

namespace Inert

variable {rules : List LineRule} {x : Text} (hx : Inert rules x)

include hx

theorem isPlain_of_mem {c : Char} (hc : c ∈ x) : isPlain c = true :=
  List.all_eq_true.mp hx.plain c hc

theorem not_isBlank {c : Char} (hc : c ∈ x) : isBlank c = false := by
  have hplain := hx.isPlain_of_mem hc
  simp only [isPlain, Bool.and_eq_true, Bool.not_eq_true'] at hplain
  exact hplain.1.1.1

theorem notMem {c : Char} (hc : isPlain c = false) : c ∉ x :=
  fun hm => by simp [hx.isPlain_of_mem hm] at hc

theorem not_isTerminator {c : Char} (hc : c ∈ x) : isTerminator c = false := by
  have hplain := hx.isPlain_of_mem hc
  simp only [isPlain, Bool.and_eq_true, Bool.not_eq_true'] at hplain
  exact hplain.2

theorem exists_eq_cons_cons : ∃ a b r, x = a :: b :: r := by
  have hlength := hx.two_le
  match x, hlength with
  | a :: b :: r, _ => exact ⟨a, b, r, rfl⟩

theorem ne_nil : x ≠ [] := by
  obtain ⟨a, b, r, rfl⟩ := hx.exists_eq_cons_cons
  simp

theorem trim_eq (s t : Text) : Text.trim (s ++ x ++ t) = s.trimLeft ++ x ++ t.trimRight :=
  Text.trim_append_solid hx.ne_nil (fun _ hc => hx.not_isBlank hc) s t

theorem getLast?_any_isTerminator (s t : Text) :
    (s ++ x ++ t).getLast?.any isTerminator = t.getLast?.any isTerminator := by
  rw [List.getLast?_append]
  cases t.getLast? with
  | some c => rfl
  | none =>
    rw [Option.none_or, List.getLast?_append, List.getLast?_eq_some_getLast hx.ne_nil]
    exact hx.not_isTerminator (List.getLast_mem hx.ne_nil)

end Inert

/-! ## Names in any case -/

theorem lowerChar_of_not_isPlain {c : Char} (h : isPlain c = false) : lowerChar c = c := by
  simp only [isPlain, isTerminator, List.contains_cons, List.contains_nil, Bool.or_false,
    Bool.and_eq_false_iff, Bool.not_eq_false', bne_eq_false_iff_eq, Bool.or_eq_true,
    beq_iff_eq] at h
  obtain ((hblank | rfl) | rfl) | rfl | rfl | rfl | rfl | rfl := h
  · exact lowerChar_of_isIdle (isIdle_of_isBlank hblank)
  all_goals decide

theorem lowerChar_eq_self {c : Char} (h : (lowerChar c).isLower = false) : lowerChar c = c := by
  have hkelvin : c ≠ '\u212A' := by
    rintro rfl
    exact absurd h (by decide)
  rw [lowerChar, if_neg hkelvin, Char.isLower_toLower_eq_isAlpha] at h
  exact lowerChar_of_not_isAlpha hkelvin h

theorem isAlpha_of_lowerChar {c : Char} (h : (lowerChar c).isLower = true)
    (hk : lowerChar c ≠ 'k') : c.isAlpha = true := by
  have hkelvin : c ≠ '\u212A' := by
    rintro rfl
    exact hk (by decide)
  rwa [lowerChar, if_neg hkelvin, Char.isLower_toLower_eq_isAlpha] at h

theorem Inert.of_lower {rules : List LineRule} {x : Text} (hx : Inert rules x.lower)
    (hlower : x.lower.head?.any Char.isLower = true) (hk : x.lower.head? ≠ some 'k') :
    Inert rules x where
  two_le := Text.length_lower x ▸ hx.two_le
  head := by
    cases x with
    | nil => cases hlower
    | cons c x => exact isAlpha_of_lowerChar hlower fun h => hk (congrArg some h)
  plain := by
    rw [List.all_eq_true]
    intro c hc
    rw [← Bool.not_eq_false]
    intro hplain
    have hm : lowerChar c ∈ x.lower := List.mem_map_of_mem hc
    rw [lowerChar_of_not_isPlain hplain] at hm
    exact hx.notMem hplain hm
  starts := by
    have hstarts : ∀ start ∈ lineStarts, start.map lowerChar = start := by decide
    intro start hs hm
    have hlower := hm.map lowerChar
    rw [hstarts start hs] at hlower
    exact hx.starts start hs hlower
  apart := by
    have hpieces (rule : LineRule) : ∀ piece ∈ rule.pieces, piece.map lowerChar = piece := by
      cases rule <;> decide
    intro rule hrule piece hp
    refine .of_map lowerChar ?_
    rw [hpieces rule piece hp]
    exact hx.apart rule hrule piece hp

/-! ## Another name in place of a name -/

section Replace

variable {rules : List LineRule} {x y : Text}

theorem occursIn_replace {piece : Text} (hx : Text.Apart piece x) (hy : Text.Apart piece y)
    (s t : Text) : Text.occursIn piece (s ++ x ++ t) = Text.occursIn piece (s ++ y ++ t) := by
  rw [Bool.eq_iff_iff, Text.occursIn_iff, Text.occursIn_iff, hx.infix_iff, hy.infix_iff]

variable (hx : Inert rules x) (hy : Inert rules y)

include hx hy

theorem startsWith_replace {start : Text} (hs : start ∈ lineStarts) (s t : Text) :
    Text.startsWith (s ++ x ++ t) start = Text.startsWith (s ++ y ++ t) start := by
  rw [Bool.eq_iff_iff, Text.startsWith_iff, Text.startsWith_iff,
    Text.isPrefix_segment_iff (hx.starts start hs), Text.isPrefix_segment_iff (hy.starts start hs)]

theorem contains_replace {c : Char} (hc : isPlain c = false) (s t : Text) :
    (s ++ x ++ t).contains c = (s ++ y ++ t).contains c := by
  simp [hx.notMem hc, hy.notMem hc]

theorem danglingTag_replace (s t : Text) :
    danglingTag (s ++ x ++ t) = danglingTag (s ++ y ++ t) := by
  have hall {z : Text} (hz : Inert rules z) : (z.all fun d => d != '<' && d != '>') = true := by
    rw [List.all_eq_true]
    intro d hd
    have hplain := hz.isPlain_of_mem hd
    simp only [isPlain, Bool.and_eq_true] at hplain
    simp [hplain.1.1.2, hplain.1.2]
  induction s with
  | nil =>
    rw [List.nil_append, List.nil_append, danglingTag_append_right (hx.notMem (by decide)),
      danglingTag_append_right (hy.notMem (by decide))]
  | cons c s ih =>
    have hhead : (s ++ x ++ t).head?.any Char.isAlpha = (s ++ y ++ t).head?.any Char.isAlpha := by
      cases s with
      | nil =>
        obtain ⟨a, b, r, rfl⟩ := hx.exists_eq_cons_cons
        obtain ⟨a', b', r', rfl⟩ := hy.exists_eq_cons_cons
        exact hx.head.trans hy.head.symm
      | cons d s => rfl
    simp only [List.cons_append, danglingTag, ih, hhead, List.all_append, hall hx, hall hy]

/-- The blank behind a statement word stands in front of the name, and the name is long enough for
the characters behind it. -/
theorem startsStatement_of_replace {s t : Text} (h : startsStatement (s ++ x ++ t) = true) :
    startsStatement (s ++ y ++ t) = true := by
  rw [startsStatement_iff] at h ⊢
  obtain ⟨word, hword, b, c, d, rest, hsplit, hb, hc, hd⟩ := h
  have hstart : word <+: s :=
    (Text.isPrefix_segment_iff (hx.starts word (List.mem_append_right _ hword))).mp
      ⟨_, hsplit.symm⟩
  obtain ⟨u, rfl⟩ := hstart
  have hline {z : Char} (hz : z ∈ y) : z ≠ '\n' := by
    rintro rfl
    exact hy.notMem (by decide) hz
  obtain ⟨x₀, x₁, x', rfl⟩ := hx.exists_eq_cons_cons
  obtain ⟨y₀, y₁, y', rfl⟩ := hy.exists_eq_cons_cons
  have hrest : u ++ (x₀ :: x₁ :: x') ++ t = b :: c :: d :: rest := by simpa using hsplit
  refine ⟨word, hword, ?_⟩
  match u, hrest with
  | [], hrest =>
    obtain rfl : x₀ = b := (List.cons_eq_cons.mp hrest).1
    have hsolid := hx.not_isBlank (c := x₀) (by simp)
    rw [hb] at hsolid
    cases hsolid
  | [b'], hrest =>
    obtain rfl : b' = b := (List.cons_eq_cons.mp hrest).1
    exact ⟨b', y₀, y₁, y' ++ t, by simp, hb, hline (by simp), hline (by simp)⟩
  | [b', c'], hrest =>
    simp only [List.cons_append, List.cons.injEq] at hrest
    obtain ⟨rfl, rfl, -⟩ := hrest
    exact ⟨b', c', y₀, y₁ :: (y' ++ t), by simp, hb, hc, hline (by simp)⟩
  | b' :: c' :: d' :: u, hrest =>
    simp only [List.cons_append, List.cons.injEq] at hrest
    obtain ⟨rfl, rfl, rfl, -⟩ := hrest
    exact ⟨b', c', d', u ++ (y₀ :: y₁ :: y') ++ t, by simp, hb, hc, hd⟩

theorem startsStatement_replace (s t : Text) :
    startsStatement (s ++ x ++ t) = startsStatement (s ++ y ++ t) :=
  Bool.eq_iff_iff.mpr ⟨startsStatement_of_replace hx hy, startsStatement_of_replace hy hx⟩

theorem isHashComment_replace (s t : Text) :
    isHashComment (s ++ x ++ t) = isHashComment (s ++ y ++ t) := by
  unfold isHashComment
  rw [startsWith_replace hx hy (by decide), startsWith_replace hx hy (by decide)]

theorem lacksSemicolon_replace {s t : Text}
    (harrow : Text.occursIn ['=', '>'] (s ++ x ++ t) = Text.occursIn ['=', '>'] (s ++ y ++ t)) :
    lacksSemicolon (s ++ x ++ t) = lacksSemicolon (s ++ y ++ t) := by
  unfold lacksSemicolon
  rw [startsWith_replace hx hy (by decide), startsWith_replace hx hy (by decide),
    startsStatement_replace hx hy, hx.getLast?_any_isTerminator, hy.getLast?_any_isTerminator,
    harrow]

/-- A rule that looks for no attribute names has as much to say about the one as about the other. -/
theorem length_remarks_replace {rule : LineRule} (hrule : rule ∈ rules)
    (hnames : rule ∉ [.classAttribute, .classNameInMarkup, .lowercaseEvents]) (d : Dialect)
    (s t : Text) :
    (rule.remarks d (s ++ x ++ t)).length = (rule.remarks d (s ++ y ++ t)).length := by
  have hoccurs (piece : Text) (hp : piece ∈ rule.pieces) (s t : Text) :=
    occursIn_replace (hx.apart rule hrule piece hp) (hy.apart rule hrule piece hp) s t
  cases rule with
  | classAttribute => simp at hnames
  | classNameInMarkup => simp at hnames
  | lowercaseEvents => simp at hnames
  | hashComment =>
    simp only [LineRule.remarks, hx.trim_eq, hy.trim_eq, isHashComment_replace hx hy]
    split <;> rfl
  | forbiddenHtmlComment => rw [LineRule.remarks, hoccurs _ (by decide), LineRule.remarks]
  | phpHtmlComment =>
    rw [LineRule.remarks, hoccurs _ (by decide), hoccurs _ (by decide), LineRule.remarks]
  | scriptCommentInMarkup =>
    rw [LineRule.remarks, hx.trim_eq, startsWith_replace hx hy (by decide),
      startsWith_replace hx hy (by decide), hoccurs _ (by decide), ← hy.trim_eq, LineRule.remarks]
  | forAttribute => rw [LineRule.remarks, hoccurs _ (by decide), LineRule.remarks]
  | stringStyle => rw [LineRule.remarks, hoccurs _ (by decide), LineRule.remarks]
  | unclosedTag =>
    rw [LineRule.remarks, contains_replace hx hy (by decide), danglingTag_replace hx hy,
      LineRule.remarks]
  | missingSemicolon =>
    simp only [LineRule.remarks, hx.trim_eq, hy.trim_eq,
      lacksSemicolon_replace hx hy (hoccurs _ (by decide) _ _)]
    split <;> rfl

end Replace

/-! ## Rules that look for attribute names -/

/-- A name that can be no part of what opens a class attribute, in either spelling. -/
structure ApartFromClass (x : Text) : Prop where
  quoteFree : QuoteFree x
  className : Text.Apart "className=".toList x
  double : Text.Apart (classWord ++ ['"']) x
  single : Text.Apart (classWord ++ ['\'']) x

namespace ApartFromClass

variable {x : Text}

theorem apart_classWord (h : ApartFromClass x) {q : Char} (hq : isQuote q = true) :
    Text.Apart (classWord ++ [q]) x := by
  obtain rfl | rfl := isQuote_iff.mp hq
  · exact h.double
  · exact h.single

/-- The case of the name does not matter, nor that of the attribute. -/
theorem of_lower (hquotes : x.lower.any isQuote = false)
    (hname : Text.Apart "classname=".toList x.lower)
    (hdouble : Text.Apart (classWord ++ ['"']) x.lower)
    (hsingle : Text.Apart (classWord ++ ['\'']) x.lower) : ApartFromClass x where
  quoteFree := by
    intro c hc
    rw [List.any_eq_false] at hquotes
    have hlower := hquotes (lowerChar c) (List.mem_map_of_mem hc)
    rw [Bool.eq_false_iff]
    intro hq
    obtain rfl | rfl := isQuote_iff.mp hq
    · exact hlower (by decide)
    · exact hlower (by decide)
  className := .of_map lowerChar hname
  double := .of_map lowerChar hdouble
  single := .of_map lowerChar hsingle

end ApartFromClass

section Names

variable {x y : Text}

theorem length_remarks_classAttribute_replace (hx : ApartFromClass x) (hy : ApartFromClass y)
    (d : Dialect) (s t : Text) :
    (LineRule.classAttribute.remarks d (s ++ x ++ t)).length =
      (LineRule.classAttribute.remarks d (s ++ y ++ t)).length := by
  have hsome : (firstClassLiteral? (s ++ x ++ t)).isSome =
      (firstClassLiteral? (s ++ y ++ t)).isSome := by
    rw [Bool.eq_iff_iff, isSome_firstClassLiteral?_iff, isSome_firstClassLiteral?_iff]
    exact ⟨fun h => h.replace hx.quoteFree (fun _ => hx.apart_classWord) y,
      fun h => h.replace hy.quoteFree (fun _ => hy.apart_classWord) x⟩
  rw [LineRule.remarks, occursIn_replace hx.className hy.className, LineRule.remarks]
  split
  · rfl
  · rw [List.length_map, List.length_map, Option.length_toList, Option.length_toList, hsome]

theorem misspellsEvent_replace {event : Text × Text} (hxl : Text.Apart event.1 x.lower)
    (hyl : Text.Apart event.1 y.lower) (hx : Text.Apart event.2 x) (hy : Text.Apart event.2 y)
    (s t : Text) : misspellsEvent event (s ++ x ++ t) = misspellsEvent event (s ++ y ++ t) := by
  have hlower (z : Text) : Text.lower (s ++ z ++ t) = s.lower ++ z.lower ++ t.lower := by
    simp [Text.lower]
  rw [misspellsEvent, hlower, occursIn_replace hxl hyl, occursIn_replace hx hy, ← hlower,
    misspellsEvent]

end Names

end WebTidy
