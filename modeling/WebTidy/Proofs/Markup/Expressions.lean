import WebTidy.Proofs.Markup.AttributeScan
import WebTidy.Proofs.Stylesheet.Grouping

/-!
# Classes in braced expressions

The classes of an expression are the words of the texts that its quotes delimit when they are paired
from the left. These are its literals as long as none of them is empty: behind an empty literal the
scan takes closing quotes for opening ones, until an empty text between two literals sets it right.
-/

namespace WebTidy

/-- A literal between two quotes of one kind, and what stands behind it. -/
structure QuotedLiteral where
  quote : Char
  content : Text
  after : Text
  deriving DecidableEq, Repr

/-- A text without quotes that neither ends an expression nor begins an attribute. -/
structure ExpressionText (name t : Text) : Prop where
  quoteFree : QuoteFree t
  unclosed : '}' ∉ t
  unassigned : Lacks (assigned name) t

instance (name : Text) : DecidablePred (ExpressionText name) := fun t =>
  decidable_of_iff (QuoteFree t ∧ '}' ∉ t ∧ Lacks (assigned name) t)
    ⟨fun ⟨hq, hc, ha⟩ => ⟨hq, hc, ha⟩, fun ⟨hq, hc, ha⟩ => ⟨hq, hc, ha⟩⟩

namespace QuotedLiteral

def render (l : QuotedLiteral) : Text := l.quote :: (l.content ++ l.quote :: l.after)

def parts (l : QuotedLiteral) : QuoteCut := [(l.quote, l.content), (l.quote, l.after)]

structure WellFormed (name : Text) (l : QuotedLiteral) : Prop where
  quote : isQuote l.quote = true
  content : ExpressionText name l.content
  after : ExpressionText name l.after

instance (name : Text) : DecidablePred (WellFormed name) := fun l =>
  decidable_of_iff
    (isQuote l.quote = true ∧ ExpressionText name l.content ∧ ExpressionText name l.after)
    ⟨fun ⟨hq, hc, ha⟩ => ⟨hq, hc, ha⟩, fun ⟨hq, hc, ha⟩ => ⟨hq, hc, ha⟩⟩

theorem flatMap_render (ls : List QuotedLiteral) :
    ls.flatMap render = QuoteCut.render (ls.flatMap parts) := by
  induction ls with
  | nil => rfl
  | cons l ls ih =>
    rw [List.flatMap_cons, ih]
    simp [render, parts, QuoteCut.render]

theorem wellFormed_parts {name : Text} {ls : List QuotedLiteral} (h : ∀ l ∈ ls, l.WellFormed name) :
    QuoteCut.WellFormed (ls.flatMap parts) := by
  refine ⟨?_, ?_⟩
  · intro part hp
    obtain ⟨l, hl, hp⟩ := List.mem_flatMap.mp hp
    have hq := (h l hl).quote
    rcases List.mem_pair.mp hp with rfl | rfl
    · exact hq
    · exact hq
  · intro part hp
    obtain ⟨l, hl, hp⟩ := List.mem_flatMap.mp hp
    rcases List.mem_pair.mp hp with rfl | rfl
    · exact (h l hl).content.quoteFree
    · exact (h l hl).after.quoteFree

/-- Quotes are paired as they were written when only the last literal may be empty, or nothing
stands behind an empty one. -/
theorem paired_parts {ls : List QuotedLiteral}
    (h : ∀ l ∈ ls.dropLast, l.content = [] → l.after = []) :
    QuoteCut.paired (ls.flatMap parts) = (ls.map content).filter (!·.isEmpty) := by
  induction ls with
  | nil => rfl
  | cons l ls ih =>
    have hrest : QuoteCut.paired (ls.flatMap parts) = (ls.map content).filter (!·.isEmpty) := by
      cases ls with
      | nil => rfl
      | cons next ls => exact ih fun e he => h e (by simp [he])
    have hcons : (l :: ls).flatMap parts =
        (l.quote, l.content) :: (l.quote, l.after) :: ls.flatMap parts := rfl
    rw [hcons, QuoteCut.paired]
    by_cases hc : l.content = []
    · have hskip : QuoteCut.paired ((l.quote, l.after) :: ls.flatMap parts) =
          QuoteCut.paired (ls.flatMap parts) := by
        cases ls with
        | nil => rfl
        | cons next ls =>
          have ha : l.after = [] := h l (by simp) hc
          have hnext : (next :: ls).flatMap parts =
              (next.quote, next.content) :: (next.quote, next.after) :: ls.flatMap parts := rfl
          rw [hnext, QuoteCut.paired, if_pos ha]
      rw [if_pos hc, hskip, hrest]
      simp [hc]
    · rw [if_neg hc, hrest]
      simp [hc]

/-- An empty literal has no words. -/
theorem flatMap_words_contents (ls : List QuotedLiteral) :
    ((ls.map content).filter (!·.isEmpty)).flatMap Text.words =
      ls.flatMap fun l => l.content.words := by
  induction ls with
  | nil => rfl
  | cons l ls ih =>
    rw [List.map_cons, List.flatMap_cons, ← ih]
    cases hc : l.content with
    | nil => rfl
    | cons c t => rfl

end QuotedLiteral

/-- An attribute whose value is an expression with literals. -/
def expressionAttribute (name lead : Text) (ls : List QuotedLiteral) : Text :=
  name ++ '=' :: '{' :: (lead ++ ls.flatMap QuotedLiteral.render ++ ['}'])

/-! ## The three scans of an expression -/

theorem notMem_flatMap_render {name : Text} {ls : List QuotedLiteral}
    (h : ∀ l ∈ ls, l.WellFormed name) : '}' ∉ ls.flatMap QuotedLiteral.render := by
  intro hc
  obtain ⟨l, hl, hc⟩ := List.mem_flatMap.mp hc
  have hq : '}' ≠ l.quote := by
    intro he
    have hquote := (h l hl).quote
    rw [← he] at hquote
    exact absurd hquote (by decide)
  have hcontent := (h l hl).content.unclosed
  have hafter := (h l hl).after.unclosed
  simp [QuotedLiteral.render, hq, hcontent, hafter] at hc

section Names

variable {name : Text} (hname : LetterName name)

include hname

theorem lacks_assigned_flatMap_render {lead : Text} (hlead : Lacks (assigned name) lead)
    {ls : List QuotedLiteral} (h : ∀ l ∈ ls, l.WellFormed name) :
    Lacks (assigned name) (lead ++ ls.flatMap QuotedLiteral.render) := by
  induction ls generalizing lead with
  | nil => simpa using hlead
  | cons l ls ih =>
    have hl := h l (by simp)
    have hq := hname.quote_notMem_assigned hl.quote
    have hrest := ih hl.after.unassigned fun e he => h e (by simp [he])
    have hcons : lead ++ (l :: ls).flatMap QuotedLiteral.render =
        lead ++ l.quote ::
          (l.content ++ l.quote :: (l.after ++ ls.flatMap QuotedLiteral.render)) := by
      simp [QuotedLiteral.render]
    rw [hcons]
    exact hlead.append_cons (hl.content.unassigned.append_cons hrest hq) hq

/-- Behind its first letter the attribute holds no beginning of another one. -/
theorem lacks_assigned_tail {body : Text} (hbody : Lacks (assigned name) body) :
    Lacks (assigned name) (name.tail ++ '=' :: '{' :: (body ++ ['}'])) := by
  have hopen : '{' ∉ assigned name := hname.notMem_assigned (by decide) (by decide)
  have hclose : '}' ∉ assigned name := hname.notMem_assigned (by decide) (by decide)
  have hshort : Lacks (assigned name) (name.tail ++ ['=']) := by
    intro h
    have hle := h.length_le
    have hpos := List.length_pos_iff.mpr hname.ne_nil
    simp only [assigned, List.length_append, List.length_tail, List.length_singleton] at hle
    omega
  have hnil : Lacks (assigned name) [] := lacks_assigned List.not_mem_nil
  have htail := hshort.append_cons (hbody.append_cons hnil hclose) hopen
  simpa using htail

end Names

theorem read?_quoted_brace (t : Text) : ValueForm.quoted.read? ('=' :: '{' :: t) = none := by
  have ha : Text.after? ['='] ('=' :: '{' :: t) = some ('{' :: t) :=
    Text.after?_eq_some_iff.mpr rfl
  rw [ValueForm.read?, ha, Option.bind_some, literal?_of_not_quote (by decide)]
  rfl

theorem after?_brace (t : Text) : Text.after? ['=', '{'] ('=' :: '{' :: t) = some t :=
  Text.after?_eq_some_iff.mpr rfl

theorem read?_bracedExpression {body : Text} (h : '}' ∉ body) (t : Text) :
    ValueForm.bracedExpression.read? ('=' :: '{' :: (body ++ '}' :: t)) =
      some ⟨literals body, body.length + 2⟩ := by
  have hbody : (body ++ '}' :: t).takeWhile (· != '}') = body := by
    have hcut := congrArg Prod.fst (Text.cutAt_append h (t := t))
    exact hcut
  rw [ValueForm.read?, after?_brace, Option.map_some, hbody]

theorem eq_of_read?_bracedLiteral {t : Text} {value : AttributeValue}
    (h : ValueForm.bracedLiteral.read? t = some value) :
    ∃ q q' content rest, isQuote q = true ∧ isQuote q' = true ∧ content ≠ [] ∧ QuoteFree content ∧
      t = '=' :: '{' :: q :: (content ++ q' :: '}' :: rest) ∧
      value = ⟨[content], content.length + 5⟩ := by
  obtain ⟨u, hu, hread⟩ := Option.bind_eq_some_iff.mp h
  obtain rfl := Text.after?_eq_some_iff.mp hu
  obtain ⟨content, hc, hv⟩ := Option.bind_eq_some_iff.mp hread
  clear hread
  obtain ⟨q, q', behind, hq, hq', hn, hfree, rfl⟩ := eq_of_literal? hc
  split at hv
  · next hbrace =>
    have hdrop : (q :: (content ++ q' :: behind)).drop (content.length + 2) = behind := by
      rw [List.drop_succ_cons]
      simp
    rw [hdrop] at hbrace
    obtain ⟨rest, rfl⟩ := List.head?_eq_some_iff.mp hbrace
    exact ⟨q, q', content, rest, hq, hq', hn, hfree, rfl, (Option.some.inj hv).symm⟩
  · simp at hv

/-- A braced literal is the only literal of its expression. -/
theorem literals_of_read?_bracedLiteral {body : Text} (h : '}' ∉ body) {value : AttributeValue}
    (hv : ValueForm.bracedLiteral.read? ('=' :: '{' :: (body ++ ['}'])) = some value) :
    value.literals = literals body := by
  obtain ⟨q, q', content, rest, hq, hq', hn, hfree, he, rfl⟩ := eq_of_read?_bracedLiteral hv
  -- the brace behind the literal is the only one of the text, so it is the last character
  have hsplit : body ++ '}' :: [] = (q :: (content ++ [q'])) ++ '}' :: rest := by simpa using he
  have hcount := congrArg (List.count '}') hsplit
  rw [List.count_append, List.count_append, List.count_cons_self, List.count_cons_self,
    List.count_eq_zero_of_not_mem h, List.count_nil] at hcount
  have hno : '}' ∉ q :: (content ++ [q']) := List.count_eq_zero.mp (by omega)
  obtain ⟨rfl, -⟩ := Text.eq_of_append_cons_eq_of_notMem h hno hsplit
  exact (literalsAfter_quoted hq hq' hfree hn []).symm

/-! ## Classes of an expression -/

section Classes

variable {name lead : Text} {ls : List QuotedLiteral} (hname : LetterName name)
  (hlead : ExpressionText name lead) (hls : ∀ l ∈ ls, l.WellFormed name)

include hname hlead hls

theorem attributeLiterals_expressionAttribute (form : ValueForm) :
    attributeLiterals form name 0 none (expressionAttribute name lead ls) =
      (form.read? ('=' :: '{' :: (lead ++ ls.flatMap QuotedLiteral.render ++ ['}']))).toList.flatMap
        AttributeValue.literals := by
  have hbody := lacks_assigned_flatMap_render hname hlead.unassigned hls
  exact attributeLiterals_single rfl hname.ne_nil (lacks_assigned_tail hname hbody)

omit hname in
theorem literals_expression : literals (lead ++ ls.flatMap QuotedLiteral.render) =
    QuoteCut.paired (ls.flatMap QuotedLiteral.parts) := by
  rw [QuotedLiteral.flatMap_render]
  exact literals_append_render hlead.quoteFree (QuotedLiteral.wellFormed_parts hls)

omit hname in
theorem brace_notMem_expression : '}' ∉ lead ++ ls.flatMap QuotedLiteral.render := by
  have hrendered := notMem_flatMap_render hls
  simp [hlead.unclosed, hrendered]

theorem scanClasses_quoted_expressionAttribute :
    scanClasses .quoted name (expressionAttribute name lead ls) = [] := by
  rw [scanClasses, attributeLiterals_expressionAttribute hname hlead hls, read?_quoted_brace]
  rfl

theorem scanClasses_bracedExpression_expressionAttribute :
    scanClasses .bracedExpression name (expressionAttribute name lead ls) =
      (QuoteCut.paired (ls.flatMap QuotedLiteral.parts)).flatMap Text.words := by
  rw [scanClasses, attributeLiterals_expressionAttribute hname hlead hls,
    read?_bracedExpression (brace_notMem_expression hlead hls), ← literals_expression hlead hls]
  simp

/-- The scan for braced literals finds nothing that the scan for expressions does not. -/
theorem scanClasses_bracedLiteral_expressionAttribute_subset :
    scanClasses .bracedLiteral name (expressionAttribute name lead ls) ⊆
      scanClasses .bracedExpression name (expressionAttribute name lead ls) := by
  intro w hw
  rw [scanClasses, attributeLiterals_expressionAttribute hname hlead hls] at hw
  rw [scanClasses_bracedExpression_expressionAttribute hname hlead hls]
  cases hr : ValueForm.bracedLiteral.read?
      ('=' :: '{' :: (lead ++ ls.flatMap QuotedLiteral.render ++ ['}'])) with
  | none =>
    rw [hr] at hw
    exact absurd hw List.not_mem_nil
  | some value =>
    have hsame := literals_of_read?_bracedLiteral (brace_notMem_expression hlead hls) hr
    rw [hr, Option.toList_some, List.flatMap_singleton, hsame, literals_expression hlead hls] at hw
    exact hw

theorem usedClasses_expressionAttribute :
    usedClasses [name] (expressionAttribute name lead ls) =
      ClassSet.ofList ((QuoteCut.paired (ls.flatMap QuotedLiteral.parts)).flatMap Text.words) := by
  have hquoted := scanClasses_quoted_expressionAttribute hname hlead hls
  have hexpression := scanClasses_bracedExpression_expressionAttribute hname hlead hls
  have hliteral := scanClasses_bracedLiteral_expressionAttribute_subset hname hlead hls
  rw [hexpression] at hliteral
  apply ClassSet.ext
  intro w
  rw [mem_usedClasses, ClassSet.mem_ofList]
  simp only [List.mem_singleton, exists_eq_left, hquoted, hexpression, List.not_mem_nil, false_or]
  exact ⟨fun h => h.elim (@hliteral w) id, .inr⟩

/-- The classes of an expression are the words of the texts that its paired quotes delimit. These
are the words of its literals if only the last may be empty, or nothing stands behind an empty
one. -/
theorem classes_of_expression :
    usedClasses [name] (expressionAttribute name lead ls) =
        ClassSet.ofList ((QuoteCut.paired (ls.flatMap QuotedLiteral.parts)).flatMap Text.words) ∧
      ((∀ l ∈ ls.dropLast, l.content = [] → l.after = []) →
        usedClasses [name] (expressionAttribute name lead ls) =
          ClassSet.ofList (ls.flatMap fun l => l.content.words)) := by
  have hread := usedClasses_expressionAttribute hname hlead hls
  refine ⟨hread, fun hempty => ?_⟩
  rw [hread, QuotedLiteral.paired_parts hempty, QuotedLiteral.flatMap_words_contents]

end Classes

/-- Several literals with both kinds of quotes, the last one empty. -/
theorem classes_of_expression_empty_last :
    let name := "className".toList
    let lead := "open ? ".toList
    let ls : List QuotedLiteral := [⟨'\'', "item open".toList, " : big && ".toList⟩,
      ⟨'"', " item\tbig".toList, []⟩, ⟨'\'', [], " ".toList⟩]
    LetterName name ∧ ExpressionText name lead ∧ (∀ l ∈ ls, l.WellFormed name) ∧
      (∀ l ∈ ls.dropLast, l.content = [] → l.after = []) ∧
      usedClasses [name] (expressionAttribute name lead ls) =
        ClassSet.ofList (ls.flatMap fun l => l.content.words) :=
  ⟨by decide +kernel, by decide +kernel, by decide +kernel, by decide +kernel,
    (classes_of_expression (by decide +kernel) (by decide +kernel)
      (by decide +kernel)).2 (by decide +kernel)⟩

/-- Behind an empty literal the text up to the next one is read, and that literal is not. -/
theorem not_classes_of_empty_literal :
    ¬ ∀ (name lead : Text) (ls : List QuotedLiteral), LetterName name → ExpressionText name lead →
      (∀ l ∈ ls, l.WellFormed name) →
      usedClasses [name] (expressionAttribute name lead ls) =
        ClassSet.ofList (ls.flatMap fun l => l.content.words) := by
  intro h
  have hclasses := h "className".toList "cond ? ".toList
    [⟨'\'', [], " : ".toList⟩, ⟨'\'', ['a'], []⟩]
    (by decide +kernel) (by decide +kernel) (by decide +kernel)
  exact absurd hclasses (by decide +kernel)

end WebTidy
