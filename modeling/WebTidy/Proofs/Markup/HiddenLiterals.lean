import WebTidy.Proofs.Markup.Expressions

/-!
# Braced literals that no expression shows

Every braced literal begins like an expression, so it stands inside an expression that is read there
or before. That expression shows it unless it ends before the literal does, or a quote in front of
the literal is still open. Such literals are found only by the scan for braced literals.
-/

namespace WebTidy

/-- What every expression of that name begins with. -/
def opener (name : Text) : Text := name ++ ['=', '{']

section Attribute

variable {name t : Text} {before : Option Char} {value : AttributeValue}

theorem eq_of_attribute?_bracedExpression
    (h : attribute? .bracedExpression name before t = some value) :
    ∃ u, t = opener name ++ u ∧ value.literals = literals (u.takeWhile (· != '}')) := by
  obtain ⟨rest, read, rfl, hread, rfl⟩ := eq_of_attribute? h
  obtain ⟨u, hu, rfl⟩ := Option.map_eq_some_iff.mp hread
  obtain rfl := Text.after?_eq_some_iff.mp hu
  exact ⟨u, by simp [opener], rfl⟩

theorem eq_of_attribute?_bracedLiteral
    (h : attribute? .bracedLiteral name before t = some value) :
    ∃ q q' content rest, isQuote q = true ∧ isQuote q' = true ∧ content ≠ [] ∧ QuoteFree content ∧
      t = opener name ++ q :: (content ++ q' :: '}' :: rest) ∧ value.literals = [content] := by
  obtain ⟨u, read, rfl, hread, rfl⟩ := eq_of_attribute? h
  obtain ⟨q, q', content, rest, hq, hq', hn, hfree, rfl, rfl⟩ := eq_of_read?_bracedLiteral hread
  exact ⟨q, q', content, rest, hq, hq', hn, hfree, by simp [opener], rfl⟩

/-- Where a braced literal could be read, an expression could. -/
theorem exists_expression_of_bracedLiteral
    (h : attribute? .bracedLiteral name before t = some value) :
    ∃ expression, attribute? .bracedExpression name before t = some expression ∧
      0 < expression.length := by
  obtain ⟨q, q', content, rest, -, -, -, -, rfl, -⟩ := eq_of_attribute?_bracedLiteral h
  have hsplit : opener name ++ q :: (content ++ q' :: '}' :: rest) =
      name ++ '=' :: '{' :: q :: (content ++ q' :: '}' :: rest) := by simp [opener]
  rw [hsplit, attribute?_append (startsName_of_attribute? h), ValueForm.read?, after?_brace]
  exact ⟨_, rfl, by simp⟩

end Attribute

/-- The scan for braced literals reads `content` where the scan for expressions is inside an
expression, with `opening` between the brace of that expression and the literal. -/
def Encloses (name markup opening content : Text) : Prop :=
  ∃ first between expression literal,
    Reads .bracedExpression name 0 none markup first expression ∧
    between.length < expression.length ∧
    between ++ opener name = opener name ++ opening ∧
    Reads .bracedLiteral name 0 none markup (first ++ between) literal ∧
    literal.literals = [content]

section Encloses

variable {name markup content : Text}

theorem exists_encloses (h : content ∈ attributeLiterals .bracedLiteral name 0 none markup) :
    ∃ opening, Encloses name markup opening content := by
  obtain ⟨lead, literal, hliteral, hm⟩ := mem_attributeLiterals_iff_reads.mp h
  obtain ⟨rest, rfl, hread⟩ := hliteral.exists_attribute?
  obtain ⟨expression, hexpression, hpos⟩ := exists_expression_of_bracedLiteral hread
  obtain ⟨q, q', found, behind, -, -, -, -, rfl, hfound⟩ := eq_of_attribute?_bracedLiteral hread
  obtain rfl : content = found := by
    rw [hfound] at hm
    exact List.mem_singleton.mp hm
  obtain hskip | ⟨first, between, outer, rfl, houter, hlength⟩ := exists_reads hexpression hpos
  · exact absurd hskip (Nat.not_lt_zero _)
  -- both texts from `first` on begin with the opener of the outer expression
  obtain ⟨u, hu, houteread⟩ := houter.exists_attribute?
  obtain ⟨inner, rfl, -⟩ := eq_of_attribute?_bracedExpression houteread
  have hsame : between ++ opener name ++ q :: (content ++ q' :: '}' :: behind) =
      opener name ++ inner := by
    rw [List.append_assoc] at hu
    rw [List.append_assoc, List.append_cancel_left hu]
  obtain ⟨opening, hopening⟩ : opener name <+: between ++ opener name :=
    List.prefix_of_prefix_length_le ⟨inner, hsame.symm⟩ (List.prefix_append _ _) (by simp)
  exact ⟨opening, first, between, outer, literal, houter, hlength, hopening.symm, hliteral, hfound⟩

variable {opening : Text} (h : Encloses name markup opening content)

include h

theorem Encloses.mem : content ∈ attributeLiterals .bracedLiteral name 0 none markup := by
  obtain ⟨first, between, -, literal, -, -, -, hliteral, hcontent⟩ := h
  exact mem_attributeLiterals_iff_reads.mpr ⟨_, literal, hliteral, by simp [hcontent]⟩

/-- An expression shows a literal that ends before the first closing brace if no quote with text
behind it is open in front of the literal. -/
theorem Encloses.mem_expression (hclose : '}' ∉ opening ++ content)
    (hopen : quoteState opening ≠ .filled) :
    content ∈ attributeLiterals .bracedExpression name 0 none markup := by
  obtain ⟨first, between, expression, literal, hexpression, -, hopening, hliteral, hcontent⟩ := h
  obtain ⟨u, hu, hread⟩ := hexpression.exists_attribute?
  obtain ⟨body, rfl, hbody⟩ := eq_of_attribute?_bracedExpression hread
  obtain ⟨v, hv, hread⟩ := hliteral.exists_attribute?
  obtain ⟨q, q', found, rest, hq, hq', hn, hfree, rfl, hfound⟩ :=
    eq_of_attribute?_bracedLiteral hread
  obtain rfl : content = found := List.singleton_inj.mp (hcontent.symm.trans hfound)
  have hsame : opener name ++ body =
      opener name ++ (opening ++ q :: (content ++ [q']) ++ '}' :: rest) := by
    rw [hu, List.append_assoc] at hv
    calc opener name ++ body
        = between ++ opener name ++ q :: (content ++ q' :: '}' :: rest) := by
          rw [List.append_assoc, List.append_cancel_left hv]
      _ = opener name ++ (opening ++ q :: (content ++ [q']) ++ '}' :: rest) := by
          rw [hopening]
          simp
  have hsplit := List.append_cancel_left hsame
  have hunclosed : '}' ∉ opening ++ q :: (content ++ [q']) := by
    have hbrace : ∀ {c}, isQuote c = true → '}' ≠ c := by
      rintro c hc rfl
      exact absurd hc (by decide)
    have hq := hbrace hq
    have hq' := hbrace hq'
    simpa [hq, hq'] using hclose
  have hcut : body.takeWhile (· != '}') = opening ++ q :: (content ++ [q']) := by
    rw [hsplit]
    exact congrArg Prod.fst (Text.cutAt_append hunclosed (t := rest))
  rw [hcut, literals_append_literal hq hq' hfree hn hopen] at hbody
  exact mem_attributeLiterals_iff_reads.mpr ⟨first, expression, hexpression, by simp [hbody]⟩

end Encloses

/-- A braced literal that its expression does not show: the expression ends before the literal
does, or a quote with text behind it is open in front of the literal. -/
def HidesLiteral (name markup content : Text) : Prop :=
  ∃ opening, Encloses name markup opening content ∧
    ('}' ∈ opening ++ content ∨ quoteState opening = .filled)

/-- The class names that the other two scans find. -/
def classesWithoutBracedLiterals (attributes : List Text) (markup : Text) : ClassSet :=
  ClassSet.ofList <| attributes.flatMap fun name =>
    scanClasses .quoted name markup ++ scanClasses .bracedExpression name markup

theorem mem_classesWithoutBracedLiterals {attributes : List Text} {markup w : Text} :
    w ∈ classesWithoutBracedLiterals attributes markup ↔
      ∃ name ∈ attributes, w ∈ scanClasses .quoted name markup ∨
        w ∈ scanClasses .bracedExpression name markup := by
  simp [classesWithoutBracedLiterals, ClassSet.mem_ofList, List.mem_flatMap, List.mem_append]

theorem mem_scanClasses_bracedLiteral {name markup w : Text}
    (h : w ∈ scanClasses .bracedLiteral name markup) :
    w ∈ scanClasses .bracedExpression name markup ∨
      ∃ content, HidesLiteral name markup content ∧ w ∈ content.words := by
  obtain ⟨content, hcontent, hw⟩ := List.mem_flatMap.mp h
  obtain ⟨opening, hencloses⟩ := exists_encloses hcontent
  by_cases hhidden : '}' ∈ opening ++ content ∨ quoteState opening = .filled
  · exact .inr ⟨content, ⟨opening, hencloses, hhidden⟩, hw⟩
  · obtain ⟨hclose, hopen⟩ := not_or.mp hhidden
    exact .inl (List.mem_flatMap.mpr ⟨content, hencloses.mem_expression hclose hopen, hw⟩)

theorem HidesLiteral.mem_scanClasses {name markup content w : Text}
    (h : HidesLiteral name markup content) (hw : w ∈ content.words) :
    w ∈ scanClasses .bracedLiteral name markup := by
  obtain ⟨opening, hencloses, -⟩ := h
  exact List.mem_flatMap.mpr ⟨content, hencloses.mem, hw⟩

theorem mem_usedClasses_iff_hidden {attributes : List Text} {markup w : Text} :
    w ∈ usedClasses attributes markup ↔
      w ∈ classesWithoutBracedLiterals attributes markup ∨
        ∃ name ∈ attributes, ∃ content, HidesLiteral name markup content ∧ w ∈ content.words := by
  rw [mem_usedClasses, mem_classesWithoutBracedLiterals]
  constructor
  · rintro ⟨name, hname, hw | hw | hw⟩
    · exact .inl ⟨name, hname, .inl hw⟩
    · rcases mem_scanClasses_bracedLiteral hw with hw | hhidden
      · exact .inl ⟨name, hname, .inr hw⟩
      · exact .inr ⟨name, hname, hhidden⟩
    · exact .inl ⟨name, hname, .inr hw⟩
  · rintro (⟨name, hname, hw | hw⟩ | ⟨name, hname, content, hhidden, hw⟩)
    · exact ⟨name, hname, .inl hw⟩
    · exact ⟨name, hname, .inr (.inr hw)⟩
    · exact ⟨name, hname, .inr (.inl (hhidden.mem_scanClasses hw))⟩

/-- The scan for braced literals adds the words of the hidden ones. It can be left out exactly
where these words are found elsewhere. -/
theorem usedClasses_hidden (attributes : List Text) (markup : Text) :
    (∀ w, w ∈ usedClasses attributes markup ↔
        w ∈ classesWithoutBracedLiterals attributes markup ∨
          ∃ name ∈ attributes, ∃ content, HidesLiteral name markup content ∧ w ∈ content.words) ∧
      (usedClasses attributes markup = classesWithoutBracedLiterals attributes markup ↔
        ∀ name ∈ attributes, ∀ content, HidesLiteral name markup content →
          ∀ w ∈ content.words, w ∈ classesWithoutBracedLiterals attributes markup) := by
  refine ⟨fun w => mem_usedClasses_iff_hidden, ?_, ?_⟩
  · intro hsame name hname content hhidden w hw
    rw [← hsame]
    exact mem_usedClasses_iff_hidden.mpr (.inr ⟨name, hname, content, hhidden, hw⟩)
  · intro hfound
    apply ClassSet.ext
    intro w
    rw [mem_usedClasses_iff_hidden]
    refine ⟨?_, .inl⟩
    rintro (hw | ⟨name, hname, content, hhidden, hw⟩)
    · exact hw
    · exact hfound name hname content hhidden w hw

/-- A closing brace in a literal ends the expression, and its only literal is not closed. -/
theorem not_usedClasses_without_bracedLiterals :
    ¬ ∀ (attributes : List Text) (markup : Text),
      usedClasses attributes markup = classesWithoutBracedLiterals attributes markup := by
  intro h
  have hclasses := h ["className".toList] "className=\x7b'a\x7db'\x7d".toList
  exact absurd hclasses (by decide +kernel)

/-- Behind an empty literal the quote in front of the braced one is taken for a closing quote. -/
example :
    let markup := "className=\x7b'' className=\x7b'a b'\x7d".toList
    usedClasses ["className".toList] markup =
        ClassSet.ofList [['a'], ['b'], "className=\x7b".toList] ∧
      classesWithoutBracedLiterals ["className".toList] markup =
        ClassSet.ofList ["className=\x7b".toList] := by
  decide +kernel

end WebTidy
