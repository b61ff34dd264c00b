import WebTidy.Proofs.Markup.QuotedValues
import WebTidy.Proofs.Stylesheet.FlatSheet
import WebTidy.Proofs.Text.Words

/-!
# Rules of used classes

Markup yields whole class names, while the filter reads a class name of a selector only as far as
its ASCII characters go. So the rule of a used class stays if its name is ASCII or starts with
another character, and otherwise exactly if the ASCII part is the name of a used class as well.
-/

namespace WebTidy

/-- The characters that a class name in a stylesheet may hold unescaped. -/
def isNameChar (c : Char) : Bool := isClassChar c || (128 ≤ c.toNat && !isBlank c)

structure ClassName (name : Text) : Prop where
  ne_nil : name ≠ []
  chars : ∀ c ∈ name, isNameChar c = true

instance : DecidablePred ClassName := fun name =>
  decidable_of_iff (name ≠ [] ∧ name.all isNameChar = true)
    ⟨fun ⟨hn, hc⟩ => ⟨hn, by simpa using hc⟩, fun ⟨hn, hc⟩ => ⟨hn, by simpa using hc⟩⟩

theorem ClassName.notMem {name : Text} (h : ClassName name) {c : Char}
    (hc : isNameChar c = false) : c ∉ name := by
  intro hm
  simp [h.chars c hm] at hc

/-- The part of a class name that the filter reads. -/
def asciiLead (name : Text) : Text := name.takeWhile isClassChar

theorem namedClasses_of_notMem {t : Text} (h : '.' ∉ t) : namedClasses t = [] := by
  induction t with
  | nil => rfl
  | cons c t ih =>
    simp only [List.mem_cons, not_or] at h
    rw [namedClasses, if_neg fun hc => h.1 hc.1.symm]
    exact ih h.2

theorem ClassName.keeps_iff {name : Text} (h : ClassName name) (used : ClassSet) :
    ClassFilter.keeps (some used) ('.' :: name) = true ↔
      asciiLead name = [] ∨ asciiLead name ∈ used := by
  have hdot : namedClasses name = [] := namedClasses_of_notMem (h.notMem (by decide))
  have hcolon : ':' ∉ '.' :: name := by
    simp only [List.mem_cons, not_or]
    exact ⟨by decide, h.notMem (by decide)⟩
  rw [ClassFilter.keeps_some_iff, or_iff_right hcolon, namedClasses, hdot]
  by_cases hn : name.takeWhile isClassChar = []
  · simp [asciiLead, hn]
  · simp [asciiLead, hn]

theorem toNat_of_isClassChar {c : Char} (h : isClassChar c = true) :
    45 ≤ c.toNat ∧ c.toNat ≤ 122 := by
  have hcode : c.val.toNat = c.toNat := rfl
  rw [isClassChar, Bool.or_eq_true, Bool.or_eq_true, beq_iff_eq, beq_iff_eq] at h
  rcases h with (h | rfl) | rfl
  · simp only [Char.isAlphanum, Char.isAlpha, Char.isUpper, Char.isLower, Char.isDigit,
      Bool.or_eq_true, Bool.and_eq_true, decide_eq_true_eq, ge_iff_le, UInt32.le_iff_toNat_le,
      hcode, Char.reduceVal, UInt32.reduceToNat] at h
    omega
  · decide
  · decide

theorem isBlank_of_isClassChar {c : Char} (h : isClassChar c = true) : isBlank c = false := by
  rw [Bool.eq_false_iff]
  intro hb
  have hblank := Text.toNat_of_isBlank hb
  have hcode := toNat_of_isClassChar h
  omega

/-- A used class with an ASCII name is one of the words that the markup has for it. -/
theorem asciiLead_mem_words {name : Text} (hn : name ≠ [])
    (h : ∀ c ∈ name, isClassChar c = true) {names : List Text} (hm : name ∈ names) :
    asciiLead name ∈ names.flatMap Text.words := by
  have hlead : asciiLead name = name := List.takeWhile_eq_self_iff.mpr h
  have hwords : name.words = [name] :=
    Text.words_of_solid hn fun c hc => isBlank_of_isClassChar (h c hc)
  rw [hlead]
  exact List.mem_flatMap.mpr ⟨name, hm, by simp [hwords]⟩

/-! ## Markup with one list of classes -/

/-- A paragraph with the given classes in an attribute. -/
def paragraph (attr : Text) (names : List Text) : Text :=
  "<p ".toList ++ (attr ++ '=' :: '"' :: (Text.join [' '] names ++ '"' :: ['>']))

theorem quoteFree_join {names : List Text} (h : ∀ n ∈ names, QuoteFree n) :
    QuoteFree (Text.join [' '] names) := by
  intro c hc
  rcases Text.mem_of_mem_join hc with hs | ⟨n, hn, hc⟩
  · rw [List.mem_singleton.mp hs]
    decide
  · exact h n hn c hc

theorem usedClasses_paragraph {attr : Text} (ha : LetterName attr) {names : List Text}
    (hq : ∀ n ∈ names, QuoteFree n) (hn : Text.join [' '] names ≠ []) :
    usedClasses [attr] (paragraph attr names) =
      ClassSet.ofList (names.flatMap Text.words) := by
  have hlead : Lacks (assigned attr) "<p ".toList := lacks_assigned (by decide)
  have hrest : Lacks (assigned attr) ['>'] := lacks_assigned (by decide)
  have hstarts : startsName "<p ".toList.getLast? = true := by decide
  have hquote : isQuote '"' = true := by decide
  have hfree : QuoteFree ['>'] := by decide
  have hfreeValue := quoteFree_join hq
  rw [paragraph, usedClasses_quoted ha hlead hquote hquote hn hfreeValue hstarts hrest hfree,
    Text.words_join_space]

/-! ## Rules that stay -/

/-- The two readings of a class name meet: the filter asks for what it reads of the name, and what
is used are the words of the markup. -/
theorem keeps_paragraph_iff {name : Text} (hname : ClassName name) {names : List Text}
    (hm : name ∈ names) (hq : ∀ n ∈ names, QuoteFree n) :
    ClassFilter.keeps (some (usedClasses defaultAttributes (paragraph "className".toList names)))
        ('.' :: name) = true ↔
      asciiLead name = [] ∨ asciiLead name ∈ names.flatMap Text.words := by
  have hattr : LetterName "className".toList := by decide +kernel
  have hused := usedClasses_paragraph hattr hq (Text.join_ne_nil hname.ne_nil hm)
  rw [hname.keeps_iff, defaultAttributes, hused, ClassSet.mem_ofList]

section FlatRules

variable {name : Text} (hname : ClassName name) {names : List Text} (hm : name ∈ names)
  (hq : ∀ n ∈ names, QuoteFree n) {rules : List RuleText} (hr : ∀ r ∈ rules, r.WellFormed)
  {w : Text} (hw : ∀ c ∈ w, isBlank c = true)
  (hc : Lacks commentStart (rules.flatMap RuleText.render ++ w)) {property value : Text}
  (hv : RuleText.lastValue? ('.' :: name) property rules = some value)

include hname hm hq hr hw hc hv

theorem rule_of_used_ascii_class (ha : ∀ c ∈ name, isClassChar c = true) :
    ∃ rule ∈ (Sheet.parse (tidy (some (usedClasses defaultAttributes
          (paragraph "className".toList names)))
        (rules.flatMap RuleText.render ++ w))).rules,
      rule.selector = '.' :: name ∧ Table.get? property rule.declarations = some value := by
  have hread := asciiLead_mem_words hname.ne_nil ha hm
  have hkept := (keeps_paragraph_iff hname hm hq).mpr (.inr hread)
  exact (exists_rule_parse_tidy_iff hr hw hc _ hv).mpr hkept

/-- The rule of a used class is in the tidied text, with the last value that the source gives its
property, exactly when the ASCII part of the name is empty or a used class itself. -/
theorem rule_of_used_class_iff :
    (∃ rule ∈ (Sheet.parse (tidy (some (usedClasses defaultAttributes
          (paragraph "className".toList names)))
        (rules.flatMap RuleText.render ++ w))).rules,
      rule.selector = '.' :: name ∧ Table.get? property rule.declarations = some value) ↔
      asciiLead name = [] ∨ asciiLead name ∈ names.flatMap Text.words := by
  rw [exists_rule_parse_tidy_iff hr hw hc _ hv, keeps_paragraph_iff hname hm hq]

end FlatRules

/-- A name stays that is used as far as it is read, and set twice. -/
theorem rule_of_used_class_iff_lead_used :
    let name := "a\u00e9".toList
    let names := ["b".toList, name, "a".toList]
    let rules : List RuleText := [⟨".b".toList, "p:v".toList⟩,
      ⟨".a\u00e9 ".toList, " p : u".toList⟩, ⟨"\n.a\u00e9".toList, "q:v;p:w".toList⟩]
    ClassName name ∧ name ∈ names ∧ (∀ n ∈ names, QuoteFree n) ∧ (∀ r ∈ rules, r.WellFormed) ∧
      (∀ c ∈ ['\n'], isBlank c = true) ∧
      Lacks commentStart (rules.flatMap RuleText.render ++ ['\n']) ∧
      RuleText.lastValue? ('.' :: name) ['p'] rules = some ['w'] ∧
      ∃ rule ∈ (Sheet.parse (tidy (some (usedClasses defaultAttributes
            (paragraph "className".toList names)))
          (rules.flatMap RuleText.render ++ ['\n']))).rules,
        rule.selector = '.' :: name ∧ Table.get? ['p'] rule.declarations = some ['w'] := by
  intro name names rules
  have hname : ClassName name := by decide +kernel
  have hm : name ∈ names := by decide +kernel
  have hq : ∀ n ∈ names, QuoteFree n := by decide +kernel
  have hr : ∀ r ∈ rules, r.WellFormed := by decide +kernel
  have hw : ∀ c ∈ ['\n'], isBlank c = true := by simp; decide
  have hc : Lacks commentStart (rules.flatMap RuleText.render ++ ['\n']) := by decide +kernel
  have hv : RuleText.lastValue? ('.' :: name) ['p'] rules = some ['w'] := by decide +kernel
  have hlead : asciiLead name ∈ names.flatMap Text.words := by decide +kernel
  exact ⟨hname, hm, hq, hr, hw, hc, hv,
    (rule_of_used_class_iff hname hm hq hr hw hc hv).mpr (.inr hlead)⟩

/-- The class of this rule is used, and its name is read without the last letter. -/
theorem not_rule_of_used_class :
    ¬ ∀ (name : Text) (names : List Text) (rules : List RuleText) (property value : Text),
      ClassName name → name ∈ names → (∀ n ∈ names, QuoteFree n) → (∀ r ∈ rules, r.WellFormed) →
      Lacks commentStart (rules.flatMap RuleText.render) →
      RuleText.lastValue? ('.' :: name) property rules = some value →
      ∃ rule ∈ (Sheet.parse (tidy (some (usedClasses defaultAttributes
          (paragraph "className".toList names)))
          (rules.flatMap RuleText.render))).rules,
        rule.selector = '.' :: name ∧ Table.get? property rule.declarations = some value := by
  intro h
  have hkept := h "a\u00e9".toList ["a\u00e9".toList] [⟨".a\u00e9".toList, "p:v".toList⟩]
    ['p'] ['v'] (by decide +kernel) (by decide +kernel) (by decide +kernel) (by decide +kernel)
    (by decide +kernel) (by decide +kernel)
  exact absurd hkept (by decide +kernel)

end WebTidy
