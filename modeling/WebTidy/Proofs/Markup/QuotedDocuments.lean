import WebTidy.Proofs.Markup.QuotedValues

/-!
# Markup with quoted values

Of markup in which every attribute of a name has a quoted value, the classes are the words of the
values whose name is not the end of a longer one. No scan reads across an attribute, and what stands
between two attributes is not read, whatever quotes and braces it holds.
-/

namespace WebTidy

/-- Behind the text a name may start: the text does not end with a part of a longer one. -/
def NameMayFollow (t : Text) : Prop :=
  ∀ c, t.getLast? = some c → isWordChar c = false ∧ c ≠ ':' ∧ c ≠ '.' ∧ c ≠ '-'

theorem startsName_iff_nameMayFollow {t : Text} :
    startsName t.getLast? = true ↔ NameMayFollow t := by
  cases h : t.getLast? with
  | none => simp [startsName, NameMayFollow, h]
  | some c => simp [startsName, NameMayFollow, h, and_assoc]

/-- The character before the next one, behind a text that holds `c`. -/
theorem getLast?_append_cons_or {s t : Text} {c : Char} {before : Option Char} :
    (s ++ c :: t).getLast?.or before = t.getLast?.or (some c) := by
  rw [List.getLast?_append, List.getLast?_cons]
  cases t.getLast? <;> rfl

/-- An attribute with a quoted value, and what stands between it and the next one. -/
structure QuotedAttribute where
  opening : Char
  value : Text
  closing : Char
  after : Text
  deriving DecidableEq, Repr

namespace QuotedAttribute

def render (name : Text) (a : QuotedAttribute) : Text :=
  name ++ '=' :: a.opening :: (a.value ++ a.closing :: a.after)

structure WellFormed (name : Text) (a : QuotedAttribute) : Prop where
  opening : isQuote a.opening = true
  closing : isQuote a.closing = true
  quoteFree : QuoteFree a.value
  value : Lacks (assigned name) a.value
  after : Lacks (assigned name) a.after

instance (name : Text) : DecidablePred (WellFormed name) := fun a =>
  decidable_of_iff
    (isQuote a.opening = true ∧ isQuote a.closing = true ∧ QuoteFree a.value ∧
      Lacks (assigned name) a.value ∧ Lacks (assigned name) a.after)
    ⟨fun ⟨ho, hc, hq, hv, ha⟩ => ⟨ho, hc, hq, hv, ha⟩,
      fun ⟨ho, hc, hq, hv, ha⟩ => ⟨ho, hc, hq, hv, ha⟩⟩

theorem flatMap_render_cons (name lead : Text) (a : QuotedAttribute) (as : List QuotedAttribute) :
    lead ++ (a :: as).flatMap (render name) =
      lead ++ (name ++ '=' :: a.opening ::
        (a.value ++ a.closing :: (a.after ++ as.flatMap (render name)))) := by
  simp [render]

theorem getLast?_flatMap_render_cons_or (name lead : Text) (a : QuotedAttribute)
    (as : List QuotedAttribute) (before : Option Char) :
    (lead ++ (a :: as).flatMap (render name)).getLast?.or before =
      (a.after ++ as.flatMap (render name)).getLast?.or (some a.closing) := by
  have hsplit : lead ++ (a :: as).flatMap (render name) =
      (lead ++ (name ++ '=' :: a.opening :: a.value)) ++
        a.closing :: (a.after ++ as.flatMap (render name)) := by simp [render]
  rw [hsplit, getLast?_append_cons_or]

section Scan

variable {form : ValueForm} {name : Text} {before : Option Char} (hname : LetterName name)

section Single

variable {a : QuotedAttribute} (ha : a.WellFormed name)

include hname ha

/-- No attribute begins inside a quoted value. -/
theorem attributeLiterals_value (t : Text) :
    attributeLiterals form name 0 before (a.opening :: (a.value ++ a.closing :: t)) =
      attributeLiterals form name 0 (some a.closing) t := by
  have hopening := hname.quote_notMem_assigned ha.opening
  have hclosing := hname.quote_notMem_assigned ha.closing
  have hlacks : Lacks (assigned name) (a.opening :: a.value) :=
    (lacks_assigned List.not_mem_nil).append_cons ha.value hopening
  have hsplit : a.opening :: (a.value ++ a.closing :: t) =
      (a.opening :: a.value ++ [a.closing]) ++ t := by simp
  rw [hsplit, attributeLiterals_append, getLast?_append_cons_or]
  · rfl
  · intro v hv hn hp
    -- a suffix that is not empty ends with the closing quote
    rcases List.suffix_concat_iff.mp hv with rfl | ⟨w, rfl, hw⟩
    · exact hn rfl
    · rw [List.append_assoc, List.singleton_append] at hp
      have hbegins := (Text.isPrefix_append_cons_iff hclosing).mp hp
      exact hlacks (hbegins.isInfix.trans hw.isInfix)

/-- What one attribute adds to a scan. -/
theorem attributeLiterals_attribute {lead : Text} (hlead : Lacks (assigned name) lead) (t : Text) :
    attributeLiterals form name 0 before
        (lead ++ (name ++ '=' :: a.opening :: (a.value ++ a.closing :: t))) =
      (if form = .quoted ∧ a.value ≠ [] ∧ startsName (lead.getLast?.or before) = true
        then [a.value] else []) ++ attributeLiterals form name 0 (some a.closing) t := by
  by_cases h : form = .quoted ∧ a.value ≠ [] ∧ startsName (lead.getLast?.or before) = true
  · obtain ⟨rfl, hn, hb⟩ := h
    rw [attributeLiterals_quoted_append hname hlead ha.opening ha.closing hn ha.quoteFree hb,
      if_pos ⟨rfl, hn, hb⟩]
    rfl
  · have hnone : attribute? form name (lead.getLast?.or before)
        (name ++ '=' :: a.opening :: (a.value ++ a.closing :: t)) = none := by
      cases hb : startsName (lead.getLast?.or before) with
      | false => rw [attribute?, hb, if_neg (by simp)]
      | true =>
        apply attribute?_of_read?_eq_none
        by_cases hform : form = .quoted
        · have hn : a.value = [] := by_contra fun hn => h ⟨hform, hn, hb⟩
          rw [hform, read?_quoted ha.opening ha.closing ha.quoteFree, if_pos hn]
        · exact ValueForm.read?_quote hform ha.opening _
    rw [attributeLiterals_lead hname.equals_notMem hlead,
      attributeLiterals_unread hname.equals_notMem hname.ne_nil hnone,
      attributeLiterals_value hname ha, if_neg h, List.nil_append]

end Single

include hname

/-- What a scan finds in a document. -/
theorem mem_attributeLiterals_iff {lead : Text} (hlead : Lacks (assigned name) lead)
    {as : List QuotedAttribute} (has : ∀ a ∈ as, a.WellFormed name) {content : Text} :
    content ∈ attributeLiterals form name 0 before (lead ++ as.flatMap (render name)) ↔
      ∃ earlier a later, as = earlier ++ a :: later ∧ form = .quoted ∧ a.value ≠ [] ∧
        startsName ((lead ++ earlier.flatMap (render name)).getLast?.or before) = true ∧
        content = a.value := by
  induction as generalizing lead before with
  | nil =>
    rw [List.flatMap_nil, List.append_nil, attributeLiterals_of_lacks hlead]
    simp
  | cons a as ih =>
    have ha := has a (by simp)
    have hrest := @ih (some a.closing) a.after ha.after fun b hb => has b (by simp [hb])
    rw [flatMap_render_cons, attributeLiterals_attribute hname ha hlead, List.mem_append, hrest]
    constructor
    · rintro (h | ⟨earlier, b, later, rfl, hform, hn, hb, rfl⟩)
      · split at h
        · next hread =>
          refine ⟨[], a, as, rfl, hread.1, hread.2.1, ?_, List.mem_singleton.mp h⟩
          rw [List.flatMap_nil, List.append_nil]
          exact hread.2.2
        · exact absurd h List.not_mem_nil
      · refine ⟨a :: earlier, b, later, rfl, hform, hn, ?_, rfl⟩
        rw [getLast?_flatMap_render_cons_or]
        exact hb
    · rintro ⟨earlier, b, later, hsplit, hform, hn, hb, rfl⟩
      cases earlier with
      | nil =>
        obtain ⟨rfl, rfl⟩ := List.cons_eq_cons.mp hsplit
        rw [List.flatMap_nil, List.append_nil] at hb
        rw [if_pos ⟨hform, hn, hb⟩]
        exact .inl (List.mem_singleton_self _)
      | cons c earlier =>
        obtain ⟨rfl, rfl⟩ := List.cons_eq_cons.mp hsplit
        rw [getLast?_flatMap_render_cons_or] at hb
        exact .inr ⟨earlier, b, later, rfl, hform, hn, hb, rfl⟩

end Scan

end QuotedAttribute

open QuotedAttribute in
/-- The classes are the words of the values whose name does not go on in front of them. -/
theorem mem_usedClasses_quotedDocument {name lead : Text} {as : List QuotedAttribute}
    (hname : LetterName name) (hlead : Lacks (assigned name) lead)
    (has : ∀ a ∈ as, a.WellFormed name) (w : Text) :
    w ∈ usedClasses [name] (lead ++ as.flatMap (render name)) ↔
      ∃ earlier a later, as = earlier ++ a :: later ∧
        NameMayFollow (lead ++ earlier.flatMap (render name)) ∧ w ∈ a.value.words := by
  have hscan : ∀ form, w ∈ scanClasses form name (lead ++ as.flatMap (render name)) ↔
      form = .quoted ∧ ∃ earlier a later, as = earlier ++ a :: later ∧
        NameMayFollow (lead ++ earlier.flatMap (render name)) ∧ w ∈ a.value.words := by
    intro form
    rw [scanClasses, List.mem_flatMap]
    simp only [mem_attributeLiterals_iff hname hlead has, Option.or_none,
      startsName_iff_nameMayFollow]
    constructor
    · rintro ⟨_, ⟨earlier, a, later, hsplit, hform, -, hfollows, rfl⟩, hw⟩
      exact ⟨hform, earlier, a, later, hsplit, hfollows, hw⟩
    · rintro ⟨hform, earlier, a, later, hsplit, hfollows, hw⟩
      have hn : a.value ≠ [] := by
        intro hn
        rw [hn] at hw
        exact absurd hw List.not_mem_nil
      exact ⟨_, ⟨earlier, a, later, hsplit, hform, hn, hfollows, rfl⟩, hw⟩
  simp [mem_usedClasses, hscan]

/-- A longer name, an empty value, an attribute right behind another, and quotes and braces between
the attributes. -/
theorem mem_usedClasses_quotedDocument_prefixed :
    let name := "class".toList
    let lead := "<p data-".toList
    let as : List QuotedAttribute := [⟨'"', "x\ty".toList, '\'', " ".toList⟩,
      ⟨'"', [], '"', []⟩, ⟨'\'', "a \x7bb".toList, '"', "\x7d it's :".toList⟩,
      ⟨'"', "z".toList, '"', []⟩]
    LetterName name ∧ Lacks (assigned name) lead ∧ (∀ a ∈ as, a.WellFormed name) ∧
      ∀ w, w ∈ usedClasses [name] (lead ++ as.flatMap (QuotedAttribute.render name)) ↔
        ∃ earlier a later, as = earlier ++ a :: later ∧
          NameMayFollow (lead ++ earlier.flatMap (QuotedAttribute.render name)) ∧
          w ∈ a.value.words := by
  intro name lead as
  have hname : LetterName name := by decide
  have hlead : Lacks (assigned name) lead := by decide
  have has : ∀ a ∈ as, a.WellFormed name := by decide
  exact ⟨hname, hlead, has, mem_usedClasses_quotedDocument hname hlead has⟩

/-- What is read there. -/
example : usedClasses ["class".toList] "<p data-class=\"x\" class='a b'> :class=\"z\"".toList =
    ClassSet.ofList [['a'], ['b']] := by
  decide +kernel

end WebTidy
