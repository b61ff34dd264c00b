import WebTidy.Proofs.Markup.AttributeScan

/-!
# Classes in quoted values

The classes of an attribute with a quoted value are the words of that value, whatever braces it
holds: an expression that seems to open inside it has one quote behind it at most, and a literal
takes two.
-/

namespace WebTidy

/-! ## Texts with one quote -/

theorem literal?_of_countP_le {t : Text} (h : t.countP isQuote ≤ 1) : literal? t = none := by
  rw [Option.eq_none_iff_forall_ne_some]
  intro content hc
  obtain ⟨q, q', rest, hq, hq', -, -, rfl⟩ := eq_of_literal? hc
  simp only [List.countP_cons, List.countP_append, hq, hq', if_true] at h
  omega

theorem literals_of_countP_le {t : Text} (h : t.countP isQuote ≤ 1) : literals t = [] := by
  induction t with
  | nil => rfl
  | cons c t ih =>
    have ht : t.countP isQuote ≤ 1 := (List.sublist_cons_self c t).countP_le.trans h
    rw [literals, literalsAfter, literal?_of_countP_le h]
    exact ih ht

theorem ValueForm.literals_of_read? {form : ValueForm} {t : Text} (h : t.countP isQuote ≤ 1)
    {value : AttributeValue} (hv : form.read? t = some value) : value.literals = [] := by
  have hrest : ∀ {lead rest : Text}, Text.after? lead t = some rest → rest.countP isQuote ≤ 1 := by
    intro lead rest hr
    rw [Text.after?_eq_some_iff.mp hr] at h
    exact (List.sublist_append_right lead rest).countP_le.trans h
  cases form with
  | quoted =>
    obtain ⟨rest, hr, hl⟩ := Option.bind_eq_some_iff.mp hv
    simp [literal?_of_countP_le (hrest hr)] at hl
  | bracedLiteral =>
    obtain ⟨rest, hr, hl⟩ := Option.bind_eq_some_iff.mp hv
    simp [literal?_of_countP_le (hrest hr)] at hl
  | bracedExpression =>
    obtain ⟨rest, hr, rfl⟩ := Option.map_eq_some_iff.mp hv
    have htake := (List.takeWhile_sublist (· != '}') (l := rest)).countP_le (p := isQuote)
    exact literals_of_countP_le (htake.trans (hrest hr))

theorem attributeLiterals_of_countP_le {form : ValueForm} {name t : Text} {before : Option Char}
    (h : t.countP isQuote ≤ 1) (skip : Nat) : attributeLiterals form name skip before t = [] := by
  induction t generalizing skip before with
  | nil => cases skip <;> rfl
  | cons c t ih =>
    have ht : t.countP isQuote ≤ 1 := (List.sublist_cons_self c t).countP_le.trans h
    cases skip with
    | succ skip => exact ih ht skip
    | zero =>
      cases ha : attribute? form name before (c :: t) with
      | none =>
        rw [attributeLiterals_of_none ha]
        exact ih ht 0
      | some value =>
        obtain ⟨rest, read, hr, hread, rfl⟩ := eq_of_attribute? ha
        rw [hr] at h
        have hrest := (List.sublist_append_right name rest).countP_le.trans h
        have hnone : read.literals = [] := ValueForm.literals_of_read? hrest hread
        rw [attributeLiterals_of_some ha, hnone, List.nil_append]
        exact ih ht _

/-! ## One quoted value -/

theorem read?_quoted {q q' : Char} (hq : isQuote q = true) (hq' : isQuote q' = true) {value : Text}
    (hv : QuoteFree value) (t : Text) :
    ValueForm.quoted.read? ('=' :: q :: (value ++ q' :: t)) =
      if value = [] then none else some ⟨[value], value.length + 3⟩ := by
  have ha : Text.after? ['='] ('=' :: q :: (value ++ q' :: t)) = some (q :: (value ++ q' :: t)) :=
    Text.after?_eq_some_iff.mpr rfl
  rw [ValueForm.read?, ha, Option.bind_some, literal?_quoted hq hq' hv]
  split <;> rfl

theorem ValueForm.read?_quote {form : ValueForm} (h : form ≠ .quoted) {q : Char}
    (hq : isQuote q = true) (t : Text) : form.read? ('=' :: q :: t) = none := by
  have hbrace : q ≠ '{' := by
    rintro rfl
    exact absurd hq (by decide)
  have ha : Text.after? ['=', '{'] ('=' :: q :: t) = none := by
    simp [Text.after?, Ne.symm hbrace]
  cases form with
  | quoted => exact absurd rfl h
  | bracedLiteral => rw [read?, ha, Option.bind_none]
  | bracedExpression => rw [read?, ha, Option.map_none]

section QuotedValue

variable {name lead value rest : Text} {q q' : Char} (hname : LetterName name)
  (hlead : Lacks (assigned name) lead) (hq : isQuote q = true) (hq' : isQuote q' = true)
  (hn : value ≠ []) (hv : QuoteFree value)

include hname hlead hq hq' hn hv in
theorem attributeLiterals_quoted_append {before : Option Char}
    (hstarts : startsName (lead.getLast?.or before) = true) :
    attributeLiterals .quoted name 0 before (lead ++ (name ++ '=' :: q :: (value ++ q' :: rest))) =
      value :: attributeLiterals .quoted name 0 (some q') rest := by
  have hread := read?_quoted hq hq' hv rest
  have hsplit : '=' :: q :: (value ++ q' :: rest) = ('=' :: q :: (value ++ [q'])) ++ rest := by simp
  have hlength : value.length + 3 = ('=' :: q :: (value ++ [q'])).length := by simp
  rw [if_neg hn, hsplit, hlength] at hread
  have hlast : (name ++ '=' :: q :: (value ++ [q'])).getLast? = some q' := by
    have hconcat : name ++ '=' :: q :: (value ++ [q']) = (name ++ '=' :: q :: value) ++ [q'] := by
      simp
    rw [hconcat, List.getLast?_concat]
  rw [attributeLiterals_lead hname.equals_notMem hlead, hsplit,
    attributeLiterals_read hstarts hname.ne_nil hread, hlast]
  rfl

include hname hlead hq in
theorem attributeLiterals_braced_append {form : ValueForm} (hform : form ≠ .quoted) (t : Text) :
    attributeLiterals form name 0 none (lead ++ (name ++ '=' :: q :: t)) =
      attributeLiterals form name 0 (some q) t := by
  have hnone : attribute? form name (lead.getLast?.or none) (name ++ '=' :: q :: t) = none :=
    attribute?_of_read?_eq_none (ValueForm.read?_quote hform hq t)
  have hquote : ¬ assigned name <+: q :: t := by
    rintro ⟨u, hu⟩
    have hm := hname.quote_notMem_assigned hq
    obtain ⟨c, n, hc⟩ := List.exists_cons_of_ne_nil (show assigned name ≠ [] by simp [assigned])
    rw [hc, List.cons_append] at hu
    rw [hc, (List.cons_eq_cons.mp hu).1] at hm
    exact hm (by simp)
  rw [attributeLiterals_lead hname.equals_notMem hlead,
    attributeLiterals_unread hname.equals_notMem hname.ne_nil hnone,
    attributeLiterals_of_none (attribute?_of_not_isPrefix hquote)]

include hname hlead hq hq' hn hv

/-- The classes of a quoted value behind which no quote and no further attribute stands. -/
theorem usedClasses_quoted (hstarts : startsName lead.getLast? = true)
    (hrest : Lacks (assigned name) rest) (hfree : QuoteFree rest) :
    usedClasses [name] (lead ++ (name ++ '=' :: q :: (value ++ q' :: rest))) =
      ClassSet.ofList value.words := by
  have hcount : (value ++ q' :: rest).countP isQuote ≤ 1 := by
    have hvalue : value.countP isQuote = 0 := List.countP_eq_zero.mpr fun c hc => by simp [hv c hc]
    have hr : rest.countP isQuote = 0 := List.countP_eq_zero.mpr fun c hc => by simp [hfree c hc]
    rw [List.countP_append, List.countP_cons, hvalue, hr, hq']
    simp
  have hbraced : ∀ form, form ≠ ValueForm.quoted →
      scanClasses form name (lead ++ (name ++ '=' :: q :: (value ++ q' :: rest))) = [] := by
    intro form hform
    rw [scanClasses, attributeLiterals_braced_append hname hlead hq hform,
      attributeLiterals_of_countP_le hcount]
    rfl
  have hquoted : scanClasses .quoted name (lead ++ (name ++ '=' :: q :: (value ++ q' :: rest))) =
      value.words := by
    have hb : startsName (lead.getLast?.or none) = true := by rwa [Option.or_none]
    rw [scanClasses, attributeLiterals_quoted_append hname hlead hq hq' hn hv hb,
      attributeLiterals_of_lacks hrest]
    simp
  rw [usedClasses, List.flatMap_singleton, hquoted, hbraced _ (by simp), hbraced _ (by simp),
    List.append_nil, List.append_nil]

end QuotedValue

end WebTidy
