import WebTidy.Proofs.Markup.Literals

/-!
# The scan for attributes

An attribute is read only where its name stands before an equals sign, so the scan passes over every
text in which that is not the case. A name without an equals sign cannot begin in the text in front
of it, nor anywhere inside itself. Where an attribute stands that could be read, the scan reads it or
is still inside one that it read before.
-/

namespace WebTidy

/-- What every attribute of that name begins with. -/
def assigned (name : Text) : Text := name ++ ['=']

/-- A name of ASCII letters. -/
structure LetterName (name : Text) : Prop where
  ne_nil : name ≠ []
  letters : ∀ c ∈ name, c.isAlpha = true

instance : DecidablePred LetterName := fun name =>
  decidable_of_iff (name ≠ [] ∧ name.all Char.isAlpha = true)
    ⟨fun ⟨hn, hl⟩ => ⟨hn, by simpa using hl⟩, fun ⟨hn, hl⟩ => ⟨hn, by simpa using hl⟩⟩

namespace LetterName

variable {name : Text} (h : LetterName name)

include h

theorem notMem_assigned {c : Char} (hc : c.isAlpha = false) (he : c ≠ '=') : c ∉ assigned name := by
  intro hm
  rcases List.mem_append.mp hm with hm | hm
  · simp [h.letters c hm] at hc
  · exact he (List.mem_singleton.mp hm)

theorem equals_notMem : '=' ∉ name := by
  intro hm
  exact absurd (h.letters _ hm) (by decide)

theorem quote_notMem_assigned {q : Char} (hq : isQuote q = true) : q ∉ assigned name := by
  rw [isQuote, Bool.or_eq_true, beq_iff_eq, beq_iff_eq] at hq
  rcases hq with rfl | rfl
  · exact h.notMem_assigned (by decide) (by decide)
  · exact h.notMem_assigned (by decide) (by decide)

end LetterName

theorem lacks_assigned {name t : Text} (h : '=' ∉ t) : Lacks (assigned name) t := by
  intro hi
  exact h (hi.subset (by simp [assigned]))

theorem ValueForm.eq_of_read? {form : ValueForm} {t : Text} {value : AttributeValue}
    (h : form.read? t = some value) : ∃ rest, t = '=' :: rest := by
  cases form with
  | quoted =>
    obtain ⟨rest, hr, -⟩ := Option.bind_eq_some_iff.mp h
    exact ⟨rest, Text.after?_eq_some_iff.mp hr⟩
  | bracedLiteral =>
    obtain ⟨rest, hr, -⟩ := Option.bind_eq_some_iff.mp h
    exact ⟨'{' :: rest, Text.after?_eq_some_iff.mp hr⟩
  | bracedExpression =>
    obtain ⟨rest, hr, -⟩ := Option.map_eq_some_iff.mp h
    exact ⟨'{' :: rest, Text.after?_eq_some_iff.mp hr⟩

section Scan

variable {form : ValueForm} {name : Text} {before : Option Char}

theorem eq_of_attribute? {t : Text} {value : AttributeValue}
    (h : attribute? form name before t = some value) :
    ∃ rest read, t = name ++ rest ∧ form.read? rest = some read ∧
      value = { read with length := read.length + name.length } := by
  rw [attribute?] at h
  split at h
  · obtain ⟨rest, hr, hv⟩ := Option.bind_eq_some_iff.mp h
    obtain ⟨read, hread, hv⟩ := Option.map_eq_some_iff.mp hv
    exact ⟨rest, read, Text.after?_eq_some_iff.mp hr, hread, hv.symm⟩
  · simp at h

theorem startsName_of_attribute? {t : Text} {value : AttributeValue}
    (h : attribute? form name before t = some value) : startsName before = true := by
  by_contra hb
  rw [attribute?, if_neg hb] at h
  simp at h

theorem attribute?_of_not_isPrefix {t : Text} (h : ¬ assigned name <+: t) :
    attribute? form name before t = none := by
  rw [Option.eq_none_iff_forall_ne_some]
  intro value hv
  obtain ⟨u, read, rfl, hread, -⟩ := eq_of_attribute? hv
  obtain ⟨rest, rfl⟩ := ValueForm.eq_of_read? hread
  exact h ⟨rest, by simp [assigned]⟩

/-- An attribute where its name may start is what its value reads. -/
theorem attribute?_append (hb : startsName before = true) (t : Text) :
    attribute? form name before (name ++ t) =
      (form.read? t).map fun value => { value with length := value.length + name.length } := by
  have ha : Text.after? name (name ++ t) = some t := Text.after?_eq_some_iff.mpr rfl
  rw [attribute?, if_pos hb, ha, Option.bind_some]

theorem attribute?_of_read?_eq_none {t : Text} (h : form.read? t = none) :
    attribute? form name before (name ++ t) = none := by
  cases hb : startsName before with
  | true => rw [attribute?_append hb, h, Option.map_none]
  | false => rw [attribute?, hb, if_neg (by simp)]

theorem attributeLiterals_of_none {c : Char} {t : Text}
    (h : attribute? form name before (c :: t) = none) :
    attributeLiterals form name 0 before (c :: t) = attributeLiterals form name 0 (some c) t := by
  rw [attributeLiterals, h]

theorem attributeLiterals_of_some {c : Char} {t : Text} {value : AttributeValue}
    (h : attribute? form name before (c :: t) = some value) :
    attributeLiterals form name 0 before (c :: t) =
      value.literals ++ attributeLiterals form name (value.length - 1) (some c) t := by
  rw [attributeLiterals, h]

theorem attributeLiterals_of_lacks {t : Text} (h : Lacks (assigned name) t) (skip : Nat) :
    attributeLiterals form name skip before t = [] := by
  induction t generalizing skip before with
  | nil => cases skip <;> rfl
  | cons c t ih =>
    have ht : Lacks (assigned name) t := h.of_isInfix (List.suffix_cons c t).isInfix
    cases skip with
    | zero =>
      rw [attributeLiterals_of_none (attribute?_of_not_isPrefix h.not_isPrefix)]
      exact ih ht 0
    | succ skip => exact ih ht skip

/-- What stands before the next character, behind a first character and a text. -/
theorem getLast?_cons_or (c : Char) (s : Text) :
    (c :: s).getLast?.or before = s.getLast?.or (some c) := by
  rw [List.getLast?_cons]
  cases s.getLast? <;> rfl

theorem attributeLiterals_skip (s t : Text) :
    attributeLiterals form name s.length before (s ++ t) =
      attributeLiterals form name 0 (s.getLast?.or before) t := by
  induction s generalizing before with
  | nil => rfl
  | cons c s ih =>
    rw [getLast?_cons_or]
    exact ih

/-- The scan passes over a text in which no attribute begins. -/
theorem attributeLiterals_append {s t : Text}
    (h : ∀ v, v <:+ s → v ≠ [] → ¬ assigned name <+: v ++ t) :
    attributeLiterals form name 0 before (s ++ t) =
      attributeLiterals form name 0 (s.getLast?.or before) t := by
  induction s generalizing before with
  | nil => rfl
  | cons c s ih =>
    have hhere : attribute? form name before (c :: (s ++ t)) = none :=
      attribute?_of_not_isPrefix (h (c :: s) List.suffix_rfl (by simp))
    have hrest := @ih (some c) fun v hv => h v (hv.trans (List.suffix_cons c s))
    rw [List.cons_append, attributeLiterals_of_none hhere, hrest, getLast?_cons_or]

/-- A name that stands before an equals sign behind `v` without one is longer than the text. -/
theorem eq_of_assigned_isPrefix {v t : Text} (hname : '=' ∉ name) (hv : '=' ∉ v)
    (h : assigned name <+: v ++ '=' :: t) : name = v := by
  obtain ⟨rest, hr⟩ := h
  rw [assigned, List.append_assoc] at hr
  exact (Text.eq_of_append_cons_eq_of_notMem hname hv hr).1

/-- No attribute begins in front of the next one. -/
theorem attributeLiterals_lead (hname : '=' ∉ name) {lead : Text}
    (hlead : Lacks (assigned name) lead) (t : Text) :
    attributeLiterals form name 0 before (lead ++ (name ++ '=' :: t)) =
      attributeLiterals form name 0 (lead.getLast?.or before) (name ++ '=' :: t) := by
  apply attributeLiterals_append
  intro v hv hn hp
  by_cases he : '=' ∈ v
  · -- then the name ends inside `lead`
    obtain ⟨a, b, rfl, ha⟩ := List.eq_append_cons_of_mem he
    rw [List.append_assoc, List.cons_append] at hp
    obtain rfl := eq_of_assigned_isPrefix hname ha hp
    have hbegins : assigned name <:+: name ++ '=' :: b := ⟨[], b, by simp [assigned]⟩
    exact hlead (hbegins.trans hv.isInfix)
  · have hnot : '=' ∉ v ++ name := by simp [he, hname]
    rw [← List.append_assoc] at hp
    have hself := eq_of_assigned_isPrefix hname hnot hp
    exact hn (by simpa using hself)

/-- A name does not begin behind its own first letter. -/
theorem not_isPrefix_of_isSuffix_tail {c : Char} {n : Text} (hname : '=' ∉ c :: n) {v : Text}
    (hv : v <:+ n ++ ['=']) (hn : v ≠ []) (t : Text) : ¬ assigned (c :: n) <+: v ++ t := by
  intro hp
  obtain ⟨w, rfl⟩ : ∃ w, v = w ++ ['='] := by
    obtain ⟨u, hu⟩ := hv
    have hlast := congrArg List.getLast? hu
    rw [List.getLast?_append_of_ne_nil _ hn, List.getLast?_append_of_ne_nil _ (by simp)] at hlast
    exact ⟨v.dropLast, (List.dropLast_append_getLast? '=' (by simpa using hlast)).symm⟩
  have hsuffix : w <:+ n := by
    obtain ⟨u, hu⟩ := hv
    refine ⟨u, ?_⟩
    rw [← List.append_assoc] at hu
    exact (List.append_inj_left' hu rfl)
  have hw : '=' ∉ w := fun hc => hname (List.mem_cons_of_mem c (hsuffix.subset hc))
  rw [List.append_assoc, List.singleton_append] at hp
  have hself := congrArg List.length (eq_of_assigned_isPrefix hname hw hp)
  have hle := hsuffix.length_le
  simp only [List.length_cons] at hself
  omega

/-- No attribute begins inside the name of another one. -/
theorem attributeLiterals_unread (hname : '=' ∉ name) (hn : name ≠ []) {t : Text}
    (h : attribute? form name before (name ++ '=' :: t) = none) :
    attributeLiterals form name 0 before (name ++ '=' :: t) =
      attributeLiterals form name 0 (some '=') t := by
  obtain ⟨c, n, rfl⟩ := List.exists_cons_of_ne_nil hn
  have hpass := @attributeLiterals_append form (c :: n) (some c) (n ++ ['=']) t fun v hv hvn =>
    not_isPrefix_of_isSuffix_tail hname hv hvn t
  have hsplit : n ++ '=' :: t = n ++ ['='] ++ t := by simp
  rw [List.cons_append] at h ⊢
  rw [attributeLiterals_of_none h, hsplit, hpass]
  simp

theorem attributeLiterals_read (hb : startsName before = true) (hn : name ≠ []) {s t : Text}
    {found : List Text} (h : form.read? (s ++ t) = some ⟨found, s.length⟩) :
    attributeLiterals form name 0 before (name ++ (s ++ t)) =
      found ++ attributeLiterals form name 0 ((name ++ s).getLast?.or before) t := by
  obtain ⟨c, n, rfl⟩ := List.exists_cons_of_ne_nil hn
  have hread := @attribute?_append form (c :: n) before hb (s ++ t)
  have hskip := @attributeLiterals_skip form (c :: n) (some c) (n ++ s) t
  have hlength : s.length + (c :: n).length - 1 = (n ++ s).length := by
    simp only [List.length_cons, List.length_append]
    omega
  rw [h, Option.map_some, List.cons_append] at hread
  rw [List.cons_append, attributeLiterals_of_some hread, hlength, ← List.append_assoc, hskip,
    List.cons_append, getLast?_cons_or]

/-- What is found when the name is not assigned again behind its first letter. -/
theorem attributeLiterals_single (hb : startsName before = true) (hn : name ≠ []) {t : Text}
    (h : Lacks (assigned name) (name.tail ++ t)) :
    attributeLiterals form name 0 before (name ++ t) =
      (form.read? t).toList.flatMap AttributeValue.literals := by
  obtain ⟨c, n, rfl⟩ := List.exists_cons_of_ne_nil hn
  have hread := @attribute?_append form (c :: n) before hb t
  cases hr : form.read? t with
  | none =>
    rw [hr, Option.map_none, List.cons_append] at hread
    rw [List.cons_append, attributeLiterals_of_none hread]
    exact attributeLiterals_of_lacks h 0
  | some value =>
    rw [hr, Option.map_some, List.cons_append] at hread
    have hrest := @attributeLiterals_of_lacks form (c :: n) (some c) (n ++ t) h
    rw [List.cons_append, attributeLiterals_of_some hread, hrest]
    simp

end Scan

/-! ## Where the scan reads -/

/-- After `skip` characters of a text the scan reads an attribute behind `lead`. -/
inductive Reads (form : ValueForm) (name : Text) :
    Nat → Option Char → Text → Text → AttributeValue → Prop
  | here {before : Option Char} {c : Char} {t : Text} {value : AttributeValue} :
      attribute? form name before (c :: t) = some value →
      Reads form name 0 before (c :: t) [] value
  | behind {before : Option Char} {c : Char} {t lead : Text} {first value : AttributeValue} :
      attribute? form name before (c :: t) = some first →
      Reads form name (first.length - 1) (some c) t lead value →
      Reads form name 0 before (c :: t) (c :: lead) value
  | passed {before : Option Char} {c : Char} {t lead : Text} {value : AttributeValue} :
      attribute? form name before (c :: t) = none →
      Reads form name 0 (some c) t lead value →
      Reads form name 0 before (c :: t) (c :: lead) value
  | skipped {skip : Nat} {before : Option Char} {c : Char} {t lead : Text}
      {value : AttributeValue} :
      Reads form name skip (some c) t lead value →
      Reads form name (skip + 1) before (c :: t) (c :: lead) value

section Reads

variable {form : ValueForm} {name : Text} {skip : Nat} {before : Option Char}

theorem mem_attributeLiterals_iff_reads {t content : Text} :
    content ∈ attributeLiterals form name skip before t ↔
      ∃ lead value, Reads form name skip before t lead value ∧ content ∈ value.literals := by
  constructor
  · intro h
    fun_induction attributeLiterals form name skip before t with
    | case1 => exact absurd h List.not_mem_nil
    | case2 skip before c t ih =>
      obtain ⟨lead, value, hr, hm⟩ := ih h
      exact ⟨c :: lead, value, .skipped hr, hm⟩
    | case3 before c t value ha ih =>
      rcases List.mem_append.mp h with h | h
      · exact ⟨[], value, .here ha, h⟩
      · obtain ⟨lead, later, hr, hm⟩ := ih h
        exact ⟨c :: lead, later, .behind ha hr, hm⟩
    | case4 before c t ha ih =>
      obtain ⟨lead, value, hr, hm⟩ := ih h
      exact ⟨c :: lead, value, .passed ha hr, hm⟩
  · rintro ⟨lead, value, hr, hm⟩
    induction hr with
    | here ha =>
      rw [attributeLiterals_of_some ha]
      exact List.mem_append_left _ hm
    | behind ha _ ih =>
      rw [attributeLiterals_of_some ha]
      exact List.mem_append_right _ (ih hm)
    | passed ha _ ih =>
      rw [attributeLiterals_of_none ha]
      exact ih hm
    | skipped _ ih =>
      exact ih hm

theorem Reads.exists_attribute? {t lead : Text} {value : AttributeValue}
    (h : Reads form name skip before t lead value) :
    ∃ rest, t = lead ++ rest ∧
      attribute? form name (lead.getLast?.or before) rest = some value := by
  induction h with
  | here ha => exact ⟨_, rfl, ha⟩
  | behind _ _ ih =>
    obtain ⟨rest, rfl, hr⟩ := ih
    exact ⟨rest, rfl, by rwa [getLast?_cons_or]⟩
  | passed _ _ ih =>
    obtain ⟨rest, rfl, hr⟩ := ih
    exact ⟨rest, rfl, by rwa [getLast?_cons_or]⟩
  | skipped _ ih =>
    obtain ⟨rest, rfl, hr⟩ := ih
    exact ⟨rest, rfl, by rwa [getLast?_cons_or]⟩

theorem ne_nil_of_attribute? {t : Text} {value : AttributeValue}
    (h : attribute? form name before t = some value) : t ≠ [] := by
  obtain ⟨rest, read, rfl, hread, -⟩ := eq_of_attribute? h
  obtain ⟨u, rfl⟩ := ValueForm.eq_of_read? hread
  simp

/-- Where an attribute could be read, the scan reads it or is inside one that it read before. -/
theorem exists_reads {lead rest : Text} {value : AttributeValue}
    (h : attribute? form name (lead.getLast?.or before) rest = some value)
    (hpos : 0 < value.length) :
    lead.length < skip ∨ ∃ first between found, lead = first ++ between ∧
      Reads form name skip before (lead ++ rest) first found ∧ between.length < found.length := by
  induction lead generalizing skip before with
  | nil =>
    cases skip with
    | succ skip => exact .inl (Nat.succ_pos skip)
    | zero =>
      obtain ⟨c, t, rfl⟩ := List.exists_cons_of_ne_nil (ne_nil_of_attribute? h)
      exact .inr ⟨[], [], value, rfl, .here h, hpos⟩
  | cons c lead ih =>
    rw [getLast?_cons_or] at h
    cases skip with
    | succ skip =>
      rcases @ih skip (some c) h with hskip | ⟨first, between, found, rfl, hr, hlength⟩
      · exact .inl (Nat.succ_lt_succ hskip)
      · exact .inr ⟨c :: first, between, found, rfl, .skipped hr, hlength⟩
    | zero =>
      cases ha : attribute? form name before (c :: (lead ++ rest)) with
      | none =>
        rcases @ih 0 (some c) h with hskip | ⟨first, between, found, rfl, hr, hlength⟩
        · exact absurd hskip (Nat.not_lt_zero _)
        · exact .inr ⟨c :: first, between, found, rfl, .passed ha hr, hlength⟩
      | some here =>
        rcases @ih (here.length - 1) (some c) h with
          hskip | ⟨first, between, found, rfl, hr, hlength⟩
        · refine .inr ⟨[], c :: lead, here, rfl, .here ha, ?_⟩
          rw [List.length_cons]
          omega
        · exact .inr ⟨c :: first, between, found, rfl, .behind ha hr, hlength⟩

end Reads

end WebTidy
