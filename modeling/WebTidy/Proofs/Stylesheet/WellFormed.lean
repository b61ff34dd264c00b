import WebTidy.Proofs.Stylesheet.FlatRules
import WebTidy.Proofs.Stylesheet.Grouping
import WebTidy.Stylesheet.Tidy

/-!
# Well-formed groups

The texts of a rule are trimmed, hold something and none of the characters that part them from
each other. So it is with every rule that is read, and merging and filtering keep it so.
-/

namespace WebTidy

/-- A trimmed text that holds something, and none of the banned characters. -/
structure Clean (banned : List Char) (t : Text) : Prop where
  ne_nil : t ≠ []
  trimmed : Text.trim t = t
  free : ∀ c ∈ banned, c ∉ t

instance (banned : List Char) (t : Text) : Decidable (Clean banned t) :=
  decidable_of_iff (t ≠ [] ∧ Text.trim t = t ∧ banned.all (· ∉ t) = true)
    ⟨fun ⟨hn, ht, hf⟩ => ⟨hn, ht, by simpa using hf⟩,
      fun ⟨hn, ht, hf⟩ => ⟨hn, ht, by simpa using hf⟩⟩

theorem Clean.of_trim {banned : List Char} {t : Text} (hn : Text.trim t ≠ [])
    (hf : ∀ c ∈ banned, c ∉ t) : Clean banned (Text.trim t) :=
  ⟨hn, Text.trim_trim t, fun c hc hm => hf c hc (Text.mem_of_mem_trim hm)⟩

theorem Clean.braceFree {banned : List Char} {t : Text} (h : Clean banned t)
    (ho : '{' ∈ banned := by simp) (hc : '}' ∈ banned := by simp) : BraceFree t :=
  braceFree_iff.mpr ⟨h.free _ ho, h.free _ hc⟩

/-- A group with its selector in `P`, its properties in `Q` and its values in `R`. -/
structure TextsIn (P Q R : Text → Prop) (group : Text × Declarations) : Prop where
  selector : P group.1
  property : ∀ d ∈ group.2, Q d.1
  value : ∀ d ∈ group.2, R d.2

instance (P Q R : Text → Prop) [DecidablePred P] [DecidablePred Q] [DecidablePred R]
    (group : Text × Declarations) : Decidable (TextsIn P Q R group) :=
  decidable_of_iff (P group.1 ∧ (∀ d ∈ group.2, Q d.1) ∧ ∀ d ∈ group.2, R d.2)
    ⟨fun ⟨hs, hp, hv⟩ => ⟨hs, hp, hv⟩, fun ⟨hs, hp, hv⟩ => ⟨hs, hp, hv⟩⟩

theorem TextsIn.mono {P Q R P' Q' R' : Text → Prop} {group : Text × Declarations}
    (h : TextsIn P Q R group) (hP : ∀ t, P t → P' t) (hQ : ∀ t, Q t → Q' t)
    (hR : ∀ t, R t → R' t) : TextsIn P' Q' R' group :=
  ⟨hP _ h.selector, fun d hd => hQ _ (h.property d hd), fun d hd => hR _ (h.value d hd)⟩

/-- At least one declaration, no property twice, and no text that could be cut. -/
structure WellFormedGroup (group : Text × Declarations) : Prop where
  ne_nil : group.2 ≠ []
  distinct : (Table.keys group.2).Nodup
  texts : TextsIn (Clean ['{', '}']) (Clean [':', ';', '{', '}']) (Clean [';', '{', '}']) group

instance (group : Text × Declarations) : Decidable (WellFormedGroup group) :=
  decidable_of_iff (group.2 ≠ [] ∧ (Table.keys group.2).Nodup ∧
      TextsIn (Clean ['{', '}']) (Clean [':', ';', '{', '}']) (Clean [';', '{', '}']) group)
    ⟨fun ⟨hn, hd, ht⟩ => ⟨hn, hd, ht⟩, fun ⟨hn, hd, ht⟩ => ⟨hn, hd, ht⟩⟩

structure Groups.WellFormed (groups : Groups) : Prop where
  distinct : (Table.keys groups).Nodup
  group : ∀ g ∈ groups, WellFormedGroup g

instance (groups : Groups) : Decidable groups.WellFormed :=
  decidable_of_iff ((Table.keys groups).Nodup ∧ ∀ g ∈ groups, WellFormedGroup g)
    ⟨fun ⟨hd, hg⟩ => ⟨hd, hg⟩, fun ⟨hd, hg⟩ => ⟨hd, hg⟩⟩

/-- The query of a media block may be empty. -/
structure WellFormedQuery (query : Text) : Prop where
  trimmed : Text.trim query = query
  free : ∀ c ∈ ['{', '}', '@'], c ∉ query

instance (query : Text) : Decidable (WellFormedQuery query) :=
  decidable_of_iff (Text.trim query = query ∧ ['{', '}', '@'].all (· ∉ query) = true)
    ⟨fun ⟨ht, hf⟩ => ⟨ht, by simpa using hf⟩, fun ⟨ht, hf⟩ => ⟨ht, by simpa using hf⟩⟩

structure MediaGroups.WellFormed (block : MediaGroups) : Prop where
  query : WellFormedQuery block.query
  ne_nil : block.groups ≠ []
  groups : block.groups.WellFormed

instance (block : MediaGroups) : Decidable block.WellFormed :=
  decidable_of_iff (WellFormedQuery block.query ∧ block.groups ≠ [] ∧ block.groups.WellFormed)
    ⟨fun ⟨hq, hn, hg⟩ => ⟨hq, hn, hg⟩, fun ⟨hq, hn, hg⟩ => ⟨hq, hn, hg⟩⟩

structure GroupedSheet.WellFormed (sheet : GroupedSheet) : Prop where
  top : sheet.top.WellFormed
  media : ∀ b ∈ sheet.media, b.WellFormed

instance (sheet : GroupedSheet) : Decidable sheet.WellFormed :=
  decidable_of_iff (sheet.top.WellFormed ∧ ∀ b ∈ sheet.media, b.WellFormed)
    ⟨fun ⟨ht, hm⟩ => ⟨ht, hm⟩, fun ⟨ht, hm⟩ => ⟨ht, hm⟩⟩

/-! ## Rules that are read -/

theorem eq_of_declaration? {entry property value : Text}
    (h : declaration? entry = some (property, value)) :
    property = Text.trim (Text.cutAt ':' entry).1 ∧ value = Text.trim (Text.cutAt ':' entry).2 := by
  simp only [declaration?] at h
  split at h
  · simp at h
  · simp only [Option.some.injEq, Prod.mk.injEq] at h
    exact ⟨h.1.symm, h.2.symm⟩

theorem cutAt_fst_isPrefix (c : Char) (t : Text) : (Text.cutAt c t).1 <+: t :=
  List.takeWhile_prefix _

theorem cutAt_snd_isSuffix (c : Char) (t : Text) : (Text.cutAt c t).2 <:+ t :=
  (List.drop_suffix _ _).trans (List.dropWhile_suffix _)

theorem notMem_cutAt_fst (c : Char) (t : Text) : c ∉ (Text.cutAt c t).1 := by
  intro h
  have := List.mem_takeWhile_imp h
  simp at this

theorem of_mem_bodyEntries {body : Text} (hb : BraceFree body) {d : Text × Text}
    (h : d ∈ bodyEntries body) :
    (Clean [':', ';', '{', '}'] d.1 ∧ d.1 <:+: body) ∧ Clean [';', '{', '}'] d.2 ∧ d.2 <:+: body := by
  obtain ⟨entry, he, hd⟩ := List.mem_filterMap.mp h
  obtain ⟨hsemi, hinfix⟩ := Text.of_mem_splitOn he
  obtain ⟨hp, hv⟩ := eq_of_declaration? hd
  obtain ⟨hpn, hvn⟩ := ne_nil_of_declaration? hd
  have hbr := braceFree_iff.mp hb
  have hfst := (cutAt_fst_isPrefix ':' entry).isInfix
  have hsnd := (cutAt_snd_isSuffix ':' entry).isInfix
  have hcolon := notMem_cutAt_fst ':' entry
  rw [hp] at hpn ⊢
  rw [hv] at hvn ⊢
  refine ⟨⟨Clean.of_trim hpn ?_, ?_⟩, Clean.of_trim hvn ?_, ?_⟩
  · simp only [List.mem_cons, List.not_mem_nil, or_false, forall_eq_or_imp, forall_eq]
    exact ⟨hcolon, fun hc => hsemi (hfst.subset hc),
      fun hc => hbr.1 ((hfst.trans hinfix).subset hc),
      fun hc => hbr.2 ((hfst.trans hinfix).subset hc)⟩
  · exact (Text.trim_isInfix _).trans (hfst.trans hinfix)
  · simp only [List.mem_cons, List.not_mem_nil, or_false, forall_eq_or_imp, forall_eq]
    exact ⟨fun hc => hsemi (hsnd.subset hc), fun hc => hbr.1 ((hsnd.trans hinfix).subset hc),
      fun hc => hbr.2 ((hsnd.trans hinfix).subset hc)⟩
  · exact (Text.trim_isInfix _).trans (hsnd.trans hinfix)

theorem of_mem_readRules {t : Text} {rule : Rule} (h : rule ∈ readRules t) :
    ∃ s b, BraceFree s ∧ BraceFree b ∧ s <:+: t ∧ b <:+: t ∧ Rule.of? s b = some rule := by
  induction t using brace_induction with
  | free s hs => simp [readRules_of_braceFree hs] at h
  | close s t hs ih =>
    rw [readRules_close hs] at h
    have ht : t <:+: s ++ '}' :: t := ⟨s ++ ['}'], [], by simp⟩
    obtain ⟨a, b, ha, hb, hat, hbt, he⟩ := ih h
    exact ⟨a, b, ha, hb, hat.trans ht, hbt.trans ht, he⟩
  | unclosed s b hs hb => simp [readRules_unclosed hs hb] at h
  | pair s b t hs hb ih =>
    rw [readRules_pair hs hb, List.mem_append, Option.mem_toList] at h
    rcases h with h | h
    · exact ⟨s, b, hs, hb, ⟨[], '{' :: (b ++ '}' :: t), by simp⟩,
        ⟨s ++ ['{'], '}' :: t, by simp⟩, h⟩
    · have ht : t <:+: s ++ '{' :: (b ++ '}' :: t) := ⟨s ++ '{' :: (b ++ ['}']), [], by simp⟩
      obtain ⟨a, c, ha, hc, hat, hct, he⟩ := ih h
      exact ⟨a, c, ha, hc, hat.trans ht, hct.trans ht, he⟩
  | nested s b t hs hb ih =>
    rw [readRules_nested hs hb] at h
    have ht : b ++ '{' :: t <:+: s ++ '{' :: (b ++ '{' :: t) := ⟨s ++ ['{'], [], by simp⟩
    obtain ⟨a, c, ha, hc, hat, hct, he⟩ := ih h
    exact ⟨a, c, ha, hc, hat.trans ht, hct.trans ht, he⟩

theorem textsIn_of_mem_readRules {t : Text} {rule : Rule} (h : rule ∈ readRules t) :
    TextsIn (fun s => Clean ['{', '}'] s ∧ s <:+: t)
      (fun p => Clean [':', ';', '{', '}'] p ∧ p <:+: t)
      (fun v => Clean [';', '{', '}'] v ∧ v <:+: t) rule.group := by
  obtain ⟨s, b, hs, hb, hst, hbt, he⟩ := of_mem_readRules h
  obtain ⟨rfl, hsn, -⟩ := of?_eq_some he
  have hf := braceFree_iff.mp hs
  refine ⟨⟨Clean.of_trim hsn ?_, (Text.trim_isInfix s).trans hst⟩, ?_, ?_⟩
  · simpa using hf
  · intro d hd
    obtain ⟨⟨hc, hi⟩, -⟩ := of_mem_bodyEntries hb (Table.mem_of_mem_ofEntries hd)
    exact ⟨hc, hi.trans hbt⟩
  · intro d hd
    obtain ⟨-, hc, hi⟩ := of_mem_bodyEntries hb (Table.mem_of_mem_ofEntries hd)
    exact ⟨hc, hi.trans hbt⟩

theorem wellFormedGroup_of_mem_readRules {t : Text} {rule : Rule} (h : rule ∈ readRules t) :
    WellFormedGroup rule.group := by
  have htexts := textsIn_of_mem_readRules h
  obtain ⟨s, b, -, -, -, -, he⟩ := of_mem_readRules h
  obtain ⟨rfl, -, hbn⟩ := of?_eq_some he
  exact ⟨hbn, Table.nodup_keys_ofEntries _,
    htexts.mono (fun _ h => h.1) (fun _ h => h.1) fun _ h => h.1⟩

/-! ## Groups of rules -/

namespace Groups

/-- What holds of a rule and outlasts the merging with a further rule holds of every group. -/
theorem forall_mem_foldl_add {I : Text × Declarations → Prop} {rules : List Rule}
    (first : ∀ r ∈ rules, I (r.selector, Table.setAll [] r.declarations))
    (merge : ∀ r ∈ rules, ∀ old, I (r.selector, old) → I (r.selector, Table.setAll old r.declarations))
    {groups : Groups} (hg : ∀ g ∈ groups, I g) : ∀ g ∈ rules.foldl add groups, I g := by
  induction rules generalizing groups with
  | nil => exact hg
  | cons r rules ih =>
    refine ih (fun q hq => first q (by simp [hq])) (fun q hq => merge q (by simp [hq])) ?_
    intro g hm
    rcases Table.mem_of_mem_set hm with rfl | hm
    · cases ho : Table.get? r.selector groups with
      | none => exact first r (by simp)
      | some old => exact merge r (by simp) old (hg _ (Table.mem_of_get?_eq_some ho))
    · exact hg g hm

theorem forall_mem_ofRules {I : Text × Declarations → Prop} {rules : List Rule}
    (first : ∀ r ∈ rules, I (r.selector, Table.setAll [] r.declarations))
    (merge : ∀ r ∈ rules, ∀ old, I (r.selector, old) → I (r.selector, Table.setAll old r.declarations)) :
    ∀ g ∈ ofRules rules, I g :=
  forall_mem_foldl_add first merge (by simp)

theorem textsIn_ofRules {P Q R : Text → Prop} {rules : List Rule}
    (h : ∀ r ∈ rules, TextsIn P Q R r.group) : ∀ g ∈ ofRules rules, TextsIn P Q R g := by
  have hset : ∀ r ∈ rules, ∀ old, (∀ d ∈ old, Q d.1 ∧ R d.2) →
      TextsIn P Q R (r.selector, Table.setAll old r.declarations) := by
    intro r hr old hold
    have hd : ∀ d ∈ Table.setAll old r.declarations, Q d.1 ∧ R d.2 := by
      intro d hd
      rcases Table.mem_of_mem_setAll hd with hd | hd
      · exact hold d hd
      · exact ⟨(h r hr).property d hd, (h r hr).value d hd⟩
    exact ⟨(h r hr).selector, fun d hm => (hd d hm).1, fun d hm => (hd d hm).2⟩
  refine forall_mem_ofRules (fun r hr => hset r hr [] (by simp)) fun r hr old ho => ?_
  exact hset r hr old fun d hd => ⟨ho.property d hd, ho.value d hd⟩

theorem wellFormed_ofRules {rules : List Rule} (h : ∀ r ∈ rules, WellFormedGroup r.group) :
    WellFormed (ofRules rules) := by
  have hshape : ∀ g ∈ ofRules rules, g.2 ≠ [] ∧ (Table.keys g.2).Nodup := by
    refine forall_mem_ofRules (fun r hr => ?_) fun r hr old ho => ?_
    · exact ⟨Table.setAll_ne_nil (.inr (h r hr).ne_nil),
        Table.nodup_keys_setAll (by simp [Table.keys]) _⟩
    · exact ⟨Table.setAll_ne_nil (.inl ho.1), Table.nodup_keys_setAll ho.2 _⟩
  have htexts := textsIn_ofRules fun r hr => (h r hr).texts
  exact ⟨nodup_keys_ofRules rules,
    fun g hg => ⟨(hshape g hg).1, (hshape g hg).2, htexts g hg⟩⟩

theorem WellFormed.applyFilter {groups : Groups} (h : WellFormed groups) (f : ClassFilter) :
    WellFormed (applyFilter f groups) := by
  have hs := applyFilter_sublist f groups
  exact ⟨h.distinct.sublist (hs.map _), fun g hg => h.group g (hs.subset hg)⟩

theorem WellFormed.ofRules_toRules {groups : Groups} (h : WellFormed groups) :
    ofRules (toRules groups) = groups :=
  Groups.ofRules_toRules h.distinct fun g hg => (h.group g hg).distinct

end Groups

end WebTidy
