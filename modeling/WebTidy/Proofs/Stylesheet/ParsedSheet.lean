import WebTidy.Proofs.Stylesheet.RoundTrip

/-!
# What parsing delivers

Every rule of a parsed sheet is well formed, and its texts stand in the text that was parsed. The
text that is left without the media blocks is glued together from pieces, but what follows a block
is a blank or `@`, so no comment opens where two pieces meet.
-/

namespace WebTidy

/-! ## Comment openings in what is left -/

/-- Behind its blanks the text ends or goes on with `@`. -/
def MediaAhead (t : Text) : Prop := ∀ c, (Text.trimLeft t).head? = some c → c = '@'

theorem MediaAhead.of_closesMedia {t : Text} (h : closesMedia t = true) : MediaAhead t := by
  intro c hc
  rw [closesMedia, Bool.or_eq_true, List.isEmpty_iff, Text.startsWith_iff] at h
  rcases h with h | ⟨u, hu⟩
  · simp [h] at hc
  · rw [← hu] at hc
    have : '@' = c := by simpa [mediaWord] using hc
    exact this.symm

theorem MediaAhead.head {t : Text} (h : MediaAhead t) {c : Char} (hc : t.head? = some c) :
    isBlank c = true ∨ c = '@' := by
  cases t with
  | nil => simp at hc
  | cons d t =>
    obtain rfl : d = c := by simpa using hc
    cases hb : isBlank d with
    | true => exact .inl rfl
    | false => exact .inr (h d (by simp [Text.trimLeft, hb]))

theorem Lacks.append_of_mediaAhead {s t : Text} (hs : Lacks commentStart s)
    (ht : Lacks commentStart t) (h : MediaAhead t) : Lacks commentStart (s ++ t) := by
  intro hi
  obtain ⟨-, -, c, hc, -, hhead⟩ := hs.exists_seam ht hi
  rcases h.head hhead with hb | rfl
  · simp [unbroken_commentStart.solid c hc] at hb
  · simp [commentStart] at hc

theorem MediaAhead.of_append {s t : Text} (h : MediaAhead (s ++ t)) : MediaAhead s := by
  intro c hc
  have hn : Text.trimLeft s ≠ [] := by
    intro hn
    simp [hn] at hc
  refine h c ?_
  rw [Text.trimLeft_append hn, List.head?_append, hc]
  rfl

theorem MediaAhead.append {s t : Text} (hs : MediaAhead s) (ht : MediaAhead t) :
    MediaAhead (s ++ t) := by
  intro c hc
  by_cases hn : Text.trimLeft s = []
  · rw [Text.trimLeft_append_of_blank (Text.trimLeft_eq_nil_iff.mp hn)] at hc
    exact ht c hc
  · obtain ⟨d, u, hd⟩ := List.exists_cons_of_ne_nil hn
    rw [Text.trimLeft_append hn, hd] at hc
    exact hs c (by simpa [hd] using hc)

theorem MediaAhead.extractMedia {t : Text} (h : MediaAhead t) : MediaAhead (extractMedia t).2 := by
  induction t using media_induction with
  | last t ht => rwa [extractMedia_of_none ht]
  | block t cut ht ih =>
    have hbefore : MediaAhead cut.before := by
      rw [eq_of_firstMedia? ht] at h
      simp only [List.append_assoc] at h
      exact h.of_append
    rw [extractMedia_of_some ht]
    exact hbefore.append (ih (MediaAhead.of_closesMedia (closesMedia_of_firstMedia? ht)))

theorem lacks_extractMedia {t : Text} (h : Lacks commentStart t) :
    Lacks commentStart (extractMedia t).2 := by
  induction t using media_induction with
  | last t ht => rwa [extractMedia_of_none ht]
  | block t cut ht ih =>
    obtain ⟨hbefore, -, -, hrest⟩ := isInfix_of_firstMedia? ht
    have hahead : MediaAhead (WebTidy.extractMedia cut.rest).2 :=
      (MediaAhead.of_closesMedia (closesMedia_of_firstMedia? ht)).extractMedia
    rw [extractMedia_of_some ht]
    exact (h.of_isInfix hbefore).append_of_mediaAhead (ih (h.of_isInfix hrest)) hahead

/-! ## Parsed sheets -/

namespace Sheet

/-- Selectors in `P`, properties in `Q`, values in `R` and queries in `S`, in all of the sheet. -/
structure TextsIn (P Q R S : Text → Prop) (sheet : Sheet) : Prop where
  rules : ∀ r ∈ sheet.rules, WebTidy.TextsIn P Q R r.group
  media : ∀ b ∈ sheet.media, S b.query ∧ ∀ r ∈ b.rules, WebTidy.TextsIn P Q R r.group

structure WellFormed (sheet : Sheet) : Prop where
  rules : ∀ r ∈ sheet.rules, WellFormedGroup r.group
  media : ∀ b ∈ sheet.media, WellFormedQuery b.query ∧ ∀ r ∈ b.rules, WellFormedGroup r.group

theorem wellFormed_parse (css : Text) : (parse css).WellFormed := by
  refine ⟨fun r hr => wellFormedGroup_of_mem_readRules hr, fun b hb => ?_⟩
  obtain ⟨query, content, -, -, hq, rfl⟩ := of_mem_extractMedia hb
  have hfree : ∀ c ∈ Text.trim query, isQueryChar c = true :=
    fun c hc => hq c (Text.mem_of_mem_trim hc)
  exact ⟨⟨Text.trim_trim query, forall_isQueryChar_iff.mp hfree⟩,
    fun r hr => wellFormedGroup_of_mem_readRules hr⟩

theorem lacks_parse {css : Text} (h : Lacks commentStart (withoutComments css)) :
    (parse css).TextsIn (Lacks commentStart) (Lacks commentStart) (Lacks commentStart)
      (Lacks commentStart) := by
  refine ⟨(lacks_extractMedia h).of_mem_readRules, fun b hb => ?_⟩
  obtain ⟨query, content, hq, hc, -, rfl⟩ := of_mem_extractMedia hb
  exact ⟨h.of_isInfix ((Text.trim_isInfix query).trans hq), (h.of_isInfix hc).of_mem_readRules⟩

/-- What holds of the texts of the rules holds of those of the groups. -/
theorem TextsIn.grouped {P Q R S : Text → Prop} {sheet : Sheet} (h : sheet.TextsIn P Q R S)
    (f : ClassFilter) : (sheet.grouped f).TextsIn P Q R S := by
  have hgroups : ∀ {rules : List Rule}, (∀ r ∈ rules, WebTidy.TextsIn P Q R r.group) →
      ∀ g ∈ Groups.applyFilter f (Groups.ofRules rules), WebTidy.TextsIn P Q R g :=
    fun hr g hg => Groups.textsIn_ofRules hr g ((Groups.applyFilter_sublist f _).subset hg)
  refine ⟨hgroups h.rules, fun b hb => ?_⟩
  obtain ⟨block, hm, rfl⟩ := List.mem_map.mp (List.mem_of_mem_filter hb)
  exact ⟨(h.media block hm).1, hgroups (h.media block hm).2⟩

theorem WellFormed.grouped {sheet : Sheet} (h : sheet.WellFormed) (f : ClassFilter) :
    (sheet.grouped f).WellFormed := by
  refine ⟨(Groups.wellFormed_ofRules h.rules).applyFilter f, fun b hb => ?_⟩
  obtain ⟨hm, hn⟩ := List.mem_filter.mp hb
  obtain ⟨block, hblock, rfl⟩ := List.mem_map.mp hm
  obtain ⟨hq, hr⟩ := h.media block hblock
  exact ⟨hq, by simpa using hn, (Groups.wellFormed_ofRules hr).applyFilter f⟩

/-- What parsing delivers is well formed, and so are the groups of its rules, at the top level and
in every media block. -/
theorem wellFormed_groups_parse (css : Text) :
    (parse css).WellFormed ∧ (Groups.ofRules (parse css).rules).WellFormed ∧
      ∀ block ∈ (parse css).media, (Groups.ofRules block.rules).WellFormed := by
  have hparse := wellFormed_parse css
  refine ⟨hparse, Groups.wellFormed_ofRules hparse.rules, ?_⟩
  intro block hblock
  obtain ⟨-, hrules⟩ := hparse.media block hblock
  exact Groups.wellFormed_ofRules hrules

end Sheet

end WebTidy
