import WebTidy.Proofs.Checks.ReplacedNames

/-!
# Suggestions

Five rules come with a suggestion. Put in the place of what the finding is about, it settles the
finding, and nothing else that the rules of the dialect have to say about the line becomes more or
less.
-/

namespace WebTidy

/-! ## Every place of a piece -/

namespace Text

/-- The text with another piece in every place of a piece, from left to right. -/
def replaceAll {piece : Text} (hp : piece ≠ []) (fix : Text) (t : Text) : Text :=
  match h : cutAround? piece t with
  | none => t
  | some (before, rest) =>
    have := length_lt_of_cutAround? hp h
    before ++ fix ++ replaceAll hp fix rest
termination_by t.length

theorem FirstPlace.not_infix {piece t before rest : Text} (hp : piece ≠ [])
    (h : FirstPlace piece t before rest) : ¬ piece <:+: before := by
  rintro ⟨a, b, hsplit⟩
  have hlength := h.length_le a (b ++ piece ++ rest) (by simp [h.split, ← hsplit])
  have hpos := List.length_pos_iff.mpr hp
  simp only [← hsplit, List.length_append] at hlength
  omega

/-- None is left if a piece and its replacement cannot overlap. -/
theorem not_infix_replaceAll {piece fix : Text} (hp : piece ≠ []) (h : Apart piece fix) (t : Text) :
    ¬ piece <:+: replaceAll hp fix t := by
  fun_induction replaceAll hp fix t with
  | case1 t hcut => exact (cutAround?_eq_none_iff hp).mp hcut
  | case2 t before rest hcut _ ih =>
    rw [h.infix_iff]
    have hfirst := (cutAround?_eq_some_iff hp).mp hcut
    exact not_or.mpr ⟨hfirst.not_infix hp, ih⟩

/-- What one replacement does not change, no more do all of them. -/
theorem replaceAll_invariant {α : Type} {piece fix : Text} (hp : piece ≠ []) (value : Text → α)
    (h : ∀ s t, value (s ++ piece ++ t) = value (s ++ fix ++ t)) (t : Text) :
    value (replaceAll hp fix t) = value t := by
  suffices hs : ∀ s, value (s ++ replaceAll hp fix t) = value (s ++ t) from hs []
  fun_induction replaceAll hp fix t with
  | case1 t hcut => exact fun s => rfl
  | case2 t before rest hcut _ ih =>
    intro s
    have hstep := h (s ++ before) rest
    have hrest := ih (s ++ before ++ fix)
    rw [eq_of_cutAround? hcut]
    simp only [List.append_assoc] at hstep hrest ⊢
    rw [hrest, hstep]

end Text

/-! ## Settled findings -/

/-- What opens a class attribute in components. -/
def classNameWord : Text := "className=".toList

theorem classNameWord_ne_nil : classNameWord ≠ [] := by decide

namespace LineRule

/-- The rules that come with a suggestion. -/
def suggesting : List LineRule :=
  [hashComment, missingSemicolon, classAttribute, classNameInMarkup, lowercaseEvents]

/-- What becomes of a line if a suggestion of the rule is put in the place of what the finding is
about: the whole line, the first class attribute, every class name, or an event in some case. -/
def Rewrites (rule : LineRule) (fix line new : Text) : Prop :=
  match rule with
  | hashComment => new = fix
  | missingSemicolon => new = fix
  | classAttribute =>
    ∃ lead value rest, FirstClassLiteral line lead value rest ∧ new = lead ++ fix ++ rest
  | classNameInMarkup => new = Text.replaceAll classNameWord_ne_nil fix line
  | lowercaseEvents =>
    ∃ event ∈ eventNames, event.2 = fix ∧
      ∃ s x t, Text.lower x = event.1 ∧ line = s ++ x ++ t ∧ new = s ++ fix ++ t
  | _ => False

theorem length_check (rule : LineRule) (d : Dialect) (number : Int) (line : Text) :
    (rule.check d number line).length = (rule.remarks d line).length := List.length_map _

theorem remarks_ne_nil {rule : LineRule} {d : Dialect} {number : Int} {line : Text} {f : Finding}
    (hf : f ∈ rule.check d number line) : rule.remarks d line ≠ [] := by
  intro h
  rw [check, h] at hf
  exact List.not_mem_nil hf

end LineRule

/-- The rule does not report the finding on the new line, but all else that it did, and the other
rules of the dialect report as much as before. -/
structure Settled (d : Dialect) (rule : LineRule) (number : Int) (f : Finding) (line new : Text) :
    Prop where
  own : rule.check d number new = (rule.check d number line).filter (· ≠ f)
  others : ∀ other ∈ d.lineRules, other ≠ rule →
    (other.check d number new).length = (other.check d number line).length

/-- The finding has a suggestion that can be put in its place, and wherever that is done it settles
the finding. -/
def SettledBySuggestion (d : Dialect) (rule : LineRule) (number : Int) (f : Finding)
    (line : Text) : Prop :=
  ∃ fix, f.suggestion = some fix ∧ (∃ new, rule.Rewrites fix line new) ∧
    ∀ new, rule.Rewrites fix line new → Settled d rule number f line new

section OneRemark

variable {d : Dialect} {rule : LineRule} {number : Int} {f : Finding} {line : Text}
  {message : String} {fix : Option Text} (hf : f ∈ rule.check d number line)
  (hline : rule.remarks d line = [(message, fix)])

include hf hline

theorem suggestion_of_remarks : f.suggestion = fix := by
  rw [LineRule.check, hline, List.map_singleton, List.mem_singleton] at hf
  rw [hf]

/-- A rule with one thing to say about a line, and nothing about the new one. -/
theorem Settled.of_remarks {new : Text} (hnew : rule.remarks d new = [])
    (hothers : ∀ other ∈ d.lineRules, other ≠ rule →
      (other.remarks d new).length = (other.remarks d line).length) :
    Settled d rule number f line new where
  own := by
    rw [LineRule.check, hline, List.map_singleton, List.mem_singleton] at hf
    simp [LineRule.check, hline, hnew, ← hf]
  others other hother hne := by
    rw [LineRule.length_check, LineRule.length_check, hothers other hother hne]

end OneRemark

/-! ## Whole lines -/

theorem isHashComment_of_startsStatement {t : Text} (h : startsStatement t = true) :
    isHashComment t = false := by
  have hwords : ∀ word ∈ statementWords, word ≠ [] ∧ word.head? ≠ some '#' := by decide
  obtain ⟨word, hword, b, c, d, rest, rfl, -⟩ := startsStatement_iff.mp h
  obtain ⟨hn, hhead⟩ := hwords word hword
  obtain ⟨w, word, rfl⟩ := List.exists_cons_of_ne_nil hn
  have hne : ('#' == w) = false := by
    rw [beq_eq_false_iff_ne]
    rintro rfl
    exact hhead rfl
  simp [isHashComment, Text.startsWith, List.isPrefixOf, hne]

/-- Only the rules that look at the start of a line can tell a whole line from the comment or the
statement that is suggested. -/
theorem whole_line_rules {d : Dialect}
    (hd : .hashComment ∈ d.lineRules ∨ .missingSemicolon ∈ d.lineRules) :
    d.conventions.lineComment = some "//" ∧ ∀ rule ∈ d.lineRules,
      rule = .hashComment ∨ rule = .missingSemicolon ∨ rule.readsStart = false := by
  cases d with
  | jsx => decide
  | tsx => decide
  | js => decide
  | ts => decide
  | _ => exact absurd hd (by decide)

/-- The text behind the hashes. -/
def hashCommentText (trimmed : Text) : Text := Text.trim (trimmed.dropWhile (· == '#'))

theorem hashCommentFix_eq {d : Dialect} (hd : d.conventions.lineComment = some "//") (t : Text) :
    hashCommentFix d t = Text.trimRight ("//".toList ++ ' ' :: hashCommentText t) := by
  rw [hashCommentFix, hd]
  rfl

theorem trim_hashCommentFix {d : Dialect} (hd : d.conventions.lineComment = some "//") (t : Text) :
    Text.trim (hashCommentFix d t) =
      "//".toList ++ Text.trimRight (' ' :: hashCommentText t) := by
  have hslashes : ∀ c ∈ "//".toList, isBlank c = false := by
    intro c hc
    obtain rfl : c = '/' := by simpa using hc
    decide
  rw [hashCommentFix_eq hd, Text.trim_trimRight]
  exact Text.trim_append_solid (by decide) hslashes [] _

/-- What a rule says that does not look at the start of a line is said of the text behind the
hashes, which is that of the suggested comment. -/
theorem remarks_hashCommentFix {rule : LineRule} (hrule : rule.readsStart = false) {d : Dialect}
    (hd : d.conventions.lineComment = some "//") (line : Text) :
    rule.remarks d (hashCommentFix d line.trim) = rule.remarks d line := by
  have hmarks : ∀ c ∈ "// ".toList, isIdle c = true := by
    intro c hc
    obtain rfl | rfl : c = '/' ∨ c = ' ' := by simpa using hc
    · decide
    · decide
  have hhashes : ∀ c ∈ line.trim.takeWhile (· == '#'), isIdle c = true := by
    intro c hc
    obtain rfl : c = '#' := by simpa using List.mem_takeWhile_imp hc
    decide
  have hnil : ∀ c ∈ ([] : Text), isIdle c = true := by simp
  have hfix := LineRule.remarks_between_idle hrule hmarks hnil d (hashCommentText line.trim)
  have hline := LineRule.remarks_between_idle hrule hhashes hnil d
    (line.trim.dropWhile (· == '#'))
  simp only [List.append_nil] at hfix hline
  calc rule.remarks d (hashCommentFix d line.trim)
      = rule.remarks d ("// ".toList ++ hashCommentText line.trim) := by
        rw [hashCommentFix_eq hd, ← LineRule.remarks_trim, Text.trim_trimRight,
          LineRule.remarks_trim]
        rfl
    _ = rule.remarks d line := by
        rw [hfix, hashCommentText, LineRule.remarks_trim, ← hline, List.takeWhile_append_dropWhile,
          LineRule.remarks_trim]

theorem settled_hashComment {d : Dialect} (hd : .hashComment ∈ d.lineRules) {number : Int}
    {line : Text} {f : Finding} (hf : f ∈ LineRule.hashComment.check d number line) :
    SettledBySuggestion d .hashComment number f line := by
  obtain ⟨hcomment, hrules⟩ := whole_line_rules (.inl hd)
  have hhash : isHashComment line.trim = true := by
    by_contra h
    exact LineRule.remarks_ne_nil hf (by rw [LineRule.remarks, if_neg h])
  have htrim := trim_hashCommentFix hcomment line.trim
  have hnone : isHashComment (Text.trim (hashCommentFix d line.trim)) = false := by
    rw [htrim]
    rfl
  have hstatement : lacksSemicolon line.trim = false := by
    rw [lacksSemicolon, Bool.eq_false_iff]
    intro h
    simp only [Bool.and_eq_true] at h
    simp [isHashComment_of_startsStatement h.1.1.2] at hhash
  have hcommented : lacksSemicolon (Text.trim (hashCommentFix d line.trim)) = false := by
    rw [htrim]
    rfl
  obtain ⟨message, hline⟩ : ∃ message, LineRule.hashComment.remarks d line =
      [(message, some (hashCommentFix d line.trim))] := ⟨_, by rw [LineRule.remarks, if_pos hhash]⟩
  have hnew : LineRule.hashComment.remarks d (hashCommentFix d line.trim) = [] := by
    rw [LineRule.remarks, hnone, if_neg Bool.false_ne_true]
  refine ⟨_, suggestion_of_remarks hf hline, ⟨_, rfl⟩, ?_⟩
  rintro _ rfl
  refine .of_remarks hf hline hnew fun other hother hne => ?_
  obtain rfl | rfl | hsearch := hrules other hother
  · exact absurd rfl hne
  · simp [LineRule.remarks, hstatement, hcommented]
  · rw [remarks_hashCommentFix hsearch hcomment]

theorem settled_missingSemicolon {d : Dialect} (hd : .missingSemicolon ∈ d.lineRules) {number : Int}
    {line : Text} {f : Finding} (hf : f ∈ LineRule.missingSemicolon.check d number line) :
    SettledBySuggestion d .missingSemicolon number f line := by
  obtain ⟨-, hrules⟩ := whole_line_rules (.inr hd)
  have hlacks : lacksSemicolon line.trim = true := by
    by_contra h
    exact LineRule.remarks_ne_nil hf (by rw [LineRule.remarks, if_neg h])
  have hsemicolon : ∀ c ∈ [';'], isBlank c = false ∧ isIdle c = true := by
    intro c hc
    obtain rfl := List.mem_singleton.mp hc
    decide
  have htrim : Text.trim (line.trim ++ [';']) = line.trim ++ [';'] := by
    have hsolid := Text.trim_append_solid (x := [';']) (by decide)
      (fun c hc => (hsemicolon c hc).1) line.trim []
    have hnil : Text.trimRight [] = [] := rfl
    rwa [List.append_nil, Text.trimLeft_trim, hnil, List.append_nil] at hsolid
  have hclosed : lacksSemicolon (line.trim ++ [';']) = false := by
    have hlast : (line.trim ++ [';']).getLast?.any isTerminator = true := by
      rw [List.getLast?_concat]
      decide
    rw [lacksSemicolon, hlast]
    simp
  obtain ⟨message, hline⟩ : ∃ message, LineRule.missingSemicolon.remarks d line =
      [(message, some (line.trim ++ [';']))] := ⟨_, by rw [LineRule.remarks, if_pos hlacks]⟩
  have hnew : LineRule.missingSemicolon.remarks d (line.trim ++ [';']) = [] := by
    rw [LineRule.remarks, htrim, hclosed, if_neg Bool.false_ne_true]
  refine ⟨_, suggestion_of_remarks hf hline, ⟨_, rfl⟩, ?_⟩
  rintro _ rfl
  refine .of_remarks hf hline hnew fun other hother hne => ?_
  obtain rfl | rfl | hsearch := hrules other hother
  · have hword : startsStatement line.trim = true := by
      simp only [lacksSemicolon, Bool.and_eq_true] at hlacks
      exact hlacks.1.1.2
    have hclosedWord : startsStatement (line.trim ++ [';']) = true := by
      obtain ⟨word, hw, b, c, e, rest, hsplit, hbce⟩ := startsStatement_iff.mp hword
      exact startsStatement_iff.mpr ⟨word, hw, b, c, e, rest ++ [';'], by simp [hsplit], hbce⟩
    simp [LineRule.remarks, htrim, isHashComment_of_startsStatement hword,
      isHashComment_of_startsStatement hclosedWord]
  · exact absurd rfl hne
  · have hidle := LineRule.remarks_between_idle hsearch (w := []) (by simp)
      (fun c hc => (hsemicolon c hc).2) d line.trim
    rw [List.nil_append] at hidle
    rw [hidle, LineRule.remarks_trim]

/-! ## Class attributes -/

theorem lineRules_of_attributes {d : Dialect}
    (hd : .classAttribute ∈ d.lineRules ∨ .lowercaseEvents ∈ d.lineRules) :
    d.lineRules = Dialect.componentRules := by
  cases d with
  | jsx => rfl
  | tsx => rfl
  | _ => exact absurd hd (by decide)

theorem notMem_of_componentRules : ∀ rule ∈ Dialect.componentRules, rule ≠ .classAttribute →
    rule ≠ .lowercaseEvents →
      rule ∉ [LineRule.classAttribute, .classNameInMarkup, .lowercaseEvents] := by
  decide

/-- What opens a class attribute, in either spelling. -/
theorem inert_opening {q : Char} (hq : isQuote q = true) :
    Inert Dialect.componentRules (classWord ++ [q]) ∧
      Inert Dialect.componentRules ("className=".toList ++ [q]) := by
  obtain rfl | rfl := isQuote_iff.mp hq
  · decide +kernel
  · decide +kernel

theorem misspellsEvent_opening {q : Char} (hq : isQuote q = true) {event : Text × Text}
    (he : event ∈ eventNames) (s t : Text) :
    misspellsEvent event (s ++ (classWord ++ [q]) ++ t) =
      misspellsEvent event (s ++ ("className=".toList ++ [q]) ++ t) := by
  have hapart : ∀ event ∈ eventNames, ∀ name ∈ [classWord, "className=".toList],
      (Text.Apart event.1 (Text.lower (name ++ ['"'])) ∧ Text.Apart event.2 (name ++ ['"'])) ∧
      Text.Apart event.1 (Text.lower (name ++ ['\''])) ∧ Text.Apart event.2 (name ++ ['\'']) := by
    decide +kernel
  have hclass := hapart event he classWord (by simp)
  have hclassName := hapart event he "className=".toList (by simp)
  obtain rfl | rfl := isQuote_iff.mp hq
  · exact misspellsEvent_replace hclass.1.1 hclassName.1.1 hclass.1.2 hclassName.1.2 s t
  · exact misspellsEvent_replace hclass.2.1 hclassName.2.1 hclass.2.2 hclassName.2.2 s t

theorem length_remarks_opening {rule : LineRule} (hrule : rule ∈ Dialect.componentRules)
    (hne : rule ≠ .classAttribute) {q : Char} (hq : isQuote q = true) (d : Dialect) (s t : Text) :
    (rule.remarks d (s ++ (classWord ++ [q]) ++ t)).length =
      (rule.remarks d (s ++ ("className=".toList ++ [q]) ++ t)).length := by
  obtain ⟨hclass, hclassName⟩ := inert_opening hq
  by_cases hevents : rule = .lowercaseEvents
  · subst hevents
    have hfilter : eventNames.filter (misspellsEvent · (s ++ (classWord ++ [q]) ++ t)) =
        eventNames.filter (misspellsEvent · (s ++ ("className=".toList ++ [q]) ++ t)) :=
      List.filter_congr fun event he => misspellsEvent_opening hq he s t
    rw [LineRule.remarks, hfilter, LineRule.remarks]
  · exact length_remarks_replace hclass hclassName hrule
      (notMem_of_componentRules rule hrule hne hevents) d s t

theorem settled_classAttribute {d : Dialect} (hd : .classAttribute ∈ d.lineRules) {number : Int}
    {line : Text} {f : Finding} (hf : f ∈ LineRule.classAttribute.check d number line) :
    SettledBySuggestion d .classAttribute number f line := by
  have hname : ¬ Text.occursIn "className=".toList line = true :=
    fun h => LineRule.remarks_ne_nil hf (by rw [LineRule.remarks, if_pos h])
  obtain ⟨value, hvalue⟩ : ∃ value, firstClassLiteral? line = some value := by
    rw [← Option.ne_none_iff_exists']
    intro h
    refine LineRule.remarks_ne_nil hf ?_
    rw [LineRule.remarks, if_neg hname, h]
    rfl
  obtain ⟨message, hline⟩ : ∃ message, LineRule.classAttribute.remarks d line =
      [(message, some ("className=".toList ++ value))] := by
    rw [LineRule.remarks, if_neg hname, hvalue]
    exact ⟨_, rfl⟩
  obtain ⟨front, back, hplace⟩ := firstClassLiteral?_eq_some_iff.mp hvalue
  refine ⟨_, suggestion_of_remarks hf hline, ⟨_, front, value, back, hplace, rfl⟩, ?_⟩
  rintro _ ⟨lead, v, rest, hfirst, rfl⟩
  obtain rfl : v = value := Option.some.inj (hfirst.firstClassLiteral?_eq_some.symm.trans hvalue)
  have hnew : LineRule.classAttribute.remarks d
      (lead ++ ("className=".toList ++ v) ++ rest) = [] := by
    have hoccurs : Text.occursIn "className=".toList
        (lead ++ ("className=".toList ++ v) ++ rest) = true :=
      Text.occursIn_iff.mpr ⟨lead, v ++ rest, by simp⟩
    rw [LineRule.remarks, if_pos hoccurs]
  refine .of_remarks hf hline hnew fun other hother hne => ?_
  rw [lineRules_of_attributes (.inl hd)] at hother
  -- the opening quote goes to the name, as an equals sign at its end could be part of an arrow
  obtain ⟨q, body, closing, hq, -, -, rfl⟩ := hfirst.quoted
  have hopening := length_remarks_opening hother hne hq d lead (body ++ closing :: rest)
  rw [hfirst.split]
  simpa using hopening.symm

/-! ## Class names -/

theorem settled_classNameInMarkup {d : Dialect} (hd : .classNameInMarkup ∈ d.lineRules)
    {number : Int} {line : Text} {f : Finding}
    (hf : f ∈ LineRule.classNameInMarkup.check d number line) :
    SettledBySuggestion d .classNameInMarkup number f line := by
  have hname : Text.occursIn "className=".toList line = true := by
    by_contra h
    exact LineRule.remarks_ne_nil hf (by rw [LineRule.remarks, if_neg h])
  obtain ⟨message, hline⟩ : ∃ message, LineRule.classNameInMarkup.remarks d line =
      [(message, some "class=".toList)] := ⟨_, by rw [LineRule.remarks, if_pos hname]⟩
  refine ⟨_, suggestion_of_remarks hf hline, ⟨_, rfl⟩, ?_⟩
  rintro _ rfl
  have hnew : LineRule.classNameInMarkup.remarks d
      (Text.replaceAll classNameWord_ne_nil "class=".toList line) = [] := by
    have hapart : Text.Apart classNameWord "class=".toList := by decide
    have hnone : ¬ "className=".toList <:+:
        Text.replaceAll classNameWord_ne_nil "class=".toList line :=
      Text.not_infix_replaceAll classNameWord_ne_nil hapart line
    rw [LineRule.remarks, if_neg fun h => hnone (Text.occursIn_iff.mp h)]
  refine .of_remarks hf hline hnew fun other hother hne => ?_
  have hrules : ∀ other ∈ d.lineRules, other ≠ .classNameInMarkup →
      other ∈ [.phpHtmlComment, .scriptCommentInMarkup, .unclosedTag] ∧
        other ∉ [.classAttribute, .classNameInMarkup, .lowercaseEvents] := by
    cases d with
    | php => decide
    | html => decide
    | _ => exact absurd hd (by decide)
  obtain ⟨hrule, hnames⟩ := hrules other hother hne
  have hinert : Inert [.phpHtmlComment, .scriptCommentInMarkup, .unclosedTag] "className=".toList ∧
      Inert [.phpHtmlComment, .scriptCommentInMarkup, .unclosedTag] "class=".toList := by
    decide +kernel
  exact Text.replaceAll_invariant classNameWord_ne_nil (fun t => (other.remarks d t).length)
    (length_remarks_replace hinert.1 hinert.2 hrule hnames d) line

/-! ## Events -/

/-- An event is a name, inert in any case and in both spellings, and an equals sign. -/
structure EventSpelling (event : Text × Text) (lower camel : Text) : Prop where
  lower_eq : event.1 = lower ++ ['=']
  camel_eq : event.2 = camel ++ ['=']
  lower_camel : camel.lower = lower
  head : lower.head?.any Char.isLower = true ∧ lower.head? ≠ some 'k'
  inert : Inert Dialect.componentRules lower
  quotes : lower.any isQuote = false
  className : Text.Apart "classname=".toList lower
  double : Text.Apart (classWord ++ ['"']) lower
  single : Text.Apart (classWord ++ ['\'']) lower
  others : ∀ other ∈ eventNames, other ≠ event → Text.Apart other.1 lower

theorem exists_eventSpelling {event : Text × Text} (he : event ∈ eventNames) :
    ∃ lower camel, EventSpelling event lower camel := by
  simp only [eventNames, List.mem_cons, List.not_mem_nil, or_false] at he
  obtain rfl | rfl | rfl := he
  · refine ⟨"onclick".toList, "onClick".toList, ?_⟩
    constructor <;> decide +kernel
  · refine ⟨"onchange".toList, "onChange".toList, ?_⟩
    constructor <;> decide +kernel
  · refine ⟨"onsubmit".toList, "onSubmit".toList, ?_⟩
    constructor <;> decide +kernel

namespace EventSpelling

variable {event : Text × Text} {lower camel x : Text} (h : EventSpelling event lower camel)
  (hx : x.lower = lower)

include h hx

theorem inert_of_lower : Inert Dialect.componentRules x := by
  subst hx
  exact h.inert.of_lower h.head.1 h.head.2

theorem apartFromClass_of_lower : ApartFromClass x := by
  subst hx
  exact .of_lower h.quotes h.className h.double h.single

/-- The name in some case can be no part of another event in any case. -/
theorem misspellsEvent_other {other : Text × Text} (ho : other ∈ eventNames) (hne : other ≠ event)
    (s t : Text) :
    misspellsEvent other (s ++ x ++ t) = misspellsEvent other (s ++ camel ++ t) := by
  have hother := h.others other ho hne
  have hlower : ∀ other ∈ eventNames, other.2.map lowerChar = other.1 := by decide
  have hcase (z : Text) (hz : z.lower = lower) : Text.Apart other.2 z := by
    refine .of_map lowerChar ?_
    rw [hlower other ho, ← Text.lower, hz]
    exact hother
  exact misspellsEvent_replace (hx ▸ hother) (h.lower_camel ▸ hother) (hcase x hx)
    (hcase camel h.lower_camel) s t

theorem length_remarks_other {rule : LineRule} (hrule : rule ∈ Dialect.componentRules)
    (hne : rule ≠ .lowercaseEvents) (d : Dialect) (s t : Text) :
    (rule.remarks d (s ++ x ++ t)).length = (rule.remarks d (s ++ camel ++ t)).length := by
  by_cases hclass : rule = .classAttribute
  · subst hclass
    exact length_remarks_classAttribute_replace (h.apartFromClass_of_lower hx)
      (h.apartFromClass_of_lower h.lower_camel) d s t
  · exact length_remarks_replace (h.inert_of_lower hx) (h.inert_of_lower h.lower_camel) hrule
      (notMem_of_componentRules rule hrule hclass hne) d s t

end EventSpelling

def eventFinding (number : Int) (event : Text × Text) : Finding where
  line := number
  message := "Use camelCase: '" ++ String.ofList event.2 ++ "' instead of '" ++
    String.ofList event.1 ++ "'"
  category := .attributes
  severity := .error
  suggestion := some event.2
  rule := LineRule.lowercaseEvents.name

theorem check_lowercaseEvents (d : Dialect) (number : Int) (line : Text) :
    LineRule.lowercaseEvents.check d number line =
      (eventNames.filter (misspellsEvent · line)).map (eventFinding number) := by
  rw [LineRule.check, LineRule.remarks, List.map_map]
  rfl

theorem camel_injOn : ∀ event ∈ eventNames, ∀ other ∈ eventNames, other.2 = event.2 →
    other = event := by
  decide

/-- A segment in some case is the name in some case and the equals sign. -/
theorem exists_of_lower_eq {lower x : Text} (h : Text.lower x = lower ++ ['=']) :
    ∃ name, x = name ++ ['='] ∧ name.lower = lower := by
  obtain ⟨name, last, rfl, hname, hlast⟩ := List.map_eq_append_iff.mp h
  obtain ⟨c, rfl, hc⟩ := List.map_eq_singleton_iff.mp hlast
  have hself : lowerChar c = c := by
    refine lowerChar_eq_self ?_
    rw [hc]
    decide
  rw [hself] at hc
  exact ⟨name, by rw [hc], hname⟩

theorem misspellsEvent_spelled (event : Text × Text) (s t : Text) :
    misspellsEvent event (s ++ event.2 ++ t) = false := by
  have hoccurs : Text.occursIn event.2 (s ++ event.2 ++ t) = true :=
    Text.occursIn_iff.mpr ⟨s, t, rfl⟩
  rw [misspellsEvent, hoccurs, Bool.not_true, Bool.and_false]

/-- An event that is spelled right at one place is not reported any more, and each other event is
reported as before. -/
theorem check_spelled {event : Text × Text} (he : event ∈ eventNames) {lower camel name : Text}
    (h : EventSpelling event lower camel) (hname : name.lower = lower) (d : Dialect) (number : Int)
    (s t : Text) :
    LineRule.lowercaseEvents.check d number (s ++ event.2 ++ t) =
      (LineRule.lowercaseEvents.check d number (s ++ name ++ '=' :: t)).filter
        (· ≠ eventFinding number event) := by
  rw [check_lowercaseEvents, check_lowercaseEvents, List.filter_map, List.filter_filter]
  refine congrArg _ (List.filter_congr fun other ho => ?_)
  by_cases hne : other = event
  · subst hne
    rw [misspellsEvent_spelled]
    simp
  · have hkeep : eventFinding number other ≠ eventFinding number event := fun heq =>
      hne (camel_injOn event he other ho (Option.some.inj (congrArg Finding.suggestion heq)))
    have hcamel : s ++ event.2 ++ t = s ++ camel ++ '=' :: t := by simp [h.camel_eq]
    rw [hcamel, ← h.misspellsEvent_other hname ho hne s ('=' :: t)]
    simp [hkeep]

theorem settled_lowercaseEvents {d : Dialect} (hd : .lowercaseEvents ∈ d.lineRules) {number : Int}
    {line : Text} {f : Finding} (hf : f ∈ LineRule.lowercaseEvents.check d number line) :
    SettledBySuggestion d .lowercaseEvents number f line := by
  rw [check_lowercaseEvents] at hf
  obtain ⟨event, hevent, rfl⟩ := List.mem_map.mp hf
  obtain ⟨he, hmisspelt⟩ := List.mem_filter.mp hevent
  refine ⟨event.2, rfl, ?_, ?_⟩
  · simp only [misspellsEvent, Bool.and_eq_true] at hmisspelt
    obtain ⟨a, b, hlower⟩ := Text.occursIn_iff.mp hmisspelt.1
    obtain ⟨front, t, rfl, hfront, -⟩ := List.map_eq_append_iff.mp hlower.symm
    obtain ⟨s, x, rfl, -, hx⟩ := List.map_eq_append_iff.mp hfront
    exact ⟨_, event, he, rfl, s, x, t, hx, rfl, rfl⟩
  · rintro _ ⟨event', he', hfix, s, x, t, hx, rfl, rfl⟩
    obtain rfl : event' = event := camel_injOn event he event' he' hfix
    obtain ⟨lower, camel, hspelling⟩ := exists_eventSpelling he
    rw [hspelling.lower_eq] at hx
    obtain ⟨name, rfl, hname⟩ := exists_of_lower_eq hx
    -- the equals sign goes to the text behind, which may be an arrow together with it
    have hsplit (y : Text) : s ++ (y ++ ['=']) ++ t = s ++ y ++ '=' :: t := by simp
    constructor
    · rw [hsplit]
      exact check_spelled he hspelling hname d number s t
    · intro other hother hne
      rw [lineRules_of_attributes (.inr hd)] at hother
      rw [LineRule.length_check, LineRule.length_check, hspelling.camel_eq, hsplit, hsplit,
        hspelling.length_remarks_other hname hother hne]

/-! ## All suggestions -/

/-- A finding of a rule that comes with suggestions has one that can be put in the place of what it
is about, and that settles it: the rule has no more to say but what it said besides, and every other
rule of the dialect has as much to say as before. -/
theorem suggestion_settles {d : Dialect} {rule : LineRule} (hd : rule ∈ d.lineRules)
    (hrule : rule ∈ LineRule.suggesting) {number : Int} {line : Text} {f : Finding}
    (hf : f ∈ rule.check d number line) :
    ∃ fix, f.suggestion = some fix ∧ (∃ new, rule.Rewrites fix line new) ∧
      ∀ new, rule.Rewrites fix line new → Settled d rule number f line new := by
  simp only [LineRule.suggesting, List.mem_cons, List.not_mem_nil, or_false] at hrule
  obtain rfl | rfl | rfl | rfl | rfl := hrule
  · exact settled_hashComment hd hf
  · exact settled_missingSemicolon hd hf
  · exact settled_classAttribute hd hf
  · exact settled_classNameInMarkup hd hf
  · exact settled_lowercaseEvents hd hf

/-- A line with a Kelvin sign in one event and a capital in another one, besides a class. -/
def kelvinLine : Text := "<a class='x' onclic\u212A=\x7bf\x7d OnChange=\x7bg\x7d".toList

def clickEvent : Text × Text := ("onclick=".toList, "onClick=".toList)

theorem suggestion_settles_kelvin :
    eventFinding 3 clickEvent ∈ LineRule.lowercaseEvents.check .jsx 3 kelvinLine ∧
      Settled .jsx .lowercaseEvents 3 (eventFinding 3 clickEvent) kelvinLine
        "<a class='x' onClick=\x7bf\x7d OnChange=\x7bg\x7d".toList := by
  have hd : .lowercaseEvents ∈ Dialect.jsx.lineRules := by decide
  have hf : eventFinding 3 clickEvent ∈ LineRule.lowercaseEvents.check .jsx 3 kelvinLine := by
    rw [check_lowercaseEvents]
    exact List.mem_map_of_mem (by decide)
  obtain ⟨fix, hfix, -, hnew⟩ := suggestion_settles hd (by decide) hf
  refine ⟨hf, hnew _ ⟨clickEvent, by decide, Option.some.inj hfix, "<a class='x' ".toList,
    "onclic\u212A=".toList, "\x7bf\x7d OnChange=\x7bg\x7d".toList, by decide, by decide, ?_⟩⟩
  rw [← Option.some.inj hfix]
  decide

end WebTidy
