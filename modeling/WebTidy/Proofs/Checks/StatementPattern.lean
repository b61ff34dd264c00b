import WebTidy.Checks.LineRule
import WebTidy.Proofs.Text.Trim

/-!
# Statements without a semicolon

The rule about missing semicolons reads three characters behind a statement word and the last one of
the line. That is all it takes to match the pattern of a statement word, blanks, more text and an
end that is no terminator: it does not matter which of the blanks belong to the text.
-/

namespace WebTidy

open Computability

/-! ## The pattern -/

/-- The texts of one character of a class. -/
def oneOf (p : Char → Bool) : Language Char := {t | ∃ c, p c = true ∧ t = [c]}

def someOf (p : Char → Bool) : Language Char := oneOf p * (oneOf p)∗

theorem mem_kstar_oneOf_iff {p : Char → Bool} {t : Text} :
    t ∈ (oneOf p)∗ ↔ ∀ c ∈ t, p c = true := by
  rw [Language.mem_kstar]
  constructor
  · rintro ⟨ts, rfl, hts⟩ c hc
    obtain ⟨u, hu, hcu⟩ := List.mem_flatten.mp hc
    obtain ⟨d, hd, rfl⟩ := hts u hu
    rwa [List.mem_singleton.mp hcu]
  · intro h
    refine ⟨t.map ([·]), (List.flatMap_singleton' t).symm, fun u hu => ?_⟩
    obtain ⟨c, hc, rfl⟩ := List.mem_map.mp hu
    exact ⟨c, h c hc, rfl⟩

theorem mem_someOf_iff {p : Char → Bool} {t : Text} :
    t ∈ someOf p ↔ t ≠ [] ∧ ∀ c ∈ t, p c = true := by
  rw [someOf, Language.mem_mul]
  constructor
  · rintro ⟨u, ⟨c, hc, rfl⟩, v, hv, rfl⟩
    rw [mem_kstar_oneOf_iff] at hv
    exact ⟨by simp, by simpa using ⟨hc, hv⟩⟩
  · rintro ⟨hn, h⟩
    obtain ⟨c, u, rfl⟩ := List.exists_cons_of_ne_nil hn
    rw [List.forall_mem_cons] at h
    exact ⟨[c], ⟨c, h.1, rfl⟩, u, mem_kstar_oneOf_iff.mpr h.2, rfl⟩

/-- The words that begin a statement. -/
def statementWord : Language Char :=
  {t | t = "const".toList ∨ t = "let".toList ∨ t = "var".toList ∨ t = "return".toList ∨
    t = "import".toList ∨ t = "export".toList ∨ t = "throw".toList}

/-- Any character but a semicolon, a brace and a square bracket. -/
def noTerminator (c : Char) : Bool := c != ';' && c != '{' && c != '}' && c != '[' && c != ']'

/-- A statement word, at least one blank, at least one more character, and a last character that is
no terminator. -/
def statementPattern : Language Char :=
  statementWord * someOf isBlank * someOf (· != '\n') * oneOf noTerminator

theorem mem_statementWord_iff {t : Text} : t ∈ statementWord ↔ t ∈ statementWords := by
  simp only [statementWords, List.map_cons, List.map_nil, List.mem_cons, List.not_mem_nil, or_false]
  rfl

theorem noTerminator_eq_not_isTerminator (c : Char) : noTerminator c = !isTerminator c := by
  simp only [noTerminator, isTerminator, List.contains_cons, List.contains_nil, Bool.or_false,
    Bool.not_or, bne, Bool.and_assoc]

/-- The parts of a text that matches the pattern. -/
structure StatementParts (t word blanks body : Text) (last : Char) : Prop where
  split : t = word ++ blanks ++ body ++ [last]
  word : word ∈ statementWords
  blanks : blanks ≠ [] ∧ ∀ c ∈ blanks, isBlank c = true
  body : body ≠ [] ∧ '\n' ∉ body
  last : isTerminator last = false

theorem mem_statementPattern_iff {t : Text} :
    t ∈ statementPattern ↔ ∃ word blanks body last, StatementParts t word blanks body last := by
  have hbody {body : Text} : body ∈ someOf (· != '\n') ↔ body ≠ [] ∧ '\n' ∉ body := by
    rw [mem_someOf_iff, ← List.forall_mem_ne']
    simp
  constructor
  · rintro ⟨u, ⟨v, ⟨word, hword, blanks, hblanks, rfl⟩, body, hb, rfl⟩, l, ⟨last, hlast, rfl⟩, rfl⟩
    rw [noTerminator_eq_not_isTerminator, Bool.not_eq_true'] at hlast
    exact ⟨word, blanks, body, last, rfl, mem_statementWord_iff.mp hword,
      mem_someOf_iff.mp hblanks, hbody.mp hb, hlast⟩
  · rintro ⟨word, blanks, body, last, h⟩
    rw [h.split]
    refine Language.append_mem_mul (Language.append_mem_mul (Language.append_mem_mul ?_ ?_) ?_) ?_
    · exact mem_statementWord_iff.mpr h.word
    · exact mem_someOf_iff.mpr h.blanks
    · exact hbody.mpr h.body
    · exact ⟨last, by rw [noTerminator_eq_not_isTerminator, h.last]; rfl, rfl⟩

/-! ## The rule -/

/-- Behind a statement word the rule looks for a blank and two more characters on the line. -/
theorem startsStatement_iff {t : Text} : startsStatement t = true ↔
    ∃ word ∈ statementWords, ∃ b c d rest, t = word ++ b :: c :: d :: rest ∧ isBlank b = true ∧
      c ≠ '\n' ∧ d ≠ '\n' := by
  rw [startsStatement, List.any_eq_true]
  refine exists_congr fun word => and_congr_right fun hword => ?_
  constructor
  · intro h
    split at h
    · next b c d rest ha =>
      simp only [Bool.and_eq_true, bne_iff_ne] at h
      exact ⟨b, c, d, rest, Text.after?_eq_some_iff.mp ha, h.1.1, h.1.2, h.2⟩
    · exact absurd h Bool.false_ne_true
  · rintro ⟨b, c, d, rest, rfl, hb, hc, hd⟩
    have ha : Text.after? word (word ++ b :: c :: d :: rest) = some (b :: c :: d :: rest) :=
      Text.after?_eq_some_iff.mpr rfl
    rw [ha]
    simp [hb, hc, hd]

/-- Reading three characters and the last one is matching the whole pattern. -/
theorem mem_statementPattern_iff_startsStatement {t : Text} (hn : '\n' ∉ t) :
    t ∈ statementPattern ↔ startsStatement t = true ∧ t.getLast?.any isTerminator = false := by
  rw [mem_statementPattern_iff, startsStatement_iff]
  constructor
  · rintro ⟨word, blanks, body, last, h⟩
    obtain ⟨b, more, rfl⟩ := List.exists_cons_of_ne_nil h.blanks.1
    obtain ⟨c, front, hfront⟩ := List.exists_cons_of_ne_nil
      (List.append_ne_nil_of_right_ne_nil more h.body.1)
    obtain ⟨d, rest, hrest⟩ := List.exists_cons_of_ne_nil (List.concat_ne_nil last front)
    have hsplit : t = word ++ b :: (more ++ body ++ [last]) := by simp [h.split]
    rw [hfront, List.cons_append, hrest] at hsplit
    have hc : c ≠ '\n' := fun h => hn (by simp [hsplit, h])
    have hd : d ≠ '\n' := fun h => hn (by simp [hsplit, h])
    refine ⟨⟨word, h.word, b, c, d, rest, hsplit, h.blanks.2 b (by simp), hc, hd⟩, ?_⟩
    · rw [h.split, List.getLast?_concat]
      exact h.last
  · rintro ⟨⟨word, hword, b, c, d, rest, rfl, hb, -⟩, hlast⟩
    obtain ⟨front, last, hfront⟩ := List.eq_nil_or_concat (d :: rest) |>.resolve_left (by simp)
    rw [List.concat_eq_append] at hfront
    have hsplit : word ++ b :: c :: d :: rest = word ++ [b] ++ (c :: front) ++ [last] := by
      simp [hfront]
    rw [hsplit] at hn hlast ⊢
    rw [List.getLast?_concat] at hlast
    refine ⟨word, [b], c :: front, last, rfl, hword, by simpa using hb, ⟨by simp, ?_⟩, hlast⟩
    exact fun hm => hn (List.mem_append_left _ (List.mem_append_right _ hm))

/-- The rule reports a line exactly if what is left of it between blanks is no comment, holds no
arrow and matches the pattern of a statement. -/
theorem missingSemicolon_reports_iff (d : Dialect) (number : Int) {line : Text}
    (hn : '\n' ∉ line) : LineRule.missingSemicolon.check d number line ≠ [] ↔
      line.trim ≠ [] ∧ ¬ "//".toList <+: line.trim ∧ ¬ "/*".toList <+: line.trim ∧
        ¬ "=>".toList <:+: line.trim ∧ line.trim ∈ statementPattern := by
  have hreports : LineRule.missingSemicolon.check d number line ≠ [] ↔
      lacksSemicolon line.trim = true := by
    simp [LineRule.check, LineRule.remarks]
  have htrim : '\n' ∉ line.trim := fun hm => hn (Text.mem_of_mem_trim hm)
  have hne : line.trim ∈ statementPattern → line.trim ≠ [] := by
    rw [mem_statementPattern_iff]
    rintro ⟨word, blanks, body, last, h⟩
    simp [h.split]
  have hword := mem_statementPattern_iff_startsStatement htrim
  rw [hreports, lacksSemicolon]
  simp only [Bool.and_eq_true, Bool.not_eq_true', Bool.eq_false_iff, ne_eq, Text.startsWith_iff,
    Text.occursIn_iff] at hword ⊢
  constructor
  · rintro ⟨⟨⟨⟨hline, hblock⟩, hstart⟩, hlast⟩, harrow⟩
    have hpattern := hword.mpr ⟨hstart, hlast⟩
    exact ⟨hne hpattern, hline, hblock, harrow, hpattern⟩
  · rintro ⟨-, hline, hblock, harrow, hpattern⟩
    obtain ⟨hstart, hlast⟩ := hword.mp hpattern
    exact ⟨⟨⟨⟨hline, hblock⟩, hstart⟩, hlast⟩, harrow⟩

/-- A line with an ideographic space, an em space and a no-break space: after the word the pattern
may take one blank or both. -/
theorem missingSemicolon_reports_wide_blanks :
    '\n' ∉ "\u3000return\u2003\u00a0x ".toList ∧
      LineRule.missingSemicolon.check .ts 7 "\u3000return\u2003\u00a0x ".toList ≠ [] ∧
      "return\u2003\u00a0x".toList ∈ statementPattern := by
  have hn : '\n' ∉ "\u3000return\u2003\u00a0x ".toList := by decide
  have hreports :
      LineRule.missingSemicolon.check .ts 7 "\u3000return\u2003\u00a0x ".toList ≠ [] := by
    decide
  have htrim : Text.trim "\u3000return\u2003\u00a0x ".toList = "return\u2003\u00a0x".toList := by
    decide
  have hpattern := ((missingSemicolon_reports_iff .ts 7 hn).mp hreports).2.2.2.2
  rw [htrim] at hpattern
  exact ⟨hn, hreports, hpattern⟩

end WebTidy
