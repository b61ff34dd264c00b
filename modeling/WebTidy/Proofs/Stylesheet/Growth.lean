import WebTidy.Proofs.Stylesheet.Weight

/-!
# The growth of a tidied text

The size in bytes is a weight, so a tidied text is larger than its source by at most a semicolon for
each group and a blank for each media block that it writes. No other character is added.
-/

namespace WebTidy

theorem Text.weight_utf8Size (t : Text) : weight Char.utf8Size t = utf8ByteSize t := by
  induction t with
  | nil => rfl
  | cons c t ih => rw [weight_cons, ih, utf8ByteSize]

/-- The groups that a sheet writes, at the top and in its media blocks. -/
def GroupedSheet.groupCount (sheet : GroupedSheet) : Nat :=
  sheet.top.length + (sheet.media.map (·.groups.length)).sum

variable {w : Char → Nat}

theorem mediaSlack_eq (blocks : List MediaGroups) :
    mediaSlack w blocks = (blocks.map (·.groups.length)).sum * w ';' + blocks.length * w ' ' := by
  induction blocks with
  | nil => simp [mediaSlack]
  | cons b blocks ih =>
    simp only [mediaSlack, List.map_cons, List.sum_cons, List.length_cons] at ih ⊢
    rw [ih]
    ring

/-- The bound on what tidying adds, against the text with its comments. -/
theorem weight_tidy_le_groupCount (hw : w ';' ≤ w '}') (f : ClassFilter) (css : Text) :
    Text.weight w (tidy f css) ≤ Text.weight w css +
      ((Sheet.parse css).grouped f).groupCount * w ';' +
      ((Sheet.parse css).grouped f).media.length * w ' ' := by
  have htidy := weight_tidy_le hw f css
  have hcomments := Text.weight_le_of_sublist w (withoutComments_sublist css)
  rw [mediaSlack_eq] at htidy
  rw [GroupedSheet.groupCount, Nat.add_mul]
  omega

theorem count_tidy_le {c : Char} (hc : c ≠ ';') (f : ClassFilter) (css : Text) :
    (tidy f css).count c ≤ css.count c +
      if c = ' ' then ((Sheet.parse css).grouped f).media.length else 0 := by
  have hsemicolon : countOf c ';' = 0 := if_neg hc.symm
  have htidy := weight_tidy_le_groupCount (w := countOf c) (by simp [hsemicolon]) f css
  rw [Text.weight_countOf, Text.weight_countOf, hsemicolon] at htidy
  by_cases hb : c = ' '
  · subst hb
    simpa [countOf] using htidy
  · simpa [countOf, hb, Ne.symm hb] using htidy

/-- A tidied text outgrows its source by at most one byte for each group and one for each media
block. These are semicolons and blanks, since no other character gets more frequent. -/
theorem utf8ByteSize_tidy_le (f : ClassFilter) (css : Text) :
    (tidy f css).utf8ByteSize ≤ css.utf8ByteSize +
        ((Sheet.parse css).grouped f).groupCount + ((Sheet.parse css).grouped f).media.length ∧
      ∀ c, c ≠ ';' → (tidy f css).count c ≤ css.count c +
        if c = ' ' then ((Sheet.parse css).grouped f).media.length else 0 := by
  refine ⟨?_, fun c hc => count_tidy_le hc f css⟩
  have hsemicolon : Char.utf8Size ';' = 1 := rfl
  have hblank : Char.utf8Size ' ' = 1 := rfl
  have htidy := weight_tidy_le_groupCount (w := Char.utf8Size) (by decide) f css
  rw [Text.weight_utf8Size, Text.weight_utf8Size, hsemicolon, hblank] at htidy
  omega

/-- The bound is reached where no body ends in a semicolon and no query begins with a blank. -/
example : (tidy none "a{b:c}@media(x){d{e:f}}".toList).utf8ByteSize =
    Text.utf8ByteSize "a{b:c}@media(x){d{e:f}}".toList + 2 + 1 := by decide +kernel

end WebTidy
