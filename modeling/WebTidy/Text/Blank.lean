import WebTidy.Text.CodeRange

/-!
# Blank characters

The white space of Unicode 14 together with the four ASCII information separators. `trim` takes
blanks off both ends of a text, `words` cuts it at them.
-/

namespace WebTidy

def blankRanges : CodeRanges := [
    (0x9, 0xD), (0x1C, 0x20), (0x85, 0x85), (0xA0, 0xA0), (0x1680, 0x1680), (0x2000, 0x200A),
    (0x2028, 0x2029), (0x202F, 0x202F), (0x205F, 0x205F), (0x3000, 0x3000)]

def isBlank (c : Char) : Bool := blankRanges.covers c

namespace Text

def trimLeft (t : Text) : Text := t.dropWhile isBlank

def trimRight (t : Text) : Text := (t.reverse.dropWhile isBlank).reverse

def trim (t : Text) : Text := trimRight (trimLeft t)

def blank (t : Text) : Bool := t.all isBlank

/-- The maximal runs of characters that are not blank. -/
def words (t : Text) : List Text := (t.splitOnP isBlank).filter (!·.isEmpty)

theorem trim_nil : trim [] = [] := rfl

theorem words_append_cons {s t : Text} {c : Char} (h : isBlank c = true) :
    words (s ++ c :: t) = words s ++ words t := by
  simp [words, List.splitOnP_append_cons s t h]

end Text

end WebTidy
