/-!
# Blank characters

What counts as white space around a name: the characters of Unicode's space separators and of
its bidirectional classes for white space, paragraphs and segments. Sets of characters are kept
as closed intervals of code points, so that membership is a comparison of numbers.
-/

namespace LinearDispatch.Text

/-- A set of characters as closed intervals of code points. -/
abbrev CodeRanges := List (Nat × Nat)

/-- A character is in the set when one of the intervals holds its code point. -/
def CodeRanges.has (ranges : CodeRanges) (c : Char) : Bool :=
  ranges.any fun r => r.1 ≤ c.toNat && c.toNat ≤ r.2

def blankRanges : CodeRanges :=
  [(9, 13), (28, 32), (133, 133), (160, 160), (5760, 5760), (8192, 8202), (8232, 8233),
   (8239, 8239), (8287, 8287), (12288, 12288)]

/-- White space of the whole character set, not of ASCII alone. -/
def isBlank (c : Char) : Bool :=
  blankRanges.has c

/-- The text without the blanks at its two ends; blanks between other characters stay. -/
def strip (s : String) : String :=
  String.ofList (((s.toList.dropWhile isBlank).reverse.dropWhile isBlank).reverse)

end LinearDispatch.Text
