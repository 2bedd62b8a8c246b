/-! # Blank characters

A class of characters is given as data, a list of closed ranges of code points.  The first such class is
white space, in two widths.  `isBlank` is the Unicode property `White_Space`, by which lines, keys and
values of a script are trimmed.  `isSpacing` is the four characters that may stand between the tokens of
a JSON document or of a bracketed literal.  Both act on lists of characters, as all readers of the
library do. -/

namespace CallScript.Text

/-- A set of characters, as closed ranges of code points. -/
abbrev CodeRanges := List (Nat × Nat)

/-- Whether a character lies in one of the ranges. -/
def CodeRanges.has (ranges : CodeRanges) (c : Char) : Bool :=
  ranges.any fun range => range.1 ≤ c.toNat && c.toNat ≤ range.2

theorem CodeRanges.has_iff {ranges : CodeRanges} {c : Char} :
    ranges.has c = true ↔ ∃ range ∈ ranges, range.1 ≤ c.toNat ∧ c.toNat ≤ range.2 := by
  simp [CodeRanges.has]

/-- Code points with the property `White_Space`. -/
def blanks : CodeRanges := [
  (0x9, 0xD), (0x20, 0x20), (0x85, 0x85), (0xA0, 0xA0), (0x1680, 0x1680), (0x2000, 0x200A),
  (0x2028, 0x2029), (0x202F, 0x202F), (0x205F, 0x205F), (0x3000, 0x3000)]

/-- White space of any script. -/
def isBlank (c : Char) : Bool := blanks.has c

/-- White space between tokens: space, tab, carriage return and line feed. -/
def isSpacing (c : Char) : Bool := c = ' ' || c = '\t' || c = '\r' || c = '\n'

/-- The text without the blanks it starts with. -/
def trimStart (s : List Char) : List Char := s.dropWhile isBlank

/-- The text without the blanks it ends with. -/
def trimEnd (s : List Char) : List Char := (s.reverse.dropWhile isBlank).reverse

/-- The text without the blanks around it. -/
def trim (s : List Char) : List Char := trimEnd (trimStart s)

/-- The text after the spacing it starts with. -/
def skipSpacing (s : List Char) : List Char := s.dropWhile isSpacing

end CallScript.Text
