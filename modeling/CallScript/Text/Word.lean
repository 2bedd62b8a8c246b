import CallScript.Text.Letters
import CallScript.Text.Numerals
import CallScript.Text.Marks

/-! # Word characters

Two classes of characters that make up names.  `isWord` is the wider one, for the words of a script
line: letters, marks, decimal digits, connectors and the two joiners.  `isAlphanumeric` is the one that
names inside a bracketed literal are made of (together with the underscore): letters and numbers of any
kind, but no mark that is not a letter.  Below U+0080 both are decided without a table, and there they
differ in the underscore alone (`isWord_ascii`). -/

namespace CallScript.Text

/-- ASCII letters and digits. -/
def isAsciiAlphanumeric (c : Char) : Bool :=
  ('a' ≤ c && c ≤ 'z') || ('A' ≤ c && c ≤ 'Z') || ('0' ≤ c && c ≤ '9')

/-- The zero-width joiner and non-joiner. -/
def isJoiner (c : Char) : Bool := c.toNat = 0x200C || c.toNat = 0x200D

/-- Letters, marks, decimal digits, connector punctuation and joiners. -/
def isWord (c : Char) : Bool :=
  if c.toNat < 128 then isAsciiAlphanumeric c || c = '_'
  else letters.has c || digits.has c || marks.has c || connectors.has c || isJoiner c

/-- Letters and numbers of any script. -/
def isAlphanumeric (c : Char) : Bool :=
  if c.toNat < 128 then isAsciiAlphanumeric c
  else letters.has c || digits.has c || otherNumbers.has c

/-- The ten ASCII digits. -/
def isDigit (c : Char) : Bool := '0' ≤ c && c ≤ '9'

theorem isWord_ascii {c : Char} (h : c.toNat < 128) :
    isWord c = (isAlphanumeric c || decide (c = '_')) := by
  simp [isWord, isAlphanumeric, h]

/-- The longest run of characters of a class at the head of a text, and what follows it. -/
def spanOf (p : Char → Bool) (s : List Char) : List Char × List Char := (s.takeWhile p, s.dropWhile p)

@[simp] theorem spanOf_append (p : Char → Bool) (s : List Char) :
    (spanOf p s).1 ++ (spanOf p s).2 = s := by
  simp [spanOf, List.takeWhile_append_dropWhile]

/-- The number that a run of ASCII digits spells in decimal. -/
def digitsToNat (s : List Char) : Nat :=
  s.foldl (fun n c => n * 10 + (c.toNat - '0'.toNat)) 0

/-- Equality up to the case of ASCII letters. -/
def eqIgnoringCase (s t : List Char) : Bool := s.map Char.toLower == t.map Char.toLower

end CallScript.Text
