/-! # Places in a YAML text

A `Cursor` is a place in a text: what follows it, and where it is, by lines and columns.  Lines end with a
line feed, a carriage return, both, or one of three further characters. -/

namespace CallScript.Yaml

/-- Whether a character may occur in a YAML text. -/
def isAllowed (c : Char) : Bool :=
  let n := c.toNat
  n = 0x09 || n = 0x0A || n = 0x0D || (0x20 ≤ n && n ≤ 0x7E) || n = 0x85 || (0xA0 ≤ n && n ≤ 0xD7FF)
    || (0xE000 ≤ n && n ≤ 0xFFFD) || 0x10000 ≤ n

/-- Whether a character is a space or tab. -/
def isBlank (c : Char) : Bool := c = ' ' || c = '\t'

/-- Whether a character ends a line. -/
def isBreak (c : Char) : Bool :=
  c = '\n' || c = '\r' || c.toNat = 0x85 || c.toNat = 0x2028 || c.toNat = 0x2029

/-- Whether a line, or the whole text, ends here. -/
def atBreak : List Char → Bool
  | [] => true
  | c :: _ => isBreak c

/-- Whether a blank follows, or a line or the text ends here. -/
def atBlank : List Char → Bool
  | [] => true
  | c :: _ => isBlank c || isBreak c

/-- Whether a character may stand in names of anchors, directives and tag handles. -/
def isNameChar (c : Char) : Bool := c.isAlphanum || c = '_' || c = '-'

/-- The number of bytes of some characters. -/
def byteCount (s : List Char) : Nat := s.foldl (fun n c => n + c.utf8Size) 0

/-- The character that may stand at the start of a text to tell the order of its bytes. -/
def isOrderMark (c : Char) : Bool := c.toNat = 0xFEFF

/-- A place in a text. -/
structure Cursor where
  /-- What follows. -/
  rest : List Char
  /-- How many bytes are before it. -/
  index : Nat := 0
  line : Nat := 0
  column : Nat := 0

namespace Cursor

/-- The place after some characters of the same line. -/
def skip (n : Nat) (c : Cursor) : Cursor :=
  { c with
    rest := c.rest.drop n
    index := c.index + byteCount (c.rest.take n)
    column := c.column + n }

/-- The place after all characters of a kind. -/
def skipWhile (p : Char → Bool) (c : Cursor) : Cursor := c.skip (c.rest.takeWhile p).length

/-- The place after a line break, and how the break counts in a text. -/
def takeBreak (c : Cursor) : List Char × Cursor :=
  let next := fun (n : Nat) =>
    ({
      rest := c.rest.drop n
      index := c.index + byteCount (c.rest.take n)
      line := c.line + 1
      column := 0 } : Cursor)
  match c.rest with
  | '\r' :: '\n' :: _ => (['\n'], next 2)
  | b :: _ =>
    if b.toNat = 0x2028 || b.toNat = 0x2029 then ([b], next 1)
    else if isBreak b then (['\n'], next 1)
    else ([], c)
  | [] => ([], c)

/-- The place after a mark of the byte order at the start of a line, if there is one. -/
def skipOrderMark (c : Cursor) : Cursor :=
  if c.column = 0 && c.rest.head?.any isOrderMark then c.skip 1 else c

/-- The place after a comment, if there is one. -/
def skipComment (c : Cursor) : Cursor :=
  match c.rest with
  | '#' :: _ => c.skipWhile fun d => !isBreak d
  | _ => c

/-- Whether a line that marks the start or end of a document begins here. -/
def atDocumentMark (c : Cursor) : Bool :=
  c.column = 0 && (c.rest.take 3 = ['-', '-', '-'] || c.rest.take 3 = ['.', '.', '.'])
    && atBlank (c.rest.drop 3)

end Cursor

end CallScript.Yaml
