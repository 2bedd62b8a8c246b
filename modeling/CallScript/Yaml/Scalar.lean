import CallScript.Json.Reader
import CallScript.Yaml.Cursor

/-! # Scalars of YAML

A scalar is written plain, in quotes, or as a block of lines.  A single line break within it counts as a
space, unless the block is literal; of several breaks in a row the first one does not count.

Each reader takes the characters it has, last first, and gives the text with the place after it.  They
take fuel; the length of the text is always enough. -/

namespace CallScript.Yaml

/-- Characters between the pieces of a scalar. -/
structure Gap where
  /-- The blanks of the line, as long as it has not ended. -/
  blanks : List Char := []
  /-- The first line break, if the line has ended. -/
  leadingBreak : List Char := []
  /-- The line breaks after it. -/
  trailingBreaks : List Char := []
  /-- Whether a line has ended. -/
  hasBreak : Bool := false

namespace Gap

/-- Whether nothing lies between the pieces. -/
def isEmpty (g : Gap) : Bool := !g.hasBreak && g.blanks.isEmpty

/-- What a gap counts as in the text. -/
def folded (g : Gap) : List Char :=
  if !g.hasBreak then g.blanks
  else if g.leadingBreak = ['\n'] then
    if g.trailingBreaks.isEmpty then [' '] else g.trailingBreaks
  else g.leadingBreak ++ g.trailingBreaks

/-- Takes one more line break into a gap. -/
def addBreak (g : Gap) (brk : List Char) : Gap :=
  if g.hasBreak then { g with trailingBreaks := g.trailingBreaks ++ brk }
  else { g with blanks := [], leadingBreak := brk, hasBreak := true }

end Gap

/-- Takes blanks and line breaks into a gap.  Fails for a tab before the column `indent` of a new line. -/
def takeGap (indent : Nat) : (fuel : Nat) → Gap → Cursor → Option (Gap × Cursor)
  | 0, _, _ => none
  | fuel + 1, g, c =>
    match c.rest with
    | [] => some (g, c)
    | d :: _ =>
      if isBlank d then
        if g.hasBreak then
          if d = '\t' && c.column < indent then none else takeGap indent fuel g (c.skip 1)
        else takeGap indent fuel { g with blanks := g.blanks ++ [d] } (c.skip 1)
      else if isBreak d then
        let (brk, c) := c.takeBreak
        takeGap indent fuel (g.addBreak brk) c
      else some (g, c)

/-! ### Plain scalars -/

/-- Whether a character ends a plain scalar within brackets or braces. -/
def isFlowIndicator (c : Char) : Bool := c = ',' || c = '[' || c = ']' || c = '\x7b' || c = '\x7d'

/-- Reads plain characters up to a blank, a line break or an indicator.  Fails for a colon right before
an indicator. -/
def plainPiece (inFlow : Bool) : List Char → Option (List Char)
  | [] => some []
  | c :: rest =>
    if isBlank c || isBreak c then some []
    else if inFlow && c = ':' && (rest.head?.any fun d => d = '?' || isFlowIndicator d) then none
    else if (c = ':' && atBlank rest) || (inFlow && isFlowIndicator c) then some []
    else (plainPiece inFlow rest).map (c :: ·)

/-- What a plain scalar came to. -/
structure PlainScalar where
  chars : List Char
  after : Cursor
  /-- Whether a line has ended between the scalar and the place after it. -/
  hasBreak : Bool

/-- Reads the pieces of a plain scalar whose lines are indented to a column at least. -/
def plainPieces (inFlow : Bool) (indent : Nat) : (fuel : Nat) → (acc : List Char) → Gap → Cursor →
    Option PlainScalar
  | 0, _, _, _ => none
  | fuel + 1, acc, gap, c =>
    let ended : PlainScalar := ⟨acc.reverse, c, gap.hasBreak⟩
    if c.atDocumentMark || c.rest.head? = some '#' then some ended
    else match plainPiece inFlow c.rest with
      | none => none
      | some [] => some ended
      | some piece =>
        let acc := piece.reverse ++ (gap.folded.reverse ++ acc)
        match takeGap indent (c.rest.length + 1) {} (c.skip piece.length) with
        | none => none
        | some (gap, c) =>
          if gap.isEmpty || (!inFlow && c.column < indent) then some ⟨acc.reverse, c, gap.hasBreak⟩
          else plainPieces inFlow indent fuel acc gap c

/-- Reads a plain scalar. -/
def readPlain (inFlow : Bool) (indent : Nat) (c : Cursor) : Option PlainScalar :=
  plainPieces inFlow indent (c.rest.length + 1) [] {} c

/-! ### Quoted scalars -/

/-- The character of a given number, unless it is none. -/
def numbered (count : Nat) (s : List Char) : Option (Char × Nat) := do
  let digits ← (s.take count).mapM Json.hexValue
  let n := digits.foldl (fun n d => n * 16 + d) 0
  if digits.length = count && n.isValidChar then some (Char.ofNat n, count + 1) else none

/-- What stands after a backslash: the character meant, and how many characters tell it. -/
def readEscape : List Char → Option (Char × Nat)
  | [] => none
  | c :: rest =>
    if c = '0' then some ('\x00', 1)
    else if c = 'a' then some ('\x07', 1)
    else if c = 'b' then some ('\x08', 1)
    else if c = 't' || c = '\t' then some ('\t', 1)
    else if c = 'n' then some ('\n', 1)
    else if c = 'v' then some ('\x0b', 1)
    else if c = 'f' then some ('\x0c', 1)
    else if c = 'r' then some ('\r', 1)
    else if c = 'e' then some ('\x1b', 1)
    else if c = ' ' || c = '"' || c = '/' || c = '\\' then some (c, 1)
    else if c = 'N' then some ('\u0085', 1)
    else if c = '_' then some ('\u00a0', 1)
    else if c = 'L' then some ('\u2028', 1)
    else if c = 'P' then some ('\u2029', 1)
    else if c = 'x' then numbered 2 rest
    else if c = 'u' then numbered 4 rest
    else if c = 'U' then numbered 8 rest
    else none

/-- How a piece of a quoted scalar ended. -/
inductive PieceEnd where
  /-- At the closing quote. -/
  | closed
  /-- At a blank or line break. -/
  | gap
  /-- At a backslash that hides the line break after it, which has been passed. -/
  | joined

/-- Reads the characters of a quoted scalar up to a blank, a line break or the closing quote. -/
def quotedPiece (quote : Char) : (fuel : Nat) → (acc : List Char) → Cursor →
    Option (PieceEnd × List Char × Cursor)
  | 0, _, _ => none
  | fuel + 1, acc, c =>
    match c.rest with
    | [] => some (.gap, acc, c)
    | d :: rest =>
      if isBlank d || isBreak d then some (.gap, acc, c)
      else if d = quote then
        if quote = '\'' && rest.head? = some quote then quotedPiece quote fuel (quote :: acc) (c.skip 2)
        else some (.closed, acc, c)
      else if d = '\\' && quote = '"' then
        if rest.head?.any isBreak then some (.joined, acc, (c.skip 1).takeBreak.2)
        else match readEscape rest with
          | none => none
          | some (e, n) => quotedPiece quote fuel (e :: acc) (c.skip (n + 1))
      else quotedPiece quote fuel (d :: acc) (c.skip 1)

/-- Reads the pieces of a quoted scalar up to its closing quote. -/
def quotedPieces (quote : Char) : (fuel : Nat) → (acc : List Char) → Cursor →
    Option (List Char × Cursor)
  | 0, _, _ => none
  | fuel + 1, acc, c =>
    if c.atDocumentMark || c.rest.isEmpty then none
    else match quotedPiece quote (c.rest.length + 1) acc c with
      | none => none
      | some (.closed, acc, c) => some (acc.reverse, c.skip 1)
      | some (.gap, acc, c) =>
        match takeGap 0 (c.rest.length + 1) {} c with
        | none => none
        | some (gap, c) => quotedPieces quote fuel (gap.folded.reverse ++ acc) c
      | some (.joined, acc, c) =>
        match takeGap 0 (c.rest.length + 1) { hasBreak := true } c with
        | none => none
        | some (gap, c) => quotedPieces quote fuel (gap.folded.reverse ++ acc) c

/-- Reads a quoted scalar, from its opening quote. -/
def readQuoted (c : Cursor) : Option (List Char × Cursor) :=
  match c.rest with
  | [] => none
  | quote :: _ => quotedPieces quote (c.rest.length + 1) [] (c.skip 1)

/-! ### Blocks of lines -/

/-- What becomes of the line breaks at the end of a block. -/
inductive Chomping where
  | strip
  | clip
  | keep
  deriving DecidableEq

/-- What stands at the head of a block: what becomes of its last breaks, and its indentation, if given. -/
structure BlockHead where
  chomping : Chomping := .clip
  increment : Option Nat := none

/-- Reads the sign for the last breaks. -/
def readChomping : List Char → Option (Chomping × List Char)
  | '+' :: rest => some (.keep, rest)
  | '-' :: rest => some (.strip, rest)
  | _ => none

/-- Reads the digit of the indentation; fails for a zero. -/
def readIncrement : List Char → Option (Option Nat × List Char)
  | [] => some (none, [])
  | d :: rest =>
    if d = '0' then none
    else if d.isDigit then some (some (d.toNat - '0'.toNat), rest)
    else some (none, d :: rest)

/-- Reads the head of a block, after its first character. -/
def readHead (s : List Char) : Option (BlockHead × List Char) :=
  match readChomping s with
  | some (chomping, rest) =>
    (readIncrement rest).map fun (increment, rest) => (⟨chomping, increment⟩, rest)
  | none =>
    match readIncrement s with
    | none => none
    | some (none, rest) => some ({}, rest)
    | some (increment, rest) =>
      match readChomping rest with
      | some (chomping, rest) => some (⟨chomping, increment⟩, rest)
      | none => some (⟨.clip, increment⟩, rest)

/-- The line breaks before a line of a block, and how far the block is indented. -/
structure Breaks where
  chars : List Char
  indent : Nat
  after : Cursor

/-- Takes empty lines of a block.  An `indent` of zero is not known yet: it becomes the largest one of the
lines taken, but at least `least`.  Fails for a tab in the indentation. -/
def takeBreaks (least : Nat) : (fuel indent widest : Nat) → (acc : List Char) → Cursor → Option Breaks
  | 0, _, _, _, _ => none
  | fuel + 1, indent, widest, acc, c =>
    let open_ := indent = 0
    let spaces := (c.rest.takeWhile (· = ' ')).length
    let c := c.skip (if open_ then spaces else min spaces (indent - c.column))
    let widest := max widest c.column
    if (open_ || c.column < indent) && c.rest.head? = some '\t' then none
    else if c.rest.head?.any isBreak then
      let (brk, c) := c.takeBreak
      takeBreaks least fuel indent widest (acc ++ brk) c
    else some ⟨acc, if open_ then max widest least else indent, c⟩

/-- The lines of a block so far. -/
structure BlockLines where
  /-- The text before the last line break, last character first. -/
  chars : List Char := []
  leadingBreak : List Char := []
  trailingBreaks : List Char
  /-- Whether the last line began with a blank. -/
  hadBlank : Bool := false

namespace BlockLines

/-- Adds a line. -/
def addLine (isLiteral : Bool) (b : BlockLines) (line : List Char) : List Char :=
  let startsBlank := line.head?.any isBlank
  let joint :=
    if !isLiteral && b.leadingBreak = ['\n'] && !b.hadBlank && !startsBlank then
      if b.trailingBreaks.isEmpty then [' '] else []
    else b.leadingBreak
  line.reverse ++ ((joint ++ b.trailingBreaks).reverse ++ b.chars)

/-- The text of a block. -/
def finish (b : BlockLines) : Chomping → List Char
  | .strip => b.chars.reverse
  | .clip => b.chars.reverse ++ b.leadingBreak
  | .keep => b.chars.reverse ++ b.leadingBreak ++ b.trailingBreaks

end BlockLines

/-- Reads the lines of a block. -/
def blockLines (isLiteral : Bool) (indent : Nat) : (fuel : Nat) → BlockLines → Cursor →
    Option (BlockLines × Cursor)
  | 0, _, _ => none
  | fuel + 1, b, c =>
    if c.column ≠ indent || c.rest.isEmpty then some (b, c)
    else
      let line := c.rest.takeWhile fun d => !isBreak d
      let (brk, after) := (c.skip line.length).takeBreak
      match takeBreaks 0 (c.rest.length + 1) indent 0 [] after with
      | none => none
      | some breaks =>
        let b : BlockLines := {
          chars := b.addLine isLiteral line
          leadingBreak := brk
          trailingBreaks := breaks.chars
          hadBlank := line.head?.any isBlank }
        blockLines isLiteral indent fuel b breaks.after

/-- Reads a block, from its first character; `outer` is the column of the collection around it, if there
is one. -/
def readBlock (outer : Option Nat) (c : Cursor) : Option (List Char × Cursor) := do
  let isLiteral := c.rest.head? = some '|'
  let (head, rest) ← readHead (c.rest.drop 1)
  let c := ((c.skip (c.rest.length - rest.length)).skipWhile isBlank).skipComment
  if !atBreak c.rest then none
  let (_, c) := c.takeBreak
  let least := max 1 ((outer.map (· + 1)).getD 0)
  let indent := match head.increment with
    | some n => outer.getD 0 + n
    | none => 0
  let breaks ← takeBreaks least (c.rest.length + 1) indent 0 [] c
  let (b, c) ← blockLines isLiteral breaks.indent (c.rest.length + 1)
    { trailingBreaks := breaks.chars } breaks.after
  some (b.finish head.chomping, c)

end CallScript.Yaml
