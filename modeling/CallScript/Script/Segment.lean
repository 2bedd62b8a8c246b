import CallScript.Text.Blank
import CallScript.Text.Word

/-! # Parameter lists

The text between the parentheses of a call is cut at its commas, except those inside brackets or quotes,
and each piece is cut at its first `=` or `:` into a key and a value.  A quote opens a quoted text only at
the start of a token, so that the apostrophe of `it's` is a character like any other.

`Scan` is what the cutting keeps in mind between two characters; `Scan.step` reads one character. -/

namespace CallScript.Segment

/-- Why a parameter list cannot be cut. -/
inductive Fault where
  /-- A closing bracket that closes nothing, or another kind of bracket. -/
  | unbalanced (close : Char)
  /-- A quote that is never closed. -/
  | unterminated (quote : Char)
  /-- A bracket that is never closed. -/
  | unclosed (opening : Char)
  /-- A piece without separator, with a key that is no word, or without value. -/
  | malformed (piece : List Char)
  deriving DecidableEq, Repr

/-- The wording of a fault. -/
def Fault.message : Fault → String
  | .unbalanced close => s!"unbalanced '{close}' in parameter list"
  | .unterminated quote => s!"unterminated {quote} quote in parameter list"
  | .unclosed opening => s!"unclosed '{opening}' in parameter list"
  | .malformed piece =>
    "malformed parameter '" ++ String.ofList piece ++ "', expected key=value"

/-- The position inside quotes. -/
inductive Quoting where
  | outside
  /-- Inside a text that this quote closes. -/
  | inside (quote : Char)
  /-- Inside such a text, after a backslash. -/
  | escaped (quote : Char)
  deriving DecidableEq, Repr

/-- The state of the cutting between two characters. -/
structure Scan where
  quoting : Quoting := .outside
  /-- The brackets that are open, the innermost first. -/
  opened : List Char := []
  /-- Whether a quote would open a quoted text here. -/
  atStart : Bool := true
  /-- The characters of the current piece, last first. -/
  piece : List Char := []
  /-- The pieces before it, last first. -/
  pieces : List (List Char) := []
  deriving DecidableEq, Repr

/-- The bracket that a closing bracket closes. -/
def opening? (c : Char) : Option Char :=
  if c = ']' then some '[' else if c = '\x7d' then some '\x7b' else if c = ')' then some '(' else none

/-- Whether a character opens a bracket. -/
def isOpening (c : Char) : Bool := c = '[' || c = '\x7b' || c = '('

/-- Whether a token starts after this character. -/
def startsToken (c : Char) : Bool := c = '=' || c = ':' || c = ',' || isOpening c

/-- Whether a token starts after one more character; blanks change nothing. -/
def startAfter (atStart : Bool) (c : Char) : Bool :=
  if Text.isBlank c then atStart else startsToken c

/-- Reads one character. -/
def Scan.step (s : Scan) (c : Char) : Except Fault Scan :=
  match s.quoting with
  | .escaped quote => .ok { s with quoting := .inside quote, piece := c :: s.piece }
  | .inside quote =>
    let quoting := if c = '\\' then .escaped quote else if c = quote then .outside else .inside quote
    .ok { s with quoting, piece := c :: s.piece }
  | .outside =>
    let atStart := startAfter s.atStart c
    if s.atStart && (c = '"' || c = '\'') then
      .ok { s with quoting := .inside c, atStart, piece := c :: s.piece }
    else if isOpening c then
      .ok { s with opened := c :: s.opened, atStart, piece := c :: s.piece }
    else match opening? c with
      | some opening =>
        match s.opened with
        | innermost :: opened =>
          if innermost = opening then .ok { s with opened, atStart, piece := c :: s.piece }
          else .error (.unbalanced c)
        | [] => .error (.unbalanced c)
      | none =>
        if c = ',' && s.opened.isEmpty then
          .ok { s with atStart, piece := [], pieces := s.piece.reverse :: s.pieces }
        else .ok { s with atStart, piece := c :: s.piece }

/-- Reads all characters. -/
def Scan.run : Scan → List Char → Except Fault Scan
  | s, [] => .ok s
  | s, c :: rest =>
    match s.step c with
    | .error fault => .error fault
    | .ok s => s.run rest

/-- The pieces, if the list may end here. -/
def Scan.finish (s : Scan) : Except Fault (List (List Char)) :=
  match s.quoting with
  | .inside quote | .escaped quote => .error (.unterminated quote)
  | .outside =>
    match s.opened with
    | opening :: _ => .error (.unclosed opening)
    | [] => .ok (s.piece.reverse :: s.pieces).reverse

/-- The pieces of a parameter list, without blanks around them; pieces that are empty are dropped. -/
def split (parameters : List Char) : Except Fault (List (List Char)) :=
  match Scan.run {} parameters with
  | .error fault => .error fault
  | .ok s => s.finish.map fun pieces => (pieces.map Text.trim).filter fun piece => !piece.isEmpty

/-- Whether a text is a word: not empty, and of word characters only. -/
def isWordText (s : List Char) : Bool := !s.isEmpty && s.all Text.isWord

/-- Whether a character separates a key from its value. -/
def isSeparator (c : Char) : Bool := c = '=' || c = ':'

/-- The key and the value of a piece, cut at the first separator. -/
def keyValue (piece : List Char) : Except Fault (List Char × List Char) :=
  match Text.spanOf (fun c => !isSeparator c) piece with
  | (_, []) => .error (.malformed piece)
  | (before, _ :: after) =>
    let key := Text.trim before
    let value := Text.trim after
    if !isWordText key || value.isEmpty then .error (.malformed piece) else .ok (key, value)

end CallScript.Segment
