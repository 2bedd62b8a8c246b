import CallScript.Yaml.Scalar
import CallScript.Yaml.Tag

/-! # Tokens of YAML

A YAML text as a list of tokens.  Indentation becomes tokens that open and close collections.  That
something is a key may only show when the colon after it is met; the tokens before a key are therefore
put in afterwards, in front of the token where the key began. -/

namespace CallScript.Yaml

/-- A token. -/
inductive Token where
  | directive (d : Directive)
  | documentStart
  | documentEnd
  | blockSequenceStart
  | blockMappingStart
  | blockEnd
  | flowSequenceStart
  | flowSequenceEnd
  | flowMappingStart
  | flowMappingEnd
  | blockEntry
  | flowEntry
  | key
  | value
  | alias (name : String)
  | anchor (name : String)
  | tag (t : WrittenTag)
  | scalar (text : String) (isPlain : Bool)

/-- Where a key may have begun. -/
structure PossibleKey where
  /-- Whether there has to be a colon after it. -/
  isRequired : Bool
  /-- The number of its first token. -/
  number : Nat
  index : Nat
  line : Nat
  column : Nat

/-- The longest text of a key that shows only by the colon after it. -/
def keyLimit : Nat := 1024

/-- A text that is being cut into tokens. -/
structure Scanner where
  place : Cursor
  /-- The tokens so far, the last one first, each with those that have been put in front of it. -/
  groups : List (List Token) := []
  /-- The columns of the block collections that are open, the innermost first. -/
  columns : List Nat := []
  /-- Where keys may have begun: outside brackets and braces, and within each open pair of them, the
  innermost first. -/
  keys : List (Option PossibleKey) := [none]
  /-- Whether a key may begin here. -/
  allowsKey : Bool := true

namespace Scanner

/-- Whether brackets or braces are open. -/
def inFlow (s : Scanner) : Bool := 1 < s.keys.length

/-- Adds a token. -/
def add (t : Token) (s : Scanner) : Scanner := { s with groups := [t] :: s.groups }

/-- Puts tokens in front of the token of a number. -/
def addBefore (tokens : List Token) (number : Nat) (s : Scanner) : Scanner :=
  { s with groups := s.groups.modify (s.groups.length - 1 - number) (tokens ++ ·) }

/-- Opens a block collection at a column, unless one is open there; gives the token for it. -/
def openBlock (column : Nat) (t : Token) (s : Scanner) : List Token × Scanner :=
  if s.inFlow || s.columns.head?.any (column ≤ ·) then ([], s)
  else ([t], { s with columns := column :: s.columns })

/-- Opens a block collection where the text is, unless one is open there. -/
def openHere (t : Token) (s : Scanner) : Scanner :=
  let (tokens, s) := s.openBlock s.place.column t
  tokens.foldl (fun s t => s.add t) s

/-- Closes the block collections that are indented further than a column; all of them without one. -/
def closeBlocks (column : Option Nat) (s : Scanner) : Scanner :=
  if s.inFlow then s
  else
    let isInner := fun (c : Nat) => column.all (· < c)
    let closed := s.columns.takeWhile isInner
    { s with
      columns := s.columns.dropWhile isInner
      groups := closed.map (fun _ => [Token.blockEnd]) ++ s.groups }

/-- Gives up a key that may have begun; fails if there has to be one. -/
def dropKey (s : Scanner) : Option Scanner :=
  match s.keys with
  | some key :: rest => if key.isRequired then none else some { s with keys := none :: rest }
  | _ => some s

/-- Notes that a key may begin here. -/
def noteKey (s : Scanner) : Option Scanner :=
  if s.allowsKey then do
    let key : PossibleKey := {
      isRequired := !s.inFlow && s.columns.head? = some s.place.column
      number := s.groups.length
      index := s.place.index
      line := s.place.line
      column := s.place.column }
    let s ← s.dropKey
    some { s with keys := some key :: s.keys.tail }
  else some s

/-- Whether a key that may have begun is too far back. -/
def isStale (place : Cursor) (key : PossibleKey) : Bool :=
  key.line < place.line || key.index + keyLimit < place.index

/-- Gives up all keys that are too far back; fails if there has to be one. -/
def dropStaleKeys (s : Scanner) : Option Scanner := do
  let keys ← s.keys.mapM fun
    | none => some none
    | some key =>
      if isStale s.place key then if key.isRequired then none else some none
      else some (some key)
  some { s with keys }

/-- Goes to the next token: past blanks, comments, line breaks and marks of the byte order. -/
def skipToToken : (fuel : Nat) → Scanner → Scanner
  | 0, s => s
  | fuel + 1, s =>
    let isSkipped := fun (c : Char) => c = ' ' || (c = '\t' && (s.inFlow || !s.allowsKey))
    let place := (s.place.skipOrderMark.skipWhile isSkipped).skipComment
    if place.rest.head?.any isBreak then
      skipToToken fuel
        { s with place := place.takeBreak.2, allowsKey := s.allowsKey || !s.inFlow }
    else { s with place }

/-- The scanner with its place moved to where a reader left off on the same line. -/
def moveTo (rest : List Char) (s : Scanner) : Scanner :=
  { s with place := s.place.skip (s.place.rest.length - rest.length) }

/-- A directive, which takes its whole line. -/
def scanDirective (s : Scanner) : Option Scanner := do
  let s ← (s.closeBlocks none).dropKey
  let (directive, rest) ← readDirective (s.place.rest.drop 1)
  let s := (s.moveTo rest).add (.directive directive)
  some { s with place := s.place.takeBreak.2, allowsKey := false }

/-- The start or end of a document. -/
def scanDocumentMark (t : Token) (s : Scanner) : Option Scanner := do
  let s ← (s.closeBlocks none).dropKey
  some { s.add t with place := s.place.skip 3, allowsKey := false }

/-- An opening bracket or brace. -/
def scanOpening (t : Token) (s : Scanner) : Option Scanner := do
  let s ← s.noteKey
  some { s.add t with place := s.place.skip 1, keys := none :: s.keys, allowsKey := true }

/-- A closing bracket or brace. -/
def scanClosing (t : Token) (s : Scanner) : Option Scanner := do
  let s ← s.dropKey
  let keys := if s.inFlow then s.keys.tail else s.keys
  some { s.add t with place := s.place.skip 1, keys, allowsKey := false }

/-- A comma. -/
def scanComma (s : Scanner) : Option Scanner := do
  let s ← s.dropKey
  some { s.add .flowEntry with place := s.place.skip 1, allowsKey := true }

/-- A hyphen before an item. -/
def scanHyphen (s : Scanner) : Option Scanner := do
  if !s.inFlow && !s.allowsKey then none
  let s ← (s.openHere .blockSequenceStart).dropKey
  some { s.add .blockEntry with place := s.place.skip 1, allowsKey := true }

/-- A question mark before a key. -/
def scanQuestion (s : Scanner) : Option Scanner := do
  if !s.inFlow && !s.allowsKey then none
  let s ← (s.openHere .blockMappingStart).dropKey
  some { s.add .key with place := s.place.skip 1, allowsKey := !s.inFlow }

/-- A colon after a key. -/
def scanColon (s : Scanner) : Option Scanner :=
  match s.keys with
  | some key :: rest =>
    let (tokens, s) := s.openBlock key.column .blockMappingStart
    let s := (s.addBefore (tokens ++ [.key]) key.number).add .value
    some { s with place := s.place.skip 1, keys := none :: rest, allowsKey := false }
  | _ => do
    if !s.inFlow && !s.allowsKey then none
    let s := (s.openHere .blockMappingStart).add .value
    some { s with place := s.place.skip 1, allowsKey := !s.inFlow }

/-- An anchor, or an alias of one. -/
def scanAnchor (make : String → Token) (s : Scanner) : Option Scanner := do
  let s ← s.noteKey
  let (name, rest) ← readAnchor (s.place.rest.drop 1)
  some { (s.moveTo rest).add (make (String.ofList name)) with allowsKey := false }

/-- A tag. -/
def scanTag (s : Scanner) : Option Scanner := do
  let s ← s.noteKey
  let (tag, rest) ← readTag s.inFlow s.place.rest
  some { (s.moveTo rest).add (.tag tag) with allowsKey := false }

/-- A block of lines. -/
def scanBlock (s : Scanner) : Option Scanner := do
  let s ← s.dropKey
  let (text, place) ← readBlock s.columns.head? s.place
  some { s.add (.scalar (String.ofList text) false) with place, allowsKey := true }

/-- A quoted scalar. -/
def scanQuoted (s : Scanner) : Option Scanner := do
  let s ← s.noteKey
  let (text, place) ← readQuoted s.place
  some { s.add (.scalar (String.ofList text) false) with place, allowsKey := false }

/-- A plain scalar. -/
def scanPlain (s : Scanner) : Option Scanner := do
  let s ← s.noteKey
  let indent := (s.columns.head?.map (· + 1)).getD 0
  let scalar ← readPlain s.inFlow indent s.place
  some { s.add (.scalar (String.ofList scalar.chars) true) with
    place := scalar.after, allowsKey := scalar.hasBreak }

/-- Whether a character never begins a plain scalar, apart from what follows it. -/
def isIndicator (c : Char) : Bool := "-?:,[]\x7b\x7d#&*!|>'\"%@\x60".toList.contains c

/-- Whether a plain scalar begins here. -/
def startsPlain (inFlow : Bool) : List Char → Bool
  | [] => false
  | c :: rest =>
    (!isIndicator c && !isBlank c && !isBreak c)
      || (c = '-' && !(rest.head?.any isBlank))
      || (!inFlow && (c = '?' || c = ':') && !atBlank rest)

/-- The token that begins with a character. -/
def scanAt (c : Char) (rest : List Char) (s : Scanner) : Option Scanner :=
  if s.place.column = 0 && c = '%' then s.scanDirective
  else if s.place.atDocumentMark then
    s.scanDocumentMark (if c = '-' then .documentStart else .documentEnd)
  else if c = '[' then s.scanOpening .flowSequenceStart
  else if c = '\x7b' then s.scanOpening .flowMappingStart
  else if c = ']' then s.scanClosing .flowSequenceEnd
  else if c = '\x7d' then s.scanClosing .flowMappingEnd
  else if c = ',' then s.scanComma
  else if c = '-' && atBlank rest then s.scanHyphen
  else if c = '?' && (s.inFlow || atBlank rest) then s.scanQuestion
  else if c = ':' && (s.inFlow || atBlank rest) then s.scanColon
  else if c = '*' then s.scanAnchor .alias
  else if c = '&' then s.scanAnchor .anchor
  else if c = '!' then s.scanTag
  else if (c = '|' || c = '>') && !s.inFlow then s.scanBlock
  else if c = '\'' || c = '"' then s.scanQuoted
  else if startsPlain s.inFlow (c :: rest) then s.scanPlain
  else none

/-- The end of the text. -/
def finish (s : Scanner) : Option Scanner := (s.closeBlocks none).dropKey

/-- Cuts the text into tokens; `fuel` bounds their number. -/
def scan : (fuel : Nat) → Scanner → Option Scanner
  | 0, _ => none
  | fuel + 1, s => do
    let s := skipToToken (s.place.rest.length + 1) s
    let s := (← s.dropStaleKeys).closeBlocks (some s.place.column)
    match s.place.rest with
    | [] => s.finish
    | c :: rest => scan fuel (← s.scanAt c rest)

end Scanner

/-- The tokens of a text. -/
def tokens? (text : List Char) : Option (List Token) :=
  if text.all isAllowed then
    (Scanner.scan (text.length + 1) { place := { rest := text } }).map fun s => s.groups.reverse.flatten
  else none

end CallScript.Yaml
