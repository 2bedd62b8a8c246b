import CallScript.Toml.Date
import CallScript.Toml.Number
import CallScript.Toml.Table
import CallScript.Toml.Text

/-! # Reading TOML

A document is a sequence of lines: comments, headers of tables and of array elements, and keys with
values.  Arrays may go over several lines, tables within values may not.  `Toml.read?` gives the table that
a document defines.

The readers of values take fuel; the length of the text is always enough, since every call takes a
character first. -/

namespace CallScript.Toml

/-- How deep values may nest, and how many parts a key may have, by one more. -/
def depthLimit : Nat := 80

/-- A key as it is written: the parts before the last one, and the last one. -/
structure Key where
  path : List String
  last : String

/-- Whether a character may stand in a key without quotes. -/
def isKeyChar (c : Char) : Bool := Text.isAsciiAlphanumeric c || c = '_' || c = '-'

/-- One part of a key. -/
def readPart (s : List Char) : Option (String × List Char) :=
  match s with
  | [] => none
  | c :: _ =>
    if c = '"' || c = '\'' then readLineText s
    else match Text.spanOf isKeyChar s with
      | ([], _) => none
      | (chars, rest) => some (String.ofList chars, rest)

/-- The parts of a key, the last one first, and what follows with the spaces before it. -/
def readParts : (fuel : Nat) → (acc : List String) → List Char → Option (List String × List Char)
  | 0, _, _ => none
  | fuel + 1, acc, s =>
    match readPart (skipSpaces s) with
    | none => none
    | some (part, rest) =>
      match skipSpaces rest with
      | '.' :: rest => readParts fuel (part :: acc) rest
      | rest => some (part :: acc, rest)

/-- A key, with the spaces around it. -/
def readKey (s : List Char) : Option (Key × List Char) :=
  match readParts (s.length + 1) [] s with
  | some (last :: before, rest) =>
    if before.length + 1 < depthLimit then some (⟨before.reverse, last⟩, rest) else none
  | _ => none

/-- The text after a comment. -/
def skipComment (s : List Char) : List Char :=
  match s with
  | '#' :: rest => rest.dropWhile isPrintable
  | _ => s

/-- The text after the end of a line: spaces, a comment, and a line break unless the document ends. -/
def afterLine (s : List Char) : Option (List Char) :=
  match skipComment (skipSpaces s) with
  | [] => some []
  | rest => afterBreak rest

/-- The text after spaces, comments and line breaks.  Fails for a comment that no line break ends. -/
def skipLines : (fuel : Nat) → List Char → Option (List Char)
  | 0, _ => none
  | fuel + 1, s =>
    match skipSpaces s with
    | '#' :: rest => (afterBreak (skipComment ('#' :: rest))).bind (skipLines fuel)
    | rest =>
      match afterBreak rest with
      | some rest => skipLines fuel rest
      | none => some rest

/-- A value that holds no others. -/
def readScalar (s : List Char) : Option (Toml × List Char) :=
  match s with
  | [] => none
  | c :: _ =>
    if c = '"' || c = '\'' then (readText s).map fun (content, rest) => (.text content, rest)
    else if c = 't' then (Json.afterWord ['t', 'r', 'u', 'e'] s).map fun rest => (.boolean true, rest)
    else if c = 'f' then
      (Json.afterWord ['f', 'a', 'l', 's', 'e'] s).map fun rest => (.boolean false, rest)
    else if startsDate s || startsTime s then
      (readDate s).map fun (chars, rest) => (.date (String.ofList chars), rest)
    else readNumber s

mutual

/-- A value. -/
def readValue : (fuel depth : Nat) → List Char → Option (Toml × List Char)
  | 0, _, _ => none
  | fuel + 1, depth, s =>
    match s with
    | '[' :: rest =>
      match depth with
      | 0 => none
      | depth + 1 =>
        (readItems fuel depth [] rest).map fun (items, rest) => (.array items.reverse, rest)
    | '\x7b' :: rest =>
      match depth with
      | 0 => none
      | depth + 1 =>
        match skipSpaces rest with
        | '\x7d' :: rest => some (.table [], rest)
        | rest => (readFields fuel depth Draft.empty rest).map fun (draft, rest) => (draft.toToml, rest)
    | _ => readScalar s

/-- The items of an array up to its closing bracket, the last one first.  A comma may follow the last
item. -/
def readItems : (fuel depth : Nat) → List Toml → List Char → Option (List Toml × List Char)
  | 0, _, _, _ => none
  | fuel + 1, depth, items, s =>
    match skipLines (s.length + 1) s with
    | none => none
    | some (']' :: rest) => some (items, rest)
    | some rest =>
      match readValue fuel depth rest with
      | none => none
      | some (item, rest) =>
        match skipLines (rest.length + 1) rest with
        | some (',' :: rest) => readItems fuel depth (item :: items) rest
        | some (']' :: rest) => some (item :: items, rest)
        | _ => none

/-- The fields of a table within a value up to its closing brace. -/
def readFields : (fuel depth : Nat) → Draft → List Char → Option (Draft × List Char)
  | 0, _, _, _ => none
  | fuel + 1, depth, draft, s =>
    match readKey s with
    | some (key, '=' :: rest) =>
      match readValue fuel depth (skipSpaces rest) with
      | none => none
      | some (value, rest) =>
        match draft.define key.path key.last value with
        | none => none
        | some draft =>
          match skipSpaces rest with
          | ',' :: rest => readFields fuel depth draft rest
          | '\x7d' :: rest => some (draft, rest)
          | _ => none
    | _ => none

end

/-- What header the lines stand under. -/
inductive Heading where
  /-- None: the document itself. -/
  | document
  | table (key : Key)
  | element (key : Key)

/-- How far a document has been read: the tables before the last header, that header, and the table
under it. -/
structure Progress where
  root : Draft
  heading : Heading
  table : Draft

namespace Progress

/-- The document with the table under the last header stored. -/
def finish (p : Progress) : Option Draft :=
  match p.heading with
  | .document => some p.table
  | .table key => p.root.close key.path key.last p.table
  | .element key => p.root.closeElement key.path key.last p.table

/-- Goes on under a new header. -/
def under (p : Progress) (heading : Heading) : Option Progress := do
  let root ← p.finish
  match heading with
  | .document => none
  | .table key => return ⟨root, heading, ← root.opened key.path key.last⟩
  | .element key => if root.opensElement key.path key.last then some ⟨root, heading, .empty⟩ else none

end Progress

/-- The text after a header's closing brackets. -/
def afterBrackets (word s : List Char) : Option (List Char) := (Json.afterWord word s).bind afterLine

/-- Reads one line. -/
def readEntry (p : Progress) (s : List Char) : Option (Progress × List Char) :=
  match s with
  | '[' :: '[' :: rest => do
    let (key, rest) ← readKey rest
    return (← p.under (.element key), ← afterBrackets [']', ']'] rest)
  | '[' :: rest => do
    let (key, rest) ← readKey rest
    return (← p.under (.table key), ← afterBrackets [']'] rest)
  | '#' :: _ | '\n' :: _ | '\r' :: _ => (afterLine s).map fun rest => (p, rest)
  | _ => do
    let (key, rest) ← readKey s
    let rest ← afterChar '=' rest
    let rest := skipSpaces rest
    let (value, rest) ← readValue (rest.length + 1) (depthLimit - 1) rest
    let table ← p.table.define key.path key.last value
    return ({ p with table }, ← afterLine rest)

/-- Reads all lines; `fuel` bounds their number. -/
def readEntries : (fuel : Nat) → Progress → List Char → Option Progress
  | 0, _, _ => none
  | fuel + 1, p, s =>
    match skipSpaces s with
    | [] => some p
    | rest =>
      match readEntry p rest with
      | some (p, rest) => readEntries fuel p rest
      | none => none

/-- The text without a byte order mark at its start. -/
def withoutMark : List Char → List Char
  | c :: rest => if c.toNat = 0xFEFF then rest else c :: rest
  | [] => []

/-- The table that a document defines. -/
def read? (content : String) : Option Toml :=
  let s := withoutMark content.toList
  match readEntries (s.length + 1) ⟨.empty, .document, .empty⟩ s with
  | some p => p.finish.map Draft.toToml
  | none => none

end CallScript.Toml
