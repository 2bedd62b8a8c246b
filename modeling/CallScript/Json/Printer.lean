import CallScript.Json.Basic
import CallScript.Number.Layout

/-! # Writing JSON

`Json.compact` writes a value without any spacing, `Json.pretty` over several lines, indented by two
spaces.  Both keep the order of an object's fields.  A text is written raw except for quotes, backslashes
and the characters below U+0020. -/

namespace CallScript.Json

/-- One character inside a written text. -/
def escaped (c : Char) : List Char :=
  if c = '"' then ['\\', '"']
  else if c = '\\' then ['\\', '\\']
  else if c = '\x08' then ['\\', 'b']
  else if c = '\x0c' then ['\\', 'f']
  else if c = '\n' then ['\\', 'n']
  else if c = '\r' then ['\\', 'r']
  else if c = '\t' then ['\\', 't']
  else if c.toNat < 32 then
    ['\\', 'u', '0', '0', Nat.digitChar (c.toNat / 16), Nat.digitChar (c.toNat % 16)]
  else [c]

/-- A text as a JSON string. -/
def writeText (s : String) : List Char := '"' :: s.toList.flatMap escaped ++ ['"']

/-- An integer in decimal. -/
def writeInt (i : Int) : List Char :=
  if i < 0 then '-' :: Nat.toDigits 10 i.natAbs else Nat.toDigits 10 i.natAbs

/-- A number: integers in decimal, doubles with the fewest digits. -/
def writeNumber : Number → List Char
  | .int i => writeInt i.toInt
  | .large n _ => Nat.toDigits 10 n.toNat
  | .double x _ => Layout.scientificBeyond.write x

mutual

/-- A value without spacing. -/
def write : Json → List Char
  | .null => ['n', 'u', 'l', 'l']
  | .bool true => ['t', 'r', 'u', 'e']
  | .bool false => ['f', 'a', 'l', 's', 'e']
  | .number n => writeNumber n
  | .str s => writeText s
  | .arr items => '[' :: writeItems items ++ [']']
  | .obj fields => '{' :: writeFields fields ++ ['}']

/-- The items of an array, separated by commas. -/
def writeItems : List Json → List Char
  | [] => []
  | [item] => item.write
  | item :: rest => item.write ++ ',' :: writeItems rest

/-- The fields of an object, separated by commas. -/
def writeFields : List (String × Json) → List Char
  | [] => []
  | [(key, value)] => writeText key ++ ':' :: value.write
  | (key, value) :: rest => writeText key ++ ':' :: value.write ++ ',' :: writeFields rest

end

/-- The value as text without spacing. -/
def compact (j : Json) : String := String.ofList j.write

/-- A line end, and the indentation of a line at a depth. -/
def newLine (depth : Nat) : List Char := '\n' :: List.replicate (2 * depth) ' '

mutual

/-- A value over several lines, its first line at the end of a line of the given depth. -/
def writePretty (depth : Nat) : Json → List Char
  | .arr [] => ['[', ']']
  | .obj [] => ['{', '}']
  | .arr (item :: rest) =>
    '[' :: newLine (depth + 1) ++ writePretty (depth + 1) item ++ prettyItems (depth + 1) rest
      ++ newLine depth ++ [']']
  | .obj ((key, value) :: rest) =>
    '{' :: newLine (depth + 1) ++ writeText key ++ ':' :: ' ' :: writePretty (depth + 1) value
      ++ prettyFields (depth + 1) rest ++ newLine depth ++ ['}']
  | .null => write .null
  | .bool b => write (.bool b)
  | .number n => writeNumber n
  | .str s => writeText s

/-- The items after the first, each on a line of its own. -/
def prettyItems (depth : Nat) : List Json → List Char
  | [] => []
  | item :: rest => ',' :: newLine depth ++ writePretty depth item ++ prettyItems depth rest

/-- The fields after the first, each on a line of its own. -/
def prettyFields (depth : Nat) : List (String × Json) → List Char
  | [] => []
  | (key, value) :: rest =>
    ',' :: newLine depth ++ writeText key ++ ':' :: ' ' :: writePretty depth value
      ++ prettyFields depth rest

end

/-- The value as text over several lines. -/
def pretty (j : Json) : String := String.ofList (writePretty 0 j)

end CallScript.Json
