import CallScript.Json.Basic
import CallScript.Number.Decimal
import CallScript.Text.Blank

/-! # Reading JSON

A strict reader: one value with nothing but spacing around it, no control characters in texts, no lone
surrogates, no numbers that start with a zero or a sign other than minus, none beyond the largest double.
Arrays and objects nest at most `maxDepth` deep.  Of fields with the same key the last one counts.

The readers take a list of characters and return what they read with the rest.  Those that call each
other take fuel; the length of the text is always enough, since every call takes a character first. -/

namespace CallScript.Json

/-- How deep arrays and objects may nest. -/
def maxDepth : Nat := 127

/-- The value of a hexadecimal digit. -/
def hexValue (c : Char) : Option Nat :=
  if '0' ≤ c && c ≤ '9' then some (c.toNat - '0'.toNat)
  else if 'a' ≤ c && c ≤ 'f' then some (c.toNat - 'a'.toNat + 10)
  else if 'A' ≤ c && c ≤ 'F' then some (c.toNat - 'A'.toNat + 10)
  else none

/-- The number that four hexadecimal digits spell. -/
def readUnit : List Char → Option (Nat × List Char)
  | a :: b :: c :: d :: rest => do
    let a ← hexValue a
    let b ← hexValue b
    let c ← hexValue c
    let d ← hexValue d
    some (((a * 16 + b) * 16 + c) * 16 + d, rest)
  | _ => none

/-- A character given by number: one unit, or two that form a surrogate pair. -/
def readNumbered (s : List Char) : Option (Char × List Char) := do
  let (unit, rest) ← readUnit s
  if 0xD800 ≤ unit && unit < 0xDC00 then
    match rest with
    | '\\' :: 'u' :: rest =>
      let (low, rest) ← readUnit rest
      if 0xDC00 ≤ low && low < 0xE000 then
        some (Char.ofNat (0x10000 + (unit - 0xD800) * 0x400 + (low - 0xDC00)), rest)
      else none
    | _ => none
  else if 0xDC00 ≤ unit && unit < 0xE000 then none
  else some (Char.ofNat unit, rest)

/-- What a backslash and the characters after it stand for. -/
def readEscape : List Char → Option (Char × List Char)
  | '"' :: rest => some ('"', rest)
  | '\\' :: rest => some ('\\', rest)
  | '/' :: rest => some ('/', rest)
  | 'b' :: rest => some ('\x08', rest)
  | 'f' :: rest => some ('\x0c', rest)
  | 'n' :: rest => some ('\n', rest)
  | 'r' :: rest => some ('\r', rest)
  | 't' :: rest => some ('\t', rest)
  | 'u' :: rest => readNumbered rest
  | _ => none

/-- The characters of a text up to its closing quote, last first, and what follows. -/
def readChars : (fuel : Nat) → (acc : List Char) → List Char → Option (List Char × List Char)
  | 0, _, _ => none
  | fuel + 1, acc, s =>
    match s with
    | [] => none
    | '"' :: rest => some (acc, rest)
    | '\\' :: rest =>
      match readEscape rest with
      | some (c, rest) => readChars fuel (c :: acc) rest
      | none => none
    | c :: rest => if c.toNat < 32 then none else readChars fuel (c :: acc) rest

/-- A text after its opening quote. -/
def readText (fuel : Nat) (s : List Char) : Option (String × List Char) :=
  (readChars fuel [] s).map fun (chars, rest) => (String.ofList chars.reverse, rest)

/-- The exponent of a number, if there is one: its sign and digits. -/
def readExponent : List Char → Option (Option (Bool × List Char) × List Char)
  | c :: rest =>
    if c = 'e' || c = 'E' then
      let (negative, rest) := match rest with
        | '+' :: rest => (false, rest)
        | '-' :: rest => (true, rest)
        | rest => (false, rest)
      match Text.spanOf Text.isDigit rest with
      | ([], _) => none
      | (digits, rest) => some (some (negative, digits), rest)
    else some (none, c :: rest)
  | [] => some (none, [])

/-- The fraction of a number, if there is one. -/
def readFraction : List Char → Option (List Char × List Char)
  | '.' :: rest =>
    match Text.spanOf Text.isDigit rest with
    | ([], _) => none
    | (digits, rest) => some (digits, rest)
  | rest => some ([], rest)

/-- The whole digits of a number: a lone zero, or digits that start with none. -/
def readWhole (s : List Char) : Option (List Char × List Char) :=
  match Text.spanOf Text.isDigit s with
  | ([], _) => none
  | (['0'], rest) => some (['0'], rest)
  | ('0' :: _, _) => none
  | (digits, rest) => some (digits, rest)

/-- The value of a number: an integer if it is written as one and fits, else a double. -/
def numberValue (p : Decimal.Parts) (written : Bool) : Option Json :=
  let asDouble := (Decimal.scaled p).map ofBinary64
  if written then asDouble
  else
    let n := Text.digitsToNat p.whole
    if p.negative then if n = 0 then asDouble else (ofInt? (-n)).or asDouble
    else (ofInt? n).or asDouble

/-- A number. -/
def readNumber (s : List Char) : Option (Json × List Char) := do
  let (negative, s) := match s with
    | '-' :: rest => (true, rest)
    | rest => (false, rest)
  let (whole, s) ← readWhole s
  let (fraction, s) ← readFraction s
  let (exponent, s) ← readExponent s
  let (exponentNegative, digits) := exponent.getD (false, [])
  let value ← numberValue ⟨negative, whole, fraction, exponentNegative, digits⟩
    (!fraction.isEmpty || exponent.isSome)
  some (value, s)

/-- The text after a given word. -/
def afterWord : List Char → List Char → Option (List Char)
  | [], s => some s
  | c :: word, d :: s => if c = d then afterWord word s else none
  | _ :: _, [] => none

mutual

/-- A value at the head of a text, at most `depth` levels deep. -/
def readValue : (fuel depth : Nat) → List Char → Option (Json × List Char)
  | 0, _, _ => none
  | fuel + 1, depth, s =>
    match Text.skipSpacing s with
    | 'n' :: rest => (afterWord ['u', 'l', 'l'] rest).map (.null, ·)
    | 't' :: rest => (afterWord ['r', 'u', 'e'] rest).map (.bool true, ·)
    | 'f' :: rest => (afterWord ['a', 'l', 's', 'e'] rest).map (.bool false, ·)
    | '"' :: rest => (readText (fuel + 1) rest).map fun (text, rest) => (.str text, rest)
    | '[' :: rest =>
      match depth with
      | 0 => none
      | depth + 1 =>
        match Text.skipSpacing rest with
        | ']' :: rest => some (.arr [], rest)
        | _ => (readItems fuel depth [] rest).map fun (items, rest) => (.arr items.reverse, rest)
    | '{' :: rest =>
      match depth with
      | 0 => none
      | depth + 1 =>
        match Text.skipSpacing rest with
        | '}' :: rest => some (.obj [], rest)
        | _ => (readFields fuel depth [] rest).map fun (fields, rest) => (.obj fields, rest)
    | rest => readNumber rest

/-- The items of an array up to its closing bracket, last first. -/
def readItems : (fuel depth : Nat) → List Json → List Char → Option (List Json × List Char)
  | 0, _, _, _ => none
  | fuel + 1, depth, items, s =>
    match readValue fuel depth s with
    | none => none
    | some (item, rest) =>
      match Text.skipSpacing rest with
      | ',' :: rest => readItems fuel depth (item :: items) rest
      | ']' :: rest => some (item :: items, rest)
      | _ => none

/-- The fields of an object up to its closing brace. -/
def readFields : (fuel depth : Nat) → List (String × Json) → List Char →
    Option (List (String × Json) × List Char)
  | 0, _, _, _ => none
  | fuel + 1, depth, fields, s =>
    match Text.skipSpacing s with
    | '"' :: rest =>
      match readText (fuel + 1) rest with
      | none => none
      | some (key, rest) =>
        match Text.skipSpacing rest with
        | ':' :: rest =>
          match readValue fuel depth rest with
          | none => none
          | some (value, rest) =>
            let fields := Fields.insert key value fields
            match Text.skipSpacing rest with
            | ',' :: rest => readFields fuel depth fields rest
            | '}' :: rest => some (fields, rest)
            | _ => none
        | _ => none
    | _ => none

end

/-- The value that a text is, with spacing around it. -/
def readAll? (s : List Char) : Option Json :=
  match readValue (s.length + 1) maxDepth s with
  | some (value, rest) => if (Text.skipSpacing rest).isEmpty then some value else none
  | none => none

/-- The value that a text is. -/
def read? (s : String) : Option Json := readAll? s.toList

end CallScript.Json
