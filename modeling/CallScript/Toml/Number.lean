import CallScript.Json.Reader
import CallScript.Number.Decimal
import CallScript.Toml.Basic

/-! # TOML numbers

Integers are decimal, or in base sixteen, eight or two after `0x`, `0o` and `0b`; they have to fit into 64
signed bits.  Other numbers have a fraction or an exponent, or are infinite or undefined.  An underscore
may stand between two digits. -/

namespace CallScript.Toml

/-- Digits with single underscores between them, without those, and what follows.  Fails for an
underscore that no digit follows. -/
def readDigits (isDigit : Char → Bool) : List Char → Option (List Char × List Char)
  | [] => some ([], [])
  | '_' :: c :: rest =>
    if isDigit c then (readDigits isDigit rest).map fun (digits, rest) => (c :: digits, rest) else none
  | c :: rest =>
    if isDigit c then (readDigits isDigit rest).map fun (digits, rest) => (c :: digits, rest)
    else if c = '_' then none
    else some ([], c :: rest)

/-- One digit or more. -/
def readDigits1 (isDigit : Char → Bool) (s : List Char) : Option (List Char × List Char) :=
  match s with
  | c :: _ => if isDigit c then readDigits isDigit s else none
  | [] => none

/-- The sign of a number. -/
def readSign : List Char → Bool × List Char
  | '-' :: rest => (true, rest)
  | '+' :: rest => (false, rest)
  | s => (false, s)

/-- The whole digits of a decimal number; after a leading zero there are no more. -/
def readWhole (s : List Char) : Option (List Char × List Char) :=
  match s with
  | '0' :: rest => some (['0'], rest)
  | _ => readDigits1 Text.isDigit s

/-- The fraction of a number, if there is one. -/
def readFraction : List Char → Option (Option (List Char) × List Char)
  | '.' :: rest => (readDigits1 Text.isDigit rest).map fun (digits, rest) => (some digits, rest)
  | s => some (none, s)

/-- The exponent of a number, if there is one: its sign and digits. -/
def readExponent (s : List Char) : Option (Option (Bool × List Char) × List Char) :=
  match s with
  | c :: rest =>
    if c = 'e' || c = 'E' then
      let (negative, rest) := readSign rest
      (readDigits1 Text.isDigit rest).map fun (digits, rest) => (some (negative, digits), rest)
    else some (none, s)
  | [] => some (none, s)

/-- An integer that fits into 64 signed bits. -/
def fitting (i : Int) : Option Toml :=
  (Bounds.signed? i).map .integer

/-- A double; no finite numeral may stand for positive infinity. -/
def doubleOf (d : Decimal) : Option Toml :=
  let x := d.toBinary64
  if x = Binary64.infinity false then none else some (.double x)

/-- A decimal number. -/
def readDecimal (s : List Char) : Option (Toml × List Char) := do
  let (negative, s) := readSign s
  let (whole, s) ← readWhole s
  let (fraction, s) ← readFraction s
  let (exponent, s) ← readExponent s
  let value ← match fraction, exponent with
    | none, none =>
      let n : Int := Text.digitsToNat whole
      fitting (if negative then -n else n)
    | _, _ =>
      let (exponentNegative, digits) := exponent.getD (false, [])
      doubleOf (Decimal.ofParts ⟨negative, whole, fraction.getD [], exponentNegative, digits⟩)
  some (value, s)

/-- Whether a character is a digit in a base. -/
def isDigitIn (base : Nat) (c : Char) : Bool :=
  match Json.hexValue c with
  | some d => d < base
  | none => false

/-- An integer in a base, after what tells the base. -/
def readInBase (base : Nat) (s : List Char) : Option (Toml × List Char) := do
  let (digits, s) ← readDigits1 (isDigitIn base) s
  let n := digits.foldl (fun n c => n * base + (Json.hexValue c).getD 0) 0
  some (← fitting n, s)

/-- A number. -/
def readNumber (s : List Char) : Option (Toml × List Char) :=
  match s with
  | '0' :: 'x' :: rest => readInBase 16 rest
  | '0' :: 'o' :: rest => readInBase 8 rest
  | '0' :: 'b' :: rest => readInBase 2 rest
  | _ =>
    let (negative, rest) := readSign s
    match rest with
    | 'i' :: 'n' :: 'f' :: rest => some (.double (.infinity negative), rest)
    | 'n' :: 'a' :: 'n' :: rest => some (.double Binary64.undefined, rest)
    | _ => readDecimal s

end CallScript.Toml
