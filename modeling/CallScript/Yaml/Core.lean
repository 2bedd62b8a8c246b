import CallScript.Json.Reader
import CallScript.Number.Decimal

/-! # What plain scalars mean

A plain scalar is nothing, a truth value, an integer, a double or a text, by its spelling alone.  Integers
may be given in base sixteen, eight or two.  Digits after a leading zero are a text. -/

namespace CallScript.Yaml

/-- Whether a text is a spelling of nothing. -/
def isNullWord (s : String) : Bool := s = "null" || s = "Null" || s = "NULL" || s = "~"

/-- The truth value that a text spells. -/
def boolWord? (s : String) : Option Bool :=
  if s = "true" || s = "True" || s = "TRUE" then some true
  else if s = "false" || s = "False" || s = "FALSE" then some false
  else none

/-- Whether a character is a sign. -/
def isSign (c : Char) : Bool := c = '+' || c = '-'

/-- A text without a plus sign at its start. -/
def withoutPlus : List Char → List Char
  | '+' :: rest => rest
  | s => s

/-- Whether a text is digits after a leading zero, with or without a sign. -/
def isPaddedDigits (s : List Char) : Bool :=
  let s := if s.head?.any isSign then s.drop 1 else s
  match s with
  | '0' :: rest => !rest.isEmpty && rest.all Text.isDigit
  | _ => false

/-- The number that digits spell in a base. -/
def numberIn? (base : Nat) (digits : List Char) : Option Nat :=
  if digits.isEmpty then none
  else digits.foldlM (fun n c => do
    let d ← Json.hexValue c
    if d < base then some (n * base + d) else none) 0

/-- The number in a base other than ten that a text without a sign spells. -/
def basedNumber? : List Char → Option Nat
  | '0' :: 'x' :: rest => numberIn? 16 rest
  | '0' :: 'o' :: rest => numberIn? 8 rest
  | '0' :: 'b' :: rest => numberIn? 2 rest
  | _ => none

/-- The integer that a text spells, of any size. -/
def integer? (s : List Char) : Option Int :=
  match s with
  | '-' :: rest =>
    match basedNumber? rest with
    | some n => some (-n)
    | none => if isPaddedDigits s then none else (numberIn? 10 rest).map fun n => -n
  | _ =>
    match basedNumber? (withoutPlus s) with
    | some n => some n
    | none => if isPaddedDigits s then none else (numberIn? 10 (withoutPlus s)).map fun n => n

/-- Whether an integer fits into 128 bits, signed or not. -/
def isWide (i : Int) : Bool := -0x80000000000000000000000000000000 ≤ i && i < 0x100000000000000000000000000000000

/-- The parts of a decimal numeral, with digits on at least one side of the point. -/
def decimalParts? (s : List Char) : Option Decimal.Parts := do
  let (negative, s) := match s with
    | '-' :: rest => (true, rest)
    | _ => (false, s)
  let (whole, s) := Text.spanOf Text.isDigit s
  let (fraction, s) := match s with
    | '.' :: rest => Text.spanOf Text.isDigit rest
    | _ => ([], s)
  if whole.isEmpty && fraction.isEmpty then none
  match s with
  | [] => some ⟨negative, whole, fraction, false, []⟩
  | c :: rest =>
    if c = 'e' || c = 'E' then
      let (exponentNegative, digits) := match rest with
        | '-' :: rest => (true, rest)
        | _ => (false, withoutPlus rest)
      if digits.isEmpty || !digits.all Text.isDigit then none
      else some ⟨negative, whole, fraction, exponentNegative, digits⟩
    else none

/-- The double that a text spells; a numeral beyond the range of doubles spells none. -/
def double? (s : String) : Option Binary64 :=
  let chars := s.toList
  let positive := withoutPlus chars
  if chars.head? = some '+' && positive.head?.any isSign then none
  else
    let word := String.ofList positive
    if word = ".inf" || word = ".Inf" || word = ".INF" then some (.infinity false)
    else if s = "-.inf" || s = "-.Inf" || s = "-.INF" then some (.infinity true)
    else if s = ".nan" || s = ".NaN" || s = ".NAN" then some .undefined
    else ((decimalParts? positive).map fun p => (Decimal.ofParts p).toBinary64).filter
      fun x => decide x.IsFinite

/-- What a plain scalar means; fails for an integer that is too large for JSON, but not for a double. -/
def plainMeaning? (s : String) : Option Json :=
  if s.isEmpty || isNullWord s then some .null
  else match boolWord? s with
    | some b => some (.bool b)
    | none =>
      match (integer? s.toList).filter isWide with
      | some i => Json.ofInt? i
      | none =>
        if isPaddedDigits s.toList then some (.str s)
        else match double? s with
          | some x => some (.ofBinary64 x)
          | none => some (.str s)

end CallScript.Yaml
