import CallScript.Script.Literal
import CallScript.Script.Segment

/-! # Value tokens

The value of one parameter as it is written: a quoted text, a bracketed literal, an integer, a boolean in
any case, a reference, and else the text as it stands.  For a parameter that is declared an integer, a
token with a fraction or an exponent is read as a double, which has to be an integer. -/

namespace CallScript.Token

/-- Why a token has no value. -/
inductive Fault where
  | empty
  | quotedText (token : List Char)
  | literal (refusal : Literal.Refusal)
  | outOfRange (token : List Char)
  | notIntegral (token : List Char)
  deriving DecidableEq, Repr

/-- The wording of a fault. -/
def Fault.message : Fault → String
  | .empty => "empty value"
  | .quotedText token => "malformed quoted string " ++ String.ofList token
  | .literal refusal => refusal.message
  | .outOfRange token => "integer " ++ String.ofList token ++ " is out of range"
  | .notIntegral token => "integer field got non-integral value " ++ String.ofList token

/-- The sign and digits of a token that is an integer as written. -/
def plainInteger? (token : List Char) : Option (Bool × List Char) :=
  let (negative, digits) := Literal.sign token
  if !digits.isEmpty && digits.all Text.isDigit then some (negative, digits) else none

/-- The exponent that the rest of a numeral is, if it is one or nothing. -/
def exponentTail : List Char → Option (Bool × List Char)
  | [] => some (false, [])
  | c :: s =>
    if c = 'e' || c = 'E' then
      let (negative, digits) := Literal.sign s
      if !digits.isEmpty && digits.all Text.isDigit then some (negative, digits) else none
    else none

/-- The parts of a token that is a numeral, with or without digits before or after a point. -/
def numeral? (token : List Char) : Option Decimal.Parts :=
  let (negative, unsigned) := Literal.sign token
  let (whole, rest) := Text.spanOf Text.isDigit unsigned
  let (fraction, rest) := match rest with
    | '.' :: s => Text.spanOf Text.isDigit s
    | s => ([], s)
  if whole.isEmpty && fraction.isEmpty then none
  else (exponentTail rest).map fun (down, digits) => ⟨negative, whole, fraction, down, digits⟩

/-- The signed 64-bit integer that a double is. -/
def integral? (x : Binary64) : Option Int64 :=
  x.toInt?.bind Bounds.signed?

/-- The name that a token refers to, if it is a reference. -/
def referenced? (token : List Char) : Option (List Char) :=
  match token with
  | '$' :: '\x7b' :: s =>
    match Text.spanOf Text.isWord s with
    | ([], _) => none
    | (name, ['\x7d']) => some name
    | _ => none
  | _ => none

/-- The value of a token that is no quoted text, literal or number. -/
def bare (token : List Char) : Value :=
  if Text.eqIgnoringCase token ['t', 'r', 'u', 'e'] then .boolean true
  else if Text.eqIgnoringCase token ['f', 'a', 'l', 's', 'e'] then .boolean false
  else match referenced? token with
    | some name => .reference (String.ofList name)
    | none => .text (String.ofList token)

/-- The value of a token that starts with neither quote nor bracket. -/
def unquoted (isInteger : Bool) (token : List Char) : Except Fault Value :=
  match plainInteger? token with
  | some (negative, digits) =>
    match Literal.integer? negative digits with
    | some i => .ok (.integer i)
    | none => .error (.outOfRange token)
  | none =>
    match if isInteger then numeral? token else none with
    | some parts =>
      match integral? (Decimal.ofParts parts).toBinary64 with
      | some i => .ok (.integer i)
      | none => .error (.notIntegral token)
    | none => .ok (bare token)

/-- The value of a token, given whether its parameter is declared an integer. -/
def decode (isInteger : Bool) (raw : List Char) : Except Fault Value :=
  let token := Text.trim raw
  match token with
  | [] => .error .empty
  | c :: _ =>
    if Literal.isQuote c then
      match Literal.unquote token with
      | some text => .ok (.text text)
      | none => .error (.quotedText token)
    else if c = '[' || c = '\x7b' then
      match Literal.decode token with
      | .ok value => .ok value
      | .error refusal => .error (.literal refusal)
    else unquoted isInteger token

/-- The value of a token that stands alone. -/
def parse (raw : String) : Except Error Value :=
  match decode false raw.toList with
  | .ok value => .ok value
  | .error fault => .error (.parse raw fault.message)

end CallScript.Token
