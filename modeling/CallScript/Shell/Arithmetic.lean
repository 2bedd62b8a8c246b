import CallScript.Number.Bounds
import CallScript.Shell.Reader

/-! # Arithmetic of the shell

Integer expressions over 64-bit integers and variables, with the operators of the C language and their
ranks. -/

namespace CallScript.Shell

/-- Why an expression has no value. -/
inductive ArithmeticFlaw where
  | divisionByZero
  | missingOperand
  | missingColon
  | trailing
  | missingParenthesis
  deriving DecidableEq, Repr

/-- The wording of a flaw. -/
def ArithmeticFlaw.message : ArithmeticFlaw → String
  | .divisionByZero => "division by zero"
  | .missingOperand => "expecting primary"
  | .missingColon => "expecting ':'"
  | .trailing => "expecting EOF"
  | .missingParenthesis => "expecting ')'"

/-- The variables that an expression sees and sets. -/
structure ArithmeticState where
  rest : Octets
  bindings : List (Octets × Octets)
  /-- The variables that were set, in order. -/
  set : List (Octets × Octets) := []

namespace ArithmeticState

/-- The state without the blanks at the start of what is left. -/
def skip (x : ArithmeticState) : ArithmeticState :=
  { x with rest := x.rest.dropWhile fun c => isBlankOctet c || c = '\n' }

/-- The value of a variable. -/
def value (x : ArithmeticState) (name : Octets) : Octets :=
  ((x.bindings.find? fun v => v.1 = name).map Prod.snd).getD []

/-- Sets a variable. -/
def assign (x : ArithmeticState) (name value : Octets) : ArithmeticState :=
  { x with bindings := (name, value) :: x.bindings, set := x.set ++ [(name, value)] }

end ArithmeticState

/-- The digits of an integer. -/
def intText (i : Int64) : Octets := (toString i.toInt).toList

/-- The digits of a base that a text begins with. -/
def digitsOf (base : Nat) (s : Octets) : Octets :=
  s.takeWhile fun c =>
    if base = 16 then Text.isDigit c || ('a' ≤ c && c ≤ 'f') || ('A' ≤ c && c ≤ 'F')
    else '0' ≤ c && c.toNat < '0'.toNat + base

/-- The number of digits of a base. -/
def numberOf (base : Nat) (digits : Octets) : Nat :=
  digits.foldl (fun n c =>
    let d := if Text.isDigit c then c.toNat - '0'.toNat
      else if 'a' ≤ c then c.toNat - 'a'.toNat + 10 else c.toNat - 'A'.toNat + 10
    n * base + d) 0

/-- The number that a text begins with, and the rest. -/
def readNumber (s : Octets) : Int64 × Octets :=
  let take : Nat → Octets → Int64 × Octets := fun base s =>
    let digits := digitsOf base s
    let n := min (numberOf base digits) (Bounds.signed - 1)
    (Int64.ofNat n, s.drop digits.length)
  match s with
  | '0' :: 'x' :: rest | '0' :: 'X' :: rest => take 16 rest
  | '0' :: _ => take 8 s
  | _ => take 10 s

/-- The integer that the value of a variable is. -/
def valueOf (s : Octets) : Int64 :=
  let s := s.dropWhile isBlankOctet
  match s with
  | '-' :: rest => -(readNumber rest).1
  | '+' :: rest => (readNumber rest).1
  | _ => (readNumber s).1

/-- The truth of an integer. -/
def truth (b : Bool) : Int64 := if b then 1 else 0

/-- The operators between two operands, longer ones first, with their ranks. -/
def operators : List (String × Nat) := [
  ("||", 1), ("&&", 2), ("==", 6), ("!=", 6), ("<<", 8), (">>", 8), ("<=", 7), (">=", 7), ("|", 3),
  ("^", 4), ("&", 5), ("<", 7), (">", 7), ("+", 9), ("-", 9), ("*", 10), ("/", 10), ("%", 10)]

/-- The operators that also set a variable. -/
def assignments : List (String × String) := [
  ("<<=", "<<"), (">>=", ">>"), ("*=", "*"), ("/=", "/"), ("%=", "%"), ("+=", "+"), ("-=", "-"),
  ("&=", "&"), ("^=", "^"), ("|=", "|")]

/-- The value of an operator. -/
def operate (operator : String) (a b : Int64) : Except ArithmeticFlaw Int64 :=
  match operator with
  | "||" => .ok (truth (a ≠ 0 || b ≠ 0))
  | "&&" => .ok (truth (a ≠ 0 && b ≠ 0))
  | "==" => .ok (truth (a = b))
  | "!=" => .ok (truth (a ≠ b))
  | "<=" => .ok (truth (a ≤ b))
  | ">=" => .ok (truth (b ≤ a))
  | "<" => .ok (truth (a < b))
  | ">" => .ok (truth (b < a))
  | "<<" => .ok (a <<< b)
  | ">>" => .ok (a >>> b)
  | "|" => .ok (a ||| b)
  | "^" => .ok (a ^^^ b)
  | "&" => .ok (a &&& b)
  | "+" => .ok (a + b)
  | "-" => .ok (a - b)
  | "*" => .ok (a * b)
  | "/" => if b = 0 then .error .divisionByZero else .ok (a / b)
  | _ => if b = 0 then .error .divisionByZero else .ok (a % b)

/-- Whether a text begins with another. -/
def beginsWith (start : String) (s : Octets) : Bool := start.toList.isPrefixOf s

/-- Whether an equals sign that sets a variable comes first. -/
def beginsAssignment (s : Octets) : Bool :=
  match s with
  | '=' :: '=' :: _ => false
  | '=' :: _ => true
  | _ => false

mutual

/-- An operand: a number, a variable, an expression in parentheses, or one with a sign. -/
def operand : (fuel : Nat) → ArithmeticState → Except ArithmeticFlaw (Int64 × ArithmeticState)
  | 0, _ => .error .missingOperand
  | fuel + 1, x => do
    let x := x.skip
    match x.rest with
    | '(' :: rest =>
      let (value, x) ← expression fuel { x with rest }
      let x := x.skip
      match x.rest with
      | ')' :: rest => return (value, { x with rest })
      | _ => .error .missingParenthesis
    | '-' :: rest =>
      let (value, x) ← operand fuel { x with rest }
      return (-value, x)
    | '+' :: rest => operand fuel { x with rest }
    | '!' :: rest =>
      let (value, x) ← operand fuel { x with rest }
      return (truth (value = 0), x)
    | '~' :: rest =>
      let (value, x) ← operand fuel { x with rest }
      return (~~~value, x)
    | c :: _ =>
      if Text.isDigit c then
        let (value, rest) := readNumber x.rest
        return (value, { x with rest })
      else if isNameStart c then
        let name := x.rest.takeWhile isNameChar
        let x := { x with rest := x.rest.drop name.length }.skip
        if beginsAssignment x.rest then
          let (value, x) ← expression fuel { x with rest := x.rest.drop 1 }
          return (value, x.assign name (intText value))
        else
          match assignments.find? fun entry => beginsWith entry.1 x.rest with
          | some (text, operator) =>
            let before := valueOf (x.value name)
            let (value, x) ← expression fuel { x with rest := x.rest.drop text.length }
            let value ← operate operator before value
            return (value, x.assign name (intText value))
          | none => return (valueOf (x.value name), x)
      else .error .missingOperand
    | [] => .error .missingOperand
termination_by structural fuel => fuel

/-- Operators of at least a rank after a first operand. -/
def operations : (fuel : Nat) → (rank : Nat) → Int64 → ArithmeticState →
    Except ArithmeticFlaw (Int64 × ArithmeticState)
  | 0, _, first, x => .ok (first, x)
  | fuel + 1, rank, first, x => do
    let x := x.skip
    match operators.find? fun entry => beginsWith entry.1 x.rest with
    | none => return (first, x)
    | some (operator, own) =>
      if own < rank then return (first, x)
      else
        let (second, x) ← operand fuel { x with rest := x.rest.drop operator.length }
        let (second, x) ← operations fuel (own + 1) second x
        let value ← operate operator first second
        operations fuel rank value x
termination_by structural fuel => fuel

/-- An expression: operations, or a choice between two. -/
def expression : (fuel : Nat) → ArithmeticState → Except ArithmeticFlaw (Int64 × ArithmeticState)
  | 0, _ => .error .missingOperand
  | fuel + 1, x => do
    let (first, x) ← operand fuel x
    let (value, x) ← operations fuel 1 first x
    let x := x.skip
    match x.rest with
    | '?' :: rest =>
      let (yes, x) ← expression fuel { x with rest }
      let x := x.skip
      match x.rest with
      | ':' :: rest =>
        let (no, x) ← expression fuel { x with rest }
        return (if value ≠ 0 then yes else no, x)
      | _ => .error .missingColon
    | _ => return (value, x)
termination_by structural fuel => fuel

end

/-- The value of an expression, and the variables that it sets. -/
def evaluate (bindings : List (Octets × Octets)) (text : Octets) :
    Except ArithmeticFlaw (Int64 × List (Octets × Octets)) := do
  let (value, x) ← expression (2 * text.length + 4) { rest := text, bindings }
  if x.skip.rest.isEmpty then return (value, x.set) else .error .trailing

end CallScript.Shell
