import CallScript.Number.Bounds
import CallScript.Shell.Command
import CallScript.Text.Word

/-! # Escapes and formats

What a backslash means in the texts that `echo` and `printf` write, and how `printf` fills in its
format. -/

namespace CallScript.Shell

/-- A digit of an octal number. -/
def isOctalDigit (c : Char) : Bool := '0' ≤ c && c ≤ '7'

/-- The byte of an octal number. -/
def octalByte (digits : List Char) : Char :=
  Char.ofNat (digits.foldl (fun n c => n * 8 + (c.toNat - '0'.toNat)) 0 % 256)

/-- What stands for a character after a backslash. -/
def escapeOf? : Char → Option Char
  | '\\' => some '\\'
  | 'a' => some '\x07'
  | 'b' => some '\x08'
  | 'f' => some '\x0c'
  | 'n' => some '\n'
  | 'r' => some '\r'
  | 't' => some '\t'
  | 'v' => some '\x0b'
  | _ => none

/-- The byte that the text after a backslash stands for, and the rest.  A backslash that begins no escape
stands for itself. -/
def readEscape (s : Octets) : Char × Octets :=
  match s with
  | [] => ('\\', [])
  | c :: rest =>
    match escapeOf? c with
    | some value => (value, rest)
    | none =>
      let digits := (s.take 3).takeWhile isOctalDigit
      if digits.isEmpty then ('\\', s) else (octalByte digits, s.drop digits.length)

/-- The text after a backslash of a plain text, where an octal number may have one more zero. -/
def withoutZero : Octets → Octets
  | '0' :: c :: rest => if isOctalDigit c then c :: rest else '0' :: c :: rest
  | s => s

/-- A text with its escapes replaced, and whether the output ends there. -/
def unescape : (fuel : Nat) → Octets → Octets × Bool
  | 0, s => (s, false)
  | _ + 1, [] => ([], false)
  | _ + 1, '\\' :: 'c' :: _ => ([], true)
  | fuel + 1, '\\' :: rest =>
    let (c, rest) := readEscape (withoutZero rest)
    let (tail, ends) := unescape fuel rest
    (c :: tail, ends)
  | fuel + 1, c :: rest =>
    let (tail, ends) := unescape fuel rest
    (c :: tail, ends)

/-- What `echo` writes: its arguments with escapes replaced, without a line feed if the first one is
`-n`. -/
def echoed (arguments : List Octets) : Octets :=
  let (arguments, feeds) := match arguments with
    | ['-', 'n'] :: rest => (rest, false)
    | _ => (arguments, true)
  let text := [' '].intercalate arguments
  let (text, ends) := unescape text.length text
  if ends || !feeds then text else text ++ ['\n']

/-- A field of a format. -/
structure FormatField where
  isLeft : Bool := false
  isZero : Bool := false
  hasPlus : Bool := false
  width : Nat := 0
  precision : Option Nat := none

/-- A text in a field. -/
def FormatField.pad (f : FormatField) (text : Octets) : Octets :=
  let missing := f.width - text.length
  if f.isLeft then text ++ List.replicate missing ' ' else List.replicate missing ' ' ++ text

/-- An integer in a field, from its digits. -/
def FormatField.padNumber (f : FormatField) (isNegative : Bool) (digits : Octets) : Octets :=
  let sign := if isNegative then ['-'] else if f.hasPlus then ['+'] else []
  let digits := List.replicate (f.precision.getD 1 - digits.length) '0' ++ digits
  if f.isZero && !f.isLeft && f.precision.isNone then
    sign ++ List.replicate (f.width - (sign.length + digits.length)) '0' ++ digits
  else f.pad (sign ++ digits)

/-- The integer that a text is written as: decimal, octal after `0`, hexadecimal after `0x`. -/
def integer? (s : Octets) : Option Int :=
  let s := s.dropWhile fun c => c = ' ' || c = '\t' || c = '\n'
  let (sign, s) := match s with
    | '-' :: rest => ((-1 : Int), rest)
    | '+' :: rest => (1, rest)
    | _ => (1, s)
  let digit? : Nat → Char → Option Nat := fun base c =>
    let value := if '0' ≤ c && c ≤ '9' then c.toNat - '0'.toNat
      else if 'a' ≤ c && c ≤ 'f' then c.toNat - 'a'.toNat + 10
      else if 'A' ≤ c && c ≤ 'F' then c.toNat - 'A'.toNat + 10 else 99
    if value < base then some value else none
  let number? : Nat → Octets → Option Nat := fun base digits =>
    if digits.isEmpty then none
    else digits.foldlM (fun n c => (digit? base c).map fun d => n * base + d) 0
  let value? := match s with
    | '0' :: 'x' :: rest | '0' :: 'X' :: rest => number? 16 rest
    | '0' :: rest => if rest.isEmpty then some 0 else number? 8 rest
    | _ => number? 10 s
  value?.map fun n => sign * n

/-- What filling in a format has come to: the bytes written, the arguments that were no numbers, and
whether the output ends there. -/
structure Printed where
  text : Octets := []
  bad : List Octets := []
  ends : Bool := false
  /-- Whether an argument was asked for. -/
  asked : Bool := false

/-- What an argument writes in a conversion. -/
def convert (f : FormatField) (kind : Char) (argument : Option Octets) : Printed :=
  let given := argument.getD []
  match kind with
  | 's' =>
    { text := f.pad (match f.precision with
        | some n => given.take n
        | none => given) }
  | 'b' =>
    let (text, ends) := unescape given.length given
    { text := f.pad text, ends }
  | 'c' => { text := f.pad (given.take 1) }
  | _ =>
    let value? := match given with
      | '"' :: c :: _ | '\'' :: c :: _ => some (c.toNat : Int)
      | _ => integer? given
    let value : Int := value?.getD 0
    let bad := if value?.isNone && argument.isSome then [given] else []
    let unsigned := (value % (Bounds.unsigned : Int)).toNat
    let text := match kind with
      | 'd' | 'i' => f.padNumber (value < 0) (Nat.toDigits 10 value.natAbs)
      | 'o' => f.padNumber false (Nat.toDigits 8 unsigned)
      | 'x' => f.padNumber false (Nat.toDigits 16 unsigned)
      | 'X' => f.padNumber false ((Nat.toDigits 16 unsigned).map Char.toUpper)
      | _ => f.padNumber false (Nat.toDigits 10 unsigned)
    { text, bad }

/-- The flags of a field. -/
def readFlags : FormatField → Octets → FormatField × Octets
  | f, '-' :: rest => readFlags { f with isLeft := true } rest
  | f, '0' :: rest => readFlags { f with isZero := true } rest
  | f, '+' :: rest => readFlags { f with hasPlus := true } rest
  | f, ' ' :: rest | f, '#' :: rest => readFlags f rest
  | f, s => (f, s)

/-- A field up to its conversion. -/
def readField (s : Octets) : FormatField × Octets :=
  let (f, s) := readFlags {} s
  let f := { f with width := Text.digitsToNat (s.takeWhile Text.isDigit) }
  match s.dropWhile Text.isDigit with
  | '.' :: rest =>
    ({ f with precision := some (Text.digitsToNat (rest.takeWhile Text.isDigit)) },
      rest.dropWhile Text.isDigit)
  | rest => (f, rest)

/-- Fills in a format once; gives the arguments that are left. -/
def fill : (fuel : Nat) → Octets → List Octets → Printed × List Octets
  | 0, _, arguments => ({}, arguments)
  | _ + 1, [], arguments => ({}, arguments)
  | _ + 1, '\\' :: 'c' :: _, arguments => ({ ends := true }, arguments)
  | fuel + 1, '\\' :: rest, arguments =>
    let (c, rest) := readEscape rest
    let (after, arguments) := fill fuel rest arguments
    ({ after with text := c :: after.text }, arguments)
  | fuel + 1, '%' :: '%' :: rest, arguments =>
    let (after, arguments) := fill fuel rest arguments
    ({ after with text := '%' :: after.text }, arguments)
  | fuel + 1, '%' :: rest, arguments =>
    match readField rest with
    | (_, []) => ({}, arguments)
    | (f, kind :: rest) =>
      let now := convert f kind arguments.head?
      if now.ends then ({ now with asked := true }, arguments.tail)
      else
        let (after, arguments) := fill fuel rest arguments.tail
        ({ after with
          text := now.text ++ after.text
          bad := now.bad ++ after.bad
          asked := true }, arguments)
  | fuel + 1, c :: rest, arguments =>
    let (after, arguments) := fill fuel rest arguments
    ({ after with text := c :: after.text }, arguments)

/-- Fills in a format again and again until the arguments are used up. -/
def fillAll (format : Octets) : (fuel : Nat) → List Octets → Printed
  | 0, _ => {}
  | fuel + 1, arguments =>
    let (now, left) := fill format.length format arguments
    if now.ends || left.isEmpty || !now.asked then now
    else
      let after := fillAll format fuel left
      { after with text := now.text ++ after.text, bad := now.bad ++ after.bad }

/-- What `printf` writes. -/
def printed (format : Octets) (arguments : List Octets) : Printed :=
  fillAll format (arguments.length + 1) arguments

end CallScript.Shell
