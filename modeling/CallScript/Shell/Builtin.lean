import CallScript.Session.Status
import CallScript.Shell.Escape
import CallScript.Shell.Expansion

/-! # Commands of the shell's own

The commands that a shell executes itself and that do not steer it: they write texts, test conditions,
read lines, and change directories. -/

namespace CallScript.Shell

/-- How a command went: what it wrote, what it complained about, and its status. -/
structure Performed where
  output : Octets := []
  complaints : List String := []
  status : Nat := 0

/-- What `printf` does. -/
def performPrintf : List Octets → Performed
  | [] => { complaints := ["printf: usage: printf format [arg ...]"], status := 2 }
  | format :: arguments =>
    let result := printed format arguments
    { output := result.text
      complaints := result.bad.map fun bad => s!"printf: {bad.text}: expected numeric value"
      status := if result.bad.isEmpty then 0 else 1 }

/-- The tests of one text. -/
def unaryTests : List String := ["-n", "-z", "-e", "-f", "-d", "-s", "-r", "-w", "-x", "-t"]

/-- The tests of two texts. -/
def binaryTests : List String := ["=", "!=", "<", ">", "-eq", "-ne", "-lt", "-le", "-gt", "-ge"]

/-- The result of a test of one text. -/
def unaryTest (files : Files) (directory : String) (test : String) (value : Octets) : Bool :=
  let entry := files.find directory value.text
  match test with
  | "-n" => !value.isEmpty
  | "-z" => value.isEmpty
  | "-f" => files.isFile directory value.text
  | "-d" => match entry with
    | .ok .directory => true
    | _ => false
  | "-s" => match entry with
    | .ok (.file content) => content.size ≠ 0
    | .ok .sink | .error _ => false
    | _ => true
  | "-x" => match entry with
    | .ok (.program _) | .ok .directory => true
    | _ => false
  | "-t" => false
  | _ => entry.isOk

/-- The result of a test of two texts; fails with the one that is no number. -/
def binaryTest (test : String) (a b : Octets) : Except Octets Bool :=
  let compare : (Int → Int → Bool) → Except Octets Bool := fun p =>
    let decimal? := fun (s : Octets) =>
      let s := s.dropWhile isBlankOctet
      let digits := match s with
        | '-' :: rest | '+' :: rest => rest
        | _ => s
      if digits.isEmpty || !digits.all Text.isDigit then none
      else some ((if s.head? = some '-' then -1 else 1) * (Text.digitsToNat digits : Int))
    match decimal? a, decimal? b with
    | some x, some y => .ok (p x y)
    | none, _ => .error a
    | _, none => .error b
  match test with
  | "=" => .ok (a = b)
  | "!=" => .ok (a ≠ b)
  | "<" => .ok (a < b)
  | ">" => .ok (b < a)
  | "-eq" => compare fun x y => x = y
  | "-ne" => compare fun x y => x ≠ y
  | "-lt" => compare fun x y => x < y
  | "-le" => compare fun x y => x ≤ y
  | "-gt" => compare fun x y => y < x
  | _ => compare fun x y => y ≤ x

/-- Why a condition has no result. -/
inductive TestFlaw where
  | illegalNumber (text : Octets)
  | unexpected (text : Octets)
  | missingArgument (text : Octets)

mutual

/-- Conditions with `-o` between them. -/
def anyTest (files : Files) (directory : String) : (fuel : Nat) → List Octets →
    Except TestFlaw (Bool × List Octets)
  | 0, arguments => .ok (false, arguments)
  | fuel + 1, arguments => do
    let (first, rest) ← allTest files directory fuel arguments
    match rest with
    | ['-', 'o'] :: rest =>
      let (second, rest) ← anyTest files directory fuel rest
      return (first || second, rest)
    | _ => return (first, rest)

/-- Conditions with `-a` between them. -/
def allTest (files : Files) (directory : String) : (fuel : Nat) → List Octets →
    Except TestFlaw (Bool × List Octets)
  | 0, arguments => .ok (false, arguments)
  | fuel + 1, arguments => do
    let (first, rest) ← oneTest files directory fuel arguments
    match rest with
    | ['-', 'a'] :: rest =>
      let (second, rest) ← allTest files directory fuel rest
      return (first && second, rest)
    | _ => return (first, rest)

/-- A single condition. -/
def oneTest (files : Files) (directory : String) : (fuel : Nat) → List Octets →
    Except TestFlaw (Bool × List Octets)
  | 0, arguments => .ok (false, arguments)
  | fuel + 1, arguments => do
    match arguments with
    | [] => return (false, [])
    | a :: rest =>
      let binary? := match rest with
        | test :: b :: after =>
          if binaryTests.contains test.text then some (test.text, b, after) else none
        | _ => none
      match binary? with
      | some (test, b, after) =>
        match binaryTest test a b with
        | .ok result => return (result, after)
        | .error bad => throw (.illegalNumber bad)
      | none =>
        if a = ['!'] && !rest.isEmpty then
          let (result, rest) ← oneTest files directory fuel rest
          return (!result, rest)
        else if a = ['('] && !rest.isEmpty then
          let (result, rest) ← anyTest files directory fuel rest
          match rest with
          | [')'] :: rest => return (result, rest)
          | _ => throw (.missingArgument [')'])
        else match rest with
          | value :: after =>
            if unaryTests.contains a.text then
              return (unaryTest files directory a.text value, after)
            else return (!a.isEmpty, rest)
          | [] => return (!a.isEmpty, [])

end

/-- What `test` does, under the name by which it is called. -/
def performTest (files : Files) (directory : String) (name : String) (arguments : List Octets) :
    Performed :=
  let complain := fun (message : String) =>
    ({ complaints := [s!"{name}: {message}"], status := 2 } : Performed)
  let go := fun (arguments : List Octets) =>
    match anyTest files directory (4 * arguments.length + 4) arguments with
    | .ok (result, []) => ({ status := if result then 0 else 1 } : Performed)
    | .ok (_, extra :: _) => complain s!"{extra.text}: unexpected operator"
    | .error (.illegalNumber text) => complain s!"Illegal number: {text.text}"
    | .error (.unexpected text) => complain s!"{text.text}: unexpected operator"
    | .error (.missingArgument _) => complain "closing paren expected"
  if name = "[" then
    match arguments.getLast? with
    | some [']'] => go arguments.dropLast
    | _ => complain "missing ]"
  else go arguments

/-- A line without the backslashes that take the meaning of the character after them. -/
def unquoted : Octets → List Glyph
  | [] => []
  | ['\\'] => []
  | '\\' :: c :: rest => ⟨c, true⟩ :: unquoted rest
  | c :: rest => ⟨c, false⟩ :: unquoted rest

/-- Whether a line ends with a backslash that takes the meaning of what follows. -/
def isContinued (line : Octets) : Bool :=
  (line.reverse.takeWhile (· = '\\')).length % 2 = 1

/-- Cuts a line into as many fields as there are names; the last one gets all that is left. -/
def cutFields (separators : Octets) : (names : Nat) → List Glyph → List Octets
  | 0, _ => []
  | names + 1, line =>
    let isSeparator := fun (g : Glyph) => !g.isQuoted && separators.contains g.char
    let isSoft := fun (g : Glyph) => isSeparator g && Mark.isSoft g.char
    let line := line.dropWhile isSoft
    if names = 0 then [((line.reverse.dropWhile isSoft).reverse).map Glyph.char]
    else
      let field := line.takeWhile fun g => !isSeparator g
      let rest := (line.drop field.length).dropWhile isSoft
      let rest := match rest with
        | g :: after => if isSeparator g then after else rest
        | [] => []
      field.map Glyph.char :: cutFields separators names rest

/-- Reads a line from the input; says whether it came to its end. -/
def gatherLine (isRaw : Bool) : (fuel : Nat) → (line : Octets) → State →
    (Octets → Bool → Next) → Program
  | 0, line, sh, next => next line false sh
  | fuel + 1, line, sh, next =>
    sh.take 65536 true fun
      | .bytes piece, sh =>
        let piece := (Octets.ofBytes piece).filter (· ≠ '\x00')
        if piece.getLast? = some '\n' then
          let line := line ++ piece.dropLast
          if !isRaw && isContinued line then gatherLine isRaw fuel line.dropLast sh next
          else next line true sh
        else gatherLine isRaw fuel (line ++ piece) sh next
      | _, sh => next line false sh

/-- What `read` does. -/
def performRead (arguments : List Octets) (sh : State) (next : Next) : Program :=
  let isRaw := arguments.head? = some ['-', 'r']
  let names := if isRaw then arguments.tail else arguments
  if names.isEmpty then sh.complain "read: arg count" fun sh => next { sh with status := 2 }
  else
    gatherLine isRaw Expander.patience [] sh fun line isComplete sh =>
      let glyphs := if isRaw then line.map fun c => ⟨c, false⟩ else unquoted line
      let separators := (sh.valueOf? "IFS".toList).getD [' ', '\t', '\n']
      let fields := cutFields separators names.length glyphs
      let sh := (names.zip fields).foldl (fun sh (name, value) => sh.assign name value) sh
      next { sh with status := if isComplete then 0 else 1 }

/-- What `cd` does. -/
def performCd (arguments : List Octets) (sh : State) (next : Next) : Program :=
  let target := (arguments.head?.orElse fun _ => sh.valueOf? "HOME".toList).getD []
  let target := if target = ['-'] then (sh.valueOf? "OLDPWD".toList).getD [] else target
  let path := String.ofList (Path.join sh.directory.toList target.text.toList)
  .look fun files =>
    match files.enter "/" path with
    | .ok place =>
      let sh := (sh.assign "OLDPWD".toList (Octets.ofText sh.directory)).assign "PWD".toList
        (Octets.ofText place.text)
      next { sh with directory := place.text, status := 0 }
    | .error _ => sh.complain s!"cd: can't cd to {target.text}" fun sh => next { sh with status := 2 }

/-- The number of a signal by its name or number. -/
def signalNumber? (s : Octets) : Option Nat :=
  if !s.isEmpty && s.all Text.isDigit then some (Text.digitsToNat s)
  else if s = "EXIT".toList then some 0
  else (ExitStatus.signalNames.findIdx? fun name => name.toList = s.map Char.toUpper).map (· + 1)

end CallScript.Shell
