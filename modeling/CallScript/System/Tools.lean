import CallScript.Demo.Tool
import CallScript.Shell.Escape

/-! # Tools

The programs of the standard system other than the shell: they copy files and texts, rest, and end. -/

namespace CallScript.Tools

open Shell

variable {σ : Type}

/-- Puts out a text and goes on. -/
def say (streams : Streams σ) (stream : OutputStream) (text : String) (x : σ) (next : σ → Program) :
    Program :=
  streams.put stream text.toUTF8 x next

/-- Complains and ends with the code 1. -/
def fail (streams : Streams σ) (message : String) (x : σ) (leave : ExitStatus → σ → Program) : Program :=
  say streams .error message x fun x => leave (.code 1) x

/-- Copies the input to the output until it ends. -/
def copyInput (streams : Streams σ) : (fuel : Nat) → σ → (σ → Program) → Program
  | 0, x, next => next x
  | fuel + 1, x, next =>
    streams.take 65536 x fun
      | .bytes piece, x => streams.put .output piece x fun x => copyInput streams fuel x next
      | .disturbed, x => copyInput streams fuel x next
      | .ended, x => next x

/-- A bound on the steps of a tool. -/
def patience : Nat := 1000000000000

/-- Copies files, or the input, to the output one after the other. -/
def copyAll (streams : Streams σ) (start : Start) : (isFine : Bool) → List String → σ →
    (ExitStatus → σ → Program) → Program
  | isFine, [], x, leave => leave (.code (if isFine then 0 else 1)) x
  | isFine, "-" :: rest, x, leave =>
    copyInput streams patience x fun x => copyAll streams start isFine rest x leave
  | isFine, path :: rest, x, leave =>
    .look fun files =>
      match files.read start.directory path with
      | .ok content => streams.put .output content x fun x => copyAll streams start isFine rest x leave
      | .error flaw =>
        let reason := ((flaw.message.splitOn " (os error").head?).getD ""
        say streams .error s!"cat: {path}: {reason}\n" x fun x =>
          copyAll streams start false rest x leave

/-- Copies files to the output. -/
def cat : Tool := fun streams start x leave =>
  let paths := start.arguments.filter (· ≠ "-u")
  copyAll streams start true (if paths.isEmpty then ["-"] else paths) x leave

/-- The microseconds of a number of seconds with a fraction. -/
def microsOf? (s : List Char) (scale : Nat) : Option Nat :=
  let whole := s.takeWhile Text.isDigit
  let fraction := match s.drop whole.length with
    | [] => some []
    | '.' :: rest => if rest.all Text.isDigit then some rest else none
    | _ => none
  match fraction with
  | none => none
  | some fraction =>
    if whole.isEmpty && fraction.isEmpty then none
    else
      let micros := Text.digitsToNat (whole ++ (fraction ++ List.replicate 6 '0').take 6)
      some (micros * scale)

/-- The span that an argument means, with an optional unit. -/
def span? (s : String) : Option Nat :=
  let backwards := s.toList.reverse
  match backwards with
  | 's' :: rest => microsOf? rest.reverse 1
  | 'm' :: rest => microsOf? rest.reverse 60
  | 'h' :: rest => microsOf? rest.reverse 3600
  | 'd' :: rest => microsOf? rest.reverse 86400
  | _ => if s = "infinity" || s = "inf" then some 1000000000000000 else microsOf? s.toList 1

/-- Rests for the sum of some spans. -/
def sleep : Tool := fun streams start x leave =>
  let hint := "Try 'sleep --help' for more information.\n"
  if start.arguments.isEmpty then fail streams ("sleep: missing operand\n" ++ hint) x leave
  else match start.arguments.find? fun a => (span? a).isNone with
    | some bad => fail streams (s!"sleep: invalid time interval '{bad}'\n" ++ hint) x leave
    | none =>
      streams.rest ⟨(start.arguments.filterMap span?).foldl (· + ·) 0⟩ x fun x => leave (.code 0) x

/-- Whether an argument consists of options of `echo`. -/
def isEchoOption (s : String) : Bool :=
  match s.toList with
  | '-' :: options => !options.isEmpty && options.all fun c => c = 'n' || c = 'e' || c = 'E'
  | _ => false

/-- Puts out its arguments. -/
def echo : Tool := fun streams start x leave =>
  let options := (start.arguments.takeWhile isEchoOption).flatMap String.toList
  let text := Octets.ofText (" ".intercalate (start.arguments.dropWhile isEchoOption))
  let isEscaped := (options.filter (· ≠ 'n')).getLast? = some 'e'
  let (text, ends) := if isEscaped then unescape text.length text else (text, false)
  let text := if ends || options.contains 'n' then text else text ++ ['\n']
  streams.put .output (Octets.bytes text) x fun x => leave (.code 0) x

/-- Puts out its arguments in a format. -/
def printf : Tool := fun streams start x leave =>
  match start.arguments with
  | [] => fail streams "printf: missing operand\nTry 'printf --help' for more information.\n" x leave
  | format :: arguments =>
    let result := printed (Octets.ofText format) (arguments.map Octets.ofText)
    streams.put .output (Octets.bytes result.text) x fun x =>
      match result.bad with
      | [] => leave (.code 0) x
      | bad :: _ => fail streams s!"printf: '{bad.text}': expected a numeric value\n" x leave

/-- Puts out the directory that it works in. -/
def pwd : Tool := fun streams start x leave =>
  say streams .output (start.directory.push '\n') x fun x => leave (.code 0) x

/-- Puts out its environment. -/
def env : Tool := fun streams start x leave =>
  let lines := start.environment.map fun (name, value) => s!"{name}={value}\n"
  say streams .output (String.join lines) x fun x => leave (.code 0) x

/-- Puts out the values of the variables that it is given, or all of its environment. -/
def printenv : Tool := fun streams start x leave =>
  if start.arguments.isEmpty then env streams start x leave
  else
    let values := start.arguments.map fun name => Fields.find? name start.environment
    say streams .output (String.join (values.filterMap (Option.map (·.push '\n')))) x fun x =>
      leave (.code (if values.all Option.isSome then 0 else 1)) x

/-- What a text begins with: so many lines, or so many characters. -/
def beginning (isLines : Bool) (count : Nat) (text : Octets) : Octets :=
  if !isLines then text.take count
  else if text.count '\n' ≤ count then text
  else ((text.splitOn '\n').take count).flatMap fun line => line ++ ['\n']

/-- Puts out what the input begins with; `count` lines or bytes are still to come. -/
def copyBeginning (streams : Streams σ) (isLines : Bool) : (fuel count : Nat) → σ → (σ → Program) → Program
  | 0, _, x, next => next x
  | _ + 1, 0, x, next => next x
  | fuel + 1, count + 1, x, next =>
    streams.take 65536 x fun
      | .bytes piece, x =>
        let text := Octets.ofBytes piece
        let size := if isLines then text.count '\n' else text.length
        if size ≤ count then
          streams.put .output piece x fun x => copyBeginning streams isLines fuel (count + 1 - size) x next
        else streams.put .output (Octets.bytes (beginning isLines (count + 1) text)) x next
      | .disturbed, x => copyBeginning streams isLines fuel (count + 1) x next
      | .ended, x => next x

/-- The count that the options of `head` ask for, whether it counts lines, and the files. -/
def beginningWanted? : List String → Option (Bool × Nat × List String)
  | "-n" :: count :: paths => count.toNat?.map fun n => (true, n, paths)
  | "-c" :: count :: paths => count.toNat?.map fun n => (false, n, paths)
  | first :: paths =>
    match first.toList with
    | '-' :: 'n' :: count => (String.ofList count).toNat?.map fun n => (true, n, paths)
    | '-' :: 'c' :: count => (String.ofList count).toNat?.map fun n => (false, n, paths)
    | '-' :: count => (String.ofList count).toNat?.map fun n => (true, n, paths)
    | _ => some (true, 10, first :: paths)
  | [] => some (true, 10, [])

/-- Puts out what a file or the input begins with. -/
def head : Tool := fun streams start x leave =>
  match beginningWanted? start.arguments with
  | none => fail streams "head: invalid option\n" x leave
  | some (isLines, count, path :: _) =>
    .look fun files =>
      match files.read start.directory path with
      | .ok content =>
        streams.put .output (Octets.bytes (beginning isLines count (Octets.ofBytes content))) x fun x =>
          leave (.code 0) x
      | .error flaw =>
        let reason := ((flaw.message.splitOn " (os error").head?).getD ""
        fail streams s!"head: cannot open '{path}' for reading: {reason}\n" x leave
  | some (isLines, count, []) =>
    copyBeginning streams isLines patience count x fun x => leave (.code 0) x

/-- Puts out a text again and again. -/
def putAgain (streams : Streams σ) (text : ByteArray) : (fuel : Nat) → σ →
    (ExitStatus → σ → Program) → Program
  | 0, x, leave => leave (.code 0) x
  | fuel + 1, x, leave =>
    streams.put .output text x fun x => streams.rest ⟨0⟩ x fun x => putAgain streams text fuel x leave

/-- Puts out its arguments, or `y`, again and again, many lines at once. -/
def yes : Tool := fun streams start x leave =>
  let line := (if start.arguments.isEmpty then "y" else " ".intercalate start.arguments).push '\n'
  let lines := String.join (List.replicate (512 / line.utf8ByteSize + 1) line)
  putAgain streams lines.toUTF8 patience x leave

/-- The integers from one to another in steps. -/
def countFrom (step last : Int) : (fuel : Nat) → Int → List Int
  | 0, _ => []
  | fuel + 1, n =>
    if (0 < step ∧ last < n) ∨ (step < 0 ∧ n < last) then [] else n :: countFrom step last fuel (n + step)

/-- Puts out integers in order. -/
def seq : Tool := fun streams start x leave =>
  match start.arguments.mapM String.toInt? with
  | some [last] => go streams 1 1 last x leave
  | some [first, last] => go streams first 1 last x leave
  | some [first, step, last] => go streams first step last x leave
  | _ => fail streams "seq: missing operand\nTry 'seq --help' for more information.\n" x leave
where
  /-- Puts out a row of integers. -/
  go {σ : Type} (streams : Streams σ) (first step last : Int) (x : σ)
      (leave : ExitStatus → σ → Program) : Program :=
    let count := if step = 0 then 0 else ((last - first) / step + 1).toNat
    let text := String.join ((countFrom step last count first).map fun n => s!"{n}\n")
    say streams .output text x fun x => leave (.code 0) x

/-- Ends with a code. -/
def ending (code : Nat) : Tool := fun _ _ x leave => leave (.code code) x

/-- The name of the demonstration server among the programs. -/
def demoName : String := "demo"

/-- The tools by their names. -/
def named? (name : String) : Option Tool :=
  match name with
  | "cat" => some cat
  | "sleep" => some sleep
  | "echo" => some echo
  | "printf" => some printf
  | "pwd" => some pwd
  | "env" => some env
  | "printenv" => some printenv
  | "head" => some head
  | "yes" => some yes
  | "seq" => some seq
  | "true" => some (ending 0)
  | "false" => some (ending 1)
  | "demo" => some Demo.tool
  | _ => none

end CallScript.Tools
