import CallScript.Shell.Reader
import CallScript.System.Program

/-! # The state of a shell

What a shell keeps while it executes a script: parameters, functions, what its descriptors do, and what
it does when it is asked to end. -/

namespace CallScript.Shell

/-- What a descriptor does. -/
inductive Descriptor where
  /-- It reads the input of the process. -/
  | input
  /-- It writes to a stream of the process. -/
  | stream (stream : OutputStream)
  /-- It adds to a file. -/
  | file (path : String)
  /-- It reads what is left of a text. -/
  | text (index : Nat)
  /-- It writes to the output that a command gathers. -/
  | gathered
  /-- It reads nothing, and what is written to it is lost. -/
  | nowhere
  deriving DecidableEq, Repr

/-- The state of a shell. -/
structure State where
  /-- The name in front of messages. -/
  name : Octets
  arguments : List Octets
  bindings : List (Octets × Octets)
  /-- The names of the variables that commands get to know. -/
  exported : List Octets
  functions : List (Octets × Command) := []
  /-- The status of the last command. -/
  status : Nat := 0
  /-- The status of the last command whose output became part of a word. -/
  outputStatus : Nat := 0
  directory : String
  descriptors : List (Nat × Descriptor) := [(0, .input), (1, .stream .output), (2, .stream .error)]
  /-- What is left of the texts that descriptors read. -/
  texts : List Octets := []
  /-- What has been gathered. -/
  gathered : ByteArray := .empty
  /-- What is executed when the shell is asked to end; an empty script makes it ignore that. -/
  onTerminate : Option Octets := none
  /-- What is executed when the shell ends. -/
  onExit : Option Octets := none
  /-- The line of the command that is executed. -/
  line : Nat := 1
  stopsOnError : Bool := false
  stopsOnUnset : Bool := false
  /-- The variables to set back when a function ends. -/
  saved : List (Octets × Option Octets) := []
  number : Nat

/-- What goes on with a state. -/
abbrev Next := State → Program

namespace State

/-- The value of a variable. -/
def valueOf? (sh : State) (name : Octets) : Option Octets :=
  (sh.bindings.find? fun v => v.1 = name).map Prod.snd

/-- Sets a variable. -/
def assign (sh : State) (name value : Octets) : State :=
  { sh with bindings := (name, value) :: sh.bindings.filter fun v => v.1 ≠ name }

/-- Removes a variable. -/
def unset (sh : State) (name : Octets) : State :=
  { sh with
    bindings := sh.bindings.filter fun v => v.1 ≠ name
    exported := sh.exported.filter (· ≠ name) }

/-- Sets a variable, or removes it. -/
def restore (sh : State) (name : Octets) : Option Octets → State
  | some value => sh.assign name value
  | none => sh.unset name

/-- A number as octets. -/
def natText (n : Nat) : Octets := (toString n).toList

/-- The value of a parameter that is a single text. -/
def parameter? (sh : State) (name : Octets) : Option Octets :=
  match name with
  | ['?'] => some (natText sh.status)
  | ['#'] => some (natText sh.arguments.length)
  | ['$'] => some (natText sh.number)
  | ['-'] => some ((if sh.stopsOnError then ['e'] else []) ++ if sh.stopsOnUnset then ['u'] else [])
  | ['!'] => none
  | ['0'] => some sh.name
  | _ =>
    if name.all Text.isDigit then
      match Text.digitsToNat name with
      | 0 => some sh.name
      | n + 1 => sh.arguments[n]?
    else sh.valueOf? name

/-- What a descriptor does, if it is open. -/
def descriptor? (sh : State) (n : Nat) : Option Descriptor :=
  (sh.descriptors.find? fun d => d.1 = n).map Prod.snd

/-- Opens or closes a descriptor. -/
def redirect (sh : State) (n : Nat) (d : Option Descriptor) : State :=
  let others := sh.descriptors.filter fun d => d.1 ≠ n
  match d with
  | some d => { sh with descriptors := (n, d) :: others }
  | none => { sh with descriptors := others }

/-- Whether any descriptor does a thing. -/
def uses (sh : State) (d : Descriptor) : Bool := sh.descriptors.any fun entry => entry.2 = d

/-- Adds bytes to a file, if that can be done. -/
def appended (directory path : String) (bytes : ByteArray) (files : Files) : Files :=
  match files.append directory path bytes with
  | .ok files => files
  | .error _ => files

/-- Writes bytes to a descriptor; says whether that could be done. -/
def put (sh : State) (n : Nat) (bytes : ByteArray) (next : Bool → Next) : Program :=
  match sh.descriptor? n with
  | none | some .input | some (.text _) => next false sh
  | some (.stream stream) =>
    if bytes.size = 0 then next true sh else .put stream bytes fun _ => next true sh
  | some (.file path) => .change (appended sh.directory path bytes) fun _ => next true sh
  | some .gathered => next true { sh with gathered := sh.gathered ++ bytes }
  | some .nowhere => next true sh

/-- Takes bytes from the input: at most as many as given, with `isLine` none after a line feed. -/
def take (sh : State) (limit : Nat) (isLine : Bool) (next : Intake → Next) : Program :=
  match sh.descriptor? 0 with
  | some .input => .take limit isLine fun intake => next intake sh
  | some (.text index) =>
    let left := sh.texts.getD index []
    if left.isEmpty then next .ended sh
    else
      let line := (left.takeWhile (· ≠ '\n')).length + 1
      let n := if isLine then min limit line else limit
      next (.bytes (Octets.bytes (left.take n))) { sh with texts := sh.texts.set index (left.drop n) }
  | _ => next .ended sh

/-- Puts a text in front of the error output of the shell's own. -/
def complain (sh : State) (message : String) (next : Next) : Program :=
  sh.put 2 (Octets.ofText s!"{sh.name.text}: {sh.line}: {message}\n").bytes fun _ sh => next sh

/-- Complains about a command. -/
def blame (sh : State) (command message : String) (next : Next) : Program :=
  sh.complain s!"{command}: {message}" next

/-- The number of bytes that are gathered of a tool at most. -/
def gatherLimit : Nat := 1048576

/-- The streams of a tool that the shell runs.  `lingers` says whether the tool is a process of its own,
beside the shell; `broken` is what follows instead once the tool has put out more than is gathered, as into
a pipe that nobody reads. -/
def streams (lingers : Bool) (broken : Next) : Streams State where
  put := fun stream bytes sh next =>
    sh.put (match stream with | .output => 1 | .error => 2) bytes fun _ sh =>
      if gatherLimit < sh.gathered.size then broken sh else next sh
  take := fun limit sh next => sh.take limit false next
  rest := fun span sh next => .rest span lingers fun _ => next sh

/-- The environment of a command, with variables set for it alone. -/
def environment (sh : State) (own : List (Octets × Octets)) : List (String × String) :=
  let exported := sh.bindings.filter fun v => sh.exported.contains v.1
  Fields.ofList ((exported.reverse ++ own).map fun (name, value) => (name.text, value.text))

/-- The state in which a shell begins. -/
def fresh (start : Start) (name : Octets) (arguments : List Octets) : State :=
  let given := start.environment.map fun (name, value) => (Octets.ofText name, Octets.ofText value)
  let usual : List (Octets × Octets) :=
    [("IFS".toList, [' ', '\t', '\n']), ("PS1".toList, "$ ".toList), ("PS2".toList, "> ".toList),
      ("PS4".toList, "+ ".toList), ("OPTIND".toList, ['1']),
      ("PWD".toList, Octets.ofText start.directory)]
  let base : State := {
    name, arguments
    bindings := []
    exported := given.map Prod.fst
    directory := start.directory
    number := start.number }
  usual.foldl (fun sh (name, value) => sh.assign name value)
    (given.foldl (fun sh (name, value) => sh.assign name value) base)

end State

end CallScript.Shell
