import CallScript.Error
import CallScript.Fields
import CallScript.Session.Status
import CallScript.System.Files

/-! # Programs

A `Program` is what a process is still going to do: a tree whose nodes are the requests that the process
makes of the system, and whose branches are what it does next, depending on the answer.  `Start` is what a
program gets to know when it is started, and a `Library` gives the programs of a system by their names.

A `Tool` is a program that runs in any surroundings: as a process of its own, or as a command of a shell,
which redirects its streams. -/

namespace CallScript

/-- The streams that a process puts out. -/
inductive OutputStream where
  | output
  | error
  deriving DecidableEq, Repr

/-- What a process does when it is asked to end. -/
inductive Disposition where
  /-- It ends. -/
  | ends
  /-- Nothing. -/
  | ignores
  /-- It takes note, and reacts when it gets to it. -/
  | notes
  deriving DecidableEq, Repr

/-- What a process finds when it reads its input. -/
inductive Intake where
  /-- Some bytes, at least one. -/
  | bytes (piece : ByteArray)
  | ended
  /-- It was asked to end meanwhile, and took note. -/
  | disturbed

/-- What a process is still going to do. -/
inductive Program where
  /-- It ends. -/
  | finish (status : ExitStatus)
  /-- It puts out bytes. -/
  | put (stream : OutputStream) (content : ByteArray) (next : Unit → Program)
  /-- It waits for input, of which it takes at most `limit` bytes; with `isLine` none that comes after a
  line feed. -/
  | take (limit : Nat) (isLine : Bool) (next : Intake → Program)
  /-- It rests.  `lingers` says that a process of its own does, which outlives it. -/
  | rest (span : Duration) (lingers : Bool) (next : Unit → Program)
  /-- It closes a stream. -/
  | close (stream : OutputStream) (next : Unit → Program)
  /-- It closes its input. -/
  | refuse (next : Unit → Program)
  /-- It decides what to do when it is asked to end. -/
  | heed (disposition : Disposition) (next : Unit → Program)
  /-- It sees whether it was asked to end since it last did so. -/
  | notice (next : Bool → Program)
  /-- It looks at the files. -/
  | look (next : Files → Program)
  /-- It changes the files. -/
  | change (f : Files → Files) (next : Unit → Program)

namespace Program

/-- Ends with a code. -/
def exit (code : Nat) : Program := .finish (.code code)

/-- Puts out a text. -/
def say (stream : OutputStream) (text : String) (next : Unit → Program) : Program :=
  .put stream text.toUTF8 next

end Program

namespace Files

/-- The name of the program that an entry is; only programs can be executed. -/
def executed : Except FileFlaw Entry → Except FileFlaw String
  | .ok (.program name) => .ok name
  | .ok _ => .error .denied
  | .error flaw => .error flaw

/-- The first program of a bare name in directories.  One that may not be executed counts only if there is
no other. -/
def executedIn (files : Files) (here name : String) (isDenied : Bool) :
    List String → Except FileFlaw String
  | [] => .error (if isDenied then .denied else .missing)
  | directory :: rest =>
    let path := String.ofList (Path.join directory.toList name.toList)
    match executed (files.find here path) with
    | .ok program => .ok program
    | .error .denied => executedIn files here name true rest
    | .error _ => executedIn files here name isDenied rest

/-- The directories in which an environment has bare names looked up. -/
def searched (environment : List (String × String)) : List String :=
  match Fields.find? "PATH" environment with
  | none => ["/bin", "/usr/bin"]
  | some path => (path.toList.splitOn ':').map fun piece =>
    if piece.isEmpty then "." else String.ofList piece

/-- The program that a command means to a process in a directory: a path, or a bare name that is looked
up. -/
def program (files : Files) (directory : String) (environment : List (String × String))
    (command : String) : Except FileFlaw String :=
  if command.toList.contains Path.separator then executed (files.find directory command)
  else if command.isEmpty then .error .missing
  else files.executedIn directory command false (searched environment)

end Files

/-- What a program gets to know when it is started. -/
structure Start where
  /-- The name under which it was started. -/
  name : String
  arguments : List String
  /-- The directory that it works in. -/
  directory : String
  environment : List (String × String)
  /-- The number of the process. -/
  number : Nat

/-- How a tool meets its surroundings, of which it threads a state through what it does. -/
structure Streams (σ : Type) where
  put : OutputStream → ByteArray → σ → (σ → Program) → Program
  /-- Waits for input, of which it takes at most as many bytes as given. -/
  take : Nat → σ → (Intake → σ → Program) → Program
  rest : Duration → σ → (σ → Program) → Program

/-- The surroundings of a process of its own. -/
def Streams.own : Streams Unit where
  put := fun stream content _ next => .put stream content next
  take := fun limit _ next => .take limit false fun intake => next intake ()
  rest := fun span _ next => .rest span false next

/-- A program that can be run in any surroundings, and goes on with a status in the end. -/
abbrev Tool := {σ : Type} → Streams σ → Start → σ → (ExitStatus → σ → Program) → Program

/-- A tool as a program of its own. -/
def Tool.program (t : Tool) (start : Start) : Program :=
  t Streams.own start () fun status _ => .finish status

/-- The programs of a system by their names. -/
abbrev Library := String → Start → Program

end CallScript
