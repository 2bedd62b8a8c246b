import CallScript.Number.Bounds
import CallScript.Text.Word

/-! # Options of a command line

A command takes options, which start with a hyphen, and perhaps other arguments.  `Reading.readAll` sorts
the arguments of a command accordingly: it attaches values to options, lets `--` end the options, and
refuses what the command does not know.  The value of an option is examined only when the next argument
that is understood, or the end, shows that it is complete. -/

namespace CallScript.CommandLine

/-- Why arguments are refused, or that they ask for a text about the program. -/
inductive UsageFlaw where
  | unknownArgument
  | unknownCommand
  | missingCommand
  | missingArgument
  /-- An option lacks its value. -/
  | missingValue
  /-- The value of an option is not of its kind. -/
  | unfitValue
  /-- An option that takes no value has one. -/
  | surplusValue
  /-- An option that may be given once is given twice. -/
  | repeated
  | helpWanted
  | versionWanted
  /-- Nothing is asked for, so help is given. -/
  | nothingWanted
  deriving DecidableEq, Repr

namespace UsageFlaw

/-- The exit code of the program. -/
def exitCode : UsageFlaw → Nat
  | helpWanted | versionWanted => 0
  | _ => 2

end UsageFlaw

/-- What values an option takes. -/
inductive ValueKind where
  /-- None at all. -/
  | flag
  | text
  /-- A text that is not empty. -/
  | path
  /-- A natural number below `2 ^ 64`. -/
  | count
  deriving DecidableEq, Repr

/-- An option. -/
structure OptionSpec where
  name : String
  letter : Option Char := none
  kind : ValueKind := .flag
  /-- Whether it may be given more than once. -/
  isRepeatable : Bool := false
  /-- Whether its value may start with a hyphen. -/
  takesHyphens : Bool := false
  deriving DecidableEq, Repr

/-- What a command takes. -/
structure CommandSpec where
  options : List OptionSpec
  /-- Whether it takes arguments other than options; then it needs at least one. -/
  takesArguments : Bool := false

/-- The natural number below `2 ^ 64` that a text is. -/
def count? (s : String) : Option Nat :=
  let digits := match s.toList with
    | '+' :: rest => rest
    | all => all
  if digits.isEmpty || !digits.all Text.isDigit then none
  else
    let n := Text.digitsToNat digits
    if n < Bounds.unsigned then some n else none

namespace OptionSpec

/-- Examines a value. -/
def examine (o : OptionSpec) (value : String) : Except UsageFlaw Unit :=
  match o.kind with
  | .path => if value.isEmpty then .error .missingValue else .ok ()
  | .count => if (count? value).isNone then .error .unfitValue else .ok ()
  | .flag | .text => .ok ()

end OptionSpec

/-- What has been read of the arguments of a command. -/
structure Reading where
  /-- The options with their values, in order. -/
  given : List (String × String) := []
  /-- The other arguments, in order. -/
  arguments : List String := []
  /-- The option whose value is to come, or has come and is not examined yet. -/
  pending : Option (OptionSpec × Option String) := none
  /-- Whether the options have ended. -/
  isTrailing : Bool := false

namespace Reading

/-- Whether an option has been given. -/
def has (r : Reading) (name : String) : Bool := r.given.any fun given => given.1 = name

/-- The value of an option that is given once. -/
def value? (r : Reading) (name : String) : Option String :=
  (r.given.find? fun given => given.1 = name).map Prod.snd

/-- The values of an option that may be given more than once. -/
def values (r : Reading) (name : String) : List String :=
  (r.given.filter fun given => given.1 = name).map Prod.snd

/-- Takes an option with its value. -/
def give (r : Reading) (o : OptionSpec) (value : String) : Except UsageFlaw Reading :=
  if !o.isRepeatable && r.has o.name then .error .repeated
  else match o.examine value with
    | .error flaw => .error flaw
    | .ok () => .ok { r with given := r.given ++ [(o.name, value)] }

/-- Takes the option that is pending. -/
def settle (r : Reading) : Except UsageFlaw Reading :=
  match r.pending with
  | none => .ok r
  | some (_, none) => .error .missingValue
  | some (o, some value) => { r with pending := none }.give o value

/-- Takes an option that has no value. -/
def flag (r : Reading) (o : OptionSpec) : Except UsageFlaw Reading := do
  let r ← r.settle
  match o.name with
  | "help" => .error .helpWanted
  | "version" => .error .versionWanted
  | _ => r.give o ""

/-- The name and the attached value of an argument that starts with two hyphens. -/
def longParts (s : List Char) : String × Option String :=
  let name := s.takeWhile (· ≠ '=')
  (String.ofList name, match s.drop name.length with
    | _ :: value => some (String.ofList value)
    | [] => none)

/-- Takes an argument that starts with two hyphens. -/
def long (spec : CommandSpec) (r : Reading) (s : List Char) : Except UsageFlaw Reading :=
  let (name, value?) := longParts s
  match spec.options.find? fun o => o.name = name, value? with
  | none, _ => .error .unknownArgument
  | some o, value? =>
    match decide (o.kind = .flag), value? with
    | true, some _ => .error .surplusValue
    | true, none => r.flag o
    | false, some value => do (← r.settle).give o value
    | false, none => do return { (← r.settle) with pending := some (o, none) }

/-- Takes the letters of an argument that starts with one hyphen. -/
def short (spec : CommandSpec) : List Char → Reading → Except UsageFlaw Reading
  | [], r => .ok r
  | c :: rest, r =>
    match spec.options.find? fun o => o.letter = some c with
    | none => .error .unknownArgument
    | some o =>
      match r.flag o with
      | .ok r => short spec rest r
      | .error flaw => .error flaw

/-- Takes an argument that is no option. -/
def positional (spec : CommandSpec) (r : Reading) (argument : String) : Except UsageFlaw Reading :=
  if spec.takesArguments then do
    let r ← r.settle
    return { r with arguments := r.arguments ++ [argument] }
  else .error .unknownArgument

/-- The option that waits for a value. -/
def waiting? (r : Reading) : Option OptionSpec :=
  match r.pending with
  | some (o, none) => some o
  | _ => none

/-- Takes one argument. -/
def step (spec : CommandSpec) (r : Reading) (argument : String) : Except UsageFlaw Reading :=
  let take := fun (o : OptionSpec) => Except.ok { r with pending := some (o, some argument) }
  if r.isTrailing then positional spec r argument
  else match r.waiting?, argument.toList with
    | some o, s =>
      if o.takesHyphens then take o
      else match s with
        | ['-', '-'] => .ok { r with isTrailing := true }
        | '-' :: '-' :: rest => long spec r rest
        | '-' :: c :: rest => short spec (c :: rest) r
        | _ => take o
    | none, ['-', '-'] => .ok { r with isTrailing := true }
    | none, '-' :: '-' :: rest => long spec r rest
    | none, '-' :: c :: rest => short spec (c :: rest) r
    | none, _ => positional spec r argument

/-- Reads all arguments of a command. -/
def readAll (spec : CommandSpec) (arguments : List String) : Except UsageFlaw Reading := do
  let r ← (← arguments.foldlM (step spec) {}).settle
  if spec.takesArguments && r.arguments.isEmpty then .error .missingArgument else return r

end Reading

end CallScript.CommandLine
