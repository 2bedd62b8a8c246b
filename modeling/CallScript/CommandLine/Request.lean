import CallScript.CommandLine.Option
import CallScript.Settings.Server

/-! # Requests

What the program can be asked to do, and how the command line asks for it: to run a script, to parse
lines, or to list the tools of a server.  A `Frame` tells the commands alone from the program that holds
them, which has options of its own. -/

namespace CallScript.CommandLine

/-- What the command line says about the server. -/
structure ServerArguments where
  command : Option String := none
  arguments : List String := []
  directory : Option String := none
  /-- The seconds that the server may take to answer. -/
  requestSeconds : Option Nat := none
  /-- Whether the client does not introduce itself. -/
  skipsIntroduction : Bool := false
  /-- The settings file. -/
  settings : Option String := none
  deriving DecidableEq, Repr

/-- The layer of server settings that the command line makes. -/
def ServerArguments.layer (s : ServerArguments) : ServerSettings where
  command := s.command
  arguments := s.arguments
  directory := s.directory

/-- Server settings after the command line has had its say.  Arguments belong to a command: those of the
settings do not go to a command that the command line gives. -/
def ServerArguments.apply (a : ServerArguments) (s : ServerSettings) : ServerSettings where
  command := a.command.or s.command
  arguments := match a.command with
    | some _ => a.arguments
    | none => if a.arguments.isEmpty then s.arguments else a.arguments
  directory := a.directory.or s.directory
  environment := s.environment

/-- What is to be run, and how. -/
structure RunRequest where
  /-- A file, or lines. -/
  input : List String
  server : ServerArguments := {}
  /-- Variables, each as `name=value`. -/
  bindings : List String := []
  /-- Integer-typed parameters, each as `tool.parameter`. -/
  integerFields : List String := []
  keepsGoing : Bool := false
  failsOnReportedError : Bool := false
  /-- The file that the report is written to. -/
  report : Option String := none
  isQuiet : Bool := false
  deriving DecidableEq, Repr

/-- Lines to be parsed, and how. -/
structure ParseRequest where
  lines : List String
  integerFields : List String := []
  settings : Option String := none
  deriving DecidableEq, Repr

/-- What the program is asked to do. -/
inductive Request where
  | run (r : RunRequest)
  | parse (r : ParseRequest)
  | tools (server : ServerArguments)
  deriving DecidableEq, Repr

/-- The option that asks for help, which stands everywhere. -/
def helpOption : OptionSpec := ⟨"help", some 'h', .flag, false, false⟩

/-- What a program adds to the commands. -/
structure Frame where
  /-- Options before the command and after it. -/
  everywhere : List OptionSpec := []
  /-- Options before the command only. -/
  before : List OptionSpec := []

namespace Frame

/-- The commands alone. -/
def bare : Frame := {}

/-- The commands of the program, which can be asked to show more, and for its version. -/
def program : Frame where
  everywhere := [⟨"verbose", some 'v', .flag, false, false⟩]
  before := [⟨"version", some 'V', .flag, false, false⟩]

/-- The options that every command takes. -/
def commonOptions (f : Frame) : List OptionSpec := helpOption :: f.everywhere

/-- The options before a command. -/
def topOptions (f : Frame) : List OptionSpec := f.before ++ f.commonOptions

end Frame

/-- An option that takes one value. -/
def valued (name : String) (kind : ValueKind) : OptionSpec := { name, kind }

/-- An option that may be given with several values. -/
def listed (name : String) : OptionSpec := { name, kind := .text, isRepeatable := true }

/-- The options about the server. -/
def serverOptions : List OptionSpec := [valued "server" .text,
  { listed "server-arg" with takesHyphens := true }, valued "cwd" .path, valued "timeout" .count,
  { name := "no-handshake" }, valued "config" .path]

/-- What the command that runs scripts takes. -/
def runSpec (f : Frame) : CommandSpec where
  takesArguments := true
  options := f.commonOptions ++ serverOptions ++ [listed "var", listed "int-field",
    { name := "keep-going" }, { name := "fail-on-is-error" }, valued "report" .path,
    { name := "quiet", letter := some 'q' }]

/-- What the command that parses lines takes. -/
def parseSpec (f : Frame) : CommandSpec where
  takesArguments := true
  options := f.commonOptions ++ [listed "int-field", valued "config" .path]

/-- What the command that lists tools takes. -/
def toolsSpec (f : Frame) : CommandSpec where
  options := f.commonOptions ++ serverOptions

namespace Reading

/-- What the options say about the server. -/
def server (r : Reading) : ServerArguments where
  command := r.value? "server"
  arguments := r.values "server-arg"
  directory := r.value? "cwd"
  requestSeconds := (r.value? "timeout").bind count?
  skipsIntroduction := r.has "no-handshake"
  settings := r.value? "config"

/-- The request to run a script. -/
def run (r : Reading) : RunRequest where
  input := r.arguments
  server := r.server
  bindings := r.values "var"
  integerFields := r.values "int-field"
  keepsGoing := r.has "keep-going"
  failsOnReportedError := r.has "fail-on-is-error"
  report := r.value? "report"
  isQuiet := r.has "quiet"

/-- The request to parse lines. -/
def parse (r : Reading) : ParseRequest where
  lines := r.arguments
  integerFields := r.values "int-field"
  settings := r.value? "config"

end Reading

namespace Request

/-- The names of the commands. -/
def commandNames : List String := ["run", "parse", "tools", "help"]

/-- What comes of asking for help, perhaps with a command. -/
def helpOn : List String → UsageFlaw
  | [] => .helpWanted
  | [command] => if commandNames.contains command then .helpWanted else .unknownCommand
  | _ => .unknownCommand

/-- The request that a command makes with its arguments. -/
def ofCommand (f : Frame) (command : String) (arguments : List String) : Except UsageFlaw Request :=
  match command with
  | "run" => (Reading.readAll (runSpec f) arguments).map fun r => .run r.run
  | "parse" => (Reading.readAll (parseSpec f) arguments).map fun r => .parse r.parse
  | "tools" => (Reading.readAll (toolsSpec f) arguments).map fun r => .tools r.server
  | "help" => .error (helpOn arguments)
  | _ => .error .unknownCommand

/-- Reads arguments up to the command. -/
def readTop (f : Frame) (r : Reading) : List String → Except UsageFlaw Request
  | [] => .error (if r.given.isEmpty then .nothingWanted else .missingCommand)
  | argument :: rest =>
    if r.isTrailing then
      .error (if commandNames.contains argument then .unknownArgument else .unknownCommand)
    else if commandNames.contains argument then ofCommand f argument rest
    else match argument.toList with
      | '-' :: _ :: _ => do readTop f (← r.step { options := f.topOptions } argument) rest
      | _ => .error .unknownCommand

/-- The request that a command line makes. -/
def ofArguments (f : Frame) (arguments : List String) : Except UsageFlaw Request :=
  readTop f {} arguments

/-- The file that a request has its report written to. -/
def report? : Request → Option String
  | .run r => r.report
  | _ => none

/-- The paths that a request names: what it reads and writes, and where its server works. -/
def paths : Request → List String
  | .run r => r.input ++ r.server.settings.toList ++ r.server.directory.toList ++ r.report.toList
  | .parse r => r.settings.toList
  | .tools server => server.settings.toList ++ server.directory.toList

end Request

end CallScript.CommandLine
