import CallScript.CommandLine.Action
import CallScript.Session.Channel
import CallScript.System.Clock
import CallScript.System.Standard

/-! # The program on a machine

The surroundings of the program on a machine of the standard system, and what it does there with its
arguments from beginning to end. -/

namespace CallScript.CommandLine

/-- The jobs of the standard system. -/
def jobs : Spawner Machine Job := Job.spawner .standard

/-- The surroundings of the program on a machine. -/
def onMachine (machine : Machine) (settingsPath : String) (palette : Run.Palette) :
    Surroundings Machine (Session Job) where
  host := Session.host jobs
  interrupts := fun _ => .never Machine (Session Job)
  files := fun machine => machine.files
  withFiles := fun machine files => { machine with files }
  directory := machine.directory
  settingsPath := settingsPath
  search := SearchPath.standard
  palette := palette
  timestamp := fun machine => Clock.timestamp machine.now

/-- The usual settings file: in the directory for settings, which is in the home directory unless another
one is configured. -/
def usualSettings (configured home : Option String) : Option String :=
  let directory := (configured.filter fun path => Path.isAbsolute path.toList).or
    (home.map (· ++ "/.config"))
  directory.map (· ++ "/" ++ programName ++ "/config.toml")

/-- What the program leaves behind, on a machine of a type. -/
structure Ending (ω : Type) where
  output : String := ""
  errors : String := ""
  code : Nat
  machine : ω

/-- What the program says when its arguments cannot be used, or ask for a text about it. -/
def usageText (flaw : UsageFlaw) : String × String :=
  let help := "Usage: mcp-probe [OPTIONS] <COMMAND>\n\nCommands:\n" ++
    "  run    Run DSL lines against a server and print the step results as JSON\n" ++
    "  parse  Parse DSL lines without running them\n" ++
    "  tools  Start the server and print its tool list\n" ++
    "  help   Print this message or the help of the given subcommand(s)\n"
  match flaw with
  | .versionWanted => (programName ++ " " ++ version ++ "\n", "")
  | .helpWanted => (help, "")
  | _ => ("", help)

/-- Runs the program with arguments. -/
def runProgram {ω σ : Type} (s : Surroundings ω σ) (arguments : List String) (machine : ω) : Ending ω :=
  match Request.ofArguments .program arguments with
  | .error flaw =>
    let (output, errors) := usageText flaw
    { output, errors, code := flaw.exitCode, machine }
  | .ok request =>
    let (answer, machine) := perform s request machine
    { output := answer.output
      errors := answer.progress ++ answer.complaint
      code := answer.exitCode
      machine }

end CallScript.CommandLine
