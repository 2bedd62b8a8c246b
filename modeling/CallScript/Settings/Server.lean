import CallScript.Error
import CallScript.Session.Launch
import CallScript.Settings.Form

/-! # Server settings

Which server to run, and how.  Settings come in layers; `ServerSettings.merge` lays one over another.
Arguments belong to a command: a layer that sets the command also sets the arguments. -/

namespace CallScript

/-- How to run a server, as far as one layer of settings says. -/
structure ServerSettings where
  command : Option String := none
  arguments : List String := []
  directory : Option String := none
  /-- Variables of the server's environment, in order of their names. -/
  environment : List (String × String) := []
  deriving DecidableEq, Repr

namespace ServerSettings

/-- The settings with others laid over them. -/
def merge (base upper : ServerSettings) : ServerSettings where
  command := upper.command.or base.command
  arguments :=
    if upper.command.isSome || !upper.arguments.isEmpty then upper.arguments else base.arguments
  directory := upper.directory.or base.directory
  environment := Fields.merge base.environment upper.environment

/-- How to start the server; fails without a command. -/
def launch (search : SearchPath) (s : ServerSettings) : Except Error Launch :=
  match s.command with
  | none => .error (.configuration
      "No server command configured. Pass --server <cmd> or set [server] command")
  | some command => .ok {
      program := search.resolve command
      arguments := s.arguments
      directory := s.directory
      environment := s.environment }

/-- The names of the parts of server settings. -/
def partNames : List String := ["command", "args", "cwd", "env"]

/-- The settings that a document holds. -/
def ofDocument? {δ : Type} (form : Form δ) (d : δ) : Option ServerSettings := do
  let parts ← form.record? partNames d
  return {
    command := ← parts.optional form 0 "command" form.text?
    arguments := ← parts.defaulted 1 "args" (form.list? form.text?) []
    directory := ← parts.optional form 2 "cwd" form.text?
    environment := ← parts.defaulted 3 "env" (form.mapping? form.text?) [] }

end ServerSettings

end CallScript
