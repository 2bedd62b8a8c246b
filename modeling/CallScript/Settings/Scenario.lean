import CallScript.Script.Lines
import CallScript.Settings.Config
import CallScript.Yaml.Form

/-! # Scenarios

A script with what belongs to it: a name, the server to run against, variables, and integer-typed
parameters.  Scenarios are written in YAML; any other file is a script of plain lines.  Relative paths of
the server start from the directory of the scenario's file (`ServerSettings.anchored`). -/

namespace CallScript

/-- The settings with relative paths taken from a directory.  A bare name of a command stays as it is. -/
def ServerSettings.anchored (directory : String) (s : ServerSettings) : ServerSettings :=
  let join := fun (path : String) => String.ofList (Path.join directory.toList path.toList)
  { s with
    command := s.command.map fun command =>
      if command.toList.contains Path.separator then join command else command
    directory := s.directory.map join }

/-- A script with what belongs to it. -/
structure Scenario where
  name : String
  description : Option String := none
  server : Option ServerSettings := none
  /-- The caller's variables, in order of their names. -/
  bindings : List (String × Json) := []
  declarations : Declarations := []
  /-- The lines to execute, in order. -/
  steps : List String

namespace Scenario

/-- The names of a scenario's parts. -/
def partNames : List String := ["name", "description", "server", "variables", "schema", "steps"]

/-- The scenario that a document holds. -/
def ofDocument? {δ : Type} (form : Form δ) (d : δ) : Option Scenario := do
  let parts ← form.record? partNames d
  return {
    name := ← parts.required 0 "name" form.text?
    description := ← parts.optional form 1 "description" form.text?
    server := ← parts.optional form 2 "server" (ServerSettings.ofDocument? form)
    bindings := ← parts.defaulted 3 "variables" (form.mapping? form.json?) []
    declarations := ← parts.defaulted 4 "schema" (form.mapping? (form.list? form.text?)) []
    steps := ← parts.required 5 "steps" (form.list? form.text?) }

/-- What of a document is looked at: the parts of a scenario, and in it those of the server's settings. -/
def extent : Yaml.Extent :=
  .fields (partNames.map fun name =>
    (name, if name = "server" then .fields (ServerSettings.partNames.map (·, .whole)) else .whole))

/-- The scenario that a YAML text holds. -/
def ofYaml? (content : String) : Option Scenario := do
  let document ← Yaml.Document.read? content
  if document.isBounded extent then ofDocument? Yaml.View.form document.view else none

/-- Whether a file of a path holds a scenario in YAML. -/
def isYaml (path : String) : Bool :=
  match Path.extension? path.toList with
  | some extension => extension = "yaml".toList || extension = "yml".toList
  | none => false

/-- The script that a file's text is, by the path of the file. -/
def ofText (path content : String) : Except Error Scenario :=
  if isYaml path then
    match ofYaml? content with
    | none => .error (.configuration s!"Failed to parse scenario '{path}': not a scenario")
    | some scenario =>
      let directory := String.ofList ((Path.parent? path.toList).getD ['.'])
      .ok { scenario with server := scenario.server.map (·.anchored directory) }
  else .ok {
    name := ((Path.fileStem? path.toList).map String.ofList).getD ""
    steps := Script.lines content }

/-- The script of a file. -/
def ofFile (files : Files) (directory path : String) : Except Error Scenario :=
  match files.readText directory path with
  | .error flaw => .error (.fileRead path flaw.message)
  | .ok content => ofText path content

/-- Lines that are given as they are. -/
def ofLines (lines : List String) : Scenario := { name := "command line", steps := lines }

end Scenario

end CallScript
