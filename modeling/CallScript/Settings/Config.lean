import CallScript.Run.Runner
import CallScript.Settings.Server
import CallScript.Toml.Reader

/-! # The settings file

What a settings file can say: which server to run, how long to wait, how the client introduces itself,
what follows a failed step, and the variables and integer-typed parameters of scripts.  Everything has a
default; sections and keys that are not known do not count. -/

namespace CallScript

/-- How long to wait. -/
structure Timeouts where
  /-- The milliseconds that a server has to live to count as started. -/
  startupGraceMillis : Nat := 500
  /-- The seconds that a server may take to answer. -/
  requestSeconds : Nat := 10
  /-- The seconds that a server may take to stop. -/
  shutdownGraceSeconds : Nat := 5
  deriving DecidableEq, Repr

namespace Timeouts

/-- How long a server has to live to count as started. -/
def startupGrace (t : Timeouts) : Duration := .ofMillis t.startupGraceMillis

/-- How long a server may take to answer. -/
def request (t : Timeouts) : Duration := .ofSeconds t.requestSeconds

/-- How long a server may take to stop. -/
def shutdownGrace (t : Timeouts) : Duration := .ofSeconds t.shutdownGraceSeconds

/-- The timeouts that a document holds. -/
def ofDocument? {δ : Type} (form : Form δ) (d : δ) : Option Timeouts := do
  let parts ← form.record? ["startup_grace_ms", "request_secs", "shutdown_grace_secs"] d
  return {
    startupGraceMillis := ← parts.defaulted 0 "startup_grace_ms" form.count? 500
    requestSeconds := ← parts.defaulted 1 "request_secs" form.count? 10
    shutdownGraceSeconds := ← parts.defaulted 2 "shutdown_grace_secs" form.count? 5 }

end Timeouts

/-- The version of the program, by which the client introduces itself. -/
def version : String := "0.1.0"

/-- The name of the program, by which the client introduces itself. -/
def programName : String := "mcp-probe"

/-- Whether and how the client introduces itself. -/
structure Introduction where
  isEnabled : Bool := true
  handshake : Rpc.Handshake := ⟨"2024-11-05", programName, version⟩

namespace Introduction

/-- How the client introduces itself, if it does. -/
def handshake? (i : Introduction) : Option Rpc.Handshake := if i.isEnabled then some i.handshake else none

/-- The introduction that a document holds. -/
def ofDocument? {δ : Type} (form : Form δ) (d : δ) : Option Introduction := do
  let default : Introduction := {}
  let parts ← form.record? ["enabled", "protocol_version", "client_name", "client_version"] d
  let isEnabled ← parts.defaulted 0 "enabled" form.flag? true
  let handshake : Rpc.Handshake := {
    protocolVersion :=
      ← parts.defaulted 1 "protocol_version" form.text? default.handshake.protocolVersion
    clientName := ← parts.defaulted 2 "client_name" form.text? default.handshake.clientName
    clientVersion := ← parts.defaulted 3 "client_version" form.text? default.handshake.clientVersion }
  return { isEnabled, handshake }

end Introduction

/-- What counts as a failure, and what follows one. -/
structure Verdicts where
  /-- Whether the run goes on after a failed step. -/
  keepsGoing : Bool := false
  /-- Whether a step fails if its result says that the tool failed. -/
  failsOnReportedError : Bool := false
  deriving DecidableEq, Repr

namespace Verdicts

/-- What follows a failed step. -/
def policy (v : Verdicts) : Run.Policy := if v.keepsGoing then .proceed else .abort

/-- The verdicts that a document holds. -/
def ofDocument? {δ : Type} (form : Form δ) (d : δ) : Option Verdicts := do
  let parts ← form.record? ["keep_going", "fail_on_is_error"] d
  return {
    keepsGoing := ← parts.defaulted 0 "keep_going" form.flag? false
    failsOnReportedError := ← parts.defaulted 1 "fail_on_is_error" form.flag? false }

end Verdicts

/-- Integer-typed parameters by tool, as they are written. -/
abbrev Declarations := List (String × List String)

/-- The schema that declarations make. -/
def Declarations.schema (declarations : Declarations) : Schema :=
  declarations.foldl (fun schema (tool, parameters) =>
    parameters.foldl (fun schema parameter => schema.declare tool parameter) schema) Schema.empty

/-- The values of variables that are given as JSON. -/
def variableValues (bindings : List (String × Json)) : Mapping :=
  bindings.map fun (name, j) => (name, Value.ofJson j)

/-- The settings of a file. -/
structure Config where
  server : ServerSettings := {}
  timeouts : Timeouts := {}
  introduction : Introduction := {}
  verdicts : Verdicts := {}
  /-- The caller's variables, in order of their names. -/
  bindings : List (String × Json) := []
  declarations : Declarations := []

namespace Config

/-- The integer-typed parameters that a document declares for a tool. -/
def declared? {δ : Type} (form : Form δ) (d : δ) : Option (List String) := do
  let parts ← form.record? ["integer_fields"] d
  parts.defaulted 0 "integer_fields" (form.list? form.text?) []

/-- The settings that a document holds. -/
def ofDocument? {δ : Type} (form : Form δ) (d : δ) : Option Config := do
  let parts ← form.record? ["server", "timeouts", "handshake", "runner", "variables", "schema"] d
  return {
    server := ← parts.defaulted 0 "server" (ServerSettings.ofDocument? form) {}
    timeouts := ← parts.defaulted 1 "timeouts" (Timeouts.ofDocument? form) {}
    introduction := ← parts.defaulted 2 "handshake" (Introduction.ofDocument? form) {}
    verdicts := ← parts.defaulted 3 "runner" (Verdicts.ofDocument? form) {}
    bindings := ← parts.defaulted 4 "variables" (form.mapping? form.json?) []
    declarations := ← parts.defaulted 5 "schema" (form.mapping? (declared? form)) [] }

/-- The settings of a file's text. -/
def ofText (content : String) : Except Error Config :=
  match Toml.read? content with
  | none => .error (.invalidConfiguration "not a TOML document")
  | some document =>
    match ofDocument? Toml.form document with
    | none => .error (.invalidConfiguration "a value is not of the type that its key calls for")
    | some config => .ok config

/-- The settings of a file. -/
def ofFile (files : Files) (directory path : String) : Except Error Config :=
  match files.readText directory path with
  | .error flaw => .error (.fileRead path flaw.message)
  | .ok content => ofText content

/-- The settings of a given file, which has to exist, or else of the usual one, which need not. -/
def load (files : Files) (directory : String) (usual : String) (given : Option String) :
    Except Error Config :=
  match given with
  | some path => ofFile files directory path
  | none => if files.pathExists directory usual then ofFile files directory usual else .ok {}

/-- How scripts are run under the settings. -/
def options (c : Config) : Run.Options where
  policy := c.verdicts.policy
  failOnReportedError := c.verdicts.failsOnReportedError
  requestTimeout := c.timeouts.request
  startupGrace := c.timeouts.startupGrace
  shutdownGrace := c.timeouts.shutdownGrace
  handshake := c.introduction.handshake?

end Config

end CallScript
