import CallScript.CommandLine.Request
import CallScript.Run.Progress
import CallScript.Settings.Scenario

/-! # Actions

What the program does with a request: it brings together the settings file, the scenario and the command
line, runs or parses or lists, and answers with what it prints and how it ended.  Whatever is not valid in
a request is found before a server is started. -/

namespace CallScript.CommandLine

open Rpc

/-- What the program finds around it. -/
structure Surroundings (ω σ : Type) where
  /-- What starts the server of a launch. -/
  host : Launch → Run.Host ω σ
  interrupts : Launch → Run.HostInterrupts ω σ
  files : ω → Files
  /-- The same surroundings with other files. -/
  withFiles : ω → Files → ω
  /-- The directory in which the program was started. -/
  directory : String
  /-- The settings file that counts if no other is given. -/
  settingsPath : String
  search : Files → SearchPath
  palette : Run.Palette
  /-- The time as reports show it. -/
  timestamp : ω → String

/-- What came of a request. -/
structure Answer where
  /-- What is printed as the result. -/
  output : String := ""
  /-- What is shown meanwhile. -/
  progress : String := ""
  /-- Whether everything succeeded. -/
  result : Except Error Bool
  /-- Whether the program crashed before there was a result. -/
  crashed : Bool := false

/-- Declares integer-typed parameters that are given as `tool.parameter`. -/
def declareFields (schema : Schema) (fields : List String) : Except Error Schema :=
  fields.foldlM (fun schema field =>
    match schema.declareDotted field with
    | some schema => .ok schema
    | none => .error (.configuration s!"Invalid --int-field '{field}', expected tool.param")) schema

/-- The name and the value of a variable that is given as `name=value`. -/
def readVariable (given : String) : Except Error (String × Value) :=
  let chars := given.toList
  let written := chars.takeWhile (· ≠ '=')
  let name := Text.trim written
  match name, chars.drop written.length with
  | _ :: _, _ :: value => (Token.parse (String.ofList value)).map fun value => (String.ofList name, value)
  | _, _ => .error (.configuration s!"Invalid --var '{given}', expected name=value")

/-- The variables with those that are given as `name=value`. -/
def addVariables (bindings : Mapping) (given : List String) : Except Error Mapping :=
  given.foldlM (fun bindings text =>
    (readVariable text).map fun (name, value) => Fields.insert name value bindings) bindings

/-- The settings after the command line has had its say. -/
def ServerArguments.override (a : ServerArguments) (c : Config) : Config :=
  { c with
    server := a.apply c.server
    timeouts := { c.timeouts with
      requestSeconds := a.requestSeconds.getD c.timeouts.requestSeconds }
    introduction := { c.introduction with
      isEnabled := c.introduction.isEnabled && !a.skipsIntroduction } }

/-- What a run needs, put together. -/
structure RunPlan where
  scenario : Scenario
  launch : Launch
  runner : Run.Runner

section

variable {ω σ : Type} (s : Surroundings ω σ)

/-- The script that the input means: that of the one file that it names, or else the lines that it is. -/
def resolveInput (files : Files) (input : List String) : Except Error Scenario :=
  match input with
  | [path] =>
    if files.isFile s.directory path then Scenario.ofFile files s.directory path
    else .ok (Scenario.ofLines input)
  | _ => .ok (Scenario.ofLines input)

/-- The settings of the file that is given, or else of the usual one. -/
def loadSettings (files : Files) (given : Option String) : Except Error Config :=
  Config.load files s.directory s.settingsPath given

/-- Puts together what a run needs.  The scenario overrides the settings file, and the command line both. -/
def plan (files : Files) (r : RunRequest) : Except Error RunPlan := do
  let scenario ← resolveInput s files r.input
  let config ← loadSettings s files r.server.settings
  let config := { config with server := (scenario.server.map config.server.merge).getD config.server }
  let config := r.server.override config
  let config := { config with verdicts := {
    keepsGoing := config.verdicts.keepsGoing || r.keepsGoing
    failsOnReportedError := config.verdicts.failsOnReportedError || r.failsOnReportedError } }
  let launch ← config.server.launch (s.search files)
  let schema ← declareFields (config.declarations.schema.extend scenario.declarations.schema)
    r.integerFields
  let bindings ← addVariables
    (Fields.merge (variableValues config.bindings) (variableValues scenario.bindings)) r.bindings
  return { scenario, launch, runner := { options := config.options, schema, bindings } }

/-- What is shown before a run. -/
def heading (scenario : Scenario) : String :=
  let description := match scenario.description with
    | some text => "  " ++ s.palette.paint Run.Palette.faint text ++ "\n"
    | none => ""
  "\n" ++ s.palette.paint Run.Palette.boldBlue "Running:" ++ " " ++
    s.palette.paint Run.Palette.boldWhite scenario.name ++ "\n" ++ description

/-- The records of a run as they are printed. -/
def printSteps (report : Run.Report) : String :=
  (Json.arr (report.steps.map Run.Step.toJson)).pretty.push '\n'

/-- How a run ended: interrupted, or with success or not. -/
def ending (report : Run.Report) : Except Error Bool :=
  if report.interrupted then .error .interrupted else .ok report.success

/-- Writes a report to a file, if that is asked for. -/
def saveReport (path : Option String) (name : String) (report : Run.Report) (w : ω) :
    Except Error ω :=
  match path with
  | none => .ok w
  | some path =>
    (report.save (s.files w) s.directory path (some name) (s.timestamp w)).map (s.withFiles w)

/-- What a program has to say that crashed: what it had shown before. -/
def crashAnswer (progress : String) : Answer := { progress, result := .error .interrupted, crashed := true }

/-- What the report of a run comes to once the run is over. -/
def conclude (r : RunRequest) (scenario : Scenario) (report : Run.Report) (w : ω) : Answer × ω :=
  let output := printSteps report
  let progress := if r.isQuiet then "" else heading s scenario ++ report.progress s.palette
  match saveReport s r.report scenario.name report w with
  | .error e => ({ output, progress, result := .error e }, w)
  | .ok w => ({ output, progress, result := ending report }, w)

/-- Runs a script. -/
def run (r : RunRequest) (w : ω) : Answer × ω :=
  match plan s (s.files w) r with
  | .error e => ({ result := .error e }, w)
  | .ok p =>
    match p.runner.crash? (s.host p.launch) (s.interrupts p.launch) p.scenario.steps w with
    | some crash =>
      let shown := heading s p.scenario ++ String.join (crash.steps.map (Run.Step.progress s.palette))
      (crashAnswer (if r.isQuiet then "" else shown), crash.world)
    | none =>
      let (report, w) := p.runner.runUntil (s.host p.launch) (s.interrupts p.launch) p.scenario.steps w
      conclude s r p.scenario report w

/-- A parsed line as it is printed: with the call that it is, or why it is none. -/
def parsedLine (schema : Schema) (line : String) : Json :=
  match Invocation.parse schema line with
  | .ok i => .obj [("line", .str line), ("invocation", i.display)]
  | .error e => .obj [("line", .str line), ("error", (ErrorInfo.ofError e).toJson)]

/-- Parses lines. -/
def parse (files : Files) (r : ParseRequest) : Answer :=
  let schema := do
    let config ← loadSettings s files r.settings
    declareFields config.declarations.schema r.integerFields
  match schema with
  | .error e => { result := .error e }
  | .ok schema =>
    { output := (Json.arr (r.lines.map (parsedLine schema))).pretty.push '\n'
      result := .ok (r.lines.all fun line => (Invocation.parse schema line).isOk) }

/-- The tools of a server, which the client introduces itself to first, if it is to. -/
def listTools (ch : Channel σ) (int : Interrupts σ) (handshake : Option Handshake) (c : Client σ) :
    Except Stop Json × Client σ :=
  match handshake with
  | none => c.listTools ch int
  | some h =>
    match c.introduce ch int h with
    | (.error stop, c) => (.error stop, c)
    | (.ok _, c) => c.listTools ch int

/-- Lists the tools of a server. -/
def tools (server : ServerArguments) (w : ω) : Answer × ω :=
  let settings := do
    let config ← loadSettings s (s.files w) server.settings
    let config := server.override config
    let launch ← config.server.launch (s.search (s.files w))
    return (config, launch)
  match settings with
  | .error e => ({ result := .error e }, w)
  | .ok (config, launch) =>
    let host := s.host launch
    match host.start w config.timeouts.startupGrace with
    | (.error e, w) => ({ result := .error e }, w)
    | (.ok session, _) =>
      let int := (s.interrupts launch).exchange
      let introduction := config.introduction.handshake?
      let c := Client.start session (host.ids session) config.timeouts.request
      let (listed, after) := listTools host.channel int introduction c
      if after.crashed then
        let before := (listTools host.channel (int.orCrash host.channel) introduction c).2
        (crashAnswer "", host.leave before.channel)
      else
        let w := host.leave (host.stop after.channel config.timeouts.shutdownGrace)
        match listed with
        | .ok result => ({ output := result.pretty.push '\n', result := .ok true }, w)
        | .error (.failed e) => ({ result := .error e }, w)
        | .error .interrupted => ({ result := .error .interrupted }, w)

/-- Does what is asked for. -/
def perform (request : Request) (w : ω) : Answer × ω :=
  match request with
  | .run r => run s r w
  | .parse r => (parse s (s.files w) r, w)
  | .tools server => tools s server w

end

/-- The exit code that an answer comes to. -/
def Answer.exitCode (a : Answer) : Nat :=
  if a.crashed then 101
  else match a.result with
    | .ok true => 0
    | .ok false => 1
    | .error .interrupted => 130
    | .error _ => 1

/-- What the program shows in the end. -/
def Answer.complaint (a : Answer) : String :=
  match a.result with
  | .ok _ | .error .interrupted => ""
  | .error e => s!"Error: {e.message}\n"

end CallScript.CommandLine
