import CallScript.Rpc.Client
import CallScript.Run.Report
import CallScript.Run.State
import CallScript.Script.Context

/-! # Running a script

A `Runner` executes the lines of a script one after the other over one client: a line is parsed, its
references are replaced, the tool is called, and what came of it is recorded and becomes the value of
`last_result`.  The state machine of `Run.State` decides what happens next.  A run never fails: whatever
goes wrong ends up in its report. -/

namespace CallScript.Run

open Rpc

/-- How a script is run. -/
structure Options where
  policy : Policy := .abort
  /-- Whether a step fails if its result says that the tool failed. -/
  failOnReportedError : Bool := false
  requestTimeout : Duration
  /-- How long a server has to live to count as started. -/
  startupGrace : Duration
  /-- How long a server may take to stop. -/
  shutdownGrace : Duration
  /-- How the client introduces itself, if it does. -/
  handshake : Option Handshake

/-- What runs scripts: the options, the declared parameters and the caller's variables. -/
structure Runner where
  options : Options
  schema : Schema := Schema.empty
  bindings : Mapping := []

/-- What a run has come to so far. -/
structure Execution where
  plan : Plan
  state : State
  context : Context
  /-- The records of the lines executed so far, in order. -/
  steps : List Step
  sessionError : Option ErrorInfo
  interrupted : Bool

namespace Execution

/-- Reports an event to the state machine.  One that does not fit would end the run. -/
def fire (x : Execution) (event : Event) : Execution :=
  match x.state.advance x.plan event with
  | .ok next => { x with state := next }
  | .error e =>
    { x with sessionError := x.sessionError.or (some (.ofError e)), state := .aborted }

/-- Ends the run because its session did not start. -/
def failSession (x : Execution) (e : Error) : Execution :=
  { x with sessionError := some (.ofError e) }.fire .sessionFailed

/-- Ends the run because it was interrupted. -/
def interrupt (x : Execution) : Execution :=
  let x := { x with interrupted := true }
  if x.state.isTerminal then x else x.fire .interrupted

/-- The report of the run. -/
def report (x : Execution) : Report :=
  let r := Report.ofSteps x.plan.total x.steps x.sessionError
  if x.interrupted then r.markInterrupted else r

end Execution

/-- The record of a step that failed from an error. -/
def Step.fail (s : Step) (e : Error) : Step := { s with error := some (.ofError e) }

/-- The whole milliseconds between two looks at the clock. -/
def millisBetween (first last : Duration) : Nat := (last.micros - first.micros) / 1000

/-- What a step came to: its record, the context after it, and whether its failure was fatal. -/
structure StepEnd where
  step : Step
  context : Context
  isFatal : Bool

namespace Runner

variable {σ : Type} (ch : Channel σ) (int : Interrupts σ) (r : Runner)

/-- A run that has not begun. -/
def fresh (total : Nat) : Execution where
  plan := ⟨total, r.options.policy⟩
  state := .idle
  context := { bindings := r.bindings }
  steps := []
  sessionError := none
  interrupted := false

/-- The record of an answered call, and the context after it. -/
def answered (s : Step) (tool : String) (context : Context) : Outcome → StepEnd
  | .success payload =>
    let context := context.record payload
    let s := { s with payload := some payload }
    if r.options.failOnReportedError && reportsError payload then
      let error : ErrorInfo :=
        { kind := .tool, message := s!"Tool '{tool}' reported isError", data := some payload }
      ⟨{ s with error := some error }, context, false⟩
    else ⟨{ s with success := true }, context, false⟩
  | .failure e =>
    let data := e.toJson
    let error := ErrorInfo.ofError (.toolFailed Client.callMethod e.code e.message)
    ⟨{ s with error := some { error with data := some data } }, context.record data, false⟩

/-- The arguments of a call: its parameters with all references replaced. -/
def arguments (context : Context) (i : Invocation) : Except Error Json :=
  match context.interpolate i.parameters with
  | .error e => .error e
  | .ok resolved => resolved.toJson

/-- The record of a call that has been sent, from the ids that the client used last before and after. -/
def sent (s : Step) (before after : Option Int64) : Step :=
  if after = before then s else { s with requestId := after }

/-- Executes one line, up to its duration. -/
def execute (c : Client σ) (context : Context) (s : Step) : Except Stop StepEnd × Client σ :=
  match Invocation.parse r.schema s.line with
  | .error e => (.ok ⟨s.fail e, context, false⟩, c)
  | .ok i =>
    let s := { s with invocation := some i }
    match arguments context i with
    | .error e => (.ok ⟨s.fail e, context, false⟩, c)
    | .ok arguments =>
      let before := c.lastId
      match Client.callTool ch int c i.tool arguments with
      | (.error .interrupted, c) => (.error .interrupted, c)
      | (.error (.failed e), c) =>
        (.ok ⟨(sent s before c.lastId).fail e, context, e.isFatal⟩, c)
      | (.ok response, c) =>
        (.ok (answered r (sent s before c.lastId) i.tool context response.outcome), c)

/-- Executes one line and takes the time. -/
def runStep (c : Client σ) (context : Context) (index : Nat) (line : String) :
    Except Stop StepEnd × Client σ :=
  let first := ch.clock c.channel
  match execute ch int r { c with channel := first.2 } context { index, line } with
  | (.error stop, c) => (.error stop, c)
  | (.ok ended, c) =>
    let last := ch.clock c.channel
    (.ok { ended with step := { ended.step with millis := millisBetween first.1 last.1 } },
      { c with channel := last.2 })

/-- Executes lines for as long as the state machine asks for one; `fuel` bounds their number. -/
def runLines (lines : List String) : (fuel : Nat) → Execution → Client σ → Execution × Client σ
  | 0, x, c => (x, c)
  | fuel + 1, x, c =>
    match x.state with
    | .executing index =>
      match lines[index]? with
      | none => (x.fire .sessionFailed, c)
      | some line =>
        match runStep ch int r c x.context index line with
        | (.error _, c) => (x.interrupt, c)
        | (.ok ended, c) =>
          let event := if ended.step.success then .stepPassed else .stepFailed ended.isFatal
          let x := { x with context := ended.context, steps := x.steps ++ [ended.step] }
          runLines lines fuel ((x.fire event).fire .next) c
    | _ => (x, c)

/-- Introduces the client, if it is to be, and executes the lines. -/
def drive (lines : List String) (x : Execution) (c : Client σ) : Execution × Client σ :=
  let ready := fun (c : Client σ) =>
    runLines ch int r lines lines.length ((x.fire .sessionReady).fire .next) c
  match r.options.handshake with
  | none => ready c
  | some h =>
    match Client.introduce ch int c h with
    | (.ok _, c) => ready c
    | (.error (.failed e), c) => (x.failSession e, c)
    | (.error .interrupted, c) => (x.interrupt, c)

/-- Runs a script over a client whose channel is there already, and stays there. -/
def runOn (lines : List String) (c : Client σ) : Report × Client σ :=
  let driven := drive ch (Interrupts.never σ) r lines ((fresh r lines.length).fire .start) c
  (driven.1.report, driven.2)

end Runner

/-- A way to start and stop servers. -/
structure Host (ω σ : Type) where
  /-- Starts a server, which has to live for the span of time given. -/
  start : ω → Duration → Except Error σ × ω
  channel : Channel σ
  /-- The ids that the session hands out. -/
  ids : σ → Ids
  /-- Stops the server, which may take the span of time given. -/
  stop : σ → Duration → σ
  /-- What is left of the world when the session is over. -/
  leave : σ → ω

/-- The operations of a host that an interrupt cuts off. -/
structure HostInterrupts (ω σ : Type) where
  /-- While the server is being started. -/
  start? : ω → Duration → Option ω
  exchange : Interrupts σ

/-- No interrupt ever comes. -/
def HostInterrupts.never (ω σ : Type) : HostInterrupts ω σ := ⟨fun _ _ => none, .never σ⟩

namespace Runner

variable {ω σ : Type}

/-- Starts a server, runs a script over it and stops the server; stops early when interrupted. -/
def runUntil (host : Host ω σ) (int : HostInterrupts ω σ) (r : Runner) (lines : List String) (w : ω) :
    Report × ω :=
  let x := (fresh r lines.length).fire .start
  match int.start? w r.options.startupGrace with
  | some w => (x.interrupt.report, w)
  | none =>
    match host.start w r.options.startupGrace with
    | (.error e, w) => ((x.failSession e).report, w)
    | (.ok session, _) =>
      let c := Client.start session (host.ids session) r.options.requestTimeout
      let driven := drive host.channel int.exchange r lines x c
      let stopped := host.stop driven.2.channel r.options.shutdownGrace
      (driven.1.report, host.leave stopped)

/-- What a crash of the program leaves of a run. -/
structure Crash (ω : Type) where
  /-- The records of the lines executed before. -/
  steps : List Step
  /-- The world; the server has not been stopped in it. -/
  world : ω

/-- What is left if the program crashes in a run; the report of the run is never seen then. -/
def crash? (host : Host ω σ) (int : HostInterrupts ω σ) (r : Runner) (lines : List String) (w : ω) :
    Option (Crash ω) :=
  match int.start? w r.options.startupGrace, host.start w r.options.startupGrace with
  | none, (.ok session, _) =>
    let x := (fresh r lines.length).fire .start
    let c := Client.start session (host.ids session) r.options.requestTimeout
    if (drive host.channel int.exchange r lines x c).2.crashed then
      let before := drive host.channel (int.exchange.orCrash host.channel) r lines x c
      some ⟨before.1.steps, host.leave before.2.channel⟩
    else none
  | _, _ => none

/-- Starts a server, runs a script over it and stops the server. -/
def run (host : Host ω σ) (r : Runner) (lines : List String) (w : ω) : Report × ω :=
  runUntil host (.never ω σ) r lines w

end Runner

end CallScript.Run
