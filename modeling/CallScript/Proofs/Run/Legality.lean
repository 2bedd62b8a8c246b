import CallScript.Proofs.Run.Tally
import CallScript.Proofs.Run.Watching

/-! # The strict driver

What drives a run reports events to the state machine and looks lines up by the indices that the machine asks
for.  An event that does not fit would end the run with an internal error, and an index beyond the script
would fail the session.  The strict driver does what the driver does, except that it has a result only if
neither comes to pass: at the first event that does not fit, and at the first line that is not there, it stops
with a `Misstep`.  It always has a result, which is that of the driver.

* `Onward`: between two steps a run is at its end, or at a line that is there.
* `strictLines_eq`, `strictDrive_eq`: the lines of a script and a whole script, without a misstep.
* `every_event_fits`: what a run over a channel and a run from start to stop come to, and why. -/

namespace CallScript.Run

open Rpc

/-! ### Missteps -/

/-- What a driver must not do. -/
inductive Misstep where
  /-- An event was reported that does not fit the state. -/
  | event (state : State) (event : Event)
  /-- A line was asked for that is not there. -/
  | line (index : Nat)

namespace Execution

/-- Reports an event, which has to fit. -/
def fire? (x : Execution) (event : Event) : Except Misstep Execution :=
  match x.state.advance x.plan event with
  | .ok next => .ok { x with state := next }
  | .error _ => .error (.event x.state event)

/-- Ends the run because its session did not start. -/
def failSession? (x : Execution) (e : Error) : Except Misstep Execution :=
  { x with sessionError := some (.ofError e) }.fire? .sessionFailed

/-- Ends the run because it was interrupted. -/
def interrupt? (x : Execution) : Except Misstep Execution :=
  let x := { x with interrupted := true }
  if x.state.isTerminal then .ok x else x.fire? .interrupted

/-- Reports that the session has started, and asks for the first line. -/
def begin? (x : Execution) : Except Misstep Execution := do
  let x ← x.fire? .sessionReady
  x.fire? .next

/-- Keeps what a step has come to, reports how it ended, and goes on. -/
def settle? (x : Execution) (ended : StepEnd) : Except Misstep Execution := do
  let event := if ended.step.success then .stepPassed else .stepFailed ended.isFatal
  let x := { x with context := ended.context, steps := x.steps ++ [ended.step] }
  let x ← x.fire? event
  x.fire? .next

end Execution

namespace Runner

variable {ω σ : Type} (ch : Channel σ) (int : Interrupts σ) (r : Runner) (lines : List String)

/-- Executes lines for as long as the state machine asks for one, each of which has to be there. -/
def strictLines : (fuel : Nat) → Execution → Client σ → Except Misstep (Execution × Client σ)
  | 0, x, c => .ok (x, c)
  | fuel + 1, x, c =>
    match x.state with
    | .executing index =>
      match lines[index]? with
      | none => .error (.line index)
      | some line =>
        match r.runStep ch int c x.context index line with
        | (.error _, c) => do
          let x ← x.interrupt?
          return (x, c)
        | (.ok ended, c) => do
          let x ← x.settle? ended
          strictLines fuel x c
    | _ => .ok (x, c)

/-- Introduces the client, if it is to be, and executes the lines. -/
def strictDrive (x : Execution) (c : Client σ) : Except Misstep (Execution × Client σ) :=
  let ready := fun (c : Client σ) => do
    let x ← x.begin?
    strictLines ch int r lines lines.length x c
  match r.options.handshake with
  | none => ready c
  | some h =>
    match Client.introduce ch int c h with
    | (.ok _, c) => ready c
    | (.error (.failed e), c) => do
      let x ← x.failSession? e
      return (x, c)
    | (.error .interrupted, c) => do
      let x ← x.interrupt?
      return (x, c)

/-- Runs a script over a client whose channel is there already: what the run has come to. -/
def strictRunOn (c : Client σ) : Except Misstep (Execution × Client σ) := do
  let x ← (r.fresh lines.length).fire? .start
  strictDrive ch (.never σ) r lines x c

/-- Starts a server, runs a script over it and stops the server; stops early when interrupted. -/
def strictRunUntil (host : Host ω σ) (int : HostInterrupts ω σ) (w : ω) :
    Except Misstep (Execution × ω) := do
  let x ← (r.fresh lines.length).fire? .start
  match int.start? w r.options.startupGrace with
  | some w => do
    let x ← x.interrupt?
    return (x, w)
  | none =>
    match host.start w r.options.startupGrace with
    | (.error e, w) => do
      let x ← x.failSession? e
      return (x, w)
    | (.ok session, _) => do
      let c := Client.start session (host.ids session) r.options.requestTimeout
      let (x, c) ← strictDrive host.channel int.exchange r lines x c
      return (x, host.leave (host.stop c.channel r.options.shutdownGrace))

/-- Why the introduction of a client failed, if it is introduced and did not succeed. -/
def refusal? (c : Client σ) : Option Error :=
  match r.options.handshake with
  | none => none
  | some h =>
    match (Client.introduce ch int c h).1 with
    | .error (.failed e) => some e
    | _ => none

/-- Why a session failed to start, or why the introduction over it failed. -/
def failure? (host : Host ω σ) (int : HostInterrupts ω σ) (w : ω) : Option Error :=
  match int.start? w r.options.startupGrace with
  | some _ => none
  | none =>
    match (host.start w r.options.startupGrace).1 with
    | .error e => some e
    | .ok session => r.refusal? host.channel int.exchange (r.clientOf host session)

end Runner

/-! ### Events that fit -/

namespace Execution

variable {x : Execution} {event : Event} {next : State}

theorem fire?_eq (fits : x.state.next? x.plan event = some next) : x.fire? event = .ok (x.fire event) := by
  simp only [fire?, fire, State.advance, fits]

variable (x)

theorem interrupt?_eq : x.interrupt? = .ok x.interrupt := by
  unfold interrupt? interrupt
  simp only
  cases going : x.state.isTerminal with
  | true => rfl
  | false =>
      have fits : x.state.next? x.plan .interrupted = some .aborted := by
        revert going
        cases x.state <;> simp [State.next?, State.isTerminal]
      exact fire?_eq fits

theorem sessionError_interrupt : x.interrupt.sessionError = x.sessionError := by
  cases going : x.state.isTerminal with
  | true => simp only [interrupt, going, if_true]
  | false => rw [interrupt_eq going]

variable {x}

theorem failSession?_eq (starting : x.state = .starting) (e : Error) :
    x.failSession? e = .ok (x.failSession e) := by
  have fits : x.state.next? x.plan .sessionFailed = some .aborted := by
    rw [starting]
    rfl
  exact fire?_eq fits

theorem fire?_next_eq {between : State} (fits : x.state.next? x.plan event = some between)
    (next_fits : between.next? x.plan .next = some next) :
    (do let y ← x.fire? event; y.fire? .next) = .ok ((x.fire event).fire .next) := by
  rw [fire?_eq fits, fire_eq fits]
  exact fire?_eq next_fits

/-- How a step ended fits the line that is being executed, and the next event fits after it. -/
theorem settle?_eq {index : Nat} (executing : x.state = .executing index) (ended : StepEnd) :
    x.settle? ended = .ok (x.afterStep (.ok ended)) := by
  have fits : ∃ between next, x.state.next? x.plan
      (if ended.step.success then .stepPassed else .stepFailed ended.isFatal) = some between ∧
        between.next? x.plan .next = some next := by
    rw [executing]
    split
    · exact ⟨.succeeded index, _, rfl, rfl⟩
    · exact ⟨.failed index ended.isFatal, _, rfl, rfl⟩
  obtain ⟨between, next, fits, next_fits⟩ := fits
  exact fire?_next_eq (x := { x with context := ended.context, steps := x.steps ++ [ended.step] })
    fits next_fits

theorem sessionError_afterStep {index : Nat} (executing : x.state = .executing index) (ended : StepEnd) :
    (x.afterStep (.ok ended)).sessionError = x.sessionError := by rw [afterStep_eq executing]

end Execution

/-! ### The lines of a script -/

/-- Between two steps a run of so many steps more is at its end, or at a line that is there; the lines from
there on are no more than these steps. -/
structure Onward (lines : List String) (fuel : Nat) (x : Execution) : Prop where
  total_eq : x.plan.total = lines.length
  at_line : x.state.isTerminal ∨
    ∃ index, x.state = .executing index ∧ index < lines.length ∧ lines.length ≤ index + fuel

/-- What the strict driver comes to is what the driver comes to, which is an end of the run, with an error of
the session or none. -/
structure Strictly {α : Type} (strict : Except Misstep (Execution × α)) (run : Execution × α)
    (failure : Option ErrorInfo) : Prop where
  strict_eq : strict = .ok run
  isTerminal : run.1.state.isTerminal
  sessionError_eq : run.1.sessionError = failure

section

variable {ω σ : Type} (ch : Channel σ) (int : Interrupts σ) (r : Runner) (lines : List String)

theorem Onward.afterStep {lines : List String} {fuel index : Nat} {x : Execution}
    (h : Onward lines (fuel + 1) x) (executing : x.state = .executing index) (ended : StepEnd) :
    Onward lines fuel (x.afterStep (.ok ended)) := by
  have total_eq := h.total_eq
  refine ⟨by rw [Execution.plan_afterStep, total_eq], ?_⟩
  rw [x.state_afterStep executing ended]
  split
  · exact .inl rfl
  · unfold Plan.afterStep
    split
    next more =>
      refine .inr ⟨index + 1, rfl, by omega, ?_⟩
      rcases h.at_line with terminal | ⟨index', executing', -, enough⟩
      · rw [executing] at terminal
        cases terminal
      · obtain rfl : index' = index := by
          rw [executing] at executing'
          exact (State.executing.inj executing').symm
        omega
    · exact .inl rfl

theorem strictLines_of_isTerminal {x : Execution} (c : Client σ) (terminal : x.state.isTerminal) (fuel : Nat) :
    r.strictLines ch int lines fuel x c = .ok (x, c) ∧ r.runLines ch int lines fuel x c = (x, c) := by
  have ended := State.ne_executing_of_isTerminal terminal
  refine ⟨?_, (run_courseProcedure ch int c r lines fuel x).symm.trans
    (run_courseProcedure_of_ne ch int c r lines ended fuel)⟩
  cases fuel with
  | zero => rfl
  | succ fuel =>
      unfold Runner.strictLines
      split
      next index executing => exact absurd executing (ended index)
      · rfl

theorem runLines_executing {index : Nat} {x : Execution} {line : String} (fuel : Nat) (c : Client σ)
    (executing : x.state = .executing index) (found : lines[index]? = some line) :
    r.runLines ch int lines (fuel + 1) x c = match r.runStep ch int c x.context index line with
      | (.error _, d) => (x.interrupt, d)
      | (.ok ended, d) => r.runLines ch int lines fuel (x.afterStep (.ok ended)) d := by
  rw [Runner.runLines]
  split
  next index' executing' =>
    obtain rfl : index' = index := State.executing.inj (executing'.symm.trans executing)
    simp only [found]
    rcases r.runStep ch int c x.context index' line with ⟨stop | ended, d⟩
    · rfl
    · rfl
  next other => exact absurd executing (other index)

theorem strictLines_executing {index : Nat} {x : Execution} {line : String} (fuel : Nat) (c : Client σ)
    (executing : x.state = .executing index) (found : lines[index]? = some line) :
    r.strictLines ch int lines (fuel + 1) x c = match r.runStep ch int c x.context index line with
      | (.error _, d) => .ok (x.interrupt, d)
      | (.ok ended, d) => r.strictLines ch int lines fuel (x.afterStep (.ok ended)) d := by
  rw [Runner.strictLines]
  simp only [executing, found]
  rcases r.runStep ch int c x.context index line with ⟨stop | ended, d⟩
  · simp only [x.interrupt?_eq]
    rfl
  · simp only [Execution.settle?_eq executing ended]
    rfl

/-- Executing the lines of a script makes no misstep, comes to an end, and leaves the error of the session as
it is. -/
theorem strictLines_eq {fuel : Nat} {x : Execution} (c : Client σ) (h : Onward lines fuel x) :
    Strictly (r.strictLines ch int lines fuel x c) (r.runLines ch int lines fuel x c) x.sessionError := by
  induction fuel generalizing x c with
  | zero =>
      rcases h.at_line with terminal | ⟨index, -, in_range, enough⟩
      · exact ⟨rfl, terminal, rfl⟩
      · omega
  | succ fuel ih =>
      rcases h.at_line with terminal | ⟨index, executing, in_range, -⟩
      · obtain ⟨strict_eq, run_eq⟩ := strictLines_of_isTerminal ch int r lines c terminal (fuel + 1)
        rw [strict_eq, run_eq]
        exact ⟨rfl, terminal, rfl⟩
      · have found := List.getElem?_eq_getElem in_range
        have strict_eq := strictLines_executing ch int r lines fuel c executing found
        have run_eq := runLines_executing ch int r lines fuel c executing found
        rcases stepped : r.runStep ch int c x.context index lines[index] with ⟨stop | ended, d⟩
        · rw [stepped] at strict_eq run_eq
          rw [strict_eq, run_eq]
          exact ⟨rfl, x.isTerminal_interrupt, x.sessionError_interrupt⟩
        · rw [stepped] at strict_eq run_eq
          rw [strict_eq, run_eq]
          have onward := ih d (h.afterStep executing ended)
          rw [Execution.sessionError_afterStep executing] at onward
          exact onward

/-! ### Whole runs -/

theorem fire?_start (total : Nat) :
    (r.fresh total).fire? .start = .ok ((r.fresh total).fire .start) := Execution.fire?_eq rfl

theorem begin?_start (total : Nat) :
    ((r.fresh total).fire .start).begin? = .ok (r.introduced total (.ok .null)) := by
  rw [Runner.started_eq]
  exact (Execution.fire?_next_eq rfl rfl).trans (congrArg _ (r.ready_eq total))

/-- A run whose session has started is at its first line, or at its end if there is none. -/
theorem onward_introduced : Onward lines lines.length (r.introduced lines.length (.ok .null)) := by
  refine ⟨rfl, ?_⟩
  by_cases empty : lines.length = 0
  · exact .inl (by simp only [Runner.introduced, empty, if_true]; rfl)
  · exact .inr ⟨0, if_neg empty, Nat.pos_of_ne_zero empty, by omega⟩

/-- Driving a script that has just begun makes no misstep and comes to an end.  There is an error of the
session exactly if the introduction failed. -/
theorem strictDrive_eq (c : Client σ) :
    Strictly (r.strictDrive ch int lines ((r.fresh lines.length).fire .start) c)
      (r.drive ch int lines ((r.fresh lines.length).fire .start) c)
      ((r.refusal? ch int c).map .ofError) := by
  have ready (d : Client σ) := strictLines_eq ch int r lines d (onward_introduced r lines)
  unfold Runner.strictDrive Runner.drive Runner.refusal?
  simp only [begin?_start, r.ready_eq]
  cases r.options.handshake with
  | none => exact ready c
  | some h =>
      simp only
      rcases Client.introduce ch int c h with ⟨(e | _) | result, d⟩
      · have starting : ((r.fresh lines.length).fire .start).state = .starting := by rw [Runner.started_eq]
        simp only [Execution.failSession?_eq starting]
        rw [Runner.refused_eq]
        exact ⟨rfl, rfl, rfl⟩
      · simp only [Execution.interrupt?_eq]
        refine ⟨rfl, Execution.isTerminal_interrupt _, ?_⟩
        rw [Execution.sessionError_interrupt, Runner.started_eq]
        rfl
      · exact ready d

theorem strictRunOn_eq (c : Client σ) : ∃ x d, r.runOn ch lines c = (x.report, d) ∧
    Strictly (r.strictRunOn ch lines c) (x, d) ((r.refusal? ch (.never σ) c).map .ofError) := by
  have driven := strictDrive_eq ch (.never σ) r lines c
  refine ⟨_, _, rfl, ?_⟩
  unfold Runner.strictRunOn
  rw [fire?_start]
  exact driven

theorem strictRunUntil_eq (host : Host ω σ) (int : HostInterrupts ω σ) (w : ω) :
    ∃ x left, r.runUntil host int lines w = (x.report, left) ∧
      Strictly (r.strictRunUntil lines host int w) (x, left) ((r.failure? host int w).map .ofError) := by
  unfold Runner.strictRunUntil Runner.runUntil Runner.failure?
  rw [fire?_start]
  cases int.start? w r.options.startupGrace with
  | some left =>
      have no_error : (((r.fresh lines.length).fire .start).interrupt).sessionError = none := by
        rw [Execution.sessionError_interrupt, Runner.started_eq]
        rfl
      refine ⟨_, _, rfl, ⟨?_, Execution.isTerminal_interrupt _, no_error⟩⟩
      simp only [bind, Except.bind, Execution.interrupt?_eq]
      rfl
  | none =>
      rcases host.start w r.options.startupGrace with ⟨e | session, left⟩
      · have starting : ((r.fresh lines.length).fire .start).state = .starting := by rw [Runner.started_eq]
        refine ⟨_, _, rfl, ?_⟩
        simp only [bind, Except.bind, Execution.failSession?_eq starting]
        rw [Runner.refused_eq]
        exact ⟨rfl, rfl, rfl⟩
      · obtain ⟨strict_eq, terminal, error_eq⟩ :=
          strictDrive_eq host.channel int.exchange r lines (r.clientOf host session)
        unfold Runner.clientOf at strict_eq terminal error_eq
        refine ⟨_, _, rfl, ⟨?_, terminal, error_eq⟩⟩
        simp only [bind, Except.bind, strict_eq]
        rfl

end

/-! ### What a run comes to, and why -/

/-- The errors by which the state machine refuses an event. -/
def IsRefusal (e : Error) : Prop := ∃ (plan : Plan) (s : State) (event : Event), s.advance plan event = .error e

/-- What a report holds of an internal error tells it from all other errors. -/
theorem eq_internal_of_ofError_eq {e : Error} {reason : String}
    (same : ErrorInfo.ofError e = .ofError (.internal reason)) : e = .internal reason := by
  have kind_eq : e.kind = .internal := congrArg ErrorInfo.kind same
  have message_eq : e.message.toList = "Internal error: ".toList ++ reason.toList :=
    (congrArg (String.toList ∘ ErrorInfo.message) same).trans String.toList_append
  cases e with
  | internal reason' =>
      have texts_eq : "Internal error: ".toList ++ reason'.toList = _ :=
        String.toList_append.symm.trans message_eq
      rw [String.toList_injective (List.append_cancel_left texts_eq)]
  | io reason' =>
      have texts_eq : "IO error: ".toList ++ reason'.toList = _ :=
        String.toList_append.symm.trans message_eq
      -- The second letters differ.
      cases (List.cons.inj (List.cons.inj texts_eq).2).1
  | interrupted =>
      have texts_eq : "Interrupted".toList = _ := message_eq
      simp at texts_eq
  | _ => cases kind_eq

theorem IsRefusal.exists_internal {e : Error} (h : IsRefusal e) : ∃ reason, e = .internal reason := by
  obtain ⟨plan, s, event, refused⟩ := h
  unfold State.advance at refused
  split at refused
  · cases refused
  · cases refused
    exact ⟨_, rfl⟩

/-- What a run has come to in the end: a final state, and an error of the session exactly if the session or
the introduction failed, which is never an error by which the state machine refuses an event, unless that is
what the session or the introduction failed from. -/
structure Execution.Ended (x : Execution) (failure : Option Error) : Prop where
  state_eq : x.state = .aborted ∨ x.state = .completed
  sessionError_eq : x.report.sessionError = failure.map .ofError
  not_refusal : ∀ e, IsRefusal e → x.report.sessionError = some (.ofError e) → failure = some e

theorem Strictly.ended {α : Type} {strict : Except Misstep (Execution × α)} {x : Execution} {a : α}
    {failure : Option Error} (h : Strictly strict (x, a) (failure.map .ofError)) : x.Ended failure := by
  have sessionError_eq : x.report.sessionError = failure.map .ofError := by
    rw [← h.sessionError_eq]
    unfold Execution.report
    split <;> rfl
  refine ⟨?_, sessionError_eq, ?_⟩
  · have terminal := h.isTerminal
    revert terminal
    cases x.state <;> simp [State.isTerminal]
  · intro e refusal found
    obtain ⟨reason, rfl⟩ := refusal.exists_internal
    obtain ⟨e, rfl, same⟩ := Option.map_eq_some_iff.mp (sessionError_eq.symm.trans found)
    rw [eq_internal_of_ofError_eq same]

/-- Every event that is reported to the state machine fits, and every line that it asks for is there: the
strict driver has a result, for every channel or host, every script and every interrupt, and it is what the
run comes to.  The run ends aborted or completed.  Its session has an error exactly if the session or the
introduction failed, namely the one that it failed from, and none that comes from the state machine.
Wherever an interrupt comes, it fits. -/
theorem every_event_fits {ω σ : Type} (ch : Channel σ) (c : Client σ) (host : Host ω σ)
    (int : HostInterrupts ω σ) (r : Runner) (lines : List String) (w : ω) :
    (∃ x d, r.strictRunOn ch lines c = .ok (x, d) ∧ r.runOn ch lines c = (x.report, d) ∧
      x.Ended (r.refusal? ch (.never σ) c)) ∧
      (∃ x left, r.strictRunUntil lines host int w = .ok (x, left) ∧
        r.runUntil host int lines w = (x.report, left) ∧ x.Ended (r.failure? host int w)) ∧
      ∀ x : Execution, x.interrupt? = .ok x.interrupt := by
  refine ⟨?_, ?_, Execution.interrupt?_eq⟩
  · obtain ⟨x, d, run_eq, strictly⟩ := strictRunOn_eq ch r lines c
    exact ⟨x, d, strictly.strict_eq, run_eq, strictly.ended⟩
  · obtain ⟨x, left, run_eq, strictly⟩ := strictRunUntil_eq r lines host int w
    exact ⟨x, left, strictly.strict_eq, run_eq, strictly.ended⟩

/-- An event that does not fit is a misstep. -/
example (r : Runner) : (r.fresh 1).fire? .next = .error (.event .idle .next) := rfl

end CallScript.Run
