import CallScript.Run.Runner
import CallScript.Proofs.Rpc.Transcript
import CallScript.Proofs.Script.Resolution

/-! # The course of a run, line by line

The parts of a run as procedures, so that each has a transcript.  A line asks for a call of a tool, or for
nothing (`Runner.toSend`): in the first case its step is that call (`run_step_sent`), in the second it
leaves the channel alone (`run_step_unsent`).  `Runner.reached` is the state of a run before each of its
steps; a run is what it reaches once it has had as many steps as there are lines (`runOn_eq`).

* `opened_eq_of_none`, `opened_eq_of_some`: what a run has come to with its introduction.
* `drive_eq`: driving a script is a run of as many lines as it has, whatever the interrupts.
* `reached_recorded`: recording a run changes nothing.
* `reached_succ`, `log_succ`: the state before the next step, and the transcript up to it, come from one
  line. -/

namespace CallScript.Run

open Rpc

/-- What a line asks for in a context: a call and its arguments, or nothing if the line does not parse or
a reference in it stands for nothing. -/
def Runner.toSend (r : Runner) (context : Context) (line : String) : Option (Invocation × Json) :=
  match Invocation.parse r.schema line with
  | .error _ => none
  | .ok i =>
    match Runner.arguments context i with
    | .error _ => none
    | .ok arguments => some (i, arguments)

theorem Runner.toSend_eq_some_iff {r : Runner} {context : Context} {line : String} {i : Invocation}
    {arguments : Json} :
    r.toSend context line = some (i, arguments) ↔
      Invocation.parse r.schema line = .ok i ∧ Runner.arguments context i = .ok arguments := by
  unfold toSend
  constructor
  · intro h
    split at h
    · cases h
    next parsed =>
      split at h
      · cases h
      next resolved =>
        cases h
        exact ⟨parsed, resolved⟩
  · rintro ⟨parsed, resolved⟩
    rw [parsed]
    simp only [resolved]

/-- What a call comes to for the record of its step. -/
def Runner.conclude (r : Runner) (tool : String) (context : Context) (s : Step) :
    Except Stop Response → Except Stop StepEnd
  | .error .interrupted => .error .interrupted
  | .error (.failed e) => .ok ⟨s.fail e, context, e.isFatal⟩
  | .ok response => .ok (answered r s tool context response.outcome)

/-- The end of a step with its duration. -/
def StepEnd.taking (ended : StepEnd) (millis : Nat) : StepEnd :=
  { ended with step := { ended.step with millis } }

/-- What a run has come to after a step. -/
def Execution.afterStep (x : Execution) : Except Stop StepEnd → Execution
  | .error _ => x.interrupt
  | .ok ended =>
    let event := if ended.step.success then .stepPassed else .stepFailed ended.isFatal
    (Execution.fire { x with context := ended.context, steps := x.steps ++ [ended.step] } event).fire
      .next

/-- The client after a look at the clock. -/
def look {σ : Type} (ch : Channel σ) (c : Client σ) : Client σ :=
  { c with channel := (ch.clock c.channel).2 }

/-! ### The state machine -/

namespace Execution

variable (x : Execution) (event : Event)

@[simp] theorem plan_fire : (x.fire event).plan = x.plan := by
  unfold fire
  split <;> rfl

@[simp] theorem plan_interrupt : x.interrupt.plan = x.plan := by
  unfold interrupt
  dsimp only
  split
  · rfl
  · rw [plan_fire]

@[simp] theorem context_fire : (x.fire event).context = x.context := by
  unfold fire
  split <;> rfl

@[simp] theorem steps_fire : (x.fire event).steps = x.steps := by
  unfold fire
  split <;> rfl

theorem state_fire : (x.fire event).state = (x.state.next? x.plan event).getD .aborted := by
  unfold fire State.advance
  cases x.state.next? x.plan event with
  | none => rfl
  | some next => rfl

theorem isTerminal_interrupt : x.interrupt.state.isTerminal := by
  simp only [interrupt]
  split
  · assumption
  next going =>
    rw [state_fire]
    revert going
    cases x.state <;> simp [State.next?, State.isTerminal]

variable {x} {event}

theorem fire_eq {next : State}
    (fits : x.state.next? x.plan event = some next) : x.fire event = { x with state := next } := by
  simp only [fire, State.advance, fits]

theorem interrupt_eq (going : x.state.isTerminal = false) :
    x.interrupt = { x with interrupted := true, state := .aborted } := by
  have fits : x.state.next? x.plan .interrupted = some .aborted := by
    revert going
    cases x.state <;> simp [State.next?, State.isTerminal]
  simp only [interrupt, going]
  exact fire_eq fits

variable (x)

@[simp] theorem steps_afterStep (ended : StepEnd) :
    (x.afterStep (.ok ended)).steps = x.steps ++ [ended.step] := by simp [afterStep]

@[simp] theorem context_afterStep (ended : StepEnd) :
    (x.afterStep (.ok ended)).context = ended.context := by simp [afterStep]

@[simp] theorem plan_afterStep (ended : StepEnd) :
    (x.afterStep (.ok ended)).plan = x.plan := by simp [afterStep]

theorem state_afterStep {index : Nat} (h : x.state = .executing index) (ended : StepEnd) :
    (x.afterStep (.ok ended)).state =
      if ended.step.success = false ∧ (ended.isFatal ∨ x.plan.policy = .abort) then .aborted
      else x.plan.afterStep index := by
  simp only [afterStep, state_fire, plan_fire, h]
  cases ended.step.success with
  | true => simp [State.next?]
  | false =>
      simp only [Bool.false_eq_true, if_false, State.next?, Option.getD_some, true_and,
        Bool.or_eq_true, decide_eq_true_eq]

end Execution

theorem State.ne_executing_of_isTerminal {state : State} (h : state.isTerminal) (index : Nat) :
    state ≠ .executing index := by
  rintro rfl
  cases h

/-! ### Procedures -/

section

variable (r : Runner) (lines : List String)

/-- Looking at the clock. -/
def clockProcedure : Procedure Duration where
  run := fun ch _ c => ((ch.clock c.channel).1, look ch c)
  run_onto := fun h c => by simp only [Client.onto, look, h.clock]

/-- Asking for the id that was used last. -/
def lastIdProcedure : Procedure (Option Int64) where
  run := fun _ _ c => (c.lastId, c)
  run_onto := fun _ _ => rfl

/-- The call of a tool for a step. -/
def callProcedure (context : Context) (s : Step) (i : Invocation) (arguments : Json) :
    Procedure (Except Stop StepEnd) :=
  lastIdProcedure.bind fun before =>
    (Procedure.call Client.callMethod (some (toolCallParams i.tool arguments))).bind fun called =>
      lastIdProcedure.bind fun after =>
        .pure (r.conclude i.tool context (Runner.sent s before after) called)

/-- The execution of a line. -/
def executeProcedure (context : Context) (s : Step) : Procedure (Except Stop StepEnd) :=
  match Invocation.parse r.schema s.line with
  | .error e => .pure (.ok ⟨s.fail e, context, false⟩)
  | .ok i =>
    match Runner.arguments context i with
    | .error e => .pure (.ok ⟨{ s with invocation := some i }.fail e, context, false⟩)
    | .ok arguments => callProcedure r context { s with invocation := some i } i arguments

/-- Taking the time of a step that has been executed. -/
def timeProcedure (first : Duration) : Except Stop StepEnd → Procedure (Except Stop StepEnd)
  | .error stop => .pure (.error stop)
  | .ok ended => clockProcedure.bind fun last =>
    .pure (.ok (ended.taking (millisBetween first last)))

/-- A step, whose time is taken. -/
def stepProcedure (context : Context) (index : Nat) (line : String) : Procedure (Except Stop StepEnd) :=
  clockProcedure.bind fun first =>
    (executeProcedure r context { index, line }).bind (timeProcedure first)

/-- The line that the state machine asks for, if it asks for one. -/
def lineProcedure (x : Execution) : Procedure Execution :=
  match x.state with
  | .executing index =>
    match lines[index]? with
    | none => .pure (x.fire .sessionFailed)
    | some line => (stepProcedure r x.context index line).bind fun ended => .pure (x.afterStep ended)
  | _ => .pure x

/-- A number of lines. -/
def courseProcedure (x : Execution) : Nat → Procedure Execution
  | 0 => .pure x
  | n + 1 => (courseProcedure x n).bind (lineProcedure r lines)

end

section

variable {σ : Type} (ch : Channel σ) (int : Interrupts σ) (c : Client σ) (r : Runner)
  (lines : List String)

@[simp] theorem ids_look : (look ch c).ids = c.ids := rfl

@[simp] theorem lastId_look : (look ch c).lastId = c.lastId := rfl

theorem run_executeProcedure (context : Context) (s : Step) :
    (executeProcedure r context s).run ch int c = r.execute ch int c context s := by
  unfold executeProcedure Runner.execute
  cases Invocation.parse r.schema s.line with
  | error e => rfl
  | ok i =>
      simp only
      cases Runner.arguments context i with
      | error e => rfl
      | ok arguments =>
          simp only [callProcedure, Procedure.bind, Procedure.pure, lastIdProcedure, Procedure.call,
            Client.callTool]
          rcases c.call ch int Client.callMethod (some (toolCallParams i.tool arguments)) with
            ⟨(_ | _) | response, d⟩
          · rfl
          · rfl
          · rfl

theorem run_stepProcedure (context : Context) (index : Nat) (line : String) :
    (stepProcedure r context index line).run ch int c = r.runStep ch int c context index line := by
  have executed := run_executeProcedure ch int (look ch c) r context { index, line }
  unfold look at executed
  simp only [stepProcedure, Procedure.bind, clockProcedure, look, Runner.runStep]
  rw [executed]
  rcases r.execute ch int _ context { index, line } with ⟨stop | ended, d⟩
  · rfl
  · rfl

theorem run_courseProcedure_succ (n : Nat) (x : Execution) :
    (courseProcedure r lines x (n + 1)).run ch int c =
      (courseProcedure r lines ((lineProcedure r lines x).run ch int c).1 n).run ch int
        ((lineProcedure r lines x).run ch int c).2 := by
  induction n with
  | zero => rfl
  | succ n ih =>
      rw [courseProcedure]
      simp only [Procedure.bind]
      rw [ih]
      rfl

theorem run_lineProcedure_of_ne {x : Execution} (h : ∀ index, x.state ≠ .executing index) :
    lineProcedure r lines x = .pure x := by
  unfold lineProcedure
  split
  next index executing => exact absurd executing (h index)
  · rfl

theorem lineProcedure_of_missing {x : Execution} {index : Nat} (executing : x.state = .executing index)
    (missing : lines[index]? = none) : lineProcedure r lines x = .pure (x.fire .sessionFailed) := by
  simp only [lineProcedure, executing, missing]

theorem lineProcedure_of_found {x : Execution} {index : Nat} {line : String}
    (executing : x.state = .executing index) (found : lines[index]? = some line) : lineProcedure r lines x =
      (stepProcedure r x.context index line).bind fun ended => .pure (x.afterStep ended) := by
  simp only [lineProcedure, executing, found]

theorem run_lineProcedure_of_found {x : Execution} {index : Nat} {line : String}
    (executing : x.state = .executing index) (found : lines[index]? = some line) :
    (lineProcedure r lines x).run ch int c = (x.afterStep (r.runStep ch int c x.context index line).1,
      (r.runStep ch int c x.context index line).2) := by
  have stepped := run_stepProcedure ch int c r x.context index line
  rw [lineProcedure_of_found r lines executing found]
  simp only [Procedure.bind, Procedure.pure]
  rw [stepped]

theorem run_courseProcedure_of_ne {x : Execution} (h : ∀ index, x.state ≠ .executing index) (n : Nat) :
    (courseProcedure r lines x n).run ch int c = (x, c) := by
  induction n with
  | zero => rfl
  | succ n ih =>
      rw [run_courseProcedure_succ, run_lineProcedure_of_ne r lines h]
      exact ih

theorem run_courseProcedure (n : Nat) (x : Execution) :
    (courseProcedure r lines x n).run ch int c = r.runLines ch int lines n x c := by
  induction n generalizing x c with
  | zero => rfl
  | succ n ih =>
      rw [run_courseProcedure_succ]
      unfold Runner.runLines
      split
      next index executing =>
        split
        next beyond =>
          rw [lineProcedure_of_missing r lines executing beyond]
          have finished : ∀ index', (x.fire .sessionFailed).state ≠ .executing index' := by
            intro index'
            rw [Execution.state_fire, executing]
            nofun
          exact run_courseProcedure_of_ne ch int c r lines finished n
        next line found =>
          rw [run_lineProcedure_of_found ch int c r lines executing found]
          rcases r.runStep ch int c x.context index line with ⟨stop | ended, d⟩
          · have finished := State.ne_executing_of_isTerminal x.isTerminal_interrupt
            exact run_courseProcedure_of_ne ch int d r lines finished n
          · exact ih d (x.afterStep (.ok ended))
      next other =>
        rw [run_lineProcedure_of_ne r lines other]
        exact run_courseProcedure_of_ne ch int c r lines other n

/-! ### What a step does -/

theorem parse_isFatal {line : String} {schema : Schema} {e : Error}
    (h : Invocation.parse schema line = .error e) : e.isFatal = false := by
  unfold Invocation.parse at h
  split at h
  · cases h
  · cases h
    rfl

/-- The transcript of a step is that of its execution: looking at the clock leaves no trace. -/
theorem transcript_stepProcedure (context : Context) (index : Nat) (line : String) :
    (stepProcedure r context index line).transcript ch int c =
      (executeProcedure r context { index, line }).transcript ch int (look ch c) := by
  have timed : ∀ (first : Duration) (ended : Except Stop StepEnd) (d : Client σ),
      (timeProcedure first ended).transcript ch int d = [] := by
    intro first ended d
    cases ended with
    | error stop => rfl
    | ok ended => rfl
  have looked : clockProcedure.transcript ch int c = [] := rfl
  rw [stepProcedure, Procedure.transcript_bind, Procedure.transcript_bind, timed, List.append_nil,
    looked, List.nil_append]
  simp only [clockProcedure]

theorem run_step_pure {context : Context} {index : Nat} {line : String} {ended : StepEnd}
    (h : executeProcedure r context { index, line } = .pure (.ok ended)) :
    (∃ millis, r.runStep ch int c context index line = (.ok (ended.taking millis), look ch (look ch c))) ∧
      (stepProcedure r context index line).transcript ch int c = [] := by
  constructor
  · refine ⟨millisBetween (ch.clock c.channel).1 (ch.clock (look ch c).channel).1, ?_⟩
    rw [← run_stepProcedure]
    simp only [stepProcedure]
    rw [h]
    rfl
  · rw [transcript_stepProcedure, h]
    rfl

/-- The step of a line that asks for nothing fails, and uses the clock alone. -/
theorem run_step_unsent {context : Context} {index : Nat} {line : String}
    (h : r.toSend context line = none) :
    (∃ i e millis, e.isFatal = false ∧
      r.runStep ch int c context index line =
        (.ok ⟨{ index, line, invocation := i, error := some (.ofError e), millis }, context, false⟩,
          look ch (look ch c))) ∧
      (stepProcedure r context index line).transcript ch int c = [] := by
  have execute_eq : ∃ i e, e.isFatal = false ∧ executeProcedure r context { index, line } =
      .pure (.ok ⟨{ index, line, invocation := i, error := some (.ofError e) }, context, false⟩) := by
    unfold Runner.toSend at h
    unfold executeProcedure
    cases parsed : Invocation.parse r.schema line with
    | error e => exact ⟨none, e, parse_isFatal parsed, rfl⟩
    | ok i =>
        cases resolved : Runner.arguments context i with
        | error e =>
            obtain ⟨name, rfl⟩ := Runner.arguments_error resolved
            exact ⟨some i, .undefinedVariable name, rfl, by simp only [resolved, Step.fail]⟩
        | ok arguments => simp only [parsed, resolved, reduceCtorEq] at h
  obtain ⟨i, e, harmless, execute_eq⟩ := execute_eq
  obtain ⟨⟨millis, stepped⟩, no_trace⟩ := run_step_pure ch int c r execute_eq
  exact ⟨⟨i, e, millis, harmless, stepped⟩, no_trace⟩

/-- The step of a line that asks for a call is that call. -/
theorem run_step_sent {context : Context} {index : Nat} {line : String} {i : Invocation}
    {arguments : Json} (h : r.toSend context line = some (i, arguments)) :
    (∃ millis, r.runStep ch int c context index line =
      let called := (look ch c).callTool ch int i.tool arguments
      let s : Step := Runner.sent { index, line, invocation := some i } c.lastId (some c.ids.next)
      match r.conclude i.tool context s called.1 with
      | .error stop => (.error stop, called.2)
      | .ok ended => (.ok (ended.taking millis), look ch called.2)) ∧
      (stepProcedure r context index line).transcript ch int c =
        (Procedure.call Client.callMethod (some (toolCallParams i.tool arguments))).transcript ch int
          (look ch c) := by
  obtain ⟨parsed, resolved⟩ := Runner.toSend_eq_some_iff.mp h
  have execute_eq : executeProcedure r context { index, line } =
      callProcedure r context { index, line, invocation := some i } i arguments := by
    simp only [executeProcedure, parsed, resolved]
  constructor
  · refine ⟨millisBetween (ch.clock c.channel).1
      (ch.clock ((look ch c).callTool ch int i.tool arguments).2.channel).1, ?_⟩
    rw [← run_stepProcedure]
    simp only [stepProcedure]
    rw [execute_eq]
    simp only [Procedure.bind, clockProcedure, callProcedure, lastIdProcedure, Procedure.call,
      Procedure.pure, Client.callTool, Client.lastId_call, lastId_look, ids_look]
    rcases r.conclude i.tool context _ _ with stop | ended
    · rfl
    · rfl
  · rw [transcript_stepProcedure, execute_eq]
    simp only [callProcedure, Procedure.transcript_bind, Procedure.transcript_pure]
    exact List.append_nil _

theorem runStep_never (context : Context) (index : Nat) (line : String) :
    ∃ ended d, r.runStep ch (.never σ) c context index line = (.ok ended, d) := by
  cases asked : r.toSend context line with
  | none =>
      obtain ⟨⟨i, e, millis, -, stepped⟩, -⟩ := run_step_unsent ch (.never σ) c r asked
      exact ⟨_, _, stepped⟩
  | some call =>
      obtain ⟨i, arguments⟩ := call
      obtain ⟨⟨millis, stepped⟩, -⟩ := run_step_sent ch (.never σ) c r asked
      have uncut := Client.call_never ch (look ch c) Client.callMethod
        (some (toolCallParams i.tool arguments))
      rw [stepped]
      simp only [Client.callTool]
      generalize (look ch c).call ch (.never σ) Client.callMethod _ = called at uncut ⊢
      rcases called with ⟨(e | _) | response, d⟩
      · exact ⟨_, _, rfl⟩
      · exact absurd rfl uncut
      · exact ⟨_, _, rfl⟩

theorem line_executing {x : Execution} {index : Nat} {line : String}
    (executing : x.state = .executing index) (found : lines[index]? = some line) :
    ∃ ended d, r.runStep ch (.never σ) c x.context index line = (.ok ended, d) ∧
      (lineProcedure r lines x).run ch (.never σ) c = (x.afterStep (.ok ended), d) ∧
      (lineProcedure r lines x).transcript ch (.never σ) c =
        (stepProcedure r x.context index line).transcript ch (.never σ) c := by
  obtain ⟨ended, d, stepped⟩ := runStep_never ch c r x.context index line
  refine ⟨ended, d, stepped, ?_, ?_⟩
  · rw [run_lineProcedure_of_found ch (.never σ) c r lines executing found, stepped]
  · rw [lineProcedure_of_found r lines executing found, Procedure.transcript_bind]
    exact List.append_nil _

/-! ### The states of a run -/

/-- The opening of a run: the introduction, if there is to be one. -/
def openProcedure (x : Execution) : Procedure Execution :=
  let ready := (x.fire .sessionReady).fire .next
  match r.options.handshake with
  | none => .pure ready
  | some h => (Procedure.introduce h).bind fun
    | .ok _ => .pure ready
    | .error (.failed e) => .pure (x.failSession e)
    | .error .interrupted => .pure x.interrupt

/-- A run of so many lines. -/
def runProcedure (n : Nat) : Procedure Execution :=
  (openProcedure r ((r.fresh lines.length).fire .start)).bind fun x => courseProcedure r lines x n

/-- A run that has introduced its client, or failed to. -/
def Runner.opened : Execution × Client σ :=
  let x := (r.fresh lines.length).fire .start
  let ready := (x.fire .sessionReady).fire .next
  match r.options.handshake with
  | none => (ready, c)
  | some h =>
    match c.introduce ch (.never σ) h with
    | (.ok _, c) => (ready, c)
    | (.error (.failed e), c) => (x.failSession e, c)
    | (.error .interrupted, c) => (x.interrupt, c)

/-- What a run has come to with its introduction, or without one if that counts as successful. -/
def Runner.introduced (total : Nat) : Except Stop Json → Execution
  | .ok _ => { r.fresh total with state := if total = 0 then .completed else .executing 0 }
  | .error (.failed e) => { r.fresh total with state := .aborted, sessionError := some (.ofError e) }
  | .error .interrupted => { r.fresh total with state := .aborted, interrupted := true }

/-- A run that has executed so many lines, unless it has come to its end before. -/
def Runner.reached (n : Nat) : Execution × Client σ :=
  let opened := r.opened ch c lines
  r.runLines ch (.never σ) lines n opened.1 opened.2

theorem Runner.started_eq (total : Nat) :
    (r.fresh total).fire .start = { r.fresh total with state := .starting } := Execution.fire_eq rfl

theorem Runner.ready_eq (total : Nat) :
    (((r.fresh total).fire .start).fire .sessionReady).fire .next =
      { r.fresh total with state := if total = 0 then .completed else .executing 0 } := by
  have ready : ((r.fresh total).fire .start).fire .sessionReady =
      { r.fresh total with state := .ready } := by
    rw [Runner.started_eq]
    exact Execution.fire_eq rfl
  rw [ready]
  exact Execution.fire_eq rfl

theorem Runner.refused_eq (total : Nat) (e : Error) :
    ((r.fresh total).fire .start).failSession e =
      { r.fresh total with state := .aborted, sessionError := some (.ofError e) } := by
  rw [Runner.started_eq]
  exact Execution.fire_eq rfl

theorem opened_eq_of_none (handshake : r.options.handshake = none) :
    r.opened ch c lines = (r.introduced lines.length (.ok .null), c) := by
  have begun := r.ready_eq lines.length
  unfold Runner.opened
  rw [handshake]
  simp only
  rw [begun]
  rfl

theorem opened_eq_of_some {h : Handshake} (handshake : r.options.handshake = some h) :
    r.opened ch c lines = (r.introduced lines.length (c.introduce ch (.never σ) h).1,
      (c.introduce ch (.never σ) h).2) := by
  have begun := r.ready_eq lines.length
  unfold Runner.opened
  rw [handshake]
  simp only
  rcases c.introduce ch (.never σ) h with ⟨(e | _) | result, d⟩
  · exact congrArg (·, d) (r.refused_eq lines.length e)
  · rw [Runner.started_eq]
    exact congrArg (·, d) (Execution.interrupt_eq rfl)
  · exact congrArg (·, d) begun

theorem run_openProcedure :
    (openProcedure r ((r.fresh lines.length).fire .start)).run ch (.never σ) c = r.opened ch c lines := by
  unfold openProcedure Runner.opened
  cases r.options.handshake with
  | none => rfl
  | some h =>
      have introduced := Procedure.run_introduce ch (.never σ) c h
      simp only [Procedure.bind]
      rw [introduced]
      rcases c.introduce ch (.never σ) h with ⟨(e | _) | result, d⟩
      · rfl
      · rfl
      · rfl

theorem run_runProcedure (n : Nat) :
    (runProcedure r lines n).run ch (.never σ) c = r.reached ch c lines n := by
  have opened := run_openProcedure ch c r lines
  simp only [runProcedure, Procedure.bind, Runner.reached]
  rw [opened, run_courseProcedure]

theorem state_failSession (x : Execution) (e : Error) : (x.failSession e).state = .aborted := by
  unfold Execution.failSession
  rw [Execution.state_fire]
  cases x.state <;> rfl

/-- Driving a script is the run of as many steps as there are lines, whatever the interrupts. -/
theorem drive_eq : r.drive ch int lines ((r.fresh lines.length).fire .start) c =
    (runProcedure r lines lines.length).run ch int c := by
  have stays : ∀ (x : Execution) (d : Client σ), x.state.isTerminal →
      (courseProcedure r lines x lines.length).run ch int d = (x, d) := fun x d terminal =>
    run_courseProcedure_of_ne ch int d r lines (State.ne_executing_of_isTerminal terminal) _
  unfold Runner.drive runProcedure openProcedure
  cases r.options.handshake with
  | none => exact (run_courseProcedure ch int c r lines ..).symm
  | some h =>
      have introduced := Procedure.run_introduce ch int c h
      simp only [Procedure.bind]
      rw [introduced]
      rcases c.introduce ch int h with ⟨(e | _) | result, d⟩
      · simp only [Procedure.pure]
        rw [stays _ _ (by rw [state_failSession]; rfl)]
      · simp only [Procedure.pure]
        rw [stays _ _ (Execution.isTerminal_interrupt _)]
      · exact (run_courseProcedure ch int d r lines ..).symm

/-- A run comes to what it reaches once it has had as many steps as there are lines. -/
theorem runOn_eq : r.runOn ch lines c =
    ((r.reached ch c lines lines.length).1.report, (r.reached ch c lines lines.length).2) := by
  unfold Runner.runOn
  rw [drive_eq, run_runProcedure]

/-- The transcript of a run that has executed so many lines. -/
def Runner.log (n : Nat) : List Exchange := (runProcedure r lines n).transcript ch (.never σ) c

/-- Recording a run changes nothing, up to each of its lines. -/
theorem reached_recorded (n : Nat) (t : List Exchange) :
    r.reached ch.recorded (c.recording t) lines n =
      ((r.reached ch c lines n).1, (r.reached ch c lines n).2.recording (t ++ r.log ch c lines n)) := by
  have recorded := (runProcedure r lines n).run_recorded ch (.never σ) c t
  rw [Interrupts.recorded_never, run_runProcedure, run_runProcedure] at recorded
  exact recorded

theorem run_runProcedure_succ (n : Nat) : (runProcedure r lines (n + 1)).run ch int c =
    (lineProcedure r lines ((runProcedure r lines n).run ch int c).1).run ch int
      ((runProcedure r lines n).run ch int c).2 := rfl

theorem transcript_runProcedure_succ (n : Nat) : (runProcedure r lines (n + 1)).transcript ch int c =
    (runProcedure r lines n).transcript ch int c ++
      (lineProcedure r lines ((runProcedure r lines n).run ch int c).1).transcript ch int
        ((runProcedure r lines n).run ch int c).2 := by
  simp only [runProcedure, courseProcedure, Procedure.transcript_bind, List.append_assoc]
  rfl

theorem transcript_runProcedure_zero : (runProcedure r lines 0).transcript ch int c =
    (openProcedure r ((r.fresh lines.length).fire .start)).transcript ch int c := by
  rw [runProcedure, Procedure.transcript_bind]
  exact List.append_nil _

/-- The next state of a run comes from one line. -/
theorem reached_succ (n : Nat) : r.reached ch c lines (n + 1) =
    (lineProcedure r lines (r.reached ch c lines n).1).run ch (.never σ) (r.reached ch c lines n).2 := by
  rw [← run_runProcedure, ← run_runProcedure, run_runProcedure_succ]

/-- Its transcript goes on with that of this line. -/
theorem log_succ (n : Nat) : r.log ch c lines (n + 1) = r.log ch c lines n ++
    (lineProcedure r lines (r.reached ch c lines n).1).transcript ch (.never σ)
      (r.reached ch c lines n).2 := by
  rw [← run_runProcedure]
  exact transcript_runProcedure_succ ch (.never σ) c r lines n

theorem log_zero : r.log ch c lines 0 =
    (openProcedure r ((r.fresh lines.length).fire .start)).transcript ch (.never σ) c :=
  transcript_runProcedure_zero ch (.never σ) c r lines

theorem log_add (n m : Nat) : ∃ later, r.log ch c lines (n + m) = r.log ch c lines n ++ later := by
  induction m with
  | zero => exact ⟨[], (List.append_nil _).symm⟩
  | succ m ih =>
      obtain ⟨later, log_eq⟩ := ih
      have next := log_succ ch c r lines (n + m)
      rw [log_eq, List.append_assoc] at next
      exact ⟨_, next⟩

theorem runOn_recorded : r.runOn ch.recorded lines (c.recording []) =
    ((r.runOn ch lines c).1,
      (r.runOn ch lines c).2.recording (r.log ch c lines lines.length)) := by
  rw [runOn_eq, runOn_eq, reached_recorded]
  rfl

theorem steps_runOn :
    (r.runOn ch lines c).1.steps = (r.reached ch c lines lines.length).1.steps := by
  rw [runOn_eq]
  unfold Execution.report
  split <;> rfl

end

end CallScript.Run
