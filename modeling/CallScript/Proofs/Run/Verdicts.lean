import Mathlib.Data.List.Forall2
import CallScript.Proofs.Run.Policies
import CallScript.Proofs.Run.Watching

/-! # Verdicts on results that report an error

A result may say of itself that the tool has failed.  A runner can take it at its word and fail the step, or let
the step pass.  Under the policy that goes on after failures this changes the verdict on those steps and nothing
else: the two runs are in step from the first line to the last, with the same context, the same client and the
same channel.

* `Step.UpToVerdict`: two records that differ at most in the verdict.
* `upToVerdict_execute`, `upToVerdict_runStep`: a line makes the same of both runs, but for the verdict.
* `Execution.UpToVerdict.afterStep`: the verdict does not change what comes next.
* `upToVerdict_runLines`, `upToVerdict_drive`: so with all lines of a script.
* `strictness_changes_verdicts_only`: the reports and the traffic of the two runs. -/

namespace CallScript

namespace Rpc

/-- A result says of itself that the tool has failed: it is an object whose `isError` is true. -/
def ReportsError (result : Json) : Prop :=
  ∃ fields, result = .obj fields ∧ Fields.find? "isError" fields = some (.bool true)

theorem reportsError_iff {result : Json} : reportsError result = true ↔ ReportsError result := by
  unfold reportsError ReportsError
  constructor
  · intro reports
    split at reports
    next flag found =>
      subst reports
      cases result with
      | obj fields => exact ⟨fields, rfl, found⟩
      | _ => cases found
    · cases reports
  · rintro ⟨fields, rfl, found⟩
    rw [Json.field?, found]

end Rpc

namespace Run

open Rpc

/-- The same runner, failing steps whose result reports an error or letting them pass. -/
def Runner.judging (r : Runner) (strictly : Bool) : Runner :=
  { r with options := { r.options with failOnReportedError := strictly } }

/-- Two records of a step that differ at most in the verdict.  They are the same unless there is a payload that
reports an error; then the first one has failed with the payload as data, and the second one has passed. -/
inductive Step.UpToVerdict : Step → Step → Prop
  | same {s : Step} (silent : ∀ payload, s.payload = some payload → ¬ ReportsError payload) : UpToVerdict s s
  | reported {s : Step} {i : Invocation} {payload : Json} (invoked : s.invocation = some i)
      (answered : s.payload = some payload) (reports : ReportsError payload) (passed : s.success = true)
      (no_error : s.error = none) :
      UpToVerdict { s with
        success := false
        error := some
          { kind := .tool, message := s!"Tool '{i.tool}' reported isError", data := some payload } } s

/-- Two ends of a step that differ at most in the verdict. -/
structure StepEnd.UpToVerdict (a b : StepEnd) : Prop where
  step : a.step.UpToVerdict b.step
  context_eq : a.context = b.context
  isFatal_eq : a.isFatal = b.isFatal
  /-- A failure that is a matter of the verdict is not fatal. -/
  harmless : a.step.success ≠ b.step.success → a.isFatal = false

/-- Two steps come to their ends alike but for the verdict, or are stopped alike. -/
inductive EndsUpToVerdict : Except Stop StepEnd → Except Stop StepEnd → Prop
  | stopped (stop : Stop) : EndsUpToVerdict (.error stop) (.error stop)
  | ended {a b : StepEnd} (same : a.UpToVerdict b) : EndsUpToVerdict (.ok a) (.ok b)

/-- Two runs have come to the same, but for the verdicts on their steps. -/
structure Execution.UpToVerdict (x y : Execution) : Prop where
  plan_eq : x.plan = y.plan
  state_eq : x.state = y.state
  context_eq : x.context = y.context
  steps : List.Forall₂ Step.UpToVerdict x.steps y.steps
  sessionError_eq : x.sessionError = y.sessionError
  interrupted_eq : x.interrupted = y.interrupted

/-- Two reports say the same, but for the verdicts. -/
structure Report.UpToVerdict (a b : Report) : Prop where
  sessionError_eq : a.sessionError = b.sessionError
  interrupted_eq : a.interrupted = b.interrupted
  total_eq : a.total = b.total
  length_eq : a.steps.length = b.steps.length
  steps : List.Forall₂ Step.UpToVerdict a.steps b.steps

/-! ### Steps -/

theorem StepEnd.UpToVerdict.refl {ended : StepEnd} (no_payload : ended.step.payload = none) :
    ended.UpToVerdict ended := by
  refine ⟨.same ?_, rfl, rfl, fun differ => absurd rfl differ⟩
  rw [no_payload]
  nofun

theorem StepEnd.UpToVerdict.taking {a b : StepEnd} (h : a.UpToVerdict b) (millis : Nat) :
    (a.taking millis).UpToVerdict (b.taking millis) := by
  obtain ⟨a, context, isFatal⟩ := a
  obtain ⟨b, context', isFatal'⟩ := b
  obtain ⟨step, context_eq, isFatal_eq, harmless⟩ := h
  refine ⟨?_, context_eq, isFatal_eq, harmless⟩
  cases step with
  | same silent => exact .same silent
  | reported invoked answered reports passed no_error =>
      exact .reported (s := { b with millis }) invoked answered reports passed no_error

theorem upToVerdict_answered (r : Runner) {s : Step} {i : Invocation} (invoked : s.invocation = some i)
    (unjudged : s.success = false) (no_payload : s.payload = none) (no_error : s.error = none) (context : Context)
    (outcome : Outcome) :
    ((r.judging true).answered s i.tool context outcome).UpToVerdict
      ((r.judging false).answered s i.tool context outcome) := by
  cases outcome with
  | success payload =>
      simp only [Runner.answered, Runner.judging, Bool.true_and, Bool.false_and, Bool.false_eq_true, if_false]
      by_cases reports : reportsError payload = true
      · rw [if_pos reports, unjudged]
        refine ⟨?_, rfl, rfl, fun _ => rfl⟩
        exact .reported (s := { s with success := true, payload := some payload }) invoked rfl
          (reportsError_iff.mp reports) rfl no_error
      · rw [if_neg reports]
        refine ⟨.same ?_, rfl, rfl, fun _ => rfl⟩
        rintro _ ⟨⟩
        rwa [← reportsError_iff]
  | failure e => exact .refl no_payload

section

variable {σ : Type} (ch : Channel σ) (int : Interrupts σ) (r : Runner) (lines : List String) (c : Client σ)

/-- The execution of a line makes the same of both runs, but for the verdict, and leaves the same client. -/
theorem upToVerdict_execute (context : Context) (index : Nat) (line : String) :
    EndsUpToVerdict ((r.judging true).execute ch int c context { index, line }).1
        ((r.judging false).execute ch int c context { index, line }).1 ∧
      ((r.judging true).execute ch int c context { index, line }).2 =
        ((r.judging false).execute ch int c context { index, line }).2 := by
  have schema_eq (strictly : Bool) : (r.judging strictly).schema = r.schema := rfl
  simp only [Runner.execute, schema_eq]
  cases Invocation.parse r.schema line with
  | error e => exact ⟨.ended (.refl rfl), rfl⟩
  | ok i =>
      simp only
      cases Runner.arguments context i with
      | error e => exact ⟨.ended (.refl rfl), rfl⟩
      | ok arguments =>
          simp only
          rcases c.callTool ch int i.tool arguments with ⟨(e | _) | response, d⟩
          · refine ⟨.ended (.refl ?_), rfl⟩
            unfold Runner.sent
            split <;> rfl
          · exact ⟨.stopped .interrupted, rfl⟩
          · refine ⟨.ended ?_, rfl⟩
            unfold Runner.sent
            split
            · exact upToVerdict_answered r rfl rfl rfl rfl context response.outcome
            · exact upToVerdict_answered r rfl rfl rfl rfl context response.outcome

/-- So does a step, whose time is taken. -/
theorem upToVerdict_runStep (context : Context) (index : Nat) (line : String) :
    EndsUpToVerdict ((r.judging true).runStep ch int c context index line).1
        ((r.judging false).runStep ch int c context index line).1 ∧
      ((r.judging true).runStep ch int c context index line).2 =
        ((r.judging false).runStep ch int c context index line).2 := by
  have executed := upToVerdict_execute ch int r (look ch c) context index line
  unfold look at executed
  simp only [Runner.runStep]
  generalize (r.judging true).execute ch int _ context _ = strict at executed ⊢
  generalize (r.judging false).execute ch int _ context _ = lenient at executed ⊢
  obtain ⟨strict, d⟩ := strict
  obtain ⟨lenient, d'⟩ := lenient
  obtain ⟨ends, same⟩ := executed
  obtain rfl : d = d' := same
  cases ends with
  | stopped stop => exact ⟨.stopped stop, rfl⟩
  | ended same => exact ⟨.ended (same.taking _), rfl⟩

end

/-! ### Runs -/

namespace Execution.UpToVerdict

variable {x y : Execution}

theorem fire (h : x.UpToVerdict y) (event : Event) : (x.fire event).UpToVerdict (y.fire event) := by
  obtain ⟨plan_eq, state_eq, context_eq, steps, sessionError_eq, interrupted_eq⟩ := h
  unfold Execution.fire
  rw [state_eq, plan_eq]
  split
  · exact ⟨rfl, rfl, context_eq, steps, sessionError_eq, interrupted_eq⟩
  · exact ⟨rfl, rfl, context_eq, steps, by simp only [sessionError_eq], interrupted_eq⟩

theorem failSession (h : x.UpToVerdict y) (e : Error) : (x.failSession e).UpToVerdict (y.failSession e) := by
  have failed : Execution.UpToVerdict { x with sessionError := some (.ofError e) }
      { y with sessionError := some (.ofError e) } :=
    ⟨h.plan_eq, h.state_eq, h.context_eq, h.steps, rfl, h.interrupted_eq⟩
  exact failed.fire .sessionFailed

theorem interrupt (h : x.UpToVerdict y) : x.interrupt.UpToVerdict y.interrupt := by
  have cut : Execution.UpToVerdict { x with interrupted := true } { y with interrupted := true } :=
    ⟨h.plan_eq, h.state_eq, h.context_eq, h.steps, h.sessionError_eq, rfl⟩
  have terminal_eq : x.state.isTerminal = y.state.isTerminal := by rw [h.state_eq]
  unfold Execution.interrupt
  simp only [terminal_eq]
  split
  · exact cut
  · exact cut.fire .interrupted

/-- The verdict on a step does not change what comes next if failures do not end the run. -/
theorem afterStep (h : x.UpToVerdict y) {index : Nat} (executing : x.state = .executing index)
    (goes_on : x.plan.policy = .proceed) {a b : Except Stop StepEnd} (ends : EndsUpToVerdict a b) :
    (x.afterStep a).UpToVerdict (y.afterStep b) := by
  cases ends with
  | stopped stop => exact h.interrupt
  | @ended a b same =>
      have executing' := h.state_eq ▸ executing
      have not_abort : x.plan.policy ≠ .abort := by
        rw [goes_on]
        nofun
      rw [Execution.afterStep_eq executing, Execution.afterStep_eq executing']
      refine ⟨h.plan_eq, ?_, same.context_eq, ?_, h.sessionError_eq, h.interrupted_eq⟩
      · simp only [← h.plan_eq, ← same.isFatal_eq, not_abort, or_false]
        by_cases agree : a.step.success = b.step.success
        · rw [agree]
        · simp [same.harmless agree]
      · exact List.rel_append h.steps (.cons same.step .nil)

theorem report (h : x.UpToVerdict y) : x.report.UpToVerdict y.report := by
  obtain ⟨plan_eq, state_eq, context_eq, steps, sessionError_eq, interrupted_eq⟩ := h
  unfold Execution.report
  rw [plan_eq, interrupted_eq]
  split
  · exact ⟨sessionError_eq, rfl, rfl, steps.length_eq, steps⟩
  · exact ⟨sessionError_eq, rfl, rfl, steps.length_eq, steps⟩

end Execution.UpToVerdict

theorem upToVerdict_begun (r : Runner) (total : Nat) :
    (((r.judging true).fresh total).fire .start).UpToVerdict (((r.judging false).fresh total).fire .start) := by
  have fresh : ((r.judging true).fresh total).UpToVerdict ((r.judging false).fresh total) :=
    ⟨rfl, rfl, rfl, .nil, rfl, rfl⟩
  exact fresh.fire .start

theorem policy_begun (r : Runner) (strictly : Bool) (total : Nat) :
    (((r.judging strictly).fresh total).fire .start).plan.policy = r.options.policy := by
  simp [Runner.fresh, Runner.judging]

section

variable {σ : Type} (ch : Channel σ) (int : Interrupts σ) {r : Runner} (lines : List String)

theorem upToVerdict_line {x y : Execution} (h : x.UpToVerdict y) (goes_on : x.plan.policy = .proceed)
    (c : Client σ) :
    ((lineProcedure (r.judging true) lines x).run ch int c).1.UpToVerdict
        ((lineProcedure (r.judging false) lines y).run ch int c).1 ∧
      ((lineProcedure (r.judging true) lines x).run ch int c).2 =
        ((lineProcedure (r.judging false) lines y).run ch int c).2 := by
  by_cases going : ∃ index, x.state = .executing index
  · obtain ⟨index, executing⟩ := going
    have executing' := h.state_eq ▸ executing
    cases found : lines[index]? with
    | none =>
        rw [lineProcedure_of_missing _ lines executing found, lineProcedure_of_missing _ lines executing' found]
        exact ⟨h.fire .sessionFailed, rfl⟩
    | some line =>
        obtain ⟨ends, same_client⟩ := upToVerdict_runStep ch int r c x.context index line
        have next := h.afterStep executing goes_on ends
        rw [run_lineProcedure_of_found ch int c _ lines executing found,
          run_lineProcedure_of_found ch int c _ lines executing' found, ← h.context_eq]
        dsimp only
        exact ⟨next, same_client⟩
  · have ended (index : Nat) : x.state ≠ .executing index := fun executing => going ⟨index, executing⟩
    rw [run_lineProcedure_of_ne _ lines ended, run_lineProcedure_of_ne _ lines (h.state_eq ▸ ended)]
    exact ⟨h, rfl⟩

theorem plan_line (x : Execution) (c : Client σ) : ((lineProcedure r lines x).run ch int c).1.plan = x.plan := by
  by_cases going : ∃ index, x.state = .executing index
  · obtain ⟨index, executing⟩ := going
    cases found : lines[index]? with
    | none =>
        rw [lineProcedure_of_missing r lines executing found]
        exact x.plan_fire _
    | some line =>
        rw [run_lineProcedure_of_found ch int c r lines executing found]
        cases (r.runStep ch int c x.context index line).1 with
        | error stop => exact x.plan_interrupt
        | ok ended => exact x.plan_afterStep ended
  · rw [run_lineProcedure_of_ne r lines fun index executing => going ⟨index, executing⟩]
    rfl

/-- So many lines make the same of both runs, but for the verdicts. -/
theorem upToVerdict_runLines (n : Nat) {x y : Execution} (h : x.UpToVerdict y)
    (goes_on : x.plan.policy = .proceed) (c : Client σ) :
    ((r.judging true).runLines ch int lines n x c).1.UpToVerdict
        ((r.judging false).runLines ch int lines n y c).1 ∧
      ((r.judging true).runLines ch int lines n x c).2 = ((r.judging false).runLines ch int lines n y c).2 := by
  rw [← run_courseProcedure, ← run_courseProcedure]
  induction n generalizing x y c with
  | zero => exact ⟨h, rfl⟩
  | succ n ih =>
      obtain ⟨next, same_client⟩ := upToVerdict_line ch int lines h goes_on c
      rw [run_courseProcedure_succ, run_courseProcedure_succ, ← same_client]
      refine ih next ?_ _
      rw [plan_line]
      exact goes_on

/-- So does a whole script, with its introduction. -/
theorem upToVerdict_drive {x y : Execution} (h : x.UpToVerdict y) (goes_on : x.plan.policy = .proceed)
    (c : Client σ) :
    ((r.judging true).drive ch int lines x c).1.UpToVerdict ((r.judging false).drive ch int lines y c).1 ∧
      ((r.judging true).drive ch int lines x c).2 = ((r.judging false).drive ch int lines y c).2 := by
  have handshake_eq (strictly : Bool) : (r.judging strictly).options.handshake = r.options.handshake := rfl
  have begun := (h.fire .sessionReady).fire .next
  have begun_goes_on : ((x.fire .sessionReady).fire .next).plan.policy = .proceed := by simpa using goes_on
  simp only [Runner.drive, handshake_eq]
  cases r.options.handshake with
  | none => exact upToVerdict_runLines ch int lines lines.length begun begun_goes_on c
  | some hs =>
      simp only
      rcases c.introduce ch int hs with ⟨(e | _) | result, d⟩
      · exact ⟨h.failSession e, rfl⟩
      · exact ⟨h.interrupt, rfl⟩
      · exact upToVerdict_runLines ch int lines lines.length begun begun_goes_on d

variable (goes_on : r.options.policy = .proceed)

include goes_on

theorem upToVerdict_runOn (c : Client σ) :
    ((r.judging true).runOn ch lines c).1.UpToVerdict ((r.judging false).runOn ch lines c).1 ∧
      ((r.judging true).runOn ch lines c).2 = ((r.judging false).runOn ch lines c).2 := by
  have begun := upToVerdict_begun r lines.length
  have begun_goes_on := (policy_begun r true lines.length).trans goes_on
  obtain ⟨same, same_client⟩ := upToVerdict_drive ch (.never σ) lines begun begun_goes_on c
  exact ⟨same.report, same_client⟩

theorem upToVerdict_runUntil {ω : Type} (host : Host ω σ) (int : HostInterrupts ω σ) (w : ω) :
    ((r.judging true).runUntil host int lines w).1.UpToVerdict
        ((r.judging false).runUntil host int lines w).1 ∧
      ((r.judging true).runUntil host int lines w).2 = ((r.judging false).runUntil host int lines w).2 := by
  have begun := upToVerdict_begun r lines.length
  have begun_goes_on := (policy_begun r true lines.length).trans goes_on
  have grace_eq (strictly : Bool) : (r.judging strictly).options.startupGrace = r.options.startupGrace := rfl
  simp only [Runner.runUntil, grace_eq]
  cases int.start? w r.options.startupGrace with
  | some left => exact ⟨begun.interrupt.report, rfl⟩
  | none =>
      simp only
      rcases host.start w r.options.startupGrace with ⟨e | session, left⟩
      · exact ⟨(begun.failSession e).report, rfl⟩
      · obtain ⟨same, same_client⟩ :=
          upToVerdict_drive host.channel int.exchange lines begun begun_goes_on (r.clientOf host session)
        refine ⟨same.report, ?_⟩
        exact congrArg (fun d => host.leave (host.stop d.channel r.options.shutdownGrace)) same_client

end

/-! ### Reports -/

theorem Step.UpToVerdict.timeless {a b : Step} (h : a.UpToVerdict b) : a.timeless.UpToVerdict b.timeless := by
  cases h with
  | same silent => exact .same silent
  | reported invoked answered reports passed no_error =>
      exact .reported (s := b.timeless) invoked answered reports passed no_error

theorem Report.UpToVerdict.timeless {a b : Report} (h : a.UpToVerdict b) :
    a.timeless.UpToVerdict b.timeless := by
  have timeless : List.Forall₂ (fun s t : Step => s.timeless.UpToVerdict t.timeless) a.steps b.steps :=
    h.steps.imp fun _ _ => Step.UpToVerdict.timeless
  have steps : List.Forall₂ Step.UpToVerdict a.timeless.steps b.timeless.steps :=
    List.forall₂_map_left_iff.mpr (List.forall₂_map_right_iff.mpr timeless)
  exact ⟨h.sessionError_eq, h.interrupted_eq, h.total_eq, steps.length_eq, steps⟩

/-- A script run twice under the policy that goes on after failures, once failing the steps whose result reports an
error and once letting them pass.  The two reports have the same error of the session and as many records, and
the records differ in the verdicts on those steps and in nothing else.  Over the same channel, the two runs make the
same exchanges and leave the same client; from the start of a server to the stop, under any interrupts, they use it
in the same way and leave the same world.  Over channels that reply alike they write the same lines, and besides the
verdicts only the times of the steps may differ. -/
theorem strictness_changes_verdicts_only {σ : Type} (r : Runner) (lines : List String) :
    let strict := (r.under .proceed).judging true
    let lenient := (r.under .proceed).judging false
    (∀ (ch : Channel σ) (c : Client σ),
      (strict.runOn ch lines c).1.UpToVerdict (lenient.runOn ch lines c).1 ∧
        (strict.runOn ch.recorded lines (c.recording [])).2 =
          (lenient.runOn ch.recorded lines (c.recording [])).2) ∧
      (∀ (ω : Type) (host : Host ω σ) (int : HostInterrupts ω σ) (w : ω),
        (strict.runUntil host int lines w).1.UpToVerdict (lenient.runUntil host int lines w).1 ∧
          (strict.runUntil host.watched int.watched lines ⟨w, []⟩).2 =
            (lenient.runUntil host.watched int.watched lines ⟨w, []⟩).2) ∧
      ∀ (τ : Type) (R : σ → τ → Prop) (ch : Channel σ) (ch' : Channel τ) (c : Client σ) (d : Client τ),
        RepliesAlike R ch ch' → c.Related R d →
          (strict.runOn ch lines c).1.timeless.UpToVerdict (lenient.runOn ch' lines d).1.timeless ∧
            writtenLines (strict.log ch c lines lines.length) =
              writtenLines (lenient.log ch' d lines lines.length) := by
  intro strict lenient
  have goes_on : (r.under .proceed).options.policy = .proceed := rfl
  have together (ch : Channel σ) (c : Client σ) := upToVerdict_runOn ch lines goes_on c
  have exchanged (ch : Channel σ) (c : Client σ) :
      (strict.runOn ch.recorded lines (c.recording [])).2 = (lenient.runOn ch.recorded lines (c.recording [])).2 :=
    (upToVerdict_runOn ch.recorded lines goes_on (c.recording [])).2
  refine ⟨fun ch c => ⟨(together ch c).1, exchanged ch c⟩, ?_, ?_⟩
  · intro ω host int w
    exact ⟨(upToVerdict_runUntil lines goes_on host int w).1,
      (upToVerdict_runUntil lines goes_on host.watched int.watched ⟨w, []⟩).2⟩
  · intro τ R ch ch' c d alike related
    have acts : ActsAlike lenient lenient lines := ⟨rfl, rfl, rfl, fun _ _ _ _ _ => rfl⟩
    have alongside := (inStep alike acts rfl related lines.length).toAlongside
    have log_eq : strict.log ch c lines lines.length = lenient.log ch c lines lines.length := by
      have same_client := exchanged ch c
      rw [runOn_recorded, runOn_recorded] at same_client
      exact congrArg (fun d => d.channel.transcript) same_client
    constructor
    · rw [alongside.report_eq]
      exact (together ch c).1.timeless
    · rw [log_eq]
      exact alongside.written_eq.symm

/-- A result that reports an error, and a call that refers to it, over two channels with different clocks. -/
theorem reported_error_changes_verdict :
    let s : Rehearsed.State :=
      ⟨[.queue [.line "\x7b\"jsonrpc\":\"2.0\",\"id\":1,\"result\":\x7b\"isError\":true\x7d\x7d"],
        .queue [.line "\x7b\"jsonrpc\":\"2.0\",\"id\":2,\"result\":7\x7d"]], [], false, []⟩
    let ch := Rehearsed.timed fun _ => ⟨0⟩
    let ch' := Rehearsed.timed fun written => ⟨3000 * written.length⟩
    let c := Client.start s ⟨1⟩ ⟨10⟩
    let r : Runner :=
      { options := { requestTimeout := ⟨10⟩, startupGrace := ⟨0⟩, shutdownGrace := ⟨0⟩, handshake := none } }
    let lines := ["a()", "b(x=$\x7blast_result\x7d)"]
    let strict := (r.under .proceed).judging true
    let lenient := (r.under .proceed).judging false
    (strict.runOn ch lines c).1.steps.map Step.success = [false, true] ∧
      (lenient.runOn ch' lines c).1.steps.map Step.success = [true, true] ∧
      (strict.runOn ch lines c).1.timeless.UpToVerdict (lenient.runOn ch' lines c).1.timeless ∧
      writtenLines (strict.log ch c lines lines.length) =
        writtenLines (lenient.log ch' c lines lines.length) := by
  intro s ch ch' c r lines strict lenient
  have alike : RepliesAlike Eq ch ch' := Rehearsed.repliesAlike_timed _ _
  obtain ⟨-, -, over_time⟩ := strictness_changes_verdicts_only (σ := Rehearsed.State) r lines
  exact ⟨by decide +kernel, by decide +kernel, over_time _ Eq ch ch' c c alike ⟨rfl, rfl, rfl, rfl⟩⟩

end Run

end CallScript
