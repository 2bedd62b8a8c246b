import CallScript.Proofs.Rpc.Replies
import CallScript.Proofs.Run.Tally
import CallScript.Proofs.Run.WireTrace

/-! # Two runs in lockstep

Two runs of one script over channels that reply alike, by runners that ask for the same (`ActsAlike`).  As
long as both are in the same state, the next line makes the same of both, but for the time that it takes:
the records agree, the clients have sent the same requests, and the same line is written.

* `runStep_alike`: a step makes the same of both runs.
* `Alongside`, `InStep`: two runs have done the same, and are in the same state.
* `inStep_zero`, `InStep.line`: they begin in lockstep, and the next line makes the same of both.
* `inStep`: under the same policy they stay in lockstep.
* `Alongside.report_eq`: runs that have done the same have the same report, but for the time. -/

namespace CallScript.Run

open Rpc

/-- The record of a step without its duration. -/
def Step.timeless (s : Step) : Step := { s with millis := 0 }

@[simp] theorem Step.success_timeless (s : Step) : s.timeless.success = s.success := rfl

theorem explained_timeless (r : Runner) (steps : List Step) :
    r.explained (steps.map Step.timeless) = r.explained steps := by
  unfold Runner.explained
  rw [List.filterMap_map]
  rfl

/-- Two runners ask for the same with each line of a script.  They may have different policies, and different
variables, as long as no call can tell. -/
structure ActsAlike (r r' : Runner) (lines : List String) : Prop where
  schema_eq : r'.schema = r.schema
  handshake_eq : r'.options.handshake = r.options.handshake
  flag_eq : r'.options.failOnReportedError = r.options.failOnReportedError
  arguments_eq : ∀ line ∈ lines, ∀ i, Invocation.parse r.schema line = .ok i → ∀ steps,
    Runner.arguments (r'.explained steps) i = Runner.arguments (r.explained steps) i

theorem ActsAlike.toSend_eq {r r' : Runner} {lines : List String} (h : ActsAlike r r' lines)
    {line : String} (member : line ∈ lines) (steps : List Step) :
    r'.toSend (r'.explained steps) line = r.toSend (r.explained steps) line := by
  unfold Runner.toSend
  rw [h.schema_eq]
  cases parsed : Invocation.parse r.schema line with
  | error e => rfl
  | ok i =>
      have same := h.arguments_eq line member i parsed steps
      simp only
      rw [same]

/-! ### Steps -/

section

variable {σ τ : Type} {R : σ → τ → Prop} {ch : Channel σ} {ch' : Channel τ}
  (alike : RepliesAlike R ch ch') {c : Client σ} {d : Client τ} {r r' : Runner}

include alike

theorem execute_alike (related : c.Related R d) (schema_eq : r'.schema = r.schema)
    (flag_eq : r'.options.failOnReportedError = r.options.failOnReportedError) {context context' : Context}
    (s : Step) (same : ∀ i, Invocation.parse r.schema s.line = .ok i →
      Runner.arguments context' i = Runner.arguments context i) :
    ∃ step isFatal k k' e e', r.execute ch (.never σ) c context s = (.ok ⟨step, k, isFatal⟩, e) ∧
      r'.execute ch' (.never τ) d context' s = (.ok ⟨step, k', isFatal⟩, e') ∧ e.Related R e' := by
  unfold Runner.execute
  rw [schema_eq]
  cases parsed : Invocation.parse r.schema s.line with
  | error e => exact ⟨_, _, _, _, _, _, rfl, rfl, related⟩
  | ok i =>
      simp only
      rw [same i parsed]
      cases Runner.arguments context i with
      | error e => exact ⟨_, _, _, _, _, _, rfl, rfl, related⟩
      | ok arguments =>
          have uncut := Client.call_never ch c Client.callMethod (some (toolCallParams i.tool arguments))
          obtain ⟨answer_eq, next⟩ :=
            alike.call related Client.callMethod (some (toolCallParams i.tool arguments))
          simp only [Client.callTool]
          generalize c.call ch (.never σ) Client.callMethod _ = called at uncut answer_eq next ⊢
          generalize d.call ch' (.never τ) Client.callMethod _ = called' at answer_eq next ⊢
          obtain ⟨answer, e⟩ := called
          obtain ⟨_, e'⟩ := called'
          cases answer_eq
          have last_eq := next.lastId_eq
          rcases answer with (failure | _) | ⟨id, outcome⟩
          · simp only at last_eq ⊢
            rw [related.lastId_eq, last_eq]
            exact ⟨_, _, _, _, _, _, rfl, rfl, next⟩
          · exact absurd rfl uncut
          · simp only at last_eq ⊢
            rw [related.lastId_eq, last_eq]
            cases outcome with
            | success payload =>
                simp only [Runner.answered, flag_eq]
                split
                · exact ⟨_, _, _, _, _, _, rfl, rfl, next⟩
                · exact ⟨_, _, _, _, _, _, rfl, rfl, next⟩
            | failure e => exact ⟨_, _, _, _, _, _, rfl, rfl, next⟩

/-- A step makes the same of both runs, but for the time that it takes. -/
theorem runStep_alike (related : c.Related R d) (schema_eq : r'.schema = r.schema)
    (flag_eq : r'.options.failOnReportedError = r.options.failOnReportedError) {context context' : Context}
    (index : Nat) (line : String) (same : ∀ i, Invocation.parse r.schema line = .ok i →
      Runner.arguments context' i = Runner.arguments context i) :
    ∃ ended ended' e e', r.runStep ch (.never σ) c context index line = (.ok ended, e) ∧
      r'.runStep ch' (.never τ) d context' index line = (.ok ended', e') ∧ e.Related R e' ∧
      ended'.step.timeless = ended.step.timeless ∧ ended'.isFatal = ended.isFatal := by
  have looked : (look ch c).Related R (look ch' d) :=
    ⟨alike.clock related.channel, related.ids_eq, related.lastId_eq, related.timeout_eq⟩
  obtain ⟨step, isFatal, k, k', e, e', executed, executed', next⟩ :=
    execute_alike alike looked schema_eq flag_eq { index, line } same
  unfold look at executed executed'
  unfold Runner.runStep
  simp only
  rw [executed, executed']
  exact ⟨_, _, _, _, rfl, rfl,
    ⟨alike.clock next.channel, next.ids_eq, next.lastId_eq, next.timeout_eq⟩, rfl, rfl⟩

end

/-! ### Lockstep -/

section

variable {σ τ : Type} (R : σ → τ → Prop) (ch : Channel σ) (ch' : Channel τ) (c : Client σ) (d : Client τ)
  (r r' : Runner) (lines : List String)

/-- Two runs have done the same in so many lines, but for the time that it took. -/
structure Alongside (n : Nat) : Prop where
  steps_eq : (r'.reached ch' d lines n).1.steps.map Step.timeless =
    (r.reached ch c lines n).1.steps.map Step.timeless
  error_eq : (r'.reached ch' d lines n).1.sessionError = (r.reached ch c lines n).1.sessionError
  related : (r.reached ch c lines n).2.Related R (r'.reached ch' d lines n).2
  written_eq : writtenLines (r'.log ch' d lines n) = writtenLines (r.log ch c lines n)

/-- Two runs that have done the same are in the same state. -/
structure InStep (n : Nat) : Prop extends Alongside R ch ch' c d r r' lines n where
  state_eq : (r'.reached ch' d lines n).1.state = (r.reached ch c lines n).1.state

end

section

variable {σ τ : Type} {R : σ → τ → Prop} {ch : Channel σ} {ch' : Channel τ}
  (alike : RepliesAlike R ch ch') {c : Client σ} {d : Client τ} {r r' : Runner} {lines : List String}

theorem writtenLines_introduce (ch : Channel σ) (int : Interrupts σ) (c : Client σ) (h : Handshake) :
    writtenLines ((Procedure.introduce h).transcript ch int c) =
      requestLine c.ids.next Client.introduceMethod (some h.toJson) ::
        match (c.call ch int Client.introduceMethod (some h.toJson)).1 with
        | .ok ⟨_, .success _⟩ => [introducedLine]
        | _ => [] := by
  have called := Procedure.called_transcript ch int c Client.introduceMethod (some h.toJson)
  rw [Procedure.transcript_introduce, writtenLines_append, called.writtenLines]
  rcases c.call ch int Client.introduceMethod (some h.toJson) with ⟨stop | ⟨id, result | e⟩, d⟩
  · rfl
  · simp only
    rcases (d.notify ch int Client.introducedMethod none).1 with stop | _
    · rfl
    · rfl
  · rfl

include alike in
/-- Two runs begin in lockstep. -/
theorem inStep_zero (acts : ActsAlike r r' lines) (related : c.Related R d) :
    InStep R ch ch' c d r r' lines 0 := by
  have no_steps := steps_reached_zero ch c r lines
  have no_steps' := steps_reached_zero ch' d r' lines
  have steps_eq : (r'.reached ch' d lines 0).1.steps.map Step.timeless =
      (r.reached ch c lines 0).1.steps.map Step.timeless := by rw [no_steps, no_steps']
  have opened : r.reached ch c lines 0 = r.opened ch c lines := rfl
  have opened' : r'.reached ch' d lines 0 = r'.opened ch' d lines := rfl
  -- The runs differ at most in their policies and their variables.
  have same : ∀ result, (r'.introduced lines.length result).state = (r.introduced lines.length result).state ∧
      (r'.introduced lines.length result).sessionError =
        (r.introduced lines.length result).sessionError := by
    rintro ((e | _) | result)
    · exact ⟨rfl, rfl⟩
    · exact ⟨rfl, rfl⟩
    · exact ⟨rfl, rfl⟩
  cases handshake : r.options.handshake with
  | none =>
      have handshake' := acts.handshake_eq.trans handshake
      have no_log := (opened_of_none ch c r lines handshake).2
      have no_log' := (opened_of_none ch' d r' lines handshake').2
      rw [opened_eq_of_none ch c r lines handshake] at opened
      rw [opened_eq_of_none ch' d r' lines handshake'] at opened'
      obtain ⟨state_eq, error_eq⟩ := same (.ok .null)
      refine ⟨⟨steps_eq, ?_, ?_, ?_⟩, ?_⟩
      · rw [opened, opened']
        exact error_eq
      · rw [opened, opened']
        exact related
      · rw [no_log, no_log']
      · rw [opened, opened']
        exact state_eq
  | some h =>
      have handshake' := acts.handshake_eq.trans handshake
      have logged := (opened_of_some ch c r lines handshake).2.1
      have logged' := (opened_of_some ch' d r' lines handshake').2.1
      rw [opened_eq_of_some ch c r lines handshake] at opened
      rw [opened_eq_of_some ch' d r' lines handshake'] at opened'
      obtain ⟨result_eq, next⟩ := alike.introduce related h
      obtain ⟨answer_eq, -⟩ := alike.call related Client.introduceMethod (some h.toJson)
      obtain ⟨state_eq, error_eq⟩ := same (c.introduce ch (.never σ) h).1
      refine ⟨⟨steps_eq, ?_, ?_, ?_⟩, ?_⟩
      · rw [opened, opened', ← result_eq]
        exact error_eq
      · rw [opened, opened']
        exact next
      · rw [logged, logged', writtenLines_introduce, writtenLines_introduce, answer_eq, related.ids_eq]
      · rw [opened, opened', ← result_eq]
        exact state_eq

theorem Alongside.explained_eq {n : Nat} (h : Alongside R ch ch' c d r r' lines n) :
    r'.explained (r'.reached ch' d lines n).1.steps = r'.explained (r.reached ch c lines n).1.steps := by
  rw [← explained_timeless, h.steps_eq, explained_timeless]

include alike in
/-- The next line makes the same of two runs in lockstep. -/
theorem InStep.line {n : Nat} (acts : ActsAlike r r' lines) (h : InStep R ch ch' c d r r' lines n)
    {index : Nat} (executing : (r.reached ch c lines n).1.state = .executing index) :
    ∃ line ended ended' during during', Executed ch c r lines n line ended during ∧
      Executed ch' d r' lines n line ended' during' ∧ ended'.step.timeless = ended.step.timeless ∧
        ended'.isFatal = ended.isFatal ∧ Alongside R ch ch' c d r r' lines (n + 1) := by
  have before := underway ch c r lines n
  have before' := underway ch' d r' lines n
  obtain ⟨rfl, in_range, count⟩ := before.executing index executing
  have found := List.getElem?_eq_getElem in_range
  have executing' := h.state_eq.trans executing
  obtain ⟨-, -, count'⟩ := before'.executing index executing'
  have context_eq := before.context_eq
  have context_eq' := before'.context_eq.trans h.explained_eq
  have same : ∀ i, Invocation.parse r.schema lines[index] = .ok i →
      Runner.arguments (r'.reached ch' d lines index).1.context i =
        Runner.arguments (r.reached ch c lines index).1.context i := by
    intro i parsed
    rw [context_eq, context_eq']
    exact acts.arguments_eq _ (List.getElem_mem in_range) i parsed _
  obtain ⟨ended, ended', e, e', stepped, stepped', next, step_eq, fatal_eq⟩ :=
    runStep_alike alike h.related acts.schema_eq acts.flag_eq index lines[index] same
  obtain ⟨left, during, executed⟩ := Executed.of_step ch c r lines executing found count stepped
  obtain ⟨left', during', executed'⟩ := Executed.of_step ch' d r' lines executing' found count' stepped'
  have sends := acts.toSend_eq (List.getElem_mem in_range) (r.reached ch c lines index).1.steps
  rw [← context_eq, ← context_eq'] at sends
  have during_eq : writtenLines during' = writtenLines during := by
    rw [executed.spec.writtenLines, executed'.spec.writtenLines, sends, h.related.ids_eq]
  refine ⟨_, ended, ended', during, during', executed, executed', step_eq, fatal_eq, ?_, ?_, ?_, ?_⟩
  · rw [executed.next, executed'.next, Execution.steps_afterStep, Execution.steps_afterStep,
      List.map_append, List.map_append, h.steps_eq, List.map_singleton, List.map_singleton, step_eq]
  · rw [executed.next, executed'.next, Execution.afterStep_eq executing, Execution.afterStep_eq executing']
    exact h.error_eq
  · rw [left, left']
    exact next
  · rw [executed.traced, executed'.traced, writtenLines_append, writtenLines_append, h.written_eq,
      during_eq]

/-- Two runs in lockstep have come to their ends together, and stay in lockstep. -/
theorem InStep.finished {n : Nat} (h : InStep R ch ch' c d r r' lines n)
    (ended : ∀ index, (r.reached ch c lines n).1.state ≠ .executing index) :
    InStep R ch ch' c d r r' lines (n + 1) := by
  have finished : Finished ch c r lines n := .of_ne ch c r lines ended
  have finished' : Finished ch' d r' lines n := by
    refine .of_ne ch' d r' lines ?_
    rw [h.state_eq]
    exact ended
  refine ⟨⟨?_, ?_, ?_, ?_⟩, ?_⟩
  · rw [finished.next, finished'.next, h.steps_eq]
  · rw [finished.next, finished'.next, h.error_eq]
  · rw [finished.next, finished'.next]
    exact h.related
  · rw [finished.traced, finished'.traced, h.written_eq]
  · rw [finished.next, finished'.next, h.state_eq]

include alike in
/-- Under the same policy two runs stay in lockstep. -/
theorem inStep (acts : ActsAlike r r' lines) (policy_eq : r'.options.policy = r.options.policy)
    (related : c.Related R d) (n : Nat) : InStep R ch ch' c d r r' lines n := by
  induction n with
  | zero => exact inStep_zero alike acts related
  | succ n ih =>
      by_cases going : ∃ index, (r.reached ch c lines n).1.state = .executing index
      · obtain ⟨index, executing⟩ := going
        obtain ⟨line, ended, ended', during, during', executed, executed', step_eq, fatal_eq, alongside⟩ :=
          ih.line alike acts executing
        have success_eq : ended'.step.success = ended.step.success := by
          rw [← Step.success_timeless, step_eq, Step.success_timeless]
        have plan_eq := (underway ch c r lines n).plan_eq
        have plan_eq' := (underway ch' d r' lines n).plan_eq
        refine ⟨alongside, ?_⟩
        rw [executed.next, executed'.next, Execution.state_afterStep _ executed.executing,
          Execution.state_afterStep _ executed'.executing, success_eq, fatal_eq, plan_eq, plan_eq', policy_eq]
      · exact ih.finished fun index executing => going ⟨index, executing⟩

end

/-! ### Reports -/

/-- A report without the time that its steps took. -/
def Report.timeless (r : Report) : Report := { r with steps := r.steps.map Step.timeless }

theorem Report.timeless_ofSteps (total : Nat) (steps : List Step) (error : Option ErrorInfo) :
    (Report.ofSteps total steps error).timeless = .ofSteps total (steps.map Step.timeless) error := by
  simp [timeless, ofSteps, List.all_map, Function.comp_def]

theorem report_runOn {σ : Type} (ch : Channel σ) (c : Client σ) (r : Runner) (lines : List String) :
    (r.runOn ch lines c).1 = .ofSteps lines.length (r.reached ch c lines lines.length).1.steps
      (r.reached ch c lines lines.length).1.sessionError := by
  obtain ⟨-, uninterrupted⟩ := standing ch c r lines lines.length
  have at_end := underway ch c r lines lines.length
  rw [runOn_eq, Execution.report, uninterrupted, at_end.plan_eq]
  rfl

/-- Two runs that have done the same to the end have the same report, but for the time. -/
theorem Alongside.report_eq {σ τ : Type} {R : σ → τ → Prop} {ch : Channel σ} {ch' : Channel τ}
    {c : Client σ} {d : Client τ} {r r' : Runner} {lines : List String}
    (h : Alongside R ch ch' c d r r' lines lines.length) :
    (r'.runOn ch' lines d).1.timeless = (r.runOn ch lines c).1.timeless := by
  rw [report_runOn, report_runOn, Report.timeless_ofSteps, Report.timeless_ofSteps, h.steps_eq, h.error_eq]

end CallScript.Run
