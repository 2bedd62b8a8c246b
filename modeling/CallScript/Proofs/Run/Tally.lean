import CallScript.Proofs.Run.DataFlow

/-! # What a report adds up to

The records of a run are those of its first lines, in the order of the lines.  A run stops before its last
line for one of two reasons: its session did not start, or a step has ended it (`Step.Ends`).  `Standing`
says where a run stands between two steps; a step leads from one standing to the next, and after as many
steps as there are lines the run has come to its end.

* `judged`: a step fails exactly from an error, and fatally exactly from an error of the connection.
* `standing`: where a run stands between two steps.
* `records_reached`: the records of a run are those of its first lines.
* `report_tallies`: what the numbers and the verdict of a report say. -/

namespace CallScript.Run

open Rpc

/-! ### The verdict on a step -/

/-- A step fails exactly from an error, and fatally exactly if that is an error of the connection. -/
structure StepEnd.Judged (ended : StepEnd) : Prop where
  success_iff : ended.step.success = true ↔ ended.step.error = none
  isFatal_iff : ∀ e, ended.step.error = some e → (ended.isFatal = true ↔ e.kind = .connection)

theorem judged_fail {s : Step} (unjudged : s.success = false) (context : Context) (e : Error) :
    StepEnd.Judged ⟨s.fail e, context, e.isFatal⟩ := by
  constructor
  · simp [Step.fail, unjudged]
  · intro info found
    cases found
    exact e.isFatal_iff_kind

theorem judged_answered (r : Runner) {s : Step} (unjudged : s.success = false) (no_error : s.error = none)
    (tool : String) (context : Context) (outcome : Outcome) :
    (r.answered s tool context outcome).Judged := by
  cases outcome with
  | success payload =>
      unfold Runner.answered
      simp only
      split
      · refine ⟨by simp [unjudged], ?_⟩
        intro info found
        cases found
        simp
      · refine ⟨by simp [no_error], ?_⟩
        intro info found
        rw [no_error] at found
        cases found
  | failure e =>
      refine ⟨by simp [Runner.answered, unjudged], ?_⟩
      intro info found
      cases found
      simp [ErrorInfo.ofError, Error.kind, Runner.answered]

section

variable {σ : Type} (ch : Channel σ) (int : Interrupts σ)

/-- Every step that comes to its end is judged. -/
theorem judged {c d : Client σ} {r : Runner} {context : Context} {index : Nat} {line : String}
    {ended : StepEnd} (h : r.runStep ch int c context index line = (.ok ended, d)) : ended.Judged := by
  cases asked : r.toSend context line with
  | none =>
      obtain ⟨⟨i, e, millis, harmless, stepped⟩, -⟩ := run_step_unsent ch int c r asked
      rw [stepped] at h
      cases h
      have failed := judged_fail (s := { index, line, invocation := i, millis }) rfl context e
      rw [harmless] at failed
      exact failed
  | some call =>
      obtain ⟨i, arguments⟩ := call
      obtain ⟨⟨millis, stepped⟩, -⟩ := run_step_sent ch int c r asked
      rw [stepped] at h
      have unjudged : (Runner.sent { index, line, invocation := some i } c.lastId
          (some c.ids.next)).success = false := by
        unfold Runner.sent
        split <;> rfl
      have no_error : (Runner.sent { index, line, invocation := some i } c.lastId
          (some c.ids.next)).error = none := by
        unfold Runner.sent
        split <;> rfl
      simp only at h
      generalize (look ch c).callTool ch int i.tool arguments = called at h
      rcases called with ⟨(e | _) | response, d'⟩
      · cases h
        obtain ⟨success_iff, isFatal_iff⟩ := judged_fail unjudged context e
        exact ⟨success_iff, isFatal_iff⟩
      · cases h
      · cases h
        obtain ⟨success_iff, isFatal_iff⟩ :=
          judged_answered r unjudged no_error i.tool context response.outcome
        exact ⟨success_iff, isFatal_iff⟩

theorem introduce_never (c : Client σ) (h : Handshake) :
    (c.introduce ch (.never σ) h).1 ≠ .error .interrupted := by
  have uncut := Client.call_never ch c Client.introduceMethod (some h.toJson)
  unfold Client.introduce
  generalize c.call ch (.never σ) Client.introduceMethod (some h.toJson) = called at uncut ⊢
  rcases called with ⟨(e | _) | ⟨id, result | e⟩, d⟩
  · intro stopped
    cases stopped
  · exact absurd rfl uncut
  · simp only [Client.notify, Client.send, Interrupts.never]
    rcases ch.write d.channel _ with ⟨e | _, s⟩
    · intro stopped
      cases stopped
    · intro stopped
      cases stopped
  · intro stopped
    cases stopped

end

/-! ### The standing of a run -/

/-- A failed step ends its run if every failure does, or if it failed from an error of the connection. -/
def Step.Ends (policy : Policy) (s : Step) : Prop :=
  s.success = false ∧ (policy = .abort ∨ ∃ e, s.error = some e ∧ e.kind = .connection)

/-- A run goes on after a step that passed, and under the policy for it after one that failed from another
error than one of the connection. -/
def Step.LeadsOn (policy : Policy) (s : Step) : Prop :=
  s.success = true ∨ policy = .proceed ∧ ∃ e, s.error = some e ∧ e.kind ≠ .connection

section

variable {ended : StepEnd} (h : ended.Judged) {policy : Policy}

include h

theorem StepEnd.Judged.exists_error (failed : ended.step.success = false) :
    ∃ e, ended.step.error = some e := by
  apply Option.ne_none_iff_exists'.mp
  intro no_error
  rw [h.success_iff.mpr no_error] at failed
  cases failed

theorem StepEnd.Judged.ends
    (stop : ended.step.success = false ∧ (ended.isFatal = true ∨ policy = .abort)) :
    ended.step.Ends policy := by
  obtain ⟨failed, fatal | abort⟩ := stop
  · obtain ⟨e, found⟩ := h.exists_error failed
    exact ⟨failed, .inr ⟨e, found, (h.isFatal_iff e found).mp fatal⟩⟩
  · exact ⟨failed, .inl abort⟩

theorem StepEnd.Judged.leadsOn
    (go : ¬ (ended.step.success = false ∧ (ended.isFatal = true ∨ policy = .abort))) :
    ended.step.LeadsOn policy := by
  cases success : ended.step.success with
  | true => exact .inl success
  | false =>
      obtain ⟨e, found⟩ := h.exists_error success
      have unabated : ¬ (ended.isFatal = true ∨ policy = .abort) := fun stop => go ⟨success, stop⟩
      have kind : e.kind ≠ .connection := fun connection =>
        unabated (.inl ((h.isFatal_iff e found).mpr connection))
      cases policy with
      | abort => exact absurd (.inr rfl) unabated
      | proceed => exact .inr ⟨rfl, e, found, kind⟩

end

/-- Where a run of so many lines stands between two steps. -/
inductive Standing (policy : Policy) (total : Nat) (x : Execution) : Prop
  /-- The session did not start. -/
  | refused (e : ErrorInfo) (state_eq : x.state = .aborted) (error_eq : x.sessionError = some e)
      (steps_eq : x.steps = [])
  /-- There is a line to be executed. -/
  | going (state_eq : x.state = .executing x.steps.length) (error_eq : x.sessionError = none)
      (onward : ∀ s ∈ x.steps, s.LeadsOn policy)
  /-- Every line has been executed. -/
  | completed (state_eq : x.state = .completed) (error_eq : x.sessionError = none)
      (length_eq : x.steps.length = total) (onward : ∀ s ∈ x.steps, s.LeadsOn policy)
  /-- The latest step has ended the run. -/
  | ended (earlier : List Step) (latest : Step) (state_eq : x.state = .aborted)
      (error_eq : x.sessionError = none) (steps_eq : x.steps = earlier ++ [latest])
      (onward : ∀ s ∈ earlier, s.LeadsOn policy) (ends : latest.Ends policy)

/-- Once no line is asked for, a run has records only if its session started, all of them but the last let
it go on, and if lines are left over, the session did not start or the last record ended the run. -/
theorem Standing.stopped {policy : Policy} {total : Nat} {x : Execution} (h : Standing policy total x)
    (ended : ∀ index, x.state ≠ .executing index) :
    (x.sessionError ≠ none → x.steps = []) ∧ (∀ s ∈ x.steps.dropLast, s.LeadsOn policy) ∧
      (x.steps.length < total → x.sessionError ≠ none ∨
        ∃ s, x.steps.getLast? = some s ∧ s.Ends policy) := by
  cases h with
  | refused e _ error_eq steps_eq =>
      refine ⟨fun _ => steps_eq, ?_, fun _ => .inl ?_⟩
      · rw [steps_eq]
        nofun
      · rw [error_eq]
        nofun
  | going state_eq => exact absurd state_eq (ended _)
  | completed _ error_eq length_eq onward =>
      refine ⟨fun failed => absurd error_eq failed, ?_, fun short => ?_⟩
      · exact fun s member => onward s (List.dropLast_subset _ member)
      · omega
  | ended earlier latest _ error_eq steps_eq onward ends =>
      refine ⟨fun failed => absurd error_eq failed, ?_, fun _ => .inr ⟨latest, ?_, ends⟩⟩
      · rw [steps_eq, List.dropLast_concat]
        exact onward
      · rw [steps_eq, List.getLast?_concat]

theorem Execution.afterStep_eq {x : Execution} {index : Nat} (executing : x.state = .executing index)
    (ended : StepEnd) : x.afterStep (.ok ended) =
      { x with
        context := ended.context
        steps := x.steps ++ [ended.step]
        state := if ended.step.success = false ∧ (ended.isFatal ∨ x.plan.policy = .abort) then .aborted
          else x.plan.afterStep index } := by
  cases success : ended.step.success with
  | true => simp [afterStep, fire, State.advance, State.next?, success, executing]
  | false => simp [afterStep, fire, State.advance, State.next?, success, executing]

section

variable {σ : Type} (ch : Channel σ) (c : Client σ) (r : Runner) (lines : List String)

theorem standing_opened : Standing r.options.policy lines.length (r.opened ch c lines).1 ∧
    (r.opened ch c lines).1.interrupted = false := by
  have stands : ∀ result, result ≠ .error .interrupted →
      Standing r.options.policy lines.length (r.introduced lines.length result) ∧
        (r.introduced lines.length result).interrupted = false := by
    rintro ((e | _) | result) uncut
    · exact ⟨.refused _ rfl rfl rfl, rfl⟩
    · exact absurd rfl uncut
    · refine ⟨?_, rfl⟩
      by_cases empty : lines.length = 0
      · exact .completed (if_pos empty) rfl empty.symm (by simp [Runner.introduced, Runner.fresh])
      · exact .going (if_neg empty) rfl (by simp [Runner.introduced, Runner.fresh])
  cases handshake : r.options.handshake with
  | none =>
      rw [opened_eq_of_none ch c r lines handshake]
      exact stands (.ok .null) (by simp)
  | some h =>
      rw [opened_eq_of_some ch c r lines handshake]
      exact stands (c.introduce ch (.never σ) h).1 (introduce_never ch c h)

theorem standing_step {n : Nat}
    (h : Standing r.options.policy lines.length (r.reached ch c lines n).1 ∧
      (r.reached ch c lines n).1.interrupted = false) :
    Standing r.options.policy lines.length (r.reached ch c lines (n + 1)).1 ∧
      (r.reached ch c lines (n + 1)).1.interrupted = false := by
  obtain ⟨stands, uninterrupted⟩ := h
  by_cases asked : ∃ index, (r.reached ch c lines n).1.state = .executing index
  · obtain ⟨index, executing⟩ := asked
    have before := underway ch c r lines n
    obtain ⟨rfl, in_range, count⟩ := before.executing index executing
    obtain ⟨ended, d, stepped, ran, -⟩ := line_executing ch (r.reached ch c lines index).2 r lines executing
      (List.getElem?_eq_getElem in_range)
    have verdict := judged ch (.never σ) stepped
    obtain ⟨no_error, onward⟩ : (r.reached ch c lines index).1.sessionError = none ∧
        ∀ s ∈ (r.reached ch c lines index).1.steps, s.LeadsOn r.options.policy := by
      cases stands with
      | going _ error_eq onward => exact ⟨error_eq, onward⟩
      | refused _ state_eq | completed state_eq | ended _ _ state_eq =>
          rw [executing] at state_eq
          cases state_eq
    rw [reached_succ, ran, Execution.afterStep_eq executing ended, before.plan_eq]
    refine ⟨?_, uninterrupted⟩
    by_cases stop : ended.step.success = false ∧ (ended.isFatal = true ∨ r.options.policy = .abort)
    · exact .ended _ ended.step (if_pos stop) no_error rfl onward (verdict.ends stop)
    · have still_onward : ∀ s ∈ (r.reached ch c lines index).1.steps ++ [ended.step],
          s.LeadsOn r.options.policy := by
        intro s member
        rcases List.mem_append.mp member with earlier | latest
        · exact onward s earlier
        · rw [List.mem_singleton.mp latest]
          exact verdict.leadsOn stop
      have length_eq : ((r.reached ch c lines index).1.steps ++ [ended.step]).length = index + 1 := by
        rw [List.length_append, count, List.length_singleton]
      by_cases more : index + 1 < lines.length
      · refine .going ((if_neg stop).trans ?_) no_error still_onward
        rw [Plan.afterStep, if_pos more, length_eq]
      · refine .completed ((if_neg stop).trans (if_neg more)) no_error ?_ still_onward
        rw [length_eq]
        omega
  · have finished : Finished ch c r lines n := .of_ne ch c r lines fun index executing =>
      asked ⟨index, executing⟩
    rw [finished.next]
    exact ⟨stands, uninterrupted⟩

/-- A run has a standing between any two of its steps, and without interrupts it is never interrupted. -/
theorem standing (n : Nat) : Standing r.options.policy lines.length (r.reached ch c lines n).1 ∧
    (r.reached ch c lines n).1.interrupted = false := by
  induction n with
  | zero => exact standing_opened ch c r lines
  | succ n ih => exact standing_step ch c r lines ih

/-- The records of a run are those of its first lines, in the order of the lines. -/
theorem records_reached (n : Nat) :
    (r.reached ch c lines n).1.steps.map Step.index =
        List.range (r.reached ch c lines n).1.steps.length ∧
      (r.reached ch c lines n).1.steps.map Step.line =
        lines.take (r.reached ch c lines n).1.steps.length := by
  have recorded : ∀ (k : Nat) (s : Step), (r.reached ch c lines n).1.steps[k]? = some s →
      s.index = k ∧ lines[k]? = some s.line := by
    intro k s found
    obtain ⟨-, -, line, ended, during, executed, rfl⟩ := record_spec ch c r lines found
    refine ⟨executed.spec.index_eq, ?_⟩
    rw [executed.spec.line_eq]
    exact executed.found
  constructor
  · apply List.ext_getElem?
    intro k
    rw [List.getElem?_map]
    cases found : (r.reached ch c lines n).1.steps[k]? with
    | none =>
        have beyond := List.getElem?_eq_none_iff.mp found
        rw [List.getElem?_eq_none (by rw [List.length_range]; exact beyond)]
        rfl
    | some s =>
        have in_range := (List.getElem?_eq_some_iff.mp found).1
        rw [List.getElem?_range in_range, Option.map_some, (recorded k s found).1]
  · apply List.ext_getElem?
    intro k
    rw [List.getElem?_map, List.getElem?_take]
    cases found : (r.reached ch c lines n).1.steps[k]? with
    | none => rw [if_neg (Nat.not_lt.mpr (List.getElem?_eq_none_iff.mp found))]; rfl
    | some s =>
        have in_range := (List.getElem?_eq_some_iff.mp found).1
        rw [if_pos in_range, Option.map_some, (recorded k s found).2]

end

/-- What the report of a run over any channel adds up to.  Its records are those of the first lines, in
their order.  The lines that passed, that failed and that were skipped are all lines.  The run succeeded
exactly if its session started and every line has a record and passed.  There are no records if the session
did not start.  Every record before the last is one that lets the run go on under its policy, and if lines
are left over, the session did not start or the last step ended the run. -/
theorem report_tallies {σ : Type} (ch : Channel σ) (c : Client σ) (r : Runner) (lines : List String) :
    let report := (r.runOn ch lines c).1
    report.steps.map Step.index = List.range report.steps.length ∧
      report.steps.map Step.line <+: lines ∧
      report.passed + report.failed + report.skipped = report.total ∧
      report.total = lines.length ∧
      (report.success = true ↔ report.sessionError = none ∧ report.steps.length = lines.length ∧
        ∀ s ∈ report.steps, s.success = true) ∧
      (report.sessionError ≠ none → report.steps = []) ∧
      (r.options.policy = .abort → ∀ s ∈ report.steps.dropLast, s.success = true) ∧
      (r.options.policy = .proceed → ∀ s ∈ report.steps.dropLast, s.success = false →
        ∃ e, s.error = some e ∧ e.kind ≠ .connection) ∧
      (report.steps.length < lines.length → report.sessionError ≠ none ∨
        ∃ s, report.steps.getLast? = some s ∧ s.success = false ∧
          (r.options.policy = .abort ∨ ∃ e, s.error = some e ∧ e.kind = .connection)) := by
  intro report
  obtain ⟨stands, uninterrupted⟩ := standing ch c r lines lines.length
  obtain ⟨index_eq, line_eq⟩ := records_reached ch c r lines lines.length
  have at_end := underway ch c r lines lines.length
  have ended : ∀ index, (r.reached ch c lines lines.length).1.state ≠ .executing index := by
    intro index executing
    obtain ⟨rfl, in_range, -⟩ := at_end.executing index executing
    exact Nat.lt_irrefl _ in_range
  obtain ⟨unstarted, onward, short⟩ := stands.stopped ended
  generalize reached_eq : (r.reached ch c lines lines.length).1 = x at *
  have report_eq : report = .ofSteps lines.length x.steps x.sessionError := by
    simp only [report]
    rw [runOn_eq, reached_eq, Execution.report, uninterrupted, at_end.plan_eq]
    rfl
  have steps_eq : report.steps = x.steps := by rw [report_eq]; rfl
  have passed_le : (x.steps.filter Step.success).length ≤ x.steps.length := List.length_filter_le _ _
  rw [steps_eq]
  refine ⟨index_eq, ?_, ?_, by rw [report_eq]; rfl, ?_, ?_, ?_, ?_, ?_⟩
  · rw [line_eq]
    exact List.take_prefix _ _
  · rw [report_eq]
    have fits := at_end.length_le
    simp only [Report.passed, Report.failed, Report.skipped, Report.ofSteps]
    omega
  · rw [report_eq]
    simp [Report.ofSteps, and_assoc]
  · intro failed
    apply unstarted
    rw [report_eq] at failed
    exact failed
  · intro abort s member
    rcases onward s member with passed | ⟨proceed, -⟩
    · exact passed
    · rw [abort] at proceed
      cases proceed
  · intro _ s member failed
    rcases onward s member with passed | ⟨-, tolerated⟩
    · rw [failed] at passed
      cases passed
    · exact tolerated
  · rw [report_eq]
    exact short

end CallScript.Run
