import CallScript.Proofs.Run.Lockstep

/-! # Stopping at a failure, or going on

The same script under both policies, over channels that reply alike.  The two runs are in lockstep until a
step fails (`Parting`).  Then the run that stops at failures has come to its end, and the other one goes on
from the same records and the same lines.

* `parting`: how two runs under the two policies stand between two steps.
* `stops_at_first_failure`: the run that stops at failures is the other one, cut short after its first
  failure. -/

namespace CallScript.Run

open Rpc

/-- The same runner under a policy. -/
def Runner.under (r : Runner) (policy : Policy) : Runner :=
  { r with options := { r.options with policy } }

/-- The records up to and including the first one of a failure. -/
def throughFirstFailure : List Step → List Step
  | [] => []
  | s :: rest => if s.success then s :: throughFirstFailure rest else [s]

theorem throughFirstFailure_of_passed {steps : List Step} (passed : ∀ s ∈ steps, s.success = true) :
    throughFirstFailure steps = steps := by
  induction steps with
  | nil => rfl
  | cons s rest ih =>
      have first := passed s List.mem_cons_self
      have others := ih fun s' member => passed s' (List.mem_cons_of_mem s member)
      rw [throughFirstFailure, if_pos first, others]

theorem throughFirstFailure_append {earlier later : List Step} {latest : Step}
    (passed : ∀ s ∈ earlier, s.success = true) (failed : latest.success = false) :
    throughFirstFailure (earlier ++ latest :: later) = earlier ++ [latest] := by
  induction earlier with
  | nil => simp [throughFirstFailure, failed]
  | cons s rest ih =>
      have first := passed s List.mem_cons_self
      have others := ih fun s' member => passed s' (List.mem_cons_of_mem s member)
      rw [List.cons_append, throughFirstFailure, if_pos first, others, List.cons_append]

theorem actsAlike_under (r : Runner) (lines : List String) :
    ActsAlike (r.under .abort) (r.under .proceed) lines :=
  ⟨rfl, rfl, rfl, fun _ _ _ _ _ => rfl⟩

theorem Standing.error_eq_none {policy : Policy} {total : Nat} {x : Execution}
    (h : Standing policy total x) (has : x.steps ≠ []) : x.sessionError = none := by
  cases h with
  | refused _ _ _ steps_eq => exact absurd steps_eq has
  | going _ error_eq | completed _ error_eq | ended _ _ _ error_eq => exact error_eq

section

variable {σ τ : Type} (R : σ → τ → Prop) (ch : Channel σ) (ch' : Channel τ) (c : Client σ) (d : Client τ)
  (r : Runner) (lines : List String)

/-- How the runs of a script under the two policies stand between two steps. -/
inductive Parting (n : Nat) : Prop
  /-- No step has failed. -/
  | together (inStep : InStep R ch ch' c d (r.under .abort) (r.under .proceed) lines n)
      (passed : ∀ s ∈ ((r.under .proceed).reached ch' d lines n).1.steps, s.success = true)
  /-- A step has failed in both runs, and the one that stops at failures has come to its end. -/
  | parted (k : Nat) (lt : k < n)
      (alongside : Alongside R ch ch' c d (r.under .abort) (r.under .proceed) lines (k + 1))
      (earlier : List Step) (latest : Step)
      (steps_eq : ((r.under .proceed).reached ch' d lines (k + 1)).1.steps = earlier ++ [latest])
      (passed : ∀ s ∈ earlier, s.success = true) (failed : latest.success = false)
      (finished : Finished ch c (r.under .abort) lines (k + 1))

end

section

variable {σ τ : Type} {R : σ → τ → Prop} {ch : Channel σ} {ch' : Channel τ}
  (alike : RepliesAlike R ch ch') {c : Client σ} {d : Client τ} (r : Runner) (lines : List String)

include alike

/-- A line that both runs execute leaves them together if it passes, and parts them if it fails. -/
theorem parting_step {n : Nat} (h : Parting R ch ch' c d r lines n) :
    Parting R ch ch' c d r lines (n + 1) := by
  cases h with
  | parted k lt alongside earlier latest steps_eq passed failed finished =>
      exact .parted k (by omega) alongside earlier latest steps_eq passed failed finished
  | together inStep passed =>
      by_cases going : ∃ index, ((r.under .abort).reached ch c lines n).1.state = .executing index
      · obtain ⟨index, executing⟩ := going
        obtain ⟨line, ended, ended', during, during', executed, executed', step_eq, -, alongside⟩ :=
          inStep.line alike (actsAlike_under r lines) executing
        have success_eq : ended'.step.success = ended.step.success := by
          rw [← Step.success_timeless, step_eq, Step.success_timeless]
        have state_eq := Execution.state_afterStep _ executed.executing ended
        have state_eq' := Execution.state_afterStep _ executed'.executing ended'
        rw [(underway ch c (r.under .abort) lines n).plan_eq] at state_eq
        rw [(underway ch' d (r.under .proceed) lines n).plan_eq] at state_eq'
        have steps_eq := Execution.steps_afterStep
          ((r.under .proceed).reached ch' d lines n).1 ended'
        rw [← executed'.next] at steps_eq state_eq'
        rw [← executed.next] at state_eq
        cases success : ended.step.success with
        | true =>
            rw [success] at success_eq
            rw [if_neg (by simp [success])] at state_eq
            rw [if_neg (by simp [success_eq])] at state_eq'
            refine .together ⟨alongside, state_eq'.trans state_eq.symm⟩ ?_
            rw [steps_eq]
            intro s member
            rcases List.mem_append.mp member with earlier | latest
            · exact passed s earlier
            · rw [List.mem_singleton.mp latest]
              exact success_eq
        | false =>
            rw [success] at success_eq
            rw [if_pos ⟨success, .inr rfl⟩] at state_eq
            refine .parted n (by omega) alongside _ ended'.step steps_eq passed success_eq ?_
            refine .of_ne ch c _ lines ?_
            rw [state_eq]
            nofun
      · have next := inStep.finished fun index executing => going ⟨index, executing⟩
        have finished' : Finished ch' d (r.under .proceed) lines n := by
          refine .of_ne ch' d _ lines ?_
          rw [inStep.state_eq]
          exact fun index executing => going ⟨index, executing⟩
        refine .together next ?_
        rw [finished'.next]
        exact passed

/-- How the runs of a script under the two policies stand between two steps. -/
theorem parting (related : c.Related R d) (n : Nat) : Parting R ch ch' c d r lines n := by
  induction n with
  | zero =>
      refine .together (inStep_zero alike (actsAlike_under r lines) related) ?_
      rw [steps_reached_zero]
      nofun
  | succ n ih => exact parting_step alike r lines ih

end

theorem success_ofSteps_of_failed {total : Nat} {steps : List Step} {error : Option ErrorInfo} {s : Step}
    (member : s ∈ steps) (failed : s.success = false) : (Report.ofSteps total steps error).success = false := by
  have some_failed : steps.all Step.success = false := List.all_eq_false.mpr ⟨s, member, by simp [failed]⟩
  unfold Report.ofSteps
  rw [some_failed, Bool.and_false]

/-- A script under both policies, over channels that reply alike, from clients that have done the same.  The
run that stops at failures has the records of the other one up to and including the first failure, or all of
them if there is none, but for the time that the steps took.  Both start their sessions or fail to for the
same reason, and both succeed or neither does.  The lines written by the run that stops are the first of the
lines written by the other one. -/
theorem stops_at_first_failure {σ τ : Type} {R : σ → τ → Prop} {ch : Channel σ} {ch' : Channel τ}
    (alike : RepliesAlike R ch ch') {c : Client σ} {d : Client τ} (related : c.Related R d) (r : Runner)
    (lines : List String) :
    let stopping := (r.under .abort).runOn ch lines c
    let going := (r.under .proceed).runOn ch' lines d
    stopping.1.steps.map Step.timeless = (throughFirstFailure going.1.steps).map Step.timeless ∧
      stopping.1.sessionError = going.1.sessionError ∧
      stopping.1.success = going.1.success ∧
      ∃ t t' : List Exchange,
        (r.under .abort).runOn ch.recorded lines (c.recording []) =
          (stopping.1, stopping.2.recording t) ∧
        (r.under .proceed).runOn ch'.recorded lines (d.recording []) =
          (going.1, going.2.recording t') ∧
        writtenLines t <+: writtenLines t' := by
  intro stopping going
  have stopping_eq : stopping.1 = _ := report_runOn ch c (r.under .abort) lines
  have going_eq : going.1 = _ := report_runOn ch' d (r.under .proceed) lines
  have recorded : (r.under .abort).runOn ch.recorded lines (c.recording []) =
    (stopping.1, stopping.2.recording _) := runOn_recorded ch c (r.under .abort) lines
  have recorded' : (r.under .proceed).runOn ch'.recorded lines (d.recording []) =
    (going.1, going.2.recording _) := runOn_recorded ch' d (r.under .proceed) lines
  rw [recorded, recorded', stopping_eq, going_eq]
  cases parting alike r lines related lines.length with
  | together inStep passed =>
      refine ⟨?_, inStep.error_eq.symm, ?_, _, _, rfl, rfl, ?_⟩
      · refine Eq.trans inStep.steps_eq.symm ?_
        simp only [Report.ofSteps]
        rw [throughFirstFailure_of_passed passed]
      · have same := inStep.report_eq
        rw [report_runOn, report_runOn] at same
        exact (congrArg Report.success same).symm
      · exact ⟨[], (List.append_nil _).trans inStep.written_eq.symm⟩
  | parted k lt alongside earlier latest steps_eq passed failed finished =>
      obtain ⟨stopped, stopped_log⟩ := finished.add ch c _ lines (lines.length - (k + 1))
      obtain ⟨later, later_eq⟩ := steps_add ch' d (r.under .proceed) lines (k + 1) (lines.length - (k + 1))
      obtain ⟨more, log_eq⟩ := log_add ch' d (r.under .proceed) lines (k + 1) (lines.length - (k + 1))
      rw [Nat.add_sub_cancel' lt] at stopped stopped_log later_eq log_eq
      rw [steps_eq] at later_eq
      have same := alongside.steps_eq
      rw [steps_eq, ← stopped] at same
      have written_eq := alongside.written_eq
      rw [← stopped_log] at written_eq
      -- Both runs have the record of the failure.
      have member' : latest ∈ ((r.under .proceed).reached ch' d lines lines.length).1.steps := by
        rw [later_eq]
        simp
      obtain ⟨s, member, s_eq⟩ : ∃ s ∈ ((r.under .abort).reached ch c lines lines.length).1.steps,
          s.timeless = latest.timeless := by
        apply List.mem_map.mp
        rw [← same]
        simp
      have failed_too : s.success = false := by
        rw [← Step.success_timeless, s_eq, Step.success_timeless, failed]
      have started := (standing ch c (r.under .abort) lines lines.length).1.error_eq_none
        (List.ne_nil_of_mem member)
      have started' := (standing ch' d (r.under .proceed) lines lines.length).1.error_eq_none
        (List.ne_nil_of_mem member')
      refine ⟨?_, started.trans started'.symm, ?_, _, _, rfl, rfl, ?_⟩
      · simp only [Report.ofSteps]
        rw [later_eq, List.append_assoc, List.singleton_append, throughFirstFailure_append passed failed]
        exact same.symm
      · rw [success_ofSteps_of_failed member failed_too, success_ofSteps_of_failed member' failed]
      · rw [log_eq, writtenLines_append, written_eq]
        exact List.prefix_append _ _

/-- A script whose second line is no call, over servers that answer alike in different times. -/
theorem stops_at_a_line_that_is_no_call :
    let slow := Rehearsed.timed fun written => ⟨1000 * written.length⟩
    let fast := Rehearsed.timed fun _ => ⟨0⟩
    let c := Client.start (⟨[.queue [.line
      "\x7b\"jsonrpc\":\"2.0\",\"id\":1,\"result\":1\x7d"]], [], false, []⟩ : Rehearsed.State) ⟨1⟩ ⟨10⟩
    let r : Runner :=
      { options :=
          { requestTimeout := ⟨10⟩, startupGrace := ⟨0⟩, shutdownGrace := ⟨0⟩, handshake := none } }
    let lines := ["a(x=1)", "no call", "b(y=2)"]
    let stopping := ((r.under .abort).runOn slow lines c).1
    let going := ((r.under .proceed).runOn fast lines c).1
    RepliesAlike Eq slow fast ∧ c.Related Eq c ∧ stopping.steps.length = 2 ∧ going.steps.length = 3 ∧
      stopping.steps.map Step.timeless = (throughFirstFailure going.steps).map Step.timeless := by
  intro slow fast c r lines stopping going
  have alike : RepliesAlike Eq slow fast := Rehearsed.repliesAlike_timed _ _
  have related : c.Related Eq c := ⟨rfl, rfl, rfl, rfl⟩
  obtain ⟨steps_eq, -⟩ := stops_at_first_failure alike related r lines
  exact ⟨alike, related, by decide +kernel, by decide +kernel, steps_eq⟩

end CallScript.Run
