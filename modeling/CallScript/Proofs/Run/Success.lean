import CallScript.Proofs.Run.Interruption
import CallScript.Proofs.Run.Legality

/-! # Which runs succeed

A run from the start of its server to the stop succeeds exactly if its session starts, every line has a record and
passed, and nothing was cut off (`success_iff`).  A run whose session does not start has no records, and says why:
it was interrupted, or it has an error of the session (`of_not_starts`).

* `interrupted_iff`: a run counts as interrupted if one of its uses of the host was cut off.
* `follows_runUntil`: the records are those of the first lines. -/

namespace CallScript.Run

open Rpc

/-! ### Reports -/

namespace Execution

variable (x : Execution)

@[simp] theorem interrupted_report : x.report.interrupted = x.interrupted := by
  unfold report
  cases cut : x.interrupted with
  | true => rfl
  | false => rfl

@[simp] theorem total_report : x.report.total = x.plan.total := by
  unfold report
  split <;> rfl

@[simp] theorem sessionError_report : x.report.sessionError = x.sessionError := by
  unfold report
  split <;> rfl

/-- The report of an execution says that it succeeded if it was not interrupted, has no error of its session, and
has a record of each line, which passed. -/
theorem success_report_iff : x.report.success = true ↔
    x.interrupted = false ∧ x.sessionError = none ∧ x.steps.length = x.plan.total ∧
      ∀ s ∈ x.steps, s.success = true := by
  unfold report
  cases x.interrupted with
  | true => simp [Report.markInterrupted]
  | false => simp [Report.ofSteps, and_assoc]

end Execution

section

variable {ω σ : Type} (host : Host ω σ) (int : HostInterrupts ω σ) (r : Runner) (lines : List String) (w : ω)

/-- The session of a run starts: nothing cuts off the start of its server, which starts, and the client introduces
itself to it, if it is to. -/
def Runner.Starts : Prop :=
  int.start? w r.options.startupGrace = none ∧ ∃ session left,
    host.start w r.options.startupGrace = (.ok session, left) ∧
      ∀ h, r.options.handshake = some h → ∃ result,
        (Client.introduce host.channel int.exchange (r.clientOf host session) h).1 = .ok result

/-- A run is cut short if one of its uses of the host is cut off. -/
def Runner.IsCut : Prop := ∃ use ∈ r.usesOf host int lines w, use.isCut = true

/-! ### What a run has come to in the end -/

/-- An execution of the first lines of a script, with a record of each of them. -/
structure Execution.Follows (lines : List String) (x : Execution) : Prop where
  total_eq : x.plan.total = lines.length
  lines_eq : x.steps.map Step.line = lines.take x.steps.length

theorem follows_refused (e : Error) : (((r.fresh lines.length).fire .start).failSession e).Follows lines := by
  rw [Runner.refused_eq]
  exact ⟨rfl, rfl⟩

theorem abandoned_eq (total : Nat) : ((r.fresh total).fire .start).interrupt =
    { r.fresh total with state := .aborted, interrupted := true } := by
  rw [Runner.started_eq]
  exact Execution.interrupt_eq rfl

theorem endOf_never : (∃ e, r.endOf host (.never ω σ) lines w = ((r.fresh lines.length).fire .start).failSession e) ∨
    ∃ session, r.endOf host (.never ω σ) lines w =
      (r.reached host.channel (r.clientOf host session) lines lines.length).1 := by
  rcases start : host.start w r.options.startupGrace with ⟨e | session, left⟩
  · refine .inl ⟨e, ?_⟩
    unfold Runner.endOf
    simp only [HostInterrupts.never, start]
  · refine .inr ⟨session, ?_⟩
    have ended : r.endOf host (.never ω σ) lines w = _ := endOf_of_started rfl start
    rw [ended, HostInterrupts.never, run_runProcedure]

theorem endOf_never_spec : (r.endOf host (.never ω σ) lines w).Follows lines ∧
    (r.endOf host (.never ω σ) lines w).interrupted = false := by
  rcases endOf_never host r lines w with ⟨e, ended⟩ | ⟨session, ended⟩
  · rw [ended]
    refine ⟨follows_refused r lines e, ?_⟩
    rw [Runner.refused_eq]
    rfl
  · rw [ended]
    have at_end := underway host.channel (r.clientOf host session) r lines lines.length
    refine ⟨⟨?_, (records_reached _ _ _ _ _).2⟩, (standing _ _ _ _ _).2⟩
    rw [at_end.plan_eq]

/-- Every run has a record of each of its first lines, interrupted or not. -/
theorem follows_runUntil : (r.runUntil host int lines w).1.total = lines.length ∧
    (r.runUntil host int lines w).1.steps.map Step.line =
      lines.take (r.runUntil host int lines w).1.steps.length := by
  have whole := (endOf_never_spec host r lines w).1
  cases course host int r lines w with
  | whole run_eq =>
      rw [run_eq, Runner.run, report_runUntil, Execution.total_report, Execution.steps_report]
      exact ⟨whole.total_eq, whole.lines_eq⟩
  | cut done later cut uses_eq is_cut uncut_done uncut_later short =>
      have steps_eq := short.steps_eq
      rw [Runner.run, report_runUntil, Execution.steps_report] at steps_eq
      rw [report_runUntil, Execution.total_report, Execution.steps_report]
      refine ⟨short.total_eq, ?_⟩
      have length_eq := congrArg List.length steps_eq
      rw [List.length_take] at length_eq
      calc (r.endOf host int lines w).steps.map Step.line
          = (lines.take (r.endOf host (.never ω σ) lines w).steps.length).take
              (r.endOf host int lines w).steps.length := by
            rw [← whole.lines_eq, ← List.map_take, ← steps_eq]
        _ = lines.take (r.endOf host int lines w).steps.length := by
            rw [List.take_take, ← length_eq]

/-- A run counts as interrupted if it was cut short. -/
theorem interrupted_iff : (r.runUntil host int lines w).1.interrupted = true ↔ r.IsCut host int lines w := by
  unfold Runner.IsCut
  cases course host int r lines w with
  | whole run_eq uses_eq uncut =>
      have uninterrupted : (r.runUntil host int lines w).1.interrupted = false := by
        rw [run_eq, Runner.run, report_runUntil, Execution.interrupted_report]
        exact (endOf_never_spec host r lines w).2
      rw [uninterrupted]
      simpa using uncut
  | cut done later cut uses_eq is_cut uncut_done uncut_later short =>
      rw [report_runUntil, Execution.interrupted_report, short.interrupted, uses_eq]
      exact iff_of_true rfl ⟨cut, by simp, is_cut⟩

/-- A run whose session does not start has no records; it is interrupted or has an error of its session. -/
theorem of_not_starts (unstarted : ¬ r.Starts host int w) : (r.runUntil host int lines w).1.steps = [] ∧
    ((r.runUntil host int lines w).1.interrupted = true ∨
      (r.runUntil host int lines w).1.sessionError ≠ none) := by
  rw [report_runUntil, Execution.steps_report, Execution.interrupted_report, Execution.sessionError_report]
  unfold Runner.endOf
  cases cut : int.start? w r.options.startupGrace with
  | some left =>
      simp only [abandoned_eq]
      exact ⟨rfl, .inl trivial⟩
  | none =>
      rcases start : host.start w r.options.startupGrace with ⟨e | session, left⟩
      · simp only [Runner.refused_eq]
        exact ⟨rfl, .inr (by simp)⟩
      · dsimp only
        unfold Runner.drive
        cases handshake : r.options.handshake with
        | none =>
            refine absurd ⟨cut, session, left, start, fun h given => ?_⟩ unstarted
            cases handshake.symm.trans given
        | some h =>
            dsimp only
            rcases introduced : Client.introduce host.channel int.exchange (r.clientOf host session) h with
              ⟨(e | _) | result, c⟩
            · simp only [Runner.refused_eq]
              exact ⟨rfl, .inr (by simp)⟩
            · simp only [abandoned_eq]
              exact ⟨rfl, .inl trivial⟩
            · refine absurd ⟨cut, session, left, start, fun h' given => ⟨result, ?_⟩⟩ unstarted
              cases handshake.symm.trans given
              rw [introduced]

theorem sessionError_of_starts (starts : r.Starts host int w) :
    (r.runUntil host int lines w).1.sessionError = none := by
  obtain ⟨x, left, run_eq, strictly⟩ := strictRunUntil_eq r lines host int w
  obtain ⟨uncut, session, left', start, introduced⟩ := starts
  have no_failure : r.failure? host int w = none := by
    unfold Runner.failure? Runner.refusal?
    simp only [uncut, start]
    cases handshake : r.options.handshake with
    | none => rfl
    | some h =>
        obtain ⟨result, introduced⟩ := introduced h handshake
        simp only [introduced]
  rw [run_eq, strictly.ended.sessionError_eq, no_failure]
  rfl

/-- A run succeeds exactly if its session starts, each line of the script has a record, in order, and passed, and
nothing was cut off. -/
theorem success_iff : (r.runUntil host int lines w).1.success = true ↔
    r.Starts host int w ∧ (r.runUntil host int lines w).1.steps.map Step.line = lines ∧
      (∀ s ∈ (r.runUntil host int lines w).1.steps, s.success = true) ∧ ¬ r.IsCut host int lines w := by
  obtain ⟨total_eq, lines_eq⟩ := follows_runUntil host int r lines w
  have success_eq : (r.runUntil host int lines w).1.success = true ↔
      (r.runUntil host int lines w).1.interrupted = false ∧ (r.runUntil host int lines w).1.sessionError = none ∧
        (r.runUntil host int lines w).1.steps.length = (r.runUntil host int lines w).1.total ∧
        ∀ s ∈ (r.runUntil host int lines w).1.steps, s.success = true := by
    rw [report_runUntil]
    simpa using (r.endOf host int lines w).success_report_iff
  rw [success_eq, ← interrupted_iff, Bool.not_eq_true, total_eq]
  constructor
  · rintro ⟨uninterrupted, no_error, length_eq, passed⟩
    refine ⟨?_, ?_, passed, uninterrupted⟩
    · refine Classical.byContradiction fun unstarted => ?_
      rcases (of_not_starts host int r lines w unstarted).2 with interrupted | failed
      · exact Bool.false_ne_true (uninterrupted.symm.trans interrupted)
      · exact failed no_error
    · rw [lines_eq, length_eq, List.take_length]
  · rintro ⟨starts, all, passed, uninterrupted⟩
    refine ⟨uninterrupted, sessionError_of_starts host int r lines w starts, ?_, passed⟩
    have length_eq := congrArg List.length all
    rwa [List.length_map] at length_eq

end

end CallScript.Run
