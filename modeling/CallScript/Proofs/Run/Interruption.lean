import CallScript.Proofs.Run.Tally
import CallScript.Proofs.Run.Watching

/-! # Interrupted runs

An interrupt during a run cuts off an exchange of its introduction or of one of its lines.  The line that is
cut off leaves no record, and the run ends where it was before that line (`Interrupted`); the lines before it
were executed as they would have been without interrupts.

* `curbed_line`: an interrupt during a line leaves the run as it was before, and ended.
* `underInterrupts`: a run under interrupts is the whole run, or ends within its opening or a line.
* `Interrupted.atomic`: the records of an interrupted run are those of the steps that were complete.
* `interruption_is_atomic`: what an interrupted run from start to stop has done, and reports. -/

namespace CallScript.Run

open Rpc

section

variable {σ : Type} (ch : Channel σ) (int : Interrupts σ) (c : Client σ) (r : Runner) (lines : List String)

/-! ### Lines -/

section

variable {ch : Channel σ} {int : Interrupts σ} {c : Client σ} {β : Type} {b : β}

theorem curbed_after_lastId {q : Option Int64 → Procedure β} (second : ∀ id, (q id).Curbed ch int c b) :
    (lastIdProcedure.bind q).Curbed ch int c b :=
  .after_whole rfl rfl rfl uncut_nil (second c.lastId)

theorem curbed_after_clock {q : Duration → Procedure β}
    (second : ∀ now, (q now).Curbed ch int (look ch c) b) : (clockProcedure.bind q).Curbed ch int c b :=
  .after_whole rfl rfl rfl uncut_nil (second (ch.clock c.channel).1)

end

theorem curbed_execute (context : Context) (s : Step) :
    (executeProcedure r context s).Curbed ch int c (.error .interrupted) := by
  unfold executeProcedure
  cases Invocation.parse r.schema s.line with
  | error e => exact Procedure.curbed_pure ..
  | ok i =>
      simp only
      cases Runner.arguments context i with
      | error e => exact Procedure.curbed_pure ..
      | ok arguments =>
          refine curbed_after_lastId fun before => ?_
          refine (curbed_call ch int c _ _).bind ⟨fun _ _ _ => rfl⟩ ?_
          exact curbed_after_lastId fun _ => Procedure.curbed_pure ..

theorem curbed_step (context : Context) (index : Nat) (line : String) :
    (stepProcedure r context index line).Curbed ch int c (.error .interrupted) := by
  refine curbed_after_clock fun first => ?_
  refine (curbed_execute ch int _ r context _).bind (Procedure.yields_pure _) ?_
  rcases ((executeProcedure r context { index, line }).run ch (.never σ) (look ch c)).1 with stop | ended
  · exact Procedure.curbed_pure ..
  · simp only [timeProcedure]
    exact curbed_after_clock fun _ => Procedure.curbed_pure ..

/-- A line is curbed: an interrupt leaves the run as it was before the line, and ended. -/
theorem curbed_line (x : Execution) : (lineProcedure r lines x).Curbed ch int c x.interrupt := by
  unfold lineProcedure
  split
  · split
    · exact Procedure.curbed_pure ..
    · refine (curbed_step ch int c r x.context _ _).bind (Procedure.yields_pure _) ?_
      exact Procedure.curbed_pure ..
  · exact Procedure.curbed_pure ..

theorem curbed_open (x : Execution) : (openProcedure r x).Curbed ch int c x.interrupt := by
  unfold openProcedure
  cases r.options.handshake with
  | none => exact Procedure.curbed_pure ..
  | some h =>
      refine (curbed_introduce ch int c h).bind (Procedure.yields_pure _) ?_
      rcases ((Procedure.introduce h).run ch (.never σ) c).1 with (e | _) | result
      · exact Procedure.curbed_pure ..
      · exact Procedure.curbed_pure ..
      · exact Procedure.curbed_pure ..

/-! ### Runs -/

/-- How a run ends that is cut off within so many lines, after some exchanges. -/
inductive Interrupted (n : Nat) (y : Execution) (done : List Exchange) : Prop
  /-- Within its opening. -/
  | opening (missed : List Exchange) (result : y = ((r.fresh lines.length).fire .start).interrupt)
      (log_eq : r.log ch c lines 0 = done ++ missed) (some_missed : missed ≠ [])
  /-- Within one of its lines. -/
  | line (k : Nat) (lt : k < n) (during missed : List Exchange)
      (executing : (r.reached ch c lines k).1.state = .executing k)
      (result : y = (r.reached ch c lines k).1.interrupt) (done_eq : done = r.log ch c lines k ++ during)
      (log_eq : r.log ch c lines (k + 1) = done ++ missed) (some_missed : missed ≠ [])

/-- A run under interrupts is the same as without, or it is cut off. -/
inductive UnderInterrupts (n : Nat) : Prop
  | whole (run_eq : (runProcedure r lines n).run ch int c = r.reached ch c lines n)
      (transcript_eq : (runProcedure r lines n).transcript ch int c = r.log ch c lines n)
      (uncut : Uncut (r.log ch c lines n))
  | cut (done : List Exchange) (last : Exchange)
      (transcript_eq : (runProcedure r lines n).transcript ch int c = done ++ [last])
      (uncut : Uncut done) (is_cut : last.isCut = true)
      (ended : Interrupted ch c r lines n ((runProcedure r lines n).run ch int c).1 done)

theorem Interrupted.isTerminal {ch : Channel σ} {c : Client σ} {r : Runner} {lines : List String} {n : Nat}
    {y : Execution} {done : List Exchange} (h : Interrupted ch c r lines n y done) : y.state.isTerminal := by
  cases h with
  | opening missed result | line k lt during missed executing result =>
      rw [result]
      exact Execution.isTerminal_interrupt _

theorem Interrupted.succ {ch : Channel σ} {c : Client σ} {r : Runner} {lines : List String} {n : Nat}
    {y : Execution} {done : List Exchange} (h : Interrupted ch c r lines n y done) :
    Interrupted ch c r lines (n + 1) y done := by
  cases h with
  | opening missed result log_eq some_missed => exact .opening missed result log_eq some_missed
  | line k lt during missed executing result done_eq log_eq some_missed =>
      exact .line k (by omega) during missed executing result done_eq log_eq some_missed

theorem underInterrupts_zero : UnderInterrupts ch int c r lines 0 := by
  have run_eq : (runProcedure r lines 0).run ch int c =
    (openProcedure r ((r.fresh lines.length).fire .start)).run ch int c := rfl
  have transcript_eq := transcript_runProcedure_zero ch int c r lines
  have log_eq := log_zero ch c r lines
  cases curbed_open ch int c r ((r.fresh lines.length).fire .start) with
  | whole open_eq open_transcript_eq uncut =>
      have opened := run_openProcedure ch c r lines
      rw [open_eq, opened] at run_eq
      rw [open_transcript_eq, ← log_eq] at transcript_eq
      rw [open_transcript_eq, ← log_eq] at uncut
      exact .whole run_eq transcript_eq uncut
  | cut done missed last result open_transcript_eq never_eq uncut is_cut some_missed =>
      rw [← log_eq] at never_eq
      refine .cut done last (transcript_eq.trans open_transcript_eq) uncut is_cut ?_
      exact .opening missed (by rw [run_eq, result]) never_eq some_missed

theorem underInterrupts_succ {n : Nat} (h : UnderInterrupts ch int c r lines n) :
    UnderInterrupts ch int c r lines (n + 1) := by
  have run_succ := run_runProcedure_succ ch int c r lines n
  have transcript_succ := transcript_runProcedure_succ ch int c r lines n
  cases h with
  | whole run_eq transcript_eq uncut =>
      rw [run_eq] at run_succ
      rw [run_eq, transcript_eq] at transcript_succ
      have log_eq := log_succ ch c r lines n
      cases curbed_line ch int (r.reached ch c lines n).2 r lines (r.reached ch c lines n).1 with
      | whole line_eq line_transcript_eq line_uncut =>
          rw [line_eq, ← reached_succ] at run_succ
          rw [line_transcript_eq, ← log_eq] at transcript_succ
          refine .whole run_succ transcript_succ ?_
          rw [log_eq, ← line_transcript_eq]
          exact uncut.append line_uncut
      | cut during missed last result line_transcript_eq never_eq line_uncut is_cut some_missed =>
          -- Only a line that is executed can be cut off.
          have executing : (r.reached ch c lines n).1.state = .executing n := by
            rcases next_line ch c r lines n with ⟨_, _, _, executed⟩ | finished
            · exact executed.executing
            · rw [run_lineProcedure_of_ne r lines finished.not_executing] at never_eq
              have nothing : during ++ missed = [] := never_eq.symm
              exact absurd (List.append_eq_nil_iff.mp nothing).2 some_missed
          rw [never_eq, ← List.append_assoc] at log_eq
          rw [line_transcript_eq, ← List.append_assoc] at transcript_succ
          refine .cut (r.log ch c lines n ++ during) last transcript_succ (uncut.append line_uncut) is_cut ?_
          exact .line n (by omega) during missed executing (by rw [run_succ, result]) rfl log_eq some_missed
  | cut done last transcript_eq uncut is_cut ended =>
      have stays := run_lineProcedure_of_ne r lines (State.ne_executing_of_isTerminal ended.isTerminal)
      rw [stays] at run_succ transcript_succ
      refine .cut done last ?_ uncut is_cut ?_
      · rw [transcript_succ, transcript_eq]
        exact List.append_nil _
      · rw [run_succ]
        exact ended.succ

/-- A run under interrupts is the same as without, or it is cut off within its opening or one of its
lines. -/
theorem underInterrupts (n : Nat) : UnderInterrupts ch int c r lines n := by
  induction n with
  | zero => exact underInterrupts_zero ch int c r lines
  | succ n ih => exact underInterrupts_succ ch int c r lines ih

end

/-! ### What an interrupted run has done -/

theorem not_prefix_of_missed {done missed later : List Exchange} (some_missed : missed ≠ []) :
    ¬ (done ++ missed ++ later) <+: done := by
  intro early
  have length_le := early.length_le
  have some_length := List.length_pos_iff.mpr some_missed
  simp only [List.length_append] at length_le
  omega

section

variable {σ : Type} (ch : Channel σ) (c : Client σ) (r : Runner) (lines : List String)

/-- An interrupted run has come to its end after some exchanges.  It has the records of exactly those steps
of the whole run that were complete by then. -/
structure Atomic (y : Execution) (done : List Exchange) : Prop where
  state_eq : y.state = .aborted
  interrupted : y.interrupted = true
  total_eq : y.plan.total = lines.length
  length_le : y.steps.length ≤ lines.length
  missed : ∃ missed, missed ≠ [] ∧ r.log ch c lines lines.length = done ++ missed
  steps_eq : y.steps = (r.reached ch c lines lines.length).1.steps.take y.steps.length
  complete_iff : ∀ k, k < (r.reached ch c lines lines.length).1.steps.length →
    (k < y.steps.length ↔ r.log ch c lines (k + 1) <+: done)

theorem Interrupted.atomic {y : Execution} {done : List Exchange}
    (h : Interrupted ch c r lines lines.length y done) : Atomic ch c r lines y done := by
  cases h with
  | opening missed result log_eq some_missed =>
      rw [Runner.started_eq, Execution.interrupt_eq rfl] at result
      subst result
      have later : ∀ n, ∃ more, r.log ch c lines n = done ++ missed ++ more := by
        intro n
        obtain ⟨more, later⟩ := log_add ch c r lines 0 n
        rw [Nat.zero_add, log_eq] at later
        exact ⟨more, later⟩
      refine ⟨rfl, rfl, rfl, Nat.zero_le _, ?_, rfl, ?_⟩
      · obtain ⟨more, whole⟩ := later lines.length
        rw [List.append_assoc] at whole
        exact ⟨_, List.append_ne_nil_of_left_ne_nil some_missed _, whole⟩
      · intro k _
        obtain ⟨more, through⟩ := later (k + 1)
        rw [through]
        have undone : ¬ (done ++ missed ++ more) <+: done := not_prefix_of_missed some_missed
        exact ⟨fun none_done => absurd none_done (Nat.not_lt_zero k), fun early => absurd early undone⟩
  | line n lt during missed executing result done_eq log_eq some_missed =>
      have before := underway ch c r lines n
      obtain ⟨-, -, count⟩ := before.executing n executing
      rw [Execution.interrupt_eq (by rw [executing]; rfl)] at result
      subst result
      have later : ∀ m, n < m → ∃ more, r.log ch c lines m = done ++ missed ++ more := by
        intro m beyond
        obtain ⟨more, later⟩ := log_add ch c r lines (n + 1) (m - (n + 1))
        rw [Nat.add_sub_cancel' beyond, log_eq] at later
        exact ⟨more, later⟩
      obtain ⟨steps_later, steps_eq⟩ := steps_add ch c r lines n (lines.length - n)
      rw [Nat.add_sub_cancel' (Nat.le_of_lt lt)] at steps_eq
      refine ⟨rfl, rfl, by rw [before.plan_eq], by rw [count]; omega, ?_, ?_, ?_⟩
      · obtain ⟨more, whole⟩ := later lines.length lt
        rw [List.append_assoc] at whole
        exact ⟨_, List.append_ne_nil_of_left_ne_nil some_missed _, whole⟩
      · rw [steps_eq, List.take_left]
      · intro k _
        constructor
        · intro earlier
          rw [count] at earlier
          obtain ⟨more, through⟩ := log_add ch c r lines (k + 1) (n - (k + 1))
          rw [Nat.add_sub_cancel' earlier] at through
          rw [done_eq, through, List.append_assoc]
          exact List.prefix_append _ _
        · intro early
          apply Nat.lt_of_not_le
          intro beyond
          rw [count] at beyond
          obtain ⟨more, through⟩ := later (k + 1) (by omega)
          rw [through] at early
          exact not_prefix_of_missed some_missed early

end

/-! ### From start to stop -/

@[simp] theorem Execution.steps_report (x : Execution) : x.report.steps = x.steps := by
  unfold report
  split
  · rfl
  · rfl

/-- There is at most one cut in a list, if none comes before it and none after. -/
theorem eq_of_cut {before before' later later' : List Use} {cut cut' : Use}
    (same : before ++ cut :: later = before' ++ cut' :: later') (is_cut : cut.isCut = true)
    (uncut_before : ∀ u ∈ before', u.isCut = false) (uncut_later : ∀ u ∈ later', u.isCut = false) :
    before = before' ∧ cut = cut' ∧ later = later' := by
  have not_before : cut ∉ before' := fun member => by simp [uncut_before cut member] at is_cut
  have not_later : cut ∉ later' := fun member => by simp [uncut_later cut member] at is_cut
  rcases List.append_eq_append_iff.mp same with ⟨more, rfl, rest⟩ | ⟨more, rfl, rest⟩
  · rcases more with _ | ⟨first, more⟩
    · obtain ⟨rfl, rfl⟩ := List.cons.inj rest
      exact ⟨(List.append_nil _).symm, rfl, rfl⟩
    · obtain ⟨rfl, -⟩ := List.cons.inj rest
      exact absurd (by simp) not_before
  · rcases more with _ | ⟨first, more⟩
    · obtain ⟨rfl, rfl⟩ := List.cons.inj rest
      exact ⟨List.append_nil _, rfl, rfl⟩
    · obtain ⟨-, rfl⟩ := List.cons.inj rest
      exact absurd (by simp) not_later

section

variable {ω σ : Type} (host : Host ω σ) (int : HostInterrupts ω σ) (r : Runner) (lines : List String) (w : ω)

/-- How a run without interrupts has used its host when a step is complete. -/
def Runner.usesThrough (k : Nat) : List Use :=
  match host.start w r.options.startupGrace with
  | (.error _, _) => []
  | (.ok session, _) =>
    [.started] ++ (r.log host.channel (r.clientOf host session) lines (k + 1)).map .exchanged

/-- What an interrupted run has come to, and how it has used its host before and after the cut. -/
structure CutShort (done later : List Use) : Prop where
  state_eq : (r.endOf host int lines w).state = .aborted
  interrupted : (r.endOf host int lines w).interrupted = true
  total_eq : (r.endOf host int lines w).plan.total = lines.length
  length_le : (r.endOf host int lines w).steps.length ≤ lines.length
  later_eq : later = if .started ∈ done then [.stopped r.options.shutdownGrace] else []
  not_stopped : ∀ grace, .stopped grace ∉ done
  missed : ∃ missed, missed ≠ [] ∧ r.usesOf host (.never ω σ) lines w = done ++ missed
  steps_eq : (r.endOf host int lines w).steps =
    (r.run host lines w).1.steps.take (r.endOf host int lines w).steps.length
  complete_iff : ∀ k, k < (r.run host lines w).1.steps.length →
    (k < (r.endOf host int lines w).steps.length ↔ r.usesThrough host lines w k <+: done)

/-- How interrupts change a run from start to stop. -/
inductive Course : Prop
  | whole (run_eq : r.runUntil host int lines w = r.run host lines w)
      (uses_eq : r.usesOf host int lines w = r.usesOf host (.never ω σ) lines w)
      (uncut : ∀ u ∈ r.usesOf host int lines w, u.isCut = false)
  | cut (done later : List Use) (cut : Use) (uses_eq : r.usesOf host int lines w = done ++ cut :: later)
      (is_cut : cut.isCut = true) (uncut_done : ∀ u ∈ done, u.isCut = false)
      (uncut_later : ∀ u ∈ later, u.isCut = false) (short : CutShort host int r lines w done later)

theorem uncut_map {t : List Exchange} (h : Uncut t) : ∀ u ∈ t.map Use.exchanged, u.isCut = false := by
  intro u member
  obtain ⟨e, exchange, rfl⟩ := List.mem_map.mp member
  exact h e exchange

section

variable {host int r lines w}

theorem steps_run_of_refused {left : ω} {e : Error}
    (start : host.start w r.options.startupGrace = (.error e, left)) :
    (r.run host lines w).1.steps = [] := by
  have ended : r.endOf host (.never ω σ) lines w = ((r.fresh lines.length).fire .start).failSession e := by
    unfold Runner.endOf
    simp only [HostInterrupts.never, start]
  rw [Runner.run, report_runUntil, ended, Runner.refused_eq]
  rfl

theorem usesOf_of_started {left : ω} {session : σ} (uncut : int.start? w r.options.startupGrace = none)
    (start : host.start w r.options.startupGrace = (.ok session, left)) :
    r.usesOf host int lines w = [.started] ++ ((runProcedure r lines lines.length).transcript host.channel
      int.exchange (r.clientOf host session)).map .exchanged ++ [.stopped r.options.shutdownGrace] := by
  unfold Runner.usesOf
  simp only [uncut, start]

theorem endOf_of_started {left : ω} {session : σ} (uncut : int.start? w r.options.startupGrace = none)
    (start : host.start w r.options.startupGrace = (.ok session, left)) :
    r.endOf host int lines w = ((runProcedure r lines lines.length).run host.channel int.exchange
      (r.clientOf host session)).1 := by
  unfold Runner.endOf
  simp only [uncut, start]
  rw [drive_eq]

theorem usesThrough_of_started {left : ω} {session : σ}
    (start : host.start w r.options.startupGrace = (.ok session, left)) (k : Nat) :
    r.usesThrough host lines w k =
      [.started] ++ (r.log host.channel (r.clientOf host session) lines (k + 1)).map .exchanged := by
  unfold Runner.usesThrough
  simp only [start]

theorem steps_run_of_started {left : ω} {session : σ}
    (start : host.start w r.options.startupGrace = (.ok session, left)) : (r.run host lines w).1.steps =
      (r.reached host.channel (r.clientOf host session) lines lines.length).1.steps := by
  have ended : r.endOf host (.never ω σ) lines w = _ := endOf_of_started rfl start
  rw [Runner.run, report_runUntil, ended, Execution.steps_report, HostInterrupts.never, run_runProcedure]

theorem course_of_abandoned {left : ω} (cut : int.start? w r.options.startupGrace = some left) :
    Course host int r lines w := by
  have ended : r.endOf host int lines w =
      { r.fresh lines.length with state := .aborted, interrupted := true } := by
    unfold Runner.endOf
    rw [cut, Runner.started_eq]
    exact Execution.interrupt_eq rfl
  have uses_eq : r.usesOf host int lines w = [.abandoned] := by
    unfold Runner.usesOf
    rw [cut]
  refine .cut [] [] .abandoned uses_eq rfl (by simp) (by simp) ?_
  refine ⟨?_, ?_, ?_, ?_, rfl, by simp,
    ⟨r.usesOf host (.never ω σ) lines w, ?_, rfl⟩, ?_, ?_⟩
  · rw [ended]
  · rw [ended]
  · rw [ended]
    rfl
  · rw [ended]
    exact Nat.zero_le _
  · unfold Runner.usesOf
    rcases start : host.start w r.options.startupGrace with ⟨e | session, left⟩
    · simp [HostInterrupts.never]
    · simp [HostInterrupts.never]
  · rw [ended]
    rfl
  · intro k in_range
    rw [ended]
    rcases start : host.start w r.options.startupGrace with ⟨e | session, left⟩
    · rw [steps_run_of_refused start] at in_range
      cases in_range
    · simp [Runner.usesThrough, start, Runner.fresh]

theorem course_of_refused {left : ω} {e : Error} (uncut : int.start? w r.options.startupGrace = none)
    (start : host.start w r.options.startupGrace = (.error e, left)) : Course host int r lines w := by
  have uses_eq : r.usesOf host int lines w = [.refused] := by
    unfold Runner.usesOf
    simp only [uncut, start]
  refine .whole ?_ ?_ ?_
  · unfold Runner.run Runner.runUntil
    simp only [uncut, start, HostInterrupts.never]
  · unfold Runner.usesOf
    simp only [uncut, start, HostInterrupts.never]
  · rw [uses_eq]
    simp [Use.isCut]

/-- A run that is cut off after its server has started is told to stop, and has done nothing more. -/
theorem cutShort_of_started {left : ω} {session : σ} {done : List Exchange}
    (start : host.start w r.options.startupGrace = (.ok session, left))
    (ended : Interrupted host.channel (r.clientOf host session) r lines lines.length
      (r.endOf host int lines w) done) :
    CutShort host int r lines w ([.started] ++ done.map .exchanged) [.stopped r.options.shutdownGrace] := by
  obtain ⟨state_eq, interrupted, total_eq, length_le, ⟨missed, some_missed, missed_eq⟩, steps_eq,
    complete_iff⟩ := ended.atomic
  rw [← steps_run_of_started start] at steps_eq complete_iff
  refine ⟨state_eq, interrupted, total_eq, length_le, by simp, by simp, ?_, steps_eq, ?_⟩
  · refine ⟨missed.map .exchanged ++ [.stopped r.options.shutdownGrace], by simp, ?_⟩
    have log_eq : (runProcedure r lines lines.length).transcript host.channel (.never σ)
        (r.clientOf host session) = done ++ missed := missed_eq
    have whole_eq : r.usesOf host (.never ω σ) lines w = _ := usesOf_of_started rfl start
    rw [whole_eq, HostInterrupts.never, log_eq, List.map_append]
    simp only [List.append_assoc]
  · intro k in_range
    have injective : Function.Injective Use.exchanged := fun _ _ same => Use.exchanged.inj same
    rw [complete_iff k in_range, usesThrough_of_started start, List.prefix_append_right_inj,
      List.prefix_map_iff_of_injective injective]

theorem course_of_started {left : ω} {session : σ} (uncut : int.start? w r.options.startupGrace = none)
    (start : host.start w r.options.startupGrace = (.ok session, left)) : Course host int r lines w := by
  have uses_eq : r.usesOf host int lines w = _ := usesOf_of_started uncut start
  have end_eq : r.endOf host int lines w = _ := endOf_of_started uncut start
  cases underInterrupts host.channel int.exchange (r.clientOf host session) r lines lines.length with
  | whole run_eq transcript_eq uncut_log =>
      rw [transcript_eq] at uses_eq
      refine .whole ?_ ?_ ?_
      · rw [← run_runProcedure, ← drive_eq, ← drive_eq] at run_eq
        unfold Runner.clientOf at run_eq
        unfold Runner.run Runner.runUntil
        simp only [uncut, start, HostInterrupts.never]
        rw [run_eq]
      · have whole_eq : r.usesOf host (.never ω σ) lines w = _ := usesOf_of_started rfl start
        exact uses_eq.trans whole_eq.symm
      · rw [uses_eq]
        intro u member
        simp only [List.append_assoc, List.mem_append, List.mem_singleton] at member
        rcases member with rfl | exchange | rfl
        · rfl
        · exact uncut_map uncut_log u exchange
        · rfl
  | cut done last transcript_eq uncut_done is_cut ended =>
      rw [← end_eq] at ended
      refine .cut _ _ (.exchanged last) ?_ is_cut ?_ ?_ (cutShort_of_started start ended)
      · rw [uses_eq, transcript_eq]
        simp
      · intro u member
        rcases List.mem_append.mp member with first | exchange
        · rw [List.mem_singleton.mp first]
          rfl
        · exact uncut_map uncut_done u exchange
      · intro u member
        rw [List.mem_singleton.mp member]
        rfl

end

/-- How interrupts change a run from start to stop. -/
theorem course : Course host int r lines w := by
  cases cut : int.start? w r.options.startupGrace with
  | some left => exact course_of_abandoned cut
  | none =>
      rcases start : host.start w r.options.startupGrace with ⟨e | session, left⟩
      · exact course_of_refused cut start
      · exact course_of_started cut start

end

/-- What becomes of a run, from the start of its server to the stop, when an interrupt comes.  Watching the
run changes nothing.  If nothing was cut off, the run is the one without interrupts.  Otherwise the report
says that the run was interrupted and did not succeed, all lines without a record count as skipped, and the
run is aborted.  If the server had started, then after the cut it is told to stop once, and it was not told
before; if not, nothing more is done.  The run without interrupts would have done the same up to the cut, and
then more; and the records are those of its steps that were complete by then, none less and none more. -/
theorem interruption_is_atomic {ω σ : Type} (host : Host ω σ) (int : HostInterrupts ω σ) (r : Runner)
    (lines : List String) (w : ω) :
    let run := r.runUntil host.watched int.watched lines ⟨w, []⟩
    let whole := r.run host.watched lines ⟨w, []⟩
    r.runUntil host int lines w = (run.1, run.2.state) ∧
      r.run host lines w = (whole.1, whole.2.state) ∧
      run.1 = (r.endOf host int lines w).report ∧
      ((∀ u ∈ run.2.uses, u.isCut = false) → run.1 = whole.1 ∧ run.2.state = whole.2.state ∧
        run.2.uses = whole.2.uses) ∧
      ∀ (done : List Use) (cut : Use) (later : List Use), run.2.uses = done ++ cut :: later →
        cut.isCut = true →
          run.1.interrupted = true ∧
          run.1.success = false ∧
          run.1.steps.length + run.1.skipped = lines.length ∧
          (r.endOf host int lines w).state = .aborted ∧
          later = (if .started ∈ done then [.stopped r.options.shutdownGrace] else []) ∧
          (∀ grace, .stopped grace ∉ done) ∧
          (∃ missed, missed ≠ [] ∧ whole.2.uses = done ++ missed) ∧
          run.1.steps = whole.1.steps.take run.1.steps.length ∧
          ∀ k, k < whole.1.steps.length →
            (k < run.1.steps.length ↔ r.usesThrough host lines w k <+: done) := by
  intro run whole
  have run_eq : run = _ := runUntil_watched host int r lines w
  have whole_eq : whole = _ := runUntil_watched host (.never ω σ) r lines w
  rw [run_eq, whole_eq]
  refine ⟨rfl, rfl, report_runUntil host int r lines w, ?_, ?_⟩
  · intro uncut
    cases course host int r lines w with
    | whole run_eq uses_eq =>
        rw [run_eq, uses_eq]
        exact ⟨rfl, rfl, rfl⟩
    | cut done later cut uses_eq is_cut =>
        simp only [uses_eq] at uncut
        have not_cut := uncut cut (by simp)
        rw [is_cut] at not_cut
        cases not_cut
  · intro done cut later split is_cut
    cases course host int r lines w with
    | whole run_eq uses_eq uncut =>
        simp only at split
        have not_cut := uncut cut (by rw [split]; simp)
        rw [is_cut] at not_cut
        cases not_cut
    | cut done' later' cut' uses_eq is_cut' uncut_done uncut_later short =>
        simp only [uses_eq] at split
        obtain ⟨rfl, rfl, rfl⟩ := eq_of_cut split.symm is_cut uncut_done uncut_later
        obtain ⟨state_eq, interrupted, total_eq, length_le, later_eq, not_stopped, missed, steps_eq,
          complete_iff⟩ := short
        have report_eq : (r.runUntil host int lines w).1 =
            (Report.ofSteps lines.length (r.endOf host int lines w).steps
              (r.endOf host int lines w).sessionError).markInterrupted := by
          rw [report_runUntil, Execution.report, interrupted, total_eq]
          rfl
        simp only [report_eq]
        refine ⟨rfl, rfl, ?_, state_eq, later_eq, not_stopped, missed, steps_eq, complete_iff⟩
        simp only [Report.markInterrupted, Report.ofSteps, Report.skipped]
        omega

/-- An interrupt during the wait for the answer to the second of three calls. -/
example :
    let s : Rehearsed.State :=
      { reactions := [.queue [.line "\x7b\"jsonrpc\":\"2.0\",\"id\":1,\"result\":1\x7d"]] }
    let host : Host Unit Rehearsed.State :=
      { start := fun _ _ => (.ok s, ())
        channel := Rehearsed.channel
        ids := fun _ => ⟨1⟩
        stop := fun s _ => s
        leave := fun _ => () }
    let int : HostInterrupts Unit Rehearsed.State :=
      ⟨fun _ _ => none, fun _ _ => none, fun s _ => if s.written.length = 2 then some s else none⟩
    let r : Runner :=
      { options :=
          { requestTimeout := ⟨10⟩, startupGrace := ⟨0⟩, shutdownGrace := ⟨5⟩, handshake := none } }
    let run := r.runUntil host.watched int.watched ["a()", "b()", "c()"] ⟨(), []⟩
    (run.1.steps.length, run.1.skipped, run.1.interrupted) = (1, 2, true) ∧
      run.2.uses.drop 4 = [.exchanged (.unread .interrupted), .stopped ⟨5⟩] := by
  decide +kernel

end CallScript.Run
