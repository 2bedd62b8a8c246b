import CallScript.Proofs.Run.DataFlow

/-! # What a run writes

A run that introduces its client writes the introduction, then, if that was answered by a success, the
notification that ends it, and then, if that was written, the calls of the steps that were executed, one for
each record that has an id (`ToolCalls`).  Nothing is written for a line that asks for nothing.

* `toolCalls_reached`: the calls of a run, up to each of its steps.
* `introduction_spec`: the transcript of an introduction.
* `length_of_ending`: a step that ends the run is its last.
* `wire_trace`: what a run writes, from the first line to the last. -/

namespace CallScript.Run

open Rpc

/-- The calls that steps have written, the first one under a given id: the next id, the records of the
steps, and the lines of the calls.  A line is written exactly for those records whose line asks for a call
in the context that the records before it explain. -/
inductive ToolCalls (r : Runner) (first : Int64) : Int64 → List Step → List String → Prop
  | nil : ToolCalls r first first [] []
  | unsent {id : Int64} {steps : List Step} {lines : List String} {s : Step} :
      ToolCalls r first id steps lines → r.toSend (r.explained steps) s.line = none →
        s.requestId = none → ToolCalls r first id (steps ++ [s]) lines
  | sent {id : Int64} {steps : List Step} {lines : List String} {s : Step} {i : Invocation}
      {arguments : Json} :
      ToolCalls r first id steps lines →
        r.toSend (r.explained steps) s.line = some (i, arguments) →
        s.invocation = some i → s.requestId = some id →
        ToolCalls r first (id + 1) (steps ++ [s])
          (lines ++ [requestLine id Client.callMethod (some (toolCallParams i.tool arguments))])

theorem ToolCalls.requestIds {r : Runner} {first id : Int64} {steps : List Step} {lines : List String}
    (h : ToolCalls r first id steps lines) :
    steps.filterMap Step.requestId = Ids.first ⟨first⟩ lines.length ∧
      Ids.skip ⟨first⟩ lines.length = ⟨id⟩ := by
  induction h with
  | nil => exact ⟨rfl, rfl⟩
  | unsent _ _ no_id ih =>
      obtain ⟨ids, left⟩ := ih
      refine ⟨?_, left⟩
      rw [List.filterMap_append, ids]
      simp [no_id]
  | sent _ _ _ has_id ih =>
      obtain ⟨ids, left⟩ := ih
      rw [List.length_append, List.length_singleton]
      refine ⟨?_, ?_⟩
      · rw [List.filterMap_append, ids, Ids.first_succ, left]
        simp [has_id]
      · rw [Ids.skip_succ, left]
        rfl

section

variable {σ : Type} (ch : Channel σ) (c : Client σ) (r : Runner) (lines : List String)

theorem ToolCalls.step {first : Int64} {x : Execution} {ended : StepEnd} {d e : Client σ}
    {index : Nat} {line : String} {t : List Exchange} {calls : List String}
    (h : ToolCalls r first d.ids.next x.steps calls) (fresh : d.lastId ≠ some d.ids.next)
    (spec : Accounted ch (.never σ) d r (r.explained x.steps) index line ended e t) :
    ToolCalls r first e.ids.next (x.steps ++ [ended.step]) (calls ++ writtenLines t) ∧
      e.lastId ≠ some e.ids.next := by
  have written := spec.writtenLines
  cases asked : r.toSend (r.explained x.steps) line with
  | none =>
      obtain ⟨no_id, -, ids, lastId, -⟩ := spec.unsent asked
      rw [asked] at written
      rw [written, List.append_nil, ids, lastId]
      rw [← spec.line_eq] at asked
      exact ⟨h.unsent asked no_id, fresh⟩
  | some call =>
      obtain ⟨i, arguments⟩ := call
      obtain ⟨invoked, noted, -, ids, lastId, -⟩ := spec.sent i arguments asked
      rw [asked] at written
      rw [if_neg (fun same => fresh same.symm)] at noted
      rw [written, ids, lastId]
      rw [← spec.line_eq] at asked
      refine ⟨h.sent asked invoked noted, ?_⟩
      intro same
      exact d.ids.take_ne (Option.some.inj same).symm

/-- The calls of a run, up to each of its steps. -/
theorem toolCalls_reached (fresh : (r.opened ch c lines).2.lastId ≠ some (r.opened ch c lines).2.ids.next)
    (n : Nat) : ∃ calls, r.log ch c lines n = r.log ch c lines 0 ++ calls ∧
      ToolCalls r (r.opened ch c lines).2.ids.next (r.reached ch c lines n).2.ids.next
        (r.reached ch c lines n).1.steps (writtenLines calls) ∧
      (r.reached ch c lines n).2.lastId ≠ some (r.reached ch c lines n).2.ids.next := by
  induction n with
  | zero =>
      refine ⟨[], (List.append_nil _).symm, ?_, fresh⟩
      rw [steps_reached_zero]
      exact .nil
  | succ n ih =>
      obtain ⟨calls, log_eq, trace, used⟩ := ih
      rcases next_line ch c r lines n with ⟨line, ended, during, executed⟩ | finished
      · have spec := executed.spec
        rw [(underway ch c r lines n).context_eq] at spec
        obtain ⟨goes_on, still_used⟩ := trace.step ch r used spec
        refine ⟨calls ++ during, ?_, ?_, still_used⟩
        · rw [executed.traced, log_eq, List.append_assoc]
        · rw [executed.next, Execution.steps_afterStep, writtenLines_append]
          exact goes_on
      · rw [finished.next, finished.traced]
        exact ⟨calls, log_eq, trace, used⟩

theorem Finished.add {n : Nat} (h : Finished ch c r lines n) (m : Nat) :
    r.reached ch c lines (n + m) = r.reached ch c lines n ∧
      r.log ch c lines (n + m) = r.log ch c lines n := by
  induction m with
  | zero => exact ⟨rfl, rfl⟩
  | succ m ih =>
      obtain ⟨same, same_log⟩ := ih
      have still : Finished ch c r lines (n + m) := by
        refine .of_ne ch c r lines ?_
        rw [same]
        exact h.not_executing
      rw [← Nat.add_assoc, still.next, still.traced]
      exact ⟨same, same_log⟩

/-- A step that fails is the last one of a run, if failures end the run or its session is gone. -/
theorem length_of_ending {k : Nat} {s : Step}
    (h : (r.reached ch c lines lines.length).1.steps[k]? = some s) (failed : s.success = false)
    (ending : r.options.policy = .abort ∨ ∃ e, s.error = some e ∧ e.kind = .connection) :
    (r.reached ch c lines lines.length).1.steps.length = k + 1 := by
  obtain ⟨lt, -, line, ended, during, executed, rfl⟩ := record_spec ch c r lines h
  have fatal : ended.isFatal ∨ (r.reached ch c lines k).1.plan.policy = .abort := by
    rw [(underway ch c r lines k).plan_eq]
    rcases ending with abort | ⟨e, found, kind⟩
    · exact .inr abort
    · exact .inl (executed.spec.isFatal e found kind)
  have aborted : (r.reached ch c lines (k + 1)).1.state = .aborted := by
    rw [executed.next, Execution.state_afterStep _ executed.executing, if_pos ⟨failed, fatal⟩]
  have finished : Finished ch c r lines (k + 1) := by
    refine .of_ne ch c r lines ?_
    rw [aborted]
    nofun
  obtain ⟨same, -⟩ := finished.add ch c r lines (lines.length - (k + 1))
  rw [Nat.add_sub_cancel' lt] at same
  rw [same, executed.next, Execution.steps_afterStep, List.length_append, executed.count,
    List.length_singleton]

/-! ### The introduction -/

/-- A success of the request of an id has been read. -/
def Answered (id : Int64) (t : List Exchange) : Prop :=
  ∃ line result, Exchange.received line ∈ t ∧
    Incoming.decode line = .ok (.response ⟨id, .success result⟩)

theorem answered_iff {allowed : Duration} {id : Int64} {line : String} {t : List Exchange}
    {called : Except Stop Response} (h : Called allowed id line t called) :
    Answered id t ↔ ∃ result, called = .ok ⟨id, .success result⟩ := by
  constructor
  · rintro ⟨read, result, mem, decoded⟩
    have answer := relevance_eq_answer_iff.mpr ⟨decoded, rfl⟩
    exact ⟨result, h.eq_ok_iff.mpr ⟨read, mem, answer⟩⟩
  · rintro ⟨result, ok⟩
    obtain ⟨read, mem, answer⟩ := h.eq_ok_iff.mp ok
    exact ⟨read, result, mem, (relevance_eq_answer_iff.mp answer).1⟩

theorem id_of_called {allowed : Duration} {id : Int64} {line : String} {t : List Exchange}
    {r : Response} (h : Called allowed id line t (.ok r)) : r.id = id := by
  obtain ⟨read, -, answer⟩ := h.eq_ok_iff.mp rfl
  exact (relevance_eq_answer_iff.mp answer).2

/-- An introduction writes its request, and the notification that ends it exactly if the request was
answered by a success; it has succeeded only if the notification was written. -/
theorem introduction_spec (int : Interrupts σ) (h : Handshake) :
    ∃ asked announcement, (Procedure.introduce h).transcript ch int c = asked ++ announcement ∧
      writtenLines asked = [requestLine c.ids.next Client.introduceMethod (some h.toJson)] ∧
      (announcement = [] ∧ ¬ Answered c.ids.next asked ∨
        (∃ sent, announcement = [.ofWrite introducedLine sent]) ∧ Answered c.ids.next asked) ∧
      (announcement ≠ [.sent introducedLine] → ∃ stop, (c.introduce ch int h).1 = .error stop) ∧
      (c.introduce ch int h).2.ids = c.ids.take.2 ∧
      (c.introduce ch int h).2.lastId = some c.ids.next := by
  have called := Procedure.called_transcript ch int c Client.introduceMethod (some h.toJson)
  have answered := answered_iff called
  have written := called.writtenLines
  have ids := Client.ids_call ch int c Client.introduceMethod (some h.toJson)
  have lastId := Client.lastId_call ch int c Client.introduceMethod (some h.toJson)
  have trace := Procedure.transcript_introduce ch int c h
  unfold Client.introduce
  generalize c.call ch int Client.introduceMethod (some h.toJson) = done at *
  rcases done with ⟨stop | ⟨id, result | e⟩, d⟩
  · refine ⟨_, [], trace, written, .inl ⟨rfl, ?_⟩, fun _ => ⟨stop, rfl⟩, ids, lastId⟩
    rw [answered]
    nofun
  · have same_id : id = c.ids.next := id_of_called called
    subst same_id
    have kept_ids := Client.ids_notify ch int d Client.introducedMethod none
    have kept_lastId := Client.lastId_notify ch int d Client.introducedMethod none
    refine ⟨_, _, trace, written, .inr ⟨⟨_, rfl⟩, answered.mpr ⟨result, rfl⟩⟩, ?_⟩
    simp only
    generalize d.notify ch int Client.introducedMethod none = notified at kept_ids kept_lastId ⊢
    rcases notified with ⟨stop | _, e⟩
    · exact ⟨fun _ => ⟨stop, rfl⟩, kept_ids.trans ids, kept_lastId.trans lastId⟩
    · exact ⟨fun unsent => absurd rfl unsent, kept_ids.trans ids, kept_lastId.trans lastId⟩
  · refine ⟨_, [], trace, written, .inl ⟨rfl, ?_⟩, fun _ => ⟨_, rfl⟩, ids, lastId⟩
    rw [answered]
    nofun

theorem opened_of_none (h : r.options.handshake = none) :
    (r.opened ch c lines).2 = c ∧ r.log ch c lines 0 = [] := by
  rw [log_zero, opened_eq_of_none ch c r lines h]
  unfold openProcedure
  rw [h]
  exact ⟨rfl, rfl⟩

theorem opened_of_some {h : Handshake} (some_h : r.options.handshake = some h) :
    (r.opened ch c lines).2 = (c.introduce ch (.never σ) h).2 ∧
      r.log ch c lines 0 = (Procedure.introduce h).transcript ch (.never σ) c ∧
      ((∃ stop, (c.introduce ch (.never σ) h).1 = .error stop) →
        (r.opened ch c lines).1.state.isTerminal) := by
  rw [opened_eq_of_some ch c r lines some_h]
  refine ⟨rfl, ?_, ?_⟩
  · rw [log_zero]
    unfold openProcedure
    rw [some_h]
    simp only
    rw [Procedure.transcript_bind]
    rcases ((Procedure.introduce h).run ch (.never σ) c).1 with (e | _) | result
    · exact List.append_nil _
    · exact List.append_nil _
    · exact List.append_nil _
  · rintro ⟨stop, failed⟩
    rw [failed]
    cases stop with
    | failed e => rfl
    | interrupted => rfl

theorem lastId_opened_ne_next (fresh : c.lastId ≠ some c.ids.next) :
    (r.opened ch c lines).2.lastId ≠ some (r.opened ch c lines).2.ids.next := by
  cases handshake : r.options.handshake with
  | none =>
      rw [(opened_of_none ch c r lines handshake).1]
      exact fresh
  | some h =>
      obtain ⟨-, -, -, -, -, -, ids, lastId⟩ := introduction_spec ch c (.never σ) h
      rw [(opened_of_some ch c r lines handshake).1, ids, lastId]
      exact fun same => c.ids.take_ne (Option.some.inj same).symm

theorem lastId_opened_ne (unused : c.lastId = none) :
    (r.opened ch c lines).2.lastId ≠ some (r.opened ch c lines).2.ids.next := by
  refine lastId_opened_ne_next ch c r lines ?_
  rw [unused]
  nofun

/-- A run whose introduction fails has no steps, and writes nothing after it. -/
theorem reached_of_failed_introduction {h : Handshake} (some_h : r.options.handshake = some h)
    (failed : ∃ stop, (c.introduce ch (.never σ) h).1 = .error stop) (n : Nat) :
    (r.reached ch c lines n).1.steps = [] ∧ r.log ch c lines n = r.log ch c lines 0 := by
  obtain ⟨-, -, ends⟩ := opened_of_some ch c r lines some_h
  have finished : Finished ch c r lines 0 :=
    .of_ne ch c r lines (State.ne_executing_of_isTerminal (ends failed))
  obtain ⟨same, same_log⟩ := finished.add ch c r lines n
  rw [Nat.zero_add] at same same_log
  refine ⟨?_, same_log⟩
  rw [same, steps_reached_zero]

end

/-- The whole trace of a run of a client that has sent nothing yet.  With an introduction, its request is
written first, under the first id; the notification follows exactly if a success of that request was read;
and unless the notification was written, the run has no steps and writes nothing more.  What follows, or
comes first without an introduction, are the calls of the steps in their order, one for each record with an
id, under the ids that come next.  The steps are those of the first lines, in the order of the lines.  A step
that ends the run is the last one, so that nothing is written after it. -/
theorem wire_trace {σ : Type} (ch : Channel σ) (s : σ) (first : Int64) (allowed : Duration) (r : Runner)
    (lines : List String) :
    let c := Client.start s ⟨first⟩ allowed
    let report := (r.runOn ch lines c).1
    ∃ (opening calls : List Exchange) (next : Int64),
      r.runOn ch.recorded lines (c.recording []) =
        (report, (r.runOn ch lines c).2.recording (opening ++ calls)) ∧
      (match r.options.handshake with
        | none => opening = [] ∧ ToolCalls r first next report.steps (writtenLines calls) ∧
          report.steps.filterMap Step.requestId = Ids.first ⟨first⟩ (writtenLines calls).length
        | some h => ∃ asked announcement, opening = asked ++ announcement ∧
          writtenLines asked = [requestLine first Client.introduceMethod (some h.toJson)] ∧
          (announcement = [] ∧ ¬ Answered first asked ∨
            (∃ sent, announcement = [.ofWrite introducedLine sent]) ∧ Answered first asked) ∧
          (announcement ≠ [.sent introducedLine] → report.steps = [] ∧ calls = []) ∧
          ToolCalls r (first + 1) next report.steps (writtenLines calls) ∧
          report.steps.filterMap Step.requestId =
            Ids.first ⟨first + 1⟩ (writtenLines calls).length) ∧
      ∀ (k : Nat) (step : Step), report.steps[k]? = some step →
        step.index = k ∧ lines[k]? = some step.line ∧
          (step.success = false →
            (r.options.policy = .abort ∨ ∃ e, step.error = some e ∧ e.kind = .connection) →
              report.steps.length = k + 1) := by
  intro c report
  have steps_eq : report.steps = (r.reached ch c lines lines.length).1.steps := steps_runOn ch c r lines
  have fresh := lastId_opened_ne ch c r lines rfl
  obtain ⟨calls, log_eq, trace, -⟩ := toolCalls_reached ch c r lines fresh lines.length
  refine ⟨r.log ch c lines 0, calls, (r.reached ch c lines lines.length).2.ids.next, ?_, ?_, ?_⟩
  · rw [runOn_recorded, log_eq]
  · rw [← steps_eq] at trace
    have ids_eq := trace.requestIds.1
    cases handshake : r.options.handshake with
    | none =>
        obtain ⟨opened, no_log⟩ := opened_of_none ch c r lines handshake
        rw [opened] at trace ids_eq
        exact ⟨no_log, trace, ids_eq⟩
    | some h =>
        obtain ⟨asked, announcement, transcript_eq, written, answered, unsent, ids, -⟩ :=
          introduction_spec ch c (.never σ) h
        obtain ⟨opened, log_zero, -⟩ := opened_of_some ch c r lines handshake
        rw [opened, ids] at trace ids_eq
        refine ⟨asked, announcement, log_zero.trans transcript_eq, written, answered, ?_, trace, ids_eq⟩
        intro not_sent
        obtain ⟨no_steps, same_log⟩ :=
          reached_of_failed_introduction ch c r lines handshake (unsent not_sent) lines.length
        exact ⟨steps_eq.trans no_steps, List.self_eq_append_right.mp (same_log.symm.trans log_eq)⟩
  · intro k step found
    rw [steps_eq] at found ⊢
    obtain ⟨-, -, line, ended, during, executed, rfl⟩ := record_spec ch c r lines found
    refine ⟨executed.spec.index_eq, ?_, length_of_ending ch c r lines found⟩
    rw [executed.spec.line_eq]
    exact executed.found

end CallScript.Run
