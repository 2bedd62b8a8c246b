import CallScript.Proofs.Run.Course
import CallScript.Rpc.Rehearsed

/-! # The data flow of a run

The report of a run explains what its references stood for.  The record of a step tells what the step made
of the context (`Concludes`, `Accounted`): its payload, or what came with the error of a tool, is the latest
result from then on, and a step without either leaves the context as it is.  The context before a step is
therefore the one that the records before it explain (`Runner.explained`).

* `accounted`: what the record of a step says of its call and its context.
* `underway`: the plan, the state and the context of a run before each of its steps.
* `record_spec`: every record of a run belongs to one line, executed in the state that the run had reached
  then.
* `data_flow`: the context before a step, the line that it sent, and the context after it. -/

namespace CallScript.Run

open Rpc

/-- What an answer holds: the result, or the error that it reports. -/
def reported : Outcome → Json
  | .success payload => payload
  | .failure e => e.toJson

/-- The result of a step: its payload, or what came with the error of the tool. -/
def Step.result (s : Step) : Option Json :=
  s.payload.or (s.error.bind fun e => if e.kind = .tool then e.data else none)

/-- The context after a step that may have had a result. -/
def after (context : Context) : Option Json → Context
  | some result => context.record result
  | none => context

/-- The context that the records of the steps so far explain: the variables of the caller, and the latest
result among the records, if there is one. -/
def Runner.explained (r : Runner) (steps : List Step) : Context where
  lastResult := (steps.filterMap Step.result).getLast?.map Context.resultMapping
  bindings := r.bindings

theorem explained_concat (r : Runner) (steps : List Step) (s : Step) :
    r.explained (steps ++ [s]) = after (r.explained steps) s.result := by
  unfold Runner.explained
  cases has : s.result with
  | none => simp [has, after]
  | some result => simp [has, after, Context.record]

theorem result_fail {s : Step} (h : s.payload = none) (e : Error) : (s.fail e).result = none := by
  simp [Step.result, Step.fail, ErrorInfo.ofError, h]

/-- What the record of a call says of it: the result is what the server answered, the context holds it,
and a connection error is fatal. -/
structure Concludes (context : Context) (s : Step) (called : Except Stop Response) (ended : StepEnd) :
    Prop where
  index_eq : ended.step.index = s.index
  line_eq : ended.step.line = s.line
  invocation_eq : ended.step.invocation = s.invocation
  requestId_eq : ended.step.requestId = s.requestId
  result_eq : ended.step.result = called.toOption.map fun response => reported response.outcome
  context_eq : ended.context = after context ended.step.result
  isFatal : ∀ e, ended.step.error = some e → e.kind = .connection → ended.isFatal

theorem concludes {r : Runner} {tool : String} {context : Context} {s : Step}
    {called : Except Stop Response} {ended : StepEnd} (payload : s.payload = none)
    (error : s.error = none) (h : r.conclude tool context s called = .ok ended) :
    Concludes context s called ended := by
  rcases called with (e | _) | ⟨id, result | e⟩
  · cases h
    have no_result := result_fail payload e
    refine ⟨rfl, rfl, rfl, rfl, no_result, by rw [no_result]; rfl, ?_⟩
    intro info found kind
    cases found
    exact e.isFatal_iff_kind.mpr kind
  · cases h
  · simp only [Runner.conclude, Runner.answered] at h
    split at h
    · cases h
      refine ⟨rfl, rfl, rfl, rfl, rfl, rfl, ?_⟩
      intro info found kind
      cases found
      cases kind
    · cases h
      refine ⟨rfl, rfl, rfl, rfl, rfl, rfl, ?_⟩
      intro info found
      simp only [error, reduceCtorEq] at found
  · cases h
    let info : ErrorInfo :=
      { ErrorInfo.ofError (.toolFailed Client.callMethod e.code e.message) with data := some e.toJson }
    have has : Step.result { s with error := some info } = some e.toJson := by
      simp [Step.result, payload, info, ErrorInfo.ofError, Error.kind]
    refine ⟨rfl, rfl, rfl, rfl, has, ?_, ?_⟩
    · simp only [Runner.answered]
      rw [has]
      rfl
    · intro info found kind
      cases found
      cases kind

section

variable {σ : Type} (ch : Channel σ) (int : Interrupts σ)

/-- What the record of a step says: of its line, of the context after it, and of the call that the line
asks for, if it asks for one. -/
structure Accounted (c : Client σ) (r : Runner) (context : Context) (index : Nat) (line : String)
    (ended : StepEnd) (d : Client σ) (t : List Exchange) : Prop where
  index_eq : ended.step.index = index
  line_eq : ended.step.line = line
  context_eq : ended.context = after context ended.step.result
  isFatal : ∀ e, ended.step.error = some e → e.kind = .connection → ended.isFatal
  /-- A line that asks for nothing uses no id, and leaves no trace on the channel. -/
  unsent : r.toSend context line = none → ended.step.requestId = none ∧ ended.step.result = none ∧
    d.ids = c.ids ∧ d.lastId = c.lastId ∧ t = []
  /-- A line that asks for a call makes that call and no other. -/
  sent : ∀ i arguments, r.toSend context line = some (i, arguments) →
    ended.step.invocation = some i ∧
      ended.step.requestId = (if some c.ids.next = c.lastId then none else some c.ids.next) ∧
      ended.step.result = ((look ch c).callTool ch int i.tool arguments).1.toOption.map
        (fun response => reported response.outcome) ∧
      d.ids = c.ids.take.2 ∧ d.lastId = some c.ids.next ∧
      t = (Procedure.call Client.callMethod (some (toolCallParams i.tool arguments))).transcript ch int
        (look ch c)

/-- Every step that comes to its end is accounted for by its record. -/
theorem accounted {c d : Client σ} {r : Runner} {context : Context} {index : Nat} {line : String}
    {ended : StepEnd} (h : r.runStep ch int c context index line = (.ok ended, d)) :
    Accounted ch int c r context index line ended d
      ((stepProcedure r context index line).transcript ch int c) := by
  cases asked : r.toSend context line with
  | none =>
      obtain ⟨⟨i, e, millis, harmless, stepped⟩, no_trace⟩ := run_step_unsent ch int c r asked
      rw [stepped] at h
      cases h
      let failed : Step := { index, line, invocation := i, millis }
      have no_result : (failed.fail e).result = none := result_fail rfl e
      refine ⟨rfl, rfl, ?_, ?_, fun _ => ⟨rfl, no_result, rfl, rfl, no_trace⟩, ?_⟩
      · exact (congrArg (after context) no_result).symm
      · intro info found kind
        cases found
        rw [e.isFatal_iff_kind.mpr kind] at harmless
        cases harmless
      · intro i arguments other
        rw [asked] at other
        cases other
  | some call =>
      obtain ⟨i, arguments⟩ := call
      obtain ⟨⟨millis, stepped⟩, trace⟩ := run_step_sent ch int c r asked
      rw [stepped] at h
      simp only at h
      split at h
      · cases h
      next ended' concluded =>
        cases h
        let s : Step := { index, line, invocation := some i }
        have noted : (Runner.sent s c.lastId (some c.ids.next)).requestId =
            if some c.ids.next = c.lastId then none else some c.ids.next := by
          unfold Runner.sent
          split <;> rfl
        have same : Runner.sent s c.lastId (some c.ids.next) =
            { s with requestId := (Runner.sent s c.lastId (some c.ids.next)).requestId } := by
          unfold Runner.sent
          split <;> rfl
        rw [same] at concluded
        have spec := concludes rfl rfl concluded
        refine ⟨spec.index_eq, spec.line_eq, spec.context_eq, spec.isFatal, ?_, ?_⟩
        · intro other
          rw [asked] at other
          cases other
        · intro i' arguments' same_call
          rw [asked] at same_call
          cases same_call
          exact ⟨spec.invocation_eq, spec.requestId_eq.trans noted, spec.result_eq,
            Client.ids_call .., Client.lastId_call .., trace⟩

theorem Accounted.writtenLines {ch : Channel σ} {int : Interrupts σ} {c d : Client σ} {r : Runner}
    {context : Context} {index : Nat} {line : String} {ended : StepEnd} {t : List Exchange}
    (h : Accounted ch int c r context index line ended d t) :
    writtenLines t = match r.toSend context line with
      | some (i, arguments) =>
        [requestLine c.ids.next Client.callMethod (some (toolCallParams i.tool arguments))]
      | none => [] := by
  cases asked : r.toSend context line with
  | none =>
      obtain ⟨-, -, -, -, no_trace⟩ := h.unsent asked
      rw [no_trace]
      rfl
  | some call =>
      obtain ⟨i, arguments⟩ := call
      obtain ⟨-, -, -, -, -, trace⟩ := h.sent i arguments asked
      have called := Procedure.called_transcript ch int (look ch c) Client.callMethod
        (some (toolCallParams i.tool arguments))
      rw [trace]
      exact called.writtenLines

theorem Accounted.requestId {ch : Channel σ} {int : Interrupts σ} {c d : Client σ} {r : Runner}
    {context : Context} {index : Nat} {line : String} {ended : StepEnd} {t : List Exchange}
    (h : Accounted ch int c r context index line ended d t) {id : Int64}
    (same : ended.step.requestId = some id) :
    id = c.ids.next ∧ ∃ i arguments, r.toSend context line = some (i, arguments) := by
  cases asked : r.toSend context line with
  | none =>
      obtain ⟨no_id, -⟩ := h.unsent asked
      rw [no_id] at same
      cases same
  | some call =>
      obtain ⟨i, arguments⟩ := call
      obtain ⟨-, noted, -⟩ := h.sent i arguments asked
      rw [noted] at same
      split at same
      · cases same
      · cases same
        exact ⟨rfl, i, arguments, rfl⟩

variable (c : Client σ) (r : Runner) (lines : List String)

/-- What holds of a run that has executed so many lines, or has come to its end before. -/
structure Underway (n : Nat) (x : Execution) : Prop where
  plan_eq : x.plan = ⟨lines.length, r.options.policy⟩
  context_eq : x.context = r.explained x.steps
  length_le : x.steps.length ≤ n
  executing : ∀ index, x.state = .executing index →
    index = n ∧ index < lines.length ∧ x.steps.length = index

theorem underway_opened : Underway r lines 0 (r.opened ch c lines).1 := by
  have begun : ∀ result, Underway r lines 0 (r.introduced lines.length result) := by
    rintro ((e | _) | result)
    · exact ⟨rfl, rfl, Nat.le_refl _, by nofun⟩
    · exact ⟨rfl, rfl, Nat.le_refl _, by nofun⟩
    · refine ⟨rfl, rfl, Nat.le_refl _, ?_⟩
      intro index executing
      simp only [Runner.introduced] at executing
      split at executing
      · cases executing
      next filled =>
        cases executing
        exact ⟨rfl, Nat.pos_of_ne_zero filled, rfl⟩
  cases handshake : r.options.handshake with
  | none =>
      rw [opened_eq_of_none ch c r lines handshake]
      exact begun (.ok .null)
  | some h =>
      rw [opened_eq_of_some ch c r lines handshake]
      exact begun (c.introduce ch (.never σ) h).1

/-- What a run does that executes its next line: one step, accounted for by its record. -/
structure Executed (n : Nat) (line : String) (ended : StepEnd) (during : List Exchange) : Prop where
  executing : (r.reached ch c lines n).1.state = .executing n
  found : lines[n]? = some line
  count : (r.reached ch c lines n).1.steps.length = n
  next : (r.reached ch c lines (n + 1)).1 = (r.reached ch c lines n).1.afterStep (.ok ended)
  traced : r.log ch c lines (n + 1) = r.log ch c lines n ++ during
  spec : Accounted ch (.never σ) (r.reached ch c lines n).2 r (r.reached ch c lines n).1.context n line
    ended (r.reached ch c lines (n + 1)).2 during

/-- A run has come to its end and stays as it is. -/
structure Finished (n : Nat) : Prop where
  not_executing : ∀ index, (r.reached ch c lines n).1.state ≠ .executing index
  next : r.reached ch c lines (n + 1) = r.reached ch c lines n
  traced : r.log ch c lines (n + 1) = r.log ch c lines n

theorem Finished.of_ne {n : Nat} (h : ∀ index, (r.reached ch c lines n).1.state ≠ .executing index) :
    Finished ch c r lines n := by
  have asked := run_lineProcedure_of_ne r lines h
  refine ⟨h, ?_, ?_⟩
  · rw [reached_succ, asked]
    rfl
  · rw [log_succ, asked]
    exact List.append_nil _

/-- A run executes its next line as a step, and its client is left with what the step leaves. -/
theorem Executed.of_step {n : Nat} {line : String} {ended : StepEnd} {d : Client σ}
    (executing : (r.reached ch c lines n).1.state = .executing n) (found : lines[n]? = some line)
    (count : (r.reached ch c lines n).1.steps.length = n)
    (stepped : r.runStep ch (.never σ) (r.reached ch c lines n).2 (r.reached ch c lines n).1.context n line =
      (.ok ended, d)) :
    (r.reached ch c lines (n + 1)).2 = d ∧ ∃ during, Executed ch c r lines n line ended during := by
  obtain ⟨_, _, same, ran, traced⟩ :=
    line_executing ch (r.reached ch c lines n).2 r lines executing found
  cases stepped.symm.trans same
  have spec := accounted ch (.never σ) stepped
  have log_eq := log_succ ch c r lines n
  rw [← reached_succ] at ran
  rw [traced] at log_eq
  refine ⟨by rw [ran], _, executing, found, count, by rw [ran], log_eq, ?_⟩
  rw [ran]
  exact spec

theorem Executed.stepped {n : Nat} {line : String} {ended : StepEnd} {during : List Exchange}
    (executed : Executed ch c r lines n line ended during) :
    (∃ ended' d, r.runStep ch (.never σ) (r.reached ch c lines n).2 (r.reached ch c lines n).1.context n line =
        (.ok ended', d) ∧ ended'.step = ended.step) ∧
      (stepProcedure r (r.reached ch c lines n).1.context n line).transcript ch (.never σ)
        (r.reached ch c lines n).2 = during := by
  obtain ⟨ended', d, stepped, ran, traced⟩ :=
    line_executing ch (r.reached ch c lines n).2 r lines executed.executing executed.found
  have log_eq := log_succ ch c r lines n
  rw [executed.traced, traced] at log_eq
  rw [← reached_succ] at ran
  have next := congrArg (fun reached => reached.1.steps) ran
  simp only [executed.next, Execution.steps_afterStep, List.append_cancel_left_eq, List.cons.injEq,
    and_true] at next
  exact ⟨⟨ended', d, stepped, next.symm⟩, (List.append_cancel_left log_eq).symm⟩

theorem Underway.next_line {n : Nat} (h : Underway r lines n (r.reached ch c lines n).1) :
    (∃ line ended during, Executed ch c r lines n line ended during) ∨ Finished ch c r lines n := by
  by_cases going : ∃ index, (r.reached ch c lines n).1.state = .executing index
  · obtain ⟨index, executing⟩ := going
    obtain ⟨rfl, bound, count⟩ := h.executing index executing
    obtain ⟨ended, d, stepped⟩ := runStep_never ch (r.reached ch c lines index).2 r
      (r.reached ch c lines index).1.context index lines[index]
    obtain ⟨-, during, executed⟩ :=
      Executed.of_step ch c r lines executing (List.getElem?_eq_getElem bound) count stepped
    exact .inl ⟨_, ended, during, executed⟩
  · exact .inr (.of_ne ch c r lines fun index e => going ⟨index, e⟩)

theorem Underway.step {n : Nat} {line : String} {ended : StepEnd} {during : List Exchange}
    (h : Underway r lines n (r.reached ch c lines n).1)
    (executed : Executed ch c r lines n line ended during) :
    Underway r lines (n + 1) (r.reached ch c lines (n + 1)).1 := by
  rw [executed.next]
  refine ⟨by simp [h.plan_eq], ?_, by simp [executed.count], ?_⟩
  · rw [Execution.context_afterStep, Execution.steps_afterStep, explained_concat, ← h.context_eq,
      executed.spec.context_eq]
  · intro index executing
    rw [Execution.state_afterStep _ executed.executing] at executing
    split at executing
    · cases executing
    · unfold Plan.afterStep at executing
      split at executing
      next more =>
        cases executing
        rw [h.plan_eq] at more
        exact ⟨rfl, more, by simp [executed.count]⟩
      · cases executing

/-- What holds of a run holds before each of its steps. -/
theorem underway (n : Nat) : Underway r lines n (r.reached ch c lines n).1 := by
  induction n with
  | zero => exact underway_opened ch c r lines
  | succ n ih =>
      rcases ih.next_line ch c r lines with ⟨line, ended, during, executed⟩ | finished
      · exact ih.step ch c r lines executed
      · have room : (r.reached ch c lines n).1.steps.length ≤ n + 1 := Nat.le_succ_of_le ih.length_le
        rw [finished.next]
        exact ⟨ih.plan_eq, ih.context_eq, room, fun index executing =>
          absurd executing (finished.not_executing index)⟩

theorem next_line (n : Nat) :
    (∃ line ended during, Executed ch c r lines n line ended during) ∨ Finished ch c r lines n :=
  (underway ch c r lines n).next_line

theorem steps_reached_zero : (r.reached ch c lines 0).1.steps = [] :=
  List.eq_nil_of_length_eq_zero (Nat.le_zero.mp (underway ch c r lines 0).length_le)

theorem steps_add (n m : Nat) :
    ∃ later, (r.reached ch c lines (n + m)).1.steps = (r.reached ch c lines n).1.steps ++ later := by
  induction m with
  | zero => exact ⟨[], (List.append_nil _).symm⟩
  | succ m ih =>
      obtain ⟨later, steps_eq⟩ := ih
      rw [← Nat.add_assoc]
      rcases next_line ch c r lines (n + m) with ⟨line, ended, during, executed⟩ | finished
      · rw [executed.next, Execution.steps_afterStep, steps_eq, List.append_assoc]
        exact ⟨_, rfl⟩
      · rw [finished.next]
        exact ⟨later, steps_eq⟩

/-- Every record of a run belongs to one line, executed in the state that the run had reached when the
records before it were complete. -/
theorem record_spec {n k : Nat} {s : Step} (h : (r.reached ch c lines n).1.steps[k]? = some s) :
    k < n ∧ (r.reached ch c lines k).1.steps = (r.reached ch c lines n).1.steps.take k ∧
      ∃ line ended during, Executed ch c r lines k line ended during ∧ ended.step = s := by
  induction n with
  | zero =>
      rw [steps_reached_zero] at h
      cases h
  | succ n ih =>
      rcases next_line ch c r lines n with ⟨line, ended, during, executed⟩ | finished
      · have steps_eq : (r.reached ch c lines (n + 1)).1.steps =
            (r.reached ch c lines n).1.steps ++ [ended.step] := by
          rw [executed.next, Execution.steps_afterStep]
        have count := executed.count
        rw [steps_eq] at h ⊢
        by_cases before : k < (r.reached ch c lines n).1.steps.length
        · rw [List.getElem?_append_left before] at h
          obtain ⟨lt, earlier, belongs⟩ := ih h
          refine ⟨by omega, ?_, belongs⟩
          rw [earlier, List.take_append_of_le_length (by omega)]
        · have last : k = n := by
            have bounded := (List.getElem?_eq_some_iff.mp h).1
            rw [List.length_append, List.length_singleton] at bounded
            omega
          subst last
          have same : ended.step = s := by simpa [count] using h
          refine ⟨by omega, ?_, line, ended, during, executed, same⟩
          rw [List.take_append_of_le_length (by omega), List.take_of_length_le (by omega)]
      · rw [finished.next] at h ⊢
        obtain ⟨lt, earlier, belongs⟩ := ih h
        exact ⟨by omega, earlier, belongs⟩

end

/-- Before each step of a run over any channel, the latest result is the mapping of the last result among
the records before it, if one of them has a result, and the variables are those of the caller.  If the
record of the step has an id, the step handed one line over for writing: the call of its tool under this
id, with the parameters that the line holds and with their references replaced in that very context.  The
step makes its own result the latest one; a step that sends nothing, and a step whose call is not answered,
leave the context as it is. -/
theorem data_flow {σ : Type} (ch : Channel σ) (c : Client σ) (r : Runner) (lines : List String) (k : Nat)
    (s : Step) (h : (r.runOn ch lines c).1.steps[k]? = some s) :
    ∃ (x y : Execution) (d e : Client σ) (earlier during later : List Exchange),
      r.reached ch.recorded (c.recording []) lines k = (x, d.recording earlier) ∧
      r.reached ch.recorded (c.recording []) lines (k + 1) = (y, e.recording (earlier ++ during)) ∧
      r.runOn ch.recorded lines (c.recording []) = ((r.runOn ch lines c).1,
        (r.runOn ch lines c).2.recording (earlier ++ during ++ later)) ∧
      lines[k]? = some s.line ∧
      x.state = .executing k ∧
      x.steps = (r.runOn ch lines c).1.steps.take k ∧
      x.context.lastResult =
        (((r.runOn ch lines c).1.steps.take k).filterMap Step.result).getLast?.map
          Context.resultMapping ∧
      x.context.bindings = r.bindings ∧
      (∀ id, s.requestId = some id → ∃ i arguments,
        Invocation.parse r.schema s.line = .ok i ∧ s.invocation = some i ∧
          Runner.arguments x.context i = .ok arguments ∧
          writtenLines during =
            [requestLine id Client.callMethod (some (toolCallParams i.tool arguments))]) ∧
      y.context = after x.context s.result ∧
      (r.toSend x.context s.line = none → writtenLines during = [] ∧ y.context = x.context) ∧
      ∀ i arguments stop, r.toSend x.context s.line = some (i, arguments) →
        ((look ch d).callTool ch (.never σ) i.tool arguments).1 = .error stop →
          y.context = x.context := by
  have steps_eq := steps_runOn ch c r lines
  rw [steps_eq] at h
  obtain ⟨lt, earlier_eq, line, ended, during, executed, rfl⟩ := record_spec ch c r lines h
  have context_eq := (underway ch c r lines k).context_eq
  have spec := executed.spec
  have next := executed.next
  have traced := executed.traced
  have written := spec.writtenLines
  obtain rfl : ended.step.line = line := spec.line_eq
  obtain ⟨later, log_eq⟩ := log_add ch c r lines (k + 1) (lines.length - (k + 1))
  rw [Nat.add_sub_cancel' lt, traced] at log_eq
  refine ⟨(r.reached ch c lines k).1, (r.reached ch c lines (k + 1)).1, (r.reached ch c lines k).2,
    (r.reached ch c lines (k + 1)).2, r.log ch c lines k, during, later,
    reached_recorded ch c r lines k [], ?_, ?_, executed.found, executed.executing, ?_, ?_, ?_, ?_, ?_, ?_,
    ?_⟩
  · rw [reached_recorded, traced]
    rfl
  · rw [runOn_recorded, log_eq]
  · rw [steps_eq, earlier_eq]
  · rw [steps_eq, ← earlier_eq, context_eq]
    rfl
  · rw [context_eq]
    rfl
  · intro id same
    obtain ⟨rfl, i, arguments, asked⟩ := spec.requestId same
    obtain ⟨parsed, resolved⟩ := Runner.toSend_eq_some_iff.mp asked
    obtain ⟨invoked, -⟩ := spec.sent i arguments asked
    refine ⟨i, arguments, parsed, invoked, resolved, ?_⟩
    rw [written, asked]
  · rw [next, Execution.context_afterStep, spec.context_eq]
  · intro asked
    obtain ⟨-, no_result, -⟩ := spec.unsent asked
    refine ⟨?_, ?_⟩
    · rw [written, asked]
    · rw [next, Execution.context_afterStep, spec.context_eq, no_result]
      rfl
  · intro i arguments stop asked stopped
    obtain ⟨-, -, result_eq, -⟩ := spec.sent i arguments asked
    rw [stopped] at result_eq
    rw [next, Execution.context_afterStep, spec.context_eq, result_eq]
    rfl

/-- A line that is no call, a call that the tool fails, and a call that refers to the error: the error is the latest
result before this one, and is sent with it. -/
theorem data_flow_of_a_tool_error :
    let ch := Rehearsed.channel
    let c := Client.start (⟨[.queue [.line
      "\x7b\"jsonrpc\":\"2.0\",\"id\":1,\"error\":\x7b\"code\":-5,\"message\":\"no\"\x7d\x7d"]], [], false,
      []⟩ : Rehearsed.State) ⟨1⟩ ⟨10⟩
    let r : Runner :=
      { options :=
          { policy := .proceed, requestTimeout := ⟨10⟩, startupGrace := ⟨0⟩, shutdownGrace := ⟨0⟩,
            handshake := none } }
    let lines := ["no call", "a(x=1)", "b(y=$\x7blast_result\x7d)"]
    let error : Json := .obj [("code", .int (-5)), ("message", .str "no")]
    ∃ (s : Step) (x y : Execution) (d e : Client Rehearsed.State) (earlier during : List Exchange),
      (r.runOn ch lines c).1.steps[2]? = some s ∧ s.requestId = some 2 ∧
        r.reached ch.recorded (c.recording []) lines 2 = (x, d.recording earlier) ∧
        r.reached ch.recorded (c.recording []) lines 3 = (y, e.recording (earlier ++ during)) ∧
        x.context.lastResult = some (Context.resultMapping error) ∧
        writtenLines during =
          [requestLine 2 Client.callMethod (some (toolCallParams "b" (.obj [("y", error)])))] := by
  intro ch c r lines error
  have executed : (r.runOn ch lines c).1.steps[2]?.map Step.requestId = some (some 2) := by decide +kernel
  have results : ((r.runOn ch lines c).1.steps.take 2).filterMap Step.result = [error] := by decide +kernel
  have parsed : Invocation.parse r.schema "b(y=$\x7blast_result\x7d)" =
      .ok ⟨"b", [("y", .reference "last_result")]⟩ := rfl
  obtain ⟨s, third, requestId⟩ := Option.map_eq_some_iff.mp executed
  obtain ⟨x, y, d, e, earlier, during, -, before, after, -, found, -, -, last, bindings_eq, sends, -⟩ :=
    data_flow ch c r lines 2 s third
  obtain ⟨i, arguments, parsed', -, resolved, written⟩ := sends 2 requestId
  rw [results] at last
  -- The third line is this call, in a context that has the error as its latest result.
  have line_eq : "b(y=$\x7blast_result\x7d)" = s.line := Option.some.inj found
  have last_eq : x.context.lastResult = some (Context.resultMapping error) := last
  have context_eq : x.context = ⟨some (Context.resultMapping error), r.bindings⟩ := by
    rw [← last_eq, ← bindings_eq]
  rw [← line_eq] at parsed'
  cases parsed.symm.trans parsed'
  rw [context_eq] at resolved
  have sent : Runner.arguments ⟨some (Context.resultMapping error), r.bindings⟩
      ⟨"b", [("y", .reference "last_result")]⟩ = .ok (.obj [("y", error)]) := rfl
  cases sent.symm.trans resolved
  exact ⟨s, x, y, d, e, earlier, during, third, requestId, before, after, last_eq, written⟩

end CallScript.Run
