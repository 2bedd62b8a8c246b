import CallScript.Proofs.Demo.Link
import CallScript.Proofs.Rpc.Failures
import CallScript.Proofs.Run.Interruption
import CallScript.Proofs.Run.ShownCalls
import CallScript.Proofs.Run.WireTrace

/-! # The shape of records

A step can end in one of four ways: its line is no call, a reference in it stands for nothing, its call fails, or
its call is answered.  Each leaves a record in which the parts fit together (`Step.Shaped`): which of them are
there follows from the category of the error, and the other way around.

* `shaped_unparsed`, `shaped_unresolved`, `shaped_failed`, `shaped_answered`: the records that a step can end with.
* `shaped_step`: the record of a step, over any channel and under any interrupts.
* `record_runUntil`: a record of a run is one of the run without interrupts.
* `records_are_shaped`: the records of every run. -/

namespace CallScript.Run

open Rpc

/-- The category of the error that a record holds. -/
def Step.errorKind (s : Step) : Option ErrorKind := s.error.map ErrorInfo.kind

/-- The parts of a record fit together, and with what was exchanged during its step. -/
structure Step.Shaped (r : Runner) (during : List Exchange) (s : Step) : Prop where
  /-- There is no call exactly if the line does not parse, -/
  unparsed_iff : s.invocation = none ↔ ∃ e, Invocation.parse r.schema s.line = .error e
  /-- which is exactly if the error says so. -/
  parse_iff : s.invocation = none ↔ s.errorKind = some .parse
  /-- There is no id exactly if nothing was sent, which the error says as well. -/
  requestId_iff : s.requestId = none ↔ s.errorKind = some .parse ∨ s.errorKind = some .undefinedVariable
  success_iff : s.success = true ↔ s.error = none
  /-- The payload is the result in the answer to the call. -/
  payload_iff : ∀ payload, s.payload = some payload ↔ ∃ id line, s.requestId = some id ∧
    .received line ∈ during ∧ Incoming.decode line = .ok (.response ⟨id, .success payload⟩)
  complete : s.success = true → s.invocation.isSome ∧ s.requestId.isSome ∧ s.payload.isSome
  /-- What a tool says of its failure is kept. -/
  toolData : ∀ info, s.error = some info → info.kind = .tool → info.data.isSome

section

variable {r : Runner} {during : List Exchange} {s : Step} {index : Nat} {line : String} {i : Invocation}

theorem Step.Shaped.taking {ended : StepEnd} (h : ended.step.Shaped r during) (millis : Nat) :
    (ended.taking millis).step.Shaped r during :=
  ⟨h.unparsed_iff, h.parse_iff, h.requestId_iff, h.success_iff, h.payload_iff, h.complete, h.toolData⟩

theorem kind_of_parse {schema : Schema} {e : Error} (h : Invocation.parse schema line = .error e) :
    e.kind = .parse := by
  unfold Invocation.parse at h
  split at h
  · cases h
  · cases h
    rfl

/-- The record of a step that has failed on its own side, or from its channel: what there is of it goes with the
category of the error, and no success was read. -/
theorem shaped_fail {e : Error}
    (unparsed_iff : s.invocation = none ↔ ∃ e, Invocation.parse r.schema s.line = .error e)
    (parse_iff : s.invocation = none ↔ e.kind = .parse)
    (requestId_iff : s.requestId = none ↔ e.kind = .parse ∨ e.kind = .undefinedVariable)
    (not_tool : e.kind ≠ .tool) (failed : s.success = false) (no_payload : s.payload = none)
    (unanswered : ∀ (payload : Json) (id : Int64) (read : String), s.requestId = some id →
      .received read ∈ during → Incoming.decode read ≠ .ok (.response ⟨id, .success payload⟩)) :
    (Step.fail s e).Shaped r during where
  unparsed_iff := unparsed_iff
  parse_iff := by simpa [Step.errorKind, Step.fail, ErrorInfo.ofError] using parse_iff
  requestId_iff := by simpa [Step.errorKind, Step.fail, ErrorInfo.ofError] using requestId_iff
  success_iff := by simp [Step.fail, failed]
  payload_iff := by
    intro payload
    simp only [Step.fail, no_payload, reduceCtorEq, false_iff]
    rintro ⟨id, read, sent, received, success⟩
    exact unanswered payload id read sent received success
  complete := by simp [Step.fail, failed]
  toolData := by
    rintro info found kind
    cases found
    exact absurd kind not_tool

/-- The record of a line that does not parse. -/
theorem shaped_unparsed {e : Error} (parsed : Invocation.parse r.schema line = .error e) :
    (Step.fail { index, line } e).Shaped r [] := by
  have kind := kind_of_parse parsed
  refine shaped_fail (iff_of_true rfl ⟨e, parsed⟩) (iff_of_true rfl kind) (iff_of_true rfl (.inl kind)) ?_
    rfl rfl nofun
  rw [kind]
  nofun

/-- The record of a line that refers to something without a value. -/
theorem shaped_unresolved (parsed : Invocation.parse r.schema line = .ok i) (name : String) :
    (Step.fail { index, line, invocation := some i } (.undefinedVariable name)).Shaped r [] :=
  shaped_fail (by simp [parsed]) (iff_of_false nofun nofun) (iff_of_true rfl (.inr rfl)) nofun rfl rfl nofun

theorem received_success_iff {allowed : Duration} {id : Int64} {text : String}
    {result : Except Stop Response} (called : Called allowed id text during result) (payload : Json) :
    (∃ read, Exchange.received read ∈ during ∧
      Incoming.decode read = .ok (.response ⟨id, .success payload⟩)) ↔
        result = .ok ⟨id, .success payload⟩ := by
  rw [called.eq_ok_iff]
  simp only [relevance_eq_answer_iff, and_true]

section

variable {allowed : Duration} {id : Int64} {text : String} {context : Context}

/-- The record of a call that has failed. -/
theorem shaped_failed {e : Error} (parsed : Invocation.parse r.schema line = .ok i)
    (called : Called allowed id text during (.error (.failed e))) (kind : e.kind ∈ ErrorKind.ofTransport) :
    (Step.fail { index, line, invocation := some i, requestId := some id } e).Shaped r during := by
  have other (k : ErrorKind) (beyond : k ∉ ErrorKind.ofTransport) : e.kind ≠ k := by
    rintro rfl
    exact beyond kind
  have not_parse := other .parse (by decide)
  have not_unresolved := other .undefinedVariable (by decide)
  refine shaped_fail (by simp [parsed]) (iff_of_false nofun not_parse)
    (iff_of_false nofun (not_or.mpr ⟨not_parse, not_unresolved⟩)) (other .tool (by decide)) rfl rfl ?_
  rintro payload _ read ⟨⟩ received success
  cases (received_success_iff called payload).mp ⟨read, received, success⟩

/-- The record of a call that has been answered. -/
theorem shaped_answered {outcome : Outcome} (parsed : Invocation.parse r.schema line = .ok i)
    (called : Called allowed id text during (.ok ⟨id, outcome⟩)) :
    (r.answered { index, line, invocation := some i, requestId := some id } i.tool context
      outcome).step.Shaped r during := by
  have success_iff (payload : Json) := received_success_iff called payload
  cases outcome with
  | success result =>
      have payload_iff (payload : Json) : some result = some payload ↔ ∃ (id' : Int64) (read : String),
          some id = some id' ∧ Exchange.received read ∈ during ∧
            Incoming.decode read = .ok (.response ⟨id', .success payload⟩) := by
        have read_iff := success_iff payload
        simp only [Except.ok.injEq, Response.mk.injEq, true_and, Outcome.success.injEq] at read_iff
        simp [← read_iff]
      unfold Runner.answered
      simp only
      split
      · refine ⟨by simp [parsed], by simp [Step.errorKind], by simp [Step.errorKind], by simp, payload_iff,
          nofun, ?_⟩
        intro info found _
        cases found
        rfl
      · exact ⟨by simp [parsed], by simp [Step.errorKind], by simp [Step.errorKind], by simp, payload_iff,
          fun _ => ⟨rfl, rfl, rfl⟩, nofun⟩
  | failure e =>
      refine ⟨?_, ?_, ?_, ?_, ?_, nofun, ?_⟩
      · simp [Runner.answered, parsed]
      · simp [Runner.answered, Step.errorKind, ErrorInfo.ofError, Error.kind]
      · simp [Runner.answered, Step.errorKind, ErrorInfo.ofError, Error.kind]
      · simp [Runner.answered]
      · intro payload
        simpa [Runner.answered] using success_iff payload
      · intro info found _
        cases found
        rfl

end

end

/-! ### Steps -/

section

variable {σ : Type} {ch : Channel σ} {int : Interrupts σ} {c : Client σ} {r : Runner}

/-- A step records the id of its call, unless the id was used last already. -/
theorem sent_of_ne {s : Step} {before after : Option Int64} (changed : after ≠ before) :
    Runner.sent s before after = { s with requestId := after } := if_neg changed

/-- The record of a step that comes to its end. -/
theorem shaped_step (plain : ch.FailsInTransport) (fresh : c.lastId ≠ some c.ids.next) {context : Context}
    {index : Nat} {line : String} {ended : StepEnd} {d : Client σ}
    (h : r.runStep ch int c context index line = (.ok ended, d)) :
    ended.step.Shaped r ((stepProcedure r context index line).transcript ch int c) := by
  cases parsed : Invocation.parse r.schema line with
  | error e =>
      have execute_eq : executeProcedure r context { index, line } =
          .pure (.ok ⟨Step.fail { index, line } e, context, false⟩) := by
        simp only [executeProcedure, parsed]
      obtain ⟨⟨millis, stepped⟩, no_trace⟩ := run_step_pure ch int c r execute_eq
      cases stepped.symm.trans h
      rw [no_trace]
      exact (shaped_unparsed parsed).taking millis
  | ok i =>
      cases resolved : Runner.arguments context i with
      | error e =>
          obtain ⟨name, rfl⟩ := Runner.arguments_error resolved
          have execute_eq : executeProcedure r context { index, line } = .pure (.ok
              ⟨Step.fail { index, line, invocation := some i } (.undefinedVariable name), context, false⟩) := by
            simp only [executeProcedure, parsed, resolved]
          obtain ⟨⟨millis, stepped⟩, no_trace⟩ := run_step_pure ch int c r execute_eq
          cases stepped.symm.trans h
          rw [no_trace]
          exact (shaped_unresolved parsed name).taking millis
      | ok arguments =>
          have asked := Runner.toSend_eq_some_iff.mpr ⟨parsed, resolved⟩
          obtain ⟨⟨millis, stepped⟩, trace⟩ := run_step_sent ch int c r asked
          have called := Procedure.called_transcript ch int (look ch c) Client.callMethod
            (some (toolCallParams i.tool arguments))
          have kind (e : Error) (d : Client σ) (failed : (look ch c).call ch int Client.callMethod
              (some (toolCallParams i.tool arguments)) = (.error (.failed e), d)) :=
            Client.kind_of_failed_call plain failed
          rw [stepped, sent_of_ne fresh.symm] at h
          rw [trace]
          simp only [Client.callTool] at h
          generalize (look ch c).call ch int Client.callMethod _ = done at called kind h
          obtain ⟨(e | _) | ⟨id, outcome⟩, e'⟩ := done
          · cases h
            exact (shaped_failed parsed called (kind e e' rfl)).taking millis
          · cases h
          · obtain rfl : id = c.ids.next := id_of_called called
            cases h
            exact (shaped_answered parsed called).taking millis

end

/-! ### Runs -/

section

variable {σ : Type} {ch : Channel σ} {c : Client σ} {r : Runner} {lines : List String} {k : Nat} {s : Step}

theorem shaped_runOn (plain : ch.FailsInTransport) (fresh : c.lastId ≠ some c.ids.next)
    (h : (r.runOn ch lines c).1.steps[k]? = some s) : lines[k]? = some s.line ∧
      ∃ during, r.log ch c lines (k + 1) = r.log ch c lines k ++ during ∧ s.Shaped r during := by
  rw [steps_runOn] at h
  obtain ⟨-, -, line, ended, during, executed, rfl⟩ := record_spec ch c r lines h
  obtain ⟨⟨ended', d, stepped, same⟩, trace⟩ := executed.stepped
  obtain ⟨-, -, -, still_fresh⟩ :=
    toolCalls_reached ch c r lines (lastId_opened_ne_next ch c r lines fresh) k
  have shaped := shaped_step plain still_fresh stepped
  rw [trace, same] at shaped
  exact ⟨executed.spec.line_eq ▸ executed.found, during, executed.traced, shaped⟩

/-- A run leaves a client that has not used its next id last. -/
theorem lastId_runOn_ne_next (fresh : c.lastId ≠ some c.ids.next) :
    (r.runOn ch lines c).2.lastId ≠ some (r.runOn ch lines c).2.ids.next := by
  rw [runOn_eq]
  obtain ⟨-, -, -, still_fresh⟩ :=
    toolCalls_reached ch c r lines (lastId_opened_ne_next ch c r lines fresh) lines.length
  exact still_fresh

end

section

variable {ω σ : Type} {host : Host ω σ} {int : HostInterrupts ω σ} {r : Runner} {lines : List String} {w : ω}
  {k : Nat} {s : Step}

/-- A record of a run is one of the run without interrupts, whose step was complete. -/
theorem record_runUntil (h : (r.runUntil host int lines w).1.steps[k]? = some s) :
    (r.run host lines w).1.steps[k]? = some s ∧
      r.usesThrough host lines w k <+: r.usesOf host int lines w := by
  cases course host int r lines w with
  | whole run_eq uses_eq uncut =>
      rw [run_eq] at h
      refine ⟨h, ?_⟩
      rw [uses_eq]
      rcases start : host.start w r.options.startupGrace with ⟨e | session, left⟩
      · rw [steps_run_of_refused start] at h
        cases h
      · have whole_eq : r.usesOf host (.never ω σ) lines w = _ := usesOf_of_started rfl start
        rw [steps_run_of_started start] at h
        obtain ⟨lt, -⟩ := record_spec host.channel (r.clientOf host session) r lines h
        obtain ⟨later, log_eq⟩ :=
          log_add host.channel (r.clientOf host session) r lines (k + 1) (lines.length - (k + 1))
        rw [Nat.add_sub_cancel' lt] at log_eq
        have log_eq : (runProcedure r lines lines.length).transcript host.channel (.never σ)
            (r.clientOf host session) = _ := log_eq
        rw [whole_eq, HostInterrupts.never, log_eq, usesThrough_of_started start, List.map_append,
          ← List.append_assoc, List.append_assoc _ _ [Use.stopped _]]
        exact List.prefix_append _ _
  | cut done later cut uses_eq is_cut uncut_done uncut_later short =>
      rw [report_runUntil, Execution.steps_report] at h
      have in_range := (List.getElem?_eq_some_iff.mp h).1
      have whole := h
      rw [short.steps_eq, List.getElem?_take_of_lt in_range] at whole
      refine ⟨whole, ?_⟩
      rw [uses_eq]
      exact ((short.complete_iff k (List.getElem?_eq_some_iff.mp whole).1).mp in_range).trans
        (List.prefix_append _ _)

theorem shaped_runUntil (plain : host.channel.FailsInTransport)
    (h : (r.runUntil host int lines w).1.steps[k]? = some s) : lines[k]? = some s.line ∧
      ∃ (session : σ) (left : ω) (before during : List Exchange) (later : List Use),
        host.start w r.options.startupGrace = (.ok session, left) ∧
        before = r.log host.channel (r.clientOf host session) lines k ∧
        r.usesOf host int lines w = [.started] ++ (before ++ during).map .exchanged ++ later ∧
        s.Shaped r during := by
  obtain ⟨whole, later, uses_eq⟩ := record_runUntil h
  rcases start : host.start w r.options.startupGrace with ⟨e | session, left⟩
  · rw [steps_run_of_refused start] at whole
    cases whole
  · rw [steps_run_of_started start, ← steps_runOn] at whole
    have unused : (r.clientOf host session).lastId = none := rfl
    obtain ⟨found, during, traced, shaped⟩ := shaped_runOn plain (by rw [unused]; nofun) whole
    rw [usesThrough_of_started start, traced] at uses_eq
    exact ⟨found, session, left, _, during, later, rfl, rfl, uses_eq.symm, shaped⟩

end

/-- The shape of records, in every run.  The errors of the channel are those that a channel has, as those of a
session are.  Then all records of a run over any client are of the shape, with the exchanges that the run had for
its line; so are those of a run from the start of a server to the stop, under any interrupts.  All that is asked of
a client is that it has not used its next id last, as one that has sent nothing yet; and a run leaves it so. -/
theorem records_are_shaped {σ : Type} (r : Runner) (lines : List String) :
    (∀ (ch : Channel σ) (c : Client σ), ch.FailsInTransport → c.lastId ≠ some c.ids.next →
      (r.runOn ch lines c).2.lastId ≠ some (r.runOn ch lines c).2.ids.next ∧
        ∀ (k : Nat) (s : Step), (r.runOn ch lines c).1.steps[k]? = some s → lines[k]? = some s.line ∧
          ∃ during, r.log ch c lines (k + 1) = r.log ch c lines k ++ during ∧ s.Shaped r during) ∧
      (∀ (ω : Type) (host : Host ω σ) (int : HostInterrupts ω σ) (w : ω), host.channel.FailsInTransport →
        ∀ (k : Nat) (s : Step), (r.runUntil host int lines w).1.steps[k]? = some s →
          lines[k]? = some s.line ∧
          ∃ (session : σ) (left : ω) (before during : List Exchange) (later : List Use),
            host.start w r.options.startupGrace = (.ok session, left) ∧
            before = r.log host.channel (r.clientOf host session) lines k ∧
            (r.runUntil host.watched int.watched lines ⟨w, []⟩).2.uses =
              [.started] ++ (before ++ during).map .exchanged ++ later ∧
            s.Shaped r during) ∧
      ∀ (κ : Type) (child : Child κ), (Session.channel child).FailsInTransport := by
  refine ⟨fun ch c plain fresh => ⟨lastId_runOn_ne_next fresh, fun k s => shaped_runOn plain fresh⟩, ?_,
    fun κ child => Session.failsInTransport child⟩
  intro ω host int w plain k s recorded
  rw [runUntil_watched]
  exact shaped_runUntil plain recorded

theorem failsInTransport_link (time : Demo.Link → Duration) : (Demo.Link.channel time).FailsInTransport where
  write := by
    intro l line e l' failed
    simp only [Demo.Link.channel, Demo.Link.write] at failed
    split at failed
    · cases failed
      simp [Error.kind, ErrorKind.ofTransport]
    · cases failed
  read := by
    intro l allowed e l' failed
    simp only [Demo.Link.channel, Demo.Link.read] at failed
    split at failed
    · cases failed
    · cases failed
      split
      · simp [Error.kind, ErrorKind.ofTransport]
      · simp [Error.kind, ErrorKind.ofTransport]

/-- A run over the demonstration server that fails in every way that a step can. -/
theorem demonstrated_records_are_shaped :
    let ch := Demo.Link.channel fun _ => ⟨0⟩
    let c := Client.start ({ server := {} } : Demo.Link) ⟨1⟩ ⟨10⟩
    let r : Runner :=
      { options :=
          { policy := .proceed, failOnReportedError := true, requestTimeout := ⟨10⟩, startupGrace := ⟨0⟩,
            shutdownGrace := ⟨0⟩, handshake := none } }
    let lines := ["no call", "echo(x=$\x7by\x7d)", "echo(x=1)", "tool_error()", "fail()", "garbage()", "hang()",
      "crash()"]
    let steps := (r.runOn ch lines c).1.steps
    steps.map Step.errorKind = [some .parse, some .undefinedVariable, none, some .tool, some .tool,
        some .protocol, some .timeout, some .connection] ∧
      steps.map Step.requestId = [none, none, some 1, some 2, some 3, some 4, some 5, some 6] ∧
      ∀ (k : Nat) (s : Step), steps[k]? = some s → ∃ during, s.Shaped r during := by
  intro ch c r lines steps
  have shown : steps.map (fun s => (s.errorKind, s.requestId)) = [(some .parse, none),
      (some .undefinedVariable, none), (none, some 1), (some .tool, some 2), (some .tool, some 3),
      (some .protocol, some 4), (some .timeout, some 5), (some .connection, some 6)] := by
    decide +kernel
  have kinds := congrArg (List.map Prod.fst) shown
  have ids := congrArg (List.map Prod.snd) shown
  rw [List.map_map] at kinds ids
  refine ⟨kinds, ids, fun k s recorded => ?_⟩
  have unused : c.lastId ≠ some c.ids.next := by decide
  obtain ⟨runs, -⟩ := records_are_shaped r lines
  obtain ⟨-, records⟩ := runs ch c (failsInTransport_link _) unused
  obtain ⟨-, during, -, shaped⟩ := records k s recorded
  exact ⟨during, shaped⟩

end CallScript.Run
