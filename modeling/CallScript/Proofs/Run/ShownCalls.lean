import CallScript.CommandLine.Action
import CallScript.Proofs.Run.DataFlow
import CallScript.Proofs.Script.Display
import CallScript.Proofs.Script.Parameters

/-! # Calls as they are shown and sent

A line that is a call is shown in two places: among the parsed lines, and in the record of its step.  Both show
the parameters of the call before references are replaced.  A parameter without references is the same on the
channel: the line that its step hands over holds exactly what is shown.

* `invocation_step`: the record of a step holds the call that its line is.
* `shown_is_sent`: values as they are shown and as they are sent. -/

namespace CallScript.Run

open Rpc

/-- The value under a key of the call that a record shows. -/
def shownParameter? (key : String) (record : Json) : Option Json :=
  ((record.field? "invocation").bind (Json.field? "parameters")).bind (Json.field? key)

/-! ### Records -/

theorem shownParameter?_step {s : Step} {i : Invocation} (held : s.invocation = some i) (key : String) :
    shownParameter? key s.toJson = (Fields.find? key i.parameters).map Value.display := by
  have shown : s.toJson.field? "invocation" = some i.display := by
    unfold Step.toJson
    rw [held]
    rfl
  unfold shownParameter?
  rw [shown]
  exact Value.find?_displayFields key i.parameters

theorem shownParameter?_parsedLine {schema : Schema} {line : String} {i : Invocation}
    (parsed : Invocation.parse schema line = .ok i) (key : String) :
    shownParameter? key (CommandLine.parsedLine schema line) =
      (Fields.find? key i.parameters).map Value.display := by
  unfold CommandLine.parsedLine
  rw [parsed]
  exact Value.find?_displayFields key i.parameters

theorem invocation_sent (s : Step) (before after : Option Int64) :
    (Runner.sent s before after).invocation = s.invocation := by
  unfold Runner.sent
  split <;> rfl

theorem invocation_answered (r : Runner) (s : Step) (tool : String) (context : Context) (outcome : Outcome) :
    (r.answered s tool context outcome).step.invocation = s.invocation := by
  cases outcome with
  | success payload =>
      unfold Runner.answered
      simp only
      split <;> rfl
  | failure e => rfl

section

variable {σ : Type} {ch : Channel σ} {int : Interrupts σ} {c d : Client σ} {r : Runner} {context : Context}
  {ended : StepEnd}

theorem invocation_execute {s : Step} (h : r.execute ch int c context s = (.ok ended, d))
    (fresh : s.invocation = none) : ended.step.invocation = (Invocation.parse r.schema s.line).toOption := by
  unfold Runner.execute at h
  cases parsed : Invocation.parse r.schema s.line with
  | error e =>
      simp only [parsed] at h
      cases h
      exact fresh
  | ok i =>
      simp only [parsed] at h
      cases resolved : Runner.arguments context i with
      | error e =>
          simp only [resolved] at h
          cases h
          rfl
      | ok arguments =>
          simp only [resolved] at h
          split at h
          · cases h
          · cases h
            exact invocation_sent ..
          · cases h
            rw [invocation_answered, invocation_sent]
            rfl

/-- The record of a step holds the call that its line is. -/
theorem invocation_step {index : Nat} {line : String}
    (h : r.runStep ch int c context index line = (.ok ended, d)) :
    ended.step.invocation = (Invocation.parse r.schema line).toOption := by
  unfold Runner.runStep at h
  simp only at h
  split at h
  · cases h
  next executed =>
    cases h
    have held := invocation_execute executed rfl
    exact held

end

section

variable {σ : Type} (ch : Channel σ) (c : Client σ) (r : Runner) (lines : List String)

theorem Executed.invocation_eq {n : Nat} {line : String} {ended : StepEnd} {during : List Exchange}
    (executed : Executed ch c r lines n line ended during) :
    ended.step.invocation = (Invocation.parse r.schema line).toOption := by
  obtain ⟨⟨ended', d, stepped, same⟩, -⟩ := executed.stepped
  rw [← same]
  exact invocation_step stepped

/-- The record of a line that is a call holds the call.  If it has an id as well, then its step handed over one
line: the call under this id, with the arguments that the call comes to in some context. -/
theorem record_of_call {k : Nat} {s : Step} {i : Invocation} (h : (r.runOn ch lines c).1.steps[k]? = some s)
    (parsed : Invocation.parse r.schema s.line = .ok i) :
    s.invocation = some i ∧ ∀ id, s.requestId = some id → ∃ context arguments,
      Runner.arguments context i = .ok arguments ∧
        writtenLines (r.log ch c lines (k + 1)) = writtenLines (r.log ch c lines k) ++
          [requestLine id Client.callMethod (some (toolCallParams i.tool arguments))] := by
  rw [steps_runOn] at h
  obtain ⟨-, -, line, ended, during, executed, rfl⟩ := record_spec ch c r lines h
  have spec := executed.spec
  have invoked := executed.invocation_eq
  have written := spec.writtenLines
  obtain rfl : ended.step.line = line := spec.line_eq
  refine ⟨by rw [invoked, parsed]; rfl, fun id same => ?_⟩
  obtain ⟨rfl, i', arguments, asked⟩ := spec.requestId same
  obtain ⟨parsed', resolved⟩ := Runner.toSend_eq_some_iff.mp asked
  obtain rfl : i = i' := Except.ok.inj (parsed.symm.trans parsed')
  refine ⟨_, arguments, resolved, ?_⟩
  rw [executed.traced, writtenLines_append, written, asked]

end

/-- A value is shown as the JSON form that it has with its references as texts, and that is the text that is
written for it in one pass; an object, which has an order of its own, keeps the order of a mapping.  So a value
without references is sent as it is shown.  Where it is a parameter of a line that is a call, the parsed line
shows it, and so does every record of a run that executed the line; and if the record has an id, then its step
handed over one line, the call under this id, whose arguments hold the value as it is shown. -/
theorem shown_is_sent (v : Value) :
    v.spelled.toJson = .ok v.display ∧ v.display.compact = String.ofList v.streamed ∧
      (v.Sorted → v.display.ordered = v.display) ∧
      (v.isResolved = true → v.toJson = .ok v.display ∧
        ∀ (schema : Schema) (line key : String) (i : Invocation),
          Invocation.parse schema line = .ok i → (key, v) ∈ i.parameters →
            shownParameter? key (CommandLine.parsedLine schema line) = some v.display ∧
            ∀ (σ : Type) (ch : Channel σ) (c : Client σ) (r : Runner) (lines : List String) (k : Nat)
              (s : Step), r.schema = schema → (r.runOn ch lines c).1.steps[k]? = some s → s.line = line →
                shownParameter? key s.toJson = some v.display ∧
                ∀ id, s.requestId = some id → ∃ arguments, arguments.field? key = some v.display ∧
                  writtenLines (r.log ch c lines (k + 1)) = writtenLines (r.log ch c lines k) ++
                    [requestLine id Client.callMethod (some (toolCallParams i.tool arguments))]) := by
  refine ⟨v.toJson_spelled, ?_, Value.ordered_display,
    fun resolved => ⟨Value.toJson_of_isResolved resolved, ?_⟩⟩
  · rw [Json.compact, v.write_display]
  · intro schema line key i parsed member
    have found : Fields.find? key i.parameters = some v :=
      (Fields.find?_eq_some_iff (Invocation.sorted_of_parse parsed).1).mpr member
    refine ⟨by rw [shownParameter?_parsedLine parsed, found]; rfl, ?_⟩
    rintro σ ch c r lines k s rfl recorded rfl
    obtain ⟨held, sent⟩ := record_of_call ch c r lines recorded parsed
    refine ⟨by rw [shownParameter?_step held, found]; rfl, fun id same => ?_⟩
    obtain ⟨context, arguments, done, written⟩ := sent id same
    exact ⟨arguments, Runner.field?_arguments done found resolved, written⟩

/-- A list with a number that is too large is shown and sent with `null` in its place. -/
theorem infinity_is_shown_as_sent :
    let v := Value.list [.double (Binary64.infinity false)]
    let line := "f(x=[1e999])"
    let ch := Rehearsed.channel
    let c := Client.start (⟨[], [], false, []⟩ : Rehearsed.State) ⟨1⟩ ⟨10⟩
    let r : Runner :=
      { options :=
          { requestTimeout := ⟨10⟩, startupGrace := ⟨0⟩, shutdownGrace := ⟨0⟩, handshake := none } }
    ∃ (s : Step) (arguments : Json), Invocation.parse r.schema line = .ok ⟨"f", [("x", v)]⟩ ∧
      v.isResolved = true ∧ (r.runOn ch [line] c).1.steps[0]? = some s ∧ s.line = line ∧
      s.requestId = some 1 ∧ v.display.compact = "[null]" ∧
      shownParameter? "x" s.toJson = some v.display ∧ arguments.field? "x" = some v.display ∧
      writtenLines (r.log ch c [line] 1) = writtenLines (r.log ch c [line] 0) ++
        [requestLine 1 Client.callMethod (some (toolCallParams "f" arguments))] := by
  intro v line ch c r
  have infinite : (Decimal.ofParts ⟨false, ['1'], [], false, ['9', '9', '9']⟩).toBinary64 =
      Binary64.infinity false := by decide +kernel
  have numeral : Literal.Numeral ([] ++ (['1'] ++ ([] ++ ['e', '9', '9', '9'])))
      (.double (Binary64.infinity false)) := by
    rw [← infinite]
    exact .double .none ⟨List.cons_ne_nil _ _, List.all_eq_true.mp rfl⟩ .none
      (.some (.inl rfl) .none ⟨List.cons_ne_nil _ _, List.all_eq_true.mp rfl⟩) (List.cons_ne_nil _ _)
  have denotes : Literal.Denotes true _ v :=
    .list (Literal.Series.cons (.scalar (.number numeral)) .nil).sequence
  have read : Literal.decode "[1e999]".toList = .ok v := Literal.decode_of_written denotes.written
  obtain ⟨piece, cut, given⟩ := Invocation.exists_literal_piece
    (by decide : Segment.isWordText ['x'] = true) ⟨'[', rfl, .inl rfl⟩ read
  have laid : Invocation.call ['f'] (['x'] ++ '=' :: "[1e999]".toList) = line := by decide +kernel
  have parsed : Invocation.parse r.schema line = .ok ⟨"f", [("x", v)]⟩ := by
    rw [← laid, Invocation.parse_call (by decide : Segment.isWordText ['f'] = true) (by decide +kernel) cut
      (.cons (given r.schema _) .nil) (List.nodup_singleton "x")]
    rfl
  have recorded : (r.runOn ch [line] c).1.steps[0]?.map (fun s => (s.line, s.requestId)) =
      some (line, some 1) := by decide +kernel
  obtain ⟨s, first, same⟩ := Option.map_eq_some_iff.mp recorded
  obtain ⟨line_eq, id_eq⟩ := Prod.mk.inj same
  obtain ⟨-, -, -, resolved_is_sent⟩ := shown_is_sent v
  obtain ⟨-, calls⟩ := resolved_is_sent rfl
  obtain ⟨-, records⟩ := calls r.schema line "x" _ parsed List.mem_cons_self
  obtain ⟨shown, sent⟩ := records _ ch c r [line] 0 s rfl first line_eq
  obtain ⟨arguments, found, written⟩ := sent 1 id_eq
  exact ⟨s, arguments, parsed, rfl, first, line_eq, id_eq, by decide +kernel, shown, found, written⟩

end CallScript.Run
