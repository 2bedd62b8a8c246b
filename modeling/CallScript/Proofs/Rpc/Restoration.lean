import CallScript.Proofs.Json.Received
import CallScript.Proofs.Rpc.Classification
import CallScript.Proofs.Script.Payload
import CallScript.Run.Runner

/-! # Responses written again

A server may spell a response in many ways: with fields that mean nothing, an error as an array, `null` for the
data that it does not carry.  What a response is read as has one spelling (`Response.toJson`), and from it the
same response is read again.  An error is written in two ways, in order of its keys and in the order of its
declaration; both are the same object, and the error is read again from either.

* `Fault.ofJson_toJson`, `Fault.ofJson_declared`: an error is read again.
* `Fault.ordered_declared`: the two ways to write an error are the same object.
* `Response.ofFields_toJson`: a response is read again.
* `responses_are_restored`: all of it for what is read from a line, and what a step keeps of an error. -/

namespace CallScript

theorem Json.narrowed_ne_null {j : Json} (h : j ≠ .null) : j.narrowed ≠ .null := by
  cases j <;> simp_all [narrowed]

namespace Rpc

/-! ### Errors -/

namespace Fault

variable {e : Fault} {j : Json} {data : Option Json} {levels : Nat}

theorem Denotes.data_ne_null (h : Denotes j e) : e.data ≠ some .null := by
  have carried_ne {field data : Option Json} (carried : Fault.Data field data) : data ≠ some .null := by
    cases carried with
    | absent | null => nofun
    | given some_data => exact fun same => some_data (Option.some.inj same)
  cases h with
  | object _ _ carried | array _ carried => exact carried_ne carried

theorem Data.of_ne_null (h : data ≠ some .null) : Fault.Data data data := by
  cases data with
  | none => exact .absent
  | some j => exact .given fun same => h (congrArg some same)

theorem ofJson_of_fields {fields : List (String × Json)} (not_null : e.data ≠ some .null)
    (coded : Fields.find? "code" fields = some (.int e.code))
    (worded : Fields.find? "message" fields = some (.str e.message))
    (carried : Fields.find? "data" fields = e.data) : ofJson (.obj fields) = .ok e :=
  ofJson_obj_eq_ok_iff.mpr ⟨coded, worded, by
    rw [carried]
    exact Data.of_ne_null not_null⟩

theorem ofJson_toJson (not_null : e.data ≠ some .null) : ofJson e.toJson = .ok e := by
  obtain ⟨code, message, _ | d⟩ := e
  · exact ofJson_of_fields not_null rfl rfl rfl
  · exact ofJson_of_fields not_null rfl rfl rfl

theorem ofJson_declared (not_null : e.data ≠ some .null) : ofJson e.declared = .ok e := by
  obtain ⟨code, message, _ | d⟩ := e
  · exact ofJson_of_fields not_null rfl rfl rfl
  · exact ofJson_of_fields not_null rfl rfl rfl

theorem Denotes.received_data (h : Denotes j e) (received : j.Received (levels + 1)) :
    ∀ d ∈ e.data, d.Received levels := by
  cases h with
  | @object fields code message data _ _ carried =>
      intro d carries
      generalize place : Fields.find? "data" fields = field at carried
      cases carried with
      | absent | null => cases carries
      | given _ =>
          cases carries
          exact received.of_find? place
  | @array code message rest data _ carried =>
      intro d carries
      generalize place : rest.head? = field at carried
      cases carried with
      | absent | null => cases carries
      | given _ =>
          cases carries
          exact Json.received_arr_iff.mp received d
            (List.mem_cons_of_mem _ (List.mem_cons_of_mem _ (List.mem_of_mem_head? place)))

theorem received_toJson (received : ∀ d ∈ e.data, d.Received levels) : e.toJson.Received (levels + 1) := by
  refine Json.received_obj_iff.mpr ?_
  obtain ⟨code, message, _ | d⟩ := e
  · exact ⟨.of_keys ["code", "message"] rfl (by decide), by simp [dataField]⟩
  · exact ⟨.of_keys ["code", "data", "message"] rfl (by decide), by simp [dataField, received d rfl]⟩

theorem ordered_declared (in_order : e.toJson.Sorted) : e.declared.ordered = e.toJson := by
  obtain ⟨code, message, _ | d⟩ := e
  · exact congrArg Json.obj (Fields.ofList_eq_of_perm (.refl _) in_order.1)
  · have same : d.ordered = d := Json.ordered_eq_self d in_order.2.2.1
    simp only [declared, dataField, List.cons_append, List.nil_append, Json.ordered, Json.orderedFields, same,
      Json.int]
    exact congrArg Json.obj (Fields.ofList_eq_of_perm (.cons _ (.swap _ _ _)) in_order.1)

theorem toJson_resultMapping (e : Fault) :
    (Context.resultMapping e.toJson).toJson = .ok { e with data := e.data.map Json.narrowed }.toJson := by
  have received : Context.resultMapping e.toJson = Mapping.ofFields
    ([("code", .int e.code)] ++ dataField e.data ++ [("message", .str e.message)]) := rfl
  rw [received, Mapping.toJson_ofFields]
  obtain ⟨code, message, _ | d⟩ := e
  · rfl
  · rfl

end Fault

/-! ### Responses -/

namespace Response

/-- The object that a response is written as, in order of its keys. -/
def toJson (r : Response) : Json :=
  match r.outcome with
  | .success result => .obj [("id", .int r.id), ("jsonrpc", .str version), ("result", result)]
  | .failure e => .obj [("error", e.toJson), ("id", .int r.id), ("jsonrpc", .str version)]

variable {r : Response} {line : String}

theorem data_ne_null_of_decode {e : Fault} (read : Incoming.decode line = .ok (.response r))
    (failed : r.outcome = .failure e) : e.data ≠ some .null := by
  cases Incoming.decode_iff_means.mp read with
  | success => cases failed
  | failure _ _ _ denotes =>
      cases failed
      exact denotes.data_ne_null

theorem received_of_decode (read : Incoming.decode line = .ok (.response r)) :
    r.toJson.Received Json.maxDepth := by
  cases Incoming.decode_iff_means.mp read with
  | @success fields id result answers has_result _ =>
      have received := (Json.received_of_readAll? answers.is_object).of_find? has_result
      exact Json.received_obj_iff.mpr ⟨.of_keys ["id", "jsonrpc", "result"] rfl (by decide), by simp [received]⟩
  | @failure fields id j e answers _ has_error denotes =>
      have received := Fault.received_toJson
        (denotes.received_data ((Json.received_of_readAll? answers.is_object).of_find? has_error))
      exact Json.received_obj_iff.mpr ⟨.of_keys ["error", "id", "jsonrpc"] rfl (by decide), by simp [received]⟩

/-- A response is read again from its object. -/
theorem ofFields_toJson (not_null : ∀ e, r.outcome = .failure e → e.data ≠ some .null) :
    ∃ fields, r.toJson = .obj fields ∧ Incoming.ofFields fields = .ok (.response r) := by
  obtain ⟨id, result | e⟩ := r
  · exact ⟨_, rfl, rfl⟩
  · have outcome : Incoming.readOutcome [("error", e.toJson), ("id", .int id), ("jsonrpc", .str version)] =
        .ok (.failure e) :=
      Incoming.readOutcome_eq_ok_iff.mpr
        (.inr ⟨e, rfl, rfl, e.toJson, rfl, Fault.ofJson_eq_ok_iff.mp (Fault.ofJson_toJson (not_null e rfl))⟩)
    refine ⟨_, rfl, ?_⟩
    have read : Incoming.ofFields [("error", e.toJson), ("id", .int id), ("jsonrpc", .str version)] =
      (Incoming.readOutcome [("error", e.toJson), ("id", .int id), ("jsonrpc", .str version)]).map
        fun outcome => .response ⟨id, outcome⟩ := rfl
    rw [read, outcome]
    rfl

theorem decode_of_read? {text : String} (not_null : ∀ e, r.outcome = .failure e → e.data ≠ some .null)
    (is_text : Json.read? text = some r.toJson) : Incoming.decode text = .ok (.response r) := by
  obtain ⟨fields, same, read⟩ := ofFields_toJson not_null
  exact Incoming.decode_iff_means.mpr (Incoming.means_of_ofFields (is_text.trans (congrArg some same)) read)

end Response

/-! ### What a step keeps of an error -/

/-- How an error is kept when a step has failed from it.  The data of the step's error is the object of the error,
from which the error is read again.  The latest result is the mapping of that object, and the error that is read
from it is the same exactly if no integer in the data is beyond the signed range. -/
structure Fault.Kept (e : Fault) (ended : Run.StepEnd) : Prop where
  /-- The data of the step's error. -/
  stored : ∃ info, ended.step.error = some info ∧ info.data = some e.toJson
  read_again : Fault.ofJson e.toJson = .ok e
  /-- The latest result. -/
  latest : ∃ m j, ended.context.lastResult = some m ∧ m.toJson = .ok j ∧
    Fault.ofJson j = .ok { e with data := e.data.map Json.narrowed }
  whole_iff : { e with data := e.data.map Json.narrowed } = e ↔ ∀ d ∈ e.data, d.Signed

theorem Fault.kept_by_answered {e : Fault} (not_null : e.data ≠ some .null) (runner : Run.Runner) (s : Run.Step)
    (tool : String) (context : Context) : e.Kept (runner.answered s tool context (.failure e)) where
  stored := ⟨_, rfl, rfl⟩
  read_again := ofJson_toJson not_null
  latest := by
    refine ⟨_, _, rfl, toJson_resultMapping e, ofJson_toJson ?_⟩
    intro narrowed_null
    obtain ⟨d, carries, null⟩ := Option.map_eq_some_iff.mp narrowed_null
    exact Json.narrowed_ne_null (fun is_null => not_null (carries.trans (congrArg some is_null))) null
  whole_iff := by
    obtain ⟨code, message, _ | d⟩ := e
    · simp
    · simp [Json.narrowed_eq_self_iff]

/-- A response that was read is restored: the object that it is written as is read as the same response, and so
is every text of that object, such as its text without spacing if there is no double in it.  An error in it has
one object, in whichever order its fields are written, and is read again from either order; a step that has
failed from the error keeps it. -/
theorem responses_are_restored {line : String} {r : Response} (read : Incoming.decode line = .ok (.response r)) :
    (∃ fields, r.toJson = .obj fields ∧ Incoming.ofFields fields = .ok (.response r)) ∧
      (∀ text, Json.read? text = some r.toJson → Incoming.decode text = .ok (.response r)) ∧
      (r.toJson.NoDouble → Incoming.decode r.toJson.compact = .ok (.response r)) ∧
      ∀ e, r.outcome = .failure e →
        e.declared.ordered = e.toJson ∧ Fault.ofJson e.toJson = .ok e ∧ Fault.ofJson e.declared = .ok e ∧
          ∀ (runner : Run.Runner) (s : Run.Step) (tool : String) (context : Context),
            e.Kept (runner.answered s tool context r.outcome) := by
  have not_null (e : Fault) (failed : r.outcome = .failure e) := Response.data_ne_null_of_decode read failed
  have received := Response.received_of_decode read
  refine ⟨Response.ofFields_toJson not_null, fun _ => Response.decode_of_read? not_null, ?_, ?_⟩
  · intro no_double
    exact Response.decode_of_read? not_null (received.read?_compact no_double)
  · intro e failed
    have in_order : e.toJson.Sorted := by
      obtain ⟨id, outcome⟩ := r
      obtain rfl : outcome = .failure e := failed
      have under_error : Fields.find? "error"
        [("error", e.toJson), ("id", .int id), ("jsonrpc", .str version)] = some e.toJson := rfl
      exact (received.of_find? under_error).sorted
    refine ⟨Fault.ordered_declared in_order, Fault.ofJson_toJson (not_null e failed),
      Fault.ofJson_declared (not_null e failed), ?_⟩
    intro runner s tool context
    rw [failed]
    exact Fault.kept_by_answered (not_null e failed) runner s tool context

/-- An error that was written as an array, with fields that mean nothing around it. -/
theorem array_error_is_restored :
    let line :=
      "\x7b\"error\":[-1,\"no\",\x7b\"b\":1,\"a\":null\x7d],\"method\":null,\"id\":7,\"jsonrpc\":\"2.0\"\x7d"
    let r : Response := ⟨7, .failure ⟨-1, "no", some (.obj [("a", .null), ("b", .int 1)])⟩⟩
    Incoming.decode line = .ok (.response r) ∧ Incoming.decode r.toJson.compact = .ok (.response r) := by
  intro line r
  have read : Incoming.decode line = .ok (.response r) := by decide +kernel
  refine ⟨read, (responses_are_restored read).2.2.1 ?_⟩
  simp [r, Response.toJson, Fault.toJson, Fault.dataField, Json.NoDouble, Json.NoDoubleFields, Json.int]

/-- Two errors whose data are the two largest unsigned integers leave the same latest result. -/
theorem latest_result_confuses_errors :
    let e : Fault := ⟨-1, "no", some (.number (.large 18446744073709551615 (by decide)))⟩
    let e' : Fault := ⟨-1, "no", some (.number (.large 18446744073709551614 (by decide)))⟩
    Incoming.decode "\x7b\"jsonrpc\":\"2.0\",\"id\":1,\"error\":[-1,\"no\",18446744073709551615]\x7d" =
        .ok (.response ⟨1, .failure e⟩) ∧
      Incoming.decode "\x7b\"jsonrpc\":\"2.0\",\"id\":1,\"error\":[-1,\"no\",18446744073709551614]\x7d" =
        .ok (.response ⟨1, .failure e'⟩) ∧
      e ≠ e' ∧ ∀ (runner : Run.Runner) (s : Run.Step) (tool : String) (context : Context),
        (runner.answered s tool context (.failure e)).context =
          (runner.answered s tool context (.failure e')).context := by
  intro e e'
  refine ⟨by decide +kernel, by decide +kernel, by decide, fun runner s tool context => ?_⟩
  have rounded : Binary64.ofNat 18446744073709551615 = Binary64.ofNat 18446744073709551614 := by decide +kernel
  have same : Context.resultMapping e.toJson = Context.resultMapping e'.toJson :=
    congrArg (fun x => ([("code", .integer (-1)), ("data", .double x), ("message", .text "no")] : Mapping)) rounded
  exact congrArg (fun latest => { context with lastResult := some latest }) same

end Rpc

end CallScript
