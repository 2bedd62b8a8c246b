import CallScript.Proofs.Fields
import CallScript.Proofs.Script.Resolution

/-! # The caller's variables and the references in them

A caller gives a variable as JSON or as a value token (`Given`).  JSON has no references, but a token may be
one or hold some, and since references are replaced only once, those come out of the replacing as they went
in.

* `remaining_recorded`: what is left of a reference after any results.
* `resolved_iff_of_given`: which calls come out without references, and which name an error may be about. -/

namespace CallScript

/-- How the value of a caller's variable comes about. -/
inductive Given : Value → Prop
  | token {raw : String} {v : Value} (read : Token.parse raw = .ok v) : Given v
  | json (j : Json) : Given (.ofJson j)

namespace Context

/-- The context of a run with the caller's variables, after these results. -/
def recorded (bindings : Mapping) (results : List Json) : Context :=
  results.foldl Context.record { bindings }

theorem recorded_concat (bindings : Mapping) (results : List Json) (result : Json) :
    recorded bindings (results ++ [result]) = (recorded bindings results).record result :=
  List.foldl_append

theorem bindings_recorded (bindings : Mapping) (results : List Json) :
    (recorded bindings results).bindings = bindings := by
  induction results using List.reverseRecOn with
  | nil => rfl
  | append_singleton results result ih =>
      rw [recorded_concat]
      exact ih

theorem lastResult_recorded (bindings : Mapping) (results : List Json) :
    (recorded bindings results).lastResult = results.getLast?.map resultMapping := by
  rcases List.eq_nil_or_concat results with rfl | ⟨earlier, last, rfl⟩
  · rfl
  · rw [List.concat_eq_append, recorded_concat, List.getLast?_append]
    rfl

/-- A result has no references; a caller's variable may have some. -/
theorem remaining_recorded (bindings : Mapping) (results : List Json) (name : String) :
    (recorded bindings results).remaining name =
      if name = lastResultName then [] else ((Fields.find? name bindings).map Value.references).getD [] := by
  unfold remaining find?
  by_cases built_in : name = lastResultName
  · rw [if_pos built_in, if_pos built_in, lastResult_recorded]
    cases results.getLast? with
    | none => rfl
    | some result => exact references_resultMapping result
  · rw [if_neg built_in, if_neg built_in, bindings_recorded]

theorem find?_recorded_eq_none {bindings : Mapping} {results : List Json} {name : String}
    (nothing : (recorded bindings results).find? name = none) :
    name = lastResultName ∧ results = [] ∨ name ≠ lastResultName ∧ Fields.find? name bindings = none := by
  unfold find? at nothing
  by_cases built_in : name = lastResultName
  · rw [if_pos built_in, lastResult_recorded] at nothing
    refine .inl ⟨built_in, ?_⟩
    simpa using nothing
  · rw [if_neg built_in, bindings_recorded] at nothing
    exact .inr ⟨built_in, nothing⟩

/-- A reference that is left was in a caller's variable that was given as a token. -/
theorem exists_token_of_mem_remaining {bindings : Mapping} {results : List Json} {name left : String}
    (given : ∀ binding ∈ bindings, Given binding.2) (member : left ∈ (recorded bindings results).remaining name) :
    name ≠ lastResultName ∧ ∃ raw v, Fields.find? name bindings = some v ∧ Token.parse raw = .ok v ∧
      left ∈ v.references := by
  rw [remaining_recorded] at member
  split at member
  · cases member
  next caller's =>
    refine ⟨caller's, ?_⟩
    cases found : Fields.find? name bindings with
    | none =>
        rw [found] at member
        cases member
    | some v =>
        rw [found] at member
        have left_in : left ∈ v.references := member
        cases given (name, v) (Fields.mem_of_find?_eq_some found) with
        | @token raw v read => exact ⟨raw, v, rfl, read, left_in⟩
        | json j =>
            rw [Value.references_ofJson] at left_in
            cases left_in

end Context

open Context in
/-- The arguments of a call under the caller's variables and after any results.  Once its references are
replaced, it has a JSON form exactly if none is left, and that is so exactly if no variable of the caller that it
refers to holds a reference.  An undefined variable is reported only if it is `last_result` before any
result, or no variable of the caller, or a reference in a variable that the caller gave as a token and that
the call refers to; this one may well be a variable of the caller. -/
theorem resolved_iff_of_given (bindings : Mapping) (results : List Json) (i : Invocation)
    (given : ∀ binding ∈ bindings, Given binding.2) :
    let context := recorded bindings results
    (∀ resolved, context.interpolate i.parameters = .ok resolved →
      (Value.allFieldsResolved resolved = true ↔ ∃ j, resolved.toJson = .ok j) ∧
        (Value.allFieldsResolved resolved = true ↔ ∀ name ∈ i.references, name ≠ lastResultName →
          ∀ v, Fields.find? name bindings = some v → v.isResolved = true)) ∧
      ∀ x, Run.Runner.arguments context i = .error (.undefinedVariable x) →
        x = lastResultName ∧ results = [] ∨ x ≠ lastResultName ∧ Fields.find? x bindings = none ∨
          ∃ name ∈ i.references, name ≠ lastResultName ∧ ∃ raw v, Fields.find? name bindings = some v ∧
            Token.parse raw = .ok v ∧ x ∈ v.references := by
  intro context
  refine ⟨fun resolved interpolated => ?_, fun x failed => ?_⟩
  · have left := references_resolveFields _ interpolated
    refine ⟨(Value.allFieldsResolved_iff resolved).trans Value.exists_toJson_iff.symm, ?_⟩
    rw [Value.allFieldsResolved_iff, left, List.flatMap_eq_nil_iff]
    refine forall₂_congr fun name _ => ?_
    rw [remaining_recorded]
    by_cases built_in : name = lastResultName
    · simp [built_in]
    · rw [if_neg built_in]
      cases Fields.find? name bindings with
      | none => simp
      | some v => simp [built_in, Value.isResolved_iff]
  · unfold Run.Runner.arguments at failed
    split at failed
    next undefined =>
      cases failed
      obtain ⟨name, -, nothing, same⟩ := resolveFields_error _ undefined
      cases same
      rcases find?_recorded_eq_none nothing with no_result | no_variable
      · exact .inl no_result
      · exact .inr (.inl no_variable)
    next resolved interpolated =>
      obtain ⟨left, member, same⟩ := Value.fieldsToJson_error resolved (eq_error_of_map failed)
      cases same
      rw [references_resolveFields _ interpolated] at member
      obtain ⟨name, referred, left_in⟩ := List.mem_flatMap.mp member
      exact .inr (.inr ⟨name, referred, exists_token_of_mem_remaining given left_in⟩)

open Context in
/-- A variable that was received holds a text that looks like a reference, and one that was given as a token
holds an integer.  A call that refers to both, and to the result before it, comes out without references. -/
theorem resolved_with_a_text_like_a_reference :
    let bindings : Mapping := [("n", .integer 7), ("x", .text "$\x7by\x7d")]
    let results : List Json := [.arr [], .bool true]
    let i : Invocation := ⟨"f", [("a", .list [.reference "n", .reference "x"]), ("b", .reference "last_result")]⟩
    let resolved : Mapping :=
      [("a", .list [.integer 7, .text "$\x7by\x7d"]), ("b", .mapping [("value", .boolean true)])]
    (∀ binding ∈ bindings, Given binding.2) ∧
      (recorded bindings results).interpolate i.parameters = .ok resolved ∧
      ∃ j, resolved.toJson = .ok j := by
  intro bindings results i resolved
  have given : ∀ binding ∈ bindings, Given binding.2 := by
    intro binding member
    simp only [bindings, List.mem_cons, List.not_mem_nil, or_false] at member
    rcases member with rfl | rfl
    · have read : Token.parse "7" = .ok (.integer 7) := rfl
      exact .token read
    · exact .json (.str "$\x7by\x7d")
  have interpolated : (recorded bindings results).interpolate i.parameters = .ok resolved := rfl
  obtain ⟨written_iff, -⟩ := (resolved_iff_of_given bindings results i given).1 resolved interpolated
  exact ⟨given, interpolated, written_iff.mp rfl⟩

open Context in
/-- A variable that was given as a reference to another one: the reference comes out of the replacing, and the
other variable is called undefined. -/
theorem reference_in_a_variable_remains :
    let bindings : Mapping := [("x", .reference "y"), ("y", .integer 1)]
    let i : Invocation := ⟨"f", [("a", .reference "x")]⟩
    Token.parse "$\x7by\x7d" = .ok (.reference "y") ∧ Token.parse "1" = .ok (.integer 1) ∧
      Invocation.parse .empty "f(a=$\x7bx\x7d)" = .ok i ∧
      Context.interpolate { bindings } i.parameters = .ok [("a", .reference "y")] ∧
      Value.allFieldsResolved [("a", .reference "y")] = false ∧
      Run.Runner.arguments { bindings } i = .error (.undefinedVariable "y") ∧
      Fields.find? "y" bindings = some (.integer 1) :=
  ⟨rfl, rfl, rfl, rfl, rfl, rfl, rfl⟩

end CallScript
