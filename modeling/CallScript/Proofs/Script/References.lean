import CallScript.Run.Runner

/-! # The references in a script

Replacing references reads a context only where a reference of the value points to (`Context.resolve_congr`),
and only once: what stands for a reference is not looked at again.  A value that was received has no
references, whatever its texts look like (`Value.references_ofJson`).

* `Invocation.references`, `Run.Runner.references`: the names that a call and a script refer to.
* `Run.Runner.arguments_congr`: the arguments of a call depend only on what the names in it stand for.
* `Context.references_resultMapping`: a result as a mapping has no references. -/

namespace CallScript

namespace Value

mutual

/-- The names of the references in a value, in the order of its items and fields. -/
def references : Value → List String
  | .reference name => [name]
  | .list items => itemsReferences items
  | .mapping fields => fieldsReferences fields
  | _ => []

/-- The names of the references in items. -/
def itemsReferences : List Value → List String
  | [] => []
  | item :: rest => item.references ++ itemsReferences rest

/-- The names of the references in the values of fields. -/
def fieldsReferences : List (String × Value) → List String
  | [] => []
  | (_, value) :: rest => value.references ++ fieldsReferences rest

end

mutual

/-- Received JSON has no references. -/
theorem references_ofJson : ∀ j : Json, (ofJson j).references = []
  | .null | .bool _ | .str _ => rfl
  | .number n => by
      cases n with
      | int i => rfl
      | large n _ => rfl
      | double x _ => rfl
  | .arr items => by
      rw [ofJson, references]
      exact references_itemsOfJson items
  | .obj fields => by
      rw [ofJson, references]
      exact references_fieldsOfJson fields

theorem references_itemsOfJson : ∀ items : List Json, itemsReferences (itemsOfJson items) = []
  | [] => rfl
  | item :: rest => by
      rw [itemsOfJson, itemsReferences, references_ofJson item, references_itemsOfJson rest]
      rfl

theorem references_fieldsOfJson : ∀ fields : List (String × Json),
    fieldsReferences (fieldsOfJson fields) = []
  | [] => rfl
  | (_, value) :: rest => by
      rw [fieldsOfJson, fieldsReferences, references_ofJson value, references_fieldsOfJson rest]
      rfl

end

end Value

namespace Context

/-- A result as a mapping has no references. -/
theorem references_resultMapping (result : Json) : Value.fieldsReferences (resultMapping result) = [] := by
  have wrapped : Value.fieldsReferences [("value", Value.ofJson result)] = [] := by
    rw [Value.fieldsReferences, Value.references_ofJson]
    rfl
  cases result with
  | obj fields => exact Value.references_fieldsOfJson fields
  | null | bool | number | str | arr => exact wrapped

section

variable {context context' : Context}

mutual

/-- A value has the same references replaced by the same, where its names stand for the same. -/
theorem resolve_congr : ∀ v : Value,
    (∀ name ∈ v.references, context'.find? name = context.find? name) →
      context'.resolve v = context.resolve v
  | .reference name, agree => by
      rw [resolve, resolve, lookup, lookup, agree name List.mem_cons_self]
  | .list items, agree => by rw [resolve, resolve, resolveItems_congr items agree]
  | .mapping fields, agree => by rw [resolve, resolve, resolveFields_congr fields agree]
  | .text _, _ | .integer _, _ | .double _, _ | .boolean _, _ | .null, _ => by rw [resolve, resolve]

theorem resolveItems_congr : ∀ items : List Value,
    (∀ name ∈ Value.itemsReferences items, context'.find? name = context.find? name) →
      context'.resolveItems items = context.resolveItems items
  | [], _ => by rw [resolveItems, resolveItems]
  | item :: rest, agree => by
      rw [Value.itemsReferences] at agree
      have first := resolve_congr item fun name member => agree name (List.mem_append_left _ member)
      have others := resolveItems_congr rest fun name member => agree name (List.mem_append_right _ member)
      rw [resolveItems, resolveItems, first, others]

theorem resolveFields_congr : ∀ fields : List (String × Value),
    (∀ name ∈ Value.fieldsReferences fields, context'.find? name = context.find? name) →
      context'.resolveFields fields = context.resolveFields fields
  | [], _ => by rw [resolveFields, resolveFields]
  | (_, value) :: rest, agree => by
      rw [Value.fieldsReferences] at agree
      have first := resolve_congr value fun name member => agree name (List.mem_append_left _ member)
      have others := resolveFields_congr rest fun name member => agree name (List.mem_append_right _ member)
      rw [resolveFields, resolveFields, first, others]

end

end

/-- What a name stands for depends on the latest result, and on the caller's variable of that name. -/
theorem find?_congr {context context' : Context} {name : String}
    (lastResult_eq : context'.lastResult = context.lastResult)
    (variable_eq : Fields.find? name context'.bindings = Fields.find? name context.bindings) :
    context'.find? name = context.find? name := by
  unfold find?
  rw [lastResult_eq, variable_eq]

end Context

/-- The names that a call refers to. -/
def Invocation.references (i : Invocation) : List String := Value.fieldsReferences i.parameters

namespace Run.Runner

/-- The names that the lines of a script refer to; a line that is no call refers to nothing. -/
def references (r : Runner) (lines : List String) : List String :=
  lines.flatMap fun line =>
    match Invocation.parse r.schema line with
    | .ok i => i.references
    | .error _ => []

theorem mem_references {r : Runner} {lines : List String} {line name : String} {i : Invocation}
    (member : line ∈ lines) (parsed : Invocation.parse r.schema line = .ok i) (named : name ∈ i.references) :
    name ∈ r.references lines := by
  refine List.mem_flatMap.mpr ⟨line, member, ?_⟩
  rw [parsed]
  exact named

/-- The arguments of a call depend only on what the names in it stand for. -/
theorem arguments_congr {context context' : Context} {i : Invocation}
    (agree : ∀ name ∈ i.references, context'.find? name = context.find? name) :
    arguments context' i = arguments context i := by
  have same := Context.resolveFields_congr i.parameters agree
  unfold arguments Context.interpolate
  rw [same]

end Run.Runner

end CallScript
