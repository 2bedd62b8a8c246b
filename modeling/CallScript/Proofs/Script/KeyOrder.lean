import CallScript.Proofs.Script.Grammar
import CallScript.Proofs.Script.LiteralReading
import CallScript.Proofs.Script.Resolution
import CallScript.Proofs.Script.Tokens

/-! # Mappings stay in order of their keys

Whatever a script says, and whatever is made of it on its way to the server, has its mappings in order: what
is read from a line, the values that received JSON stands for, what references are replaced by, and the JSON
that is sent.  The caller's variables are taken to be in order.

* `Invocation.sorted_of_parse`: the parameters of a line.
* `Context.Sorted.resolve`: a value with its references replaced.
* `Run.Runner.sorted_arguments`: the arguments of a call. -/

namespace CallScript

namespace Value

theorem sortedFields_iff {fields : List (String × Value)} :
    SortedFields fields ↔ ∀ field ∈ fields, field.2.Sorted := by
  induction fields with
  | nil => simp [SortedFields]
  | cons field rest ih => rw [SortedFields, ih, List.forall_mem_cons]

end Value

/-! ### What is read -/

namespace Literal

variable {s : List Char} {loneComma : Bool}

mutual

theorem Denotes.sorted : ∀ (v : Value) {s : List Char}, Denotes loneComma s v → v.Sorted
  | .list items, _, denotes => by
      cases denotes with
      | scalar kind => exact absurd kind Scalar.not_list
      | list between => exact Denotes.sortedItems items between.exists_element
  | .mapping fields, _, denotes => by
      cases denotes with
      | scalar kind => exact absurd kind Scalar.not_mapping
      | mapping between collected =>
          exact ⟨collected.sorted, Denotes.sortedFields fields (between.exists_value collected)⟩
  | .text _, _, _ | .integer _, _, _ | .double _, _, _ | .boolean _, _, _ | .null, _, _
  | .reference _, _, _ => trivial

theorem Denotes.sortedItems {whole : List Char} : ∀ (items : List Value),
    (∀ item ∈ items, ∃ s, s <:+: whole ∧ Denotes loneComma s item) → Value.SortedItems items
  | [], _ => trivial
  | item :: rest, denoted => by
      obtain ⟨⟨_, -, first⟩, others⟩ := List.forall_mem_cons.mp denoted
      exact ⟨Denotes.sorted item first, Denotes.sortedItems rest others⟩

theorem Denotes.sortedFields {whole : List Char} : ∀ (fields : List (String × Value)),
    (∀ field ∈ fields, ∃ s, s <:+: whole ∧ Denotes loneComma s field.2) → Value.SortedFields fields
  | [], _ => trivial
  | (_, value) :: rest, denoted => by
      obtain ⟨⟨_, -, first⟩, others⟩ := List.forall_mem_cons.mp denoted
      exact ⟨Denotes.sorted value first, Denotes.sortedFields rest others⟩

end

theorem sorted_of_decode {v : Value} (read : decode s = .ok v) : v.Sorted := by
  obtain ⟨_, _, denotes⟩ := written_of_decode read
  exact denotes.sorted

end Literal

theorem Token.sorted_of_decode {isInteger : Bool} {raw : List Char} {v : Value}
    (read : Token.decode isInteger raw = .ok v) : v.Sorted := by
  rcases Token.literal_or_isFlat read with literal | flat
  · exact Literal.sorted_of_decode literal
  · cases flat <;> trivial

/-- The parameters of a line are in order, at any depth. -/
theorem Invocation.sorted_of_parse {schema : Schema} {line : String} {i : Invocation}
    (parsed : Invocation.parse schema line = .ok i) :
    Fields.Sorted i.parameters ∧ Value.SortedFields i.parameters := by
  obtain ⟨reading, rfl⟩ := Invocation.exists_reading parsed
  refine ⟨Fields.Sorted.ofList _, Value.sortedFields_iff.mpr fun field member => ?_⟩
  obtain ⟨_, _, _, _, _, decodes⟩ := reading.exists_token member
  exact Token.sorted_of_decode decodes

/-! ### What references are replaced by -/

/-- Everything that references may stand for is in order. -/
structure Context.Sorted (context : Context) : Prop where
  lastResult : ∀ m, context.lastResult = some m → Fields.Sorted m ∧ Value.SortedFields m
  bindings : Value.SortedFields context.bindings

namespace Value

theorem keys_fieldsOfJson (fields : List (String × Json)) :
    (fieldsOfJson fields).map Prod.fst = fields.map Prod.fst := by
  induction fields with
  | nil => rfl
  | cons field rest ih => rw [fieldsOfJson, List.map_cons, List.map_cons, ih]

mutual

theorem sorted_ofJson : ∀ (j : Json), j.Sorted → (ofJson j).Sorted
  | .arr items, sorted => by
      rw [ofJson]
      exact sortedItems_itemsOfJson items sorted
  | .obj fields, sorted => by
      rw [ofJson]
      exact ⟨sorted.1.of_keys_eq (keys_fieldsOfJson fields), sortedFields_fieldsOfJson fields sorted.2⟩
  | .number (.int _), _ | .number (.large _ _), _ | .number (.double _ _), _ | .null, _ | .bool _, _
  | .str _, _ => trivial

theorem sortedItems_itemsOfJson : ∀ (items : List Json), Json.SortedItems items →
    SortedItems (itemsOfJson items)
  | [], _ => trivial
  | item :: rest, sorted => ⟨sorted_ofJson item sorted.1, sortedItems_itemsOfJson rest sorted.2⟩

theorem sortedFields_fieldsOfJson : ∀ (fields : List (String × Json)), Json.SortedFields fields →
    SortedFields (fieldsOfJson fields)
  | [], _ => trivial
  | (_, value) :: rest, sorted => ⟨sorted_ofJson value sorted.1, sortedFields_fieldsOfJson rest sorted.2⟩

end

theorem keys_fieldsToJson {fields : List (String × Value)} {written : List (String × Json)}
    (done : fieldsToJson fields = .ok written) : written.map Prod.fst = fields.map Prod.fst := by
  induction fields generalizing written with
  | nil =>
      cases done
      rfl
  | cons field rest ih =>
      rw [fieldsToJson] at done
      split at done
      · cases done
      · obtain ⟨more, rest_done, rfl⟩ := exists_of_map_eq_ok done
        rw [List.map_cons, List.map_cons, ih rest_done]

mutual

theorem sorted_toJson : ∀ (v : Value) {j : Json}, v.toJson = .ok j → v.Sorted → j.Sorted
  | .list items, _, done, sorted => by
      rw [toJson] at done
      obtain ⟨written, items_done, rfl⟩ := exists_of_map_eq_ok done
      exact sortedItems_itemsToJson items items_done sorted
  | .mapping fields, _, done, sorted => by
      rw [toJson] at done
      obtain ⟨written, fields_done, rfl⟩ := exists_of_map_eq_ok done
      exact ⟨sorted.1.of_keys_eq (keys_fieldsToJson fields_done),
        sortedFields_fieldsToJson fields fields_done sorted.2⟩
  | .double x, _, done, _ => by
      cases done
      unfold Json.ofBinary64
      split <;> trivial
  | .text _, _, done, _ | .integer _, _, done, _ | .boolean _, _, done, _ | .null, _, done, _ => by
      cases done
      trivial

theorem sortedItems_itemsToJson : ∀ (items : List Value) {written : List Json},
    itemsToJson items = .ok written → SortedItems items → Json.SortedItems written
  | [], _, done, _ => by
      cases done
      trivial
  | item :: rest, _, done, sorted => by
      rw [itemsToJson] at done
      split at done
      · cases done
      next item_done =>
        obtain ⟨more, rest_done, rfl⟩ := exists_of_map_eq_ok done
        exact ⟨sorted_toJson item item_done sorted.1, sortedItems_itemsToJson rest rest_done sorted.2⟩

theorem sortedFields_fieldsToJson : ∀ (fields : List (String × Value)) {written : List (String × Json)},
    fieldsToJson fields = .ok written → SortedFields fields → Json.SortedFields written
  | [], _, done, _ => by
      cases done
      trivial
  | (_, value) :: rest, _, done, sorted => by
      rw [fieldsToJson] at done
      split at done
      · cases done
      next value_done =>
        obtain ⟨more, rest_done, rfl⟩ := exists_of_map_eq_ok done
        exact ⟨sorted_toJson value value_done sorted.1,
          sortedFields_fieldsToJson rest rest_done sorted.2⟩

end

end Value

namespace Context

variable {context : Context}

theorem sorted_resultMapping {result : Json} (sorted : result.Sorted) :
    Fields.Sorted (resultMapping result) ∧ Value.SortedFields (resultMapping result) := by
  unfold resultMapping
  split
  next fields =>
    exact ⟨sorted.1.of_keys_eq (Value.keys_fieldsOfJson fields),
      Value.sortedFields_fieldsOfJson fields sorted.2⟩
  · exact ⟨List.pairwise_singleton _ _, Value.sorted_ofJson result sorted, trivial⟩

theorem Sorted.record (h : context.Sorted) {result : Json} (sorted : result.Sorted) :
    (context.record result).Sorted where
  lastResult := by
    intro m recorded
    cases recorded
    exact sorted_resultMapping sorted
  bindings := h.bindings

theorem Sorted.find? (h : context.Sorted) {name : String} {v : Value} (found : context.find? name = some v) :
    v.Sorted := by
  unfold Context.find? at found
  split at found
  · rw [Option.map_eq_some_iff] at found
    obtain ⟨m, recorded, rfl⟩ := found
    exact h.lastResult m recorded
  · exact Value.sortedFields_iff.mp h.bindings (name, v) (Fields.mem_of_find?_eq_some found)

theorem keys_resolveFields {fields resolved : List (String × Value)}
    (done : context.resolveFields fields = .ok resolved) : resolved.map Prod.fst = fields.map Prod.fst := by
  induction fields generalizing resolved with
  | nil =>
      cases done
      rfl
  | cons field rest ih =>
      rw [resolveFields] at done
      split at done
      · cases done
      · obtain ⟨more, rest_done, rfl⟩ := exists_of_map_eq_ok done
        rw [List.map_cons, List.map_cons, ih rest_done]

mutual

/-- A value whose references are replaced. -/
theorem Sorted.resolve (h : context.Sorted) : ∀ (v : Value) {v' : Value}, context.resolve v = .ok v' →
    v.Sorted → v'.Sorted
  | .reference name, _, done, _ => by
      rw [Context.resolve] at done
      exact h.find? (lookup_ok.mp done)
  | .list items, _, done, sorted => by
      rw [Context.resolve] at done
      obtain ⟨resolved, items_done, rfl⟩ := exists_of_map_eq_ok done
      exact Sorted.resolveItems h items items_done sorted
  | .mapping fields, _, done, sorted => by
      rw [Context.resolve] at done
      obtain ⟨resolved, fields_done, rfl⟩ := exists_of_map_eq_ok done
      exact ⟨sorted.1.of_keys_eq (keys_resolveFields fields_done),
        Sorted.resolveFields h fields fields_done sorted.2⟩
  | .text _, _, done, _ | .integer _, _, done, _ | .double _, _, done, _ | .boolean _, _, done, _
  | .null, _, done, _ => by
      cases done
      trivial

theorem Sorted.resolveItems (h : context.Sorted) : ∀ (items : List Value) {resolved : List Value},
    context.resolveItems items = .ok resolved → Value.SortedItems items → Value.SortedItems resolved
  | [], _, done, _ => by
      cases done
      trivial
  | item :: rest, _, done, sorted => by
      rw [Context.resolveItems] at done
      split at done
      · cases done
      next item_done =>
        obtain ⟨more, rest_done, rfl⟩ := exists_of_map_eq_ok done
        exact ⟨Sorted.resolve h item item_done sorted.1, Sorted.resolveItems h rest rest_done sorted.2⟩

theorem Sorted.resolveFields (h : context.Sorted) :
    ∀ (fields : List (String × Value)) {resolved : List (String × Value)},
      context.resolveFields fields = .ok resolved → Value.SortedFields fields → Value.SortedFields resolved
  | [], _, done, _ => by
      cases done
      trivial
  | (_, value) :: rest, _, done, sorted => by
      rw [Context.resolveFields] at done
      split at done
      · cases done
      next value_done =>
        obtain ⟨more, rest_done, rfl⟩ := exists_of_map_eq_ok done
        exact ⟨Sorted.resolve h value value_done sorted.1,
          Sorted.resolveFields h rest rest_done sorted.2⟩

end

end Context

theorem Mapping.sorted_toJson {m : Mapping} {arguments : Json} (done : m.toJson = .ok arguments)
    (keys : Fields.Sorted m) (values : Value.SortedFields m) : arguments.Sorted := by
  obtain ⟨written, fields_done, rfl⟩ := exists_of_map_eq_ok done
  exact ⟨keys.of_keys_eq (Value.keys_fieldsToJson fields_done),
    Value.sortedFields_fieldsToJson m fields_done values⟩

/-- The arguments of a call that a line asks for are in order. -/
theorem Run.Runner.sorted_arguments {schema : Schema} {line : String} {i : Invocation} {context : Context}
    {arguments : Json} (sorted : context.Sorted) (parsed : Invocation.parse schema line = .ok i)
    (done : Run.Runner.arguments context i = .ok arguments) : arguments.Sorted := by
  obtain ⟨keys, values⟩ := Invocation.sorted_of_parse parsed
  unfold Run.Runner.arguments at done
  split at done
  · cases done
  next resolved interpolated =>
    exact Mapping.sorted_toJson done (keys.of_keys_eq (Context.keys_resolveFields interpolated))
      (sorted.resolveFields _ interpolated values)

end CallScript
