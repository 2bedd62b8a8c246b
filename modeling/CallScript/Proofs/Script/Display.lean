import CallScript.Proofs.Json.Printed
import CallScript.Proofs.Json.RoundTrip
import CallScript.Proofs.Script.KeyOrder
import CallScript.Proofs.Script.Substitution

/-! # Values as they are shown

A value is shown as its JSON form with references as they are written.  There are two ways to that text: the
references give way to texts and the JSON form of the result is written (`Value.spelled`), or the value is
written in one pass, constructor by constructor, with a comma in front of each item but the first
(`Value.streamed`).  Both come to the same, and so a value without references is shown exactly as it is sent.

* `Value.toJson_spelled`, `Value.write_display`: the two ways.
* `Value.ordered_display`: the fields of a mapping in order stay as they are in an object, which has an order
  of its own.
* `Run.Runner.field?_arguments`: a parameter without references among the arguments of its call. -/

namespace CallScript

namespace Value

mutual

/-- The value with its references as texts, as they are written in a script. -/
def spelled : Value → Value
  | .reference name => .text (referenceText name)
  | .list items => .list (spelledItems items)
  | .mapping fields => .mapping (spelledFields fields)
  | v => v

/-- The items with their references as texts. -/
def spelledItems : List Value → List Value
  | [] => []
  | item :: rest => item.spelled :: spelledItems rest

/-- The fields with the references in their values as texts. -/
def spelledFields : List (String × Value) → List (String × Value)
  | [] => []
  | (key, value) :: rest => (key, value.spelled) :: spelledFields rest

end

mutual

/-- The text of a value, written in one pass. -/
def streamed : Value → List Char
  | .text s => Json.writeText s
  | .integer i => Json.writeInt i.toInt
  | .double x => if x.IsFinite then Layout.scientificBeyond.write x else ['n', 'u', 'l', 'l']
  | .boolean true => ['t', 'r', 'u', 'e']
  | .boolean false => ['f', 'a', 'l', 's', 'e']
  | .null => ['n', 'u', 'l', 'l']
  | .list items => '[' :: streamedItems true items ++ [']']
  | .mapping fields => '{' :: streamedFields true fields ++ ['}']
  | .reference name => Json.writeText (referenceText name)

/-- The items one after the other; all but the first have a comma in front of them. -/
def streamedItems : (isFirst : Bool) → List Value → List Char
  | _, [] => []
  | isFirst, item :: rest => (if isFirst then [] else [',']) ++ item.streamed ++ streamedItems false rest

/-- The fields one after the other; all but the first have a comma in front of them. -/
def streamedFields : (isFirst : Bool) → List (String × Value) → List Char
  | _, [] => []
  | isFirst, (key, value) :: rest =>
    (if isFirst then [] else [',']) ++ Json.writeText key ++ ':' :: value.streamed ++
      streamedFields false rest

end

/-! ### References as texts -/

mutual

/-- The JSON form of a value with its references as texts. -/
theorem toJson_spelled : ∀ v : Value, v.spelled.toJson = .ok v.display
  | .reference _ | .text _ | .integer _ | .double _ | .boolean _ | .null => by
      simp only [spelled, toJson, display]
  | .list items => by
      rw [spelled, toJson, itemsToJson_spelledItems items, display]
      rfl
  | .mapping fields => by
      rw [spelled, toJson, fieldsToJson_spelledFields fields, display]
      rfl

theorem itemsToJson_spelledItems : ∀ items : List Value,
    itemsToJson (spelledItems items) = .ok (displayItems items)
  | [] => rfl
  | item :: rest => by
      rw [spelledItems, itemsToJson, toJson_spelled item, itemsToJson_spelledItems rest, displayItems]
      rfl

theorem fieldsToJson_spelledFields : ∀ fields : List (String × Value),
    fieldsToJson (spelledFields fields) = .ok (displayFields fields)
  | [] => rfl
  | (key, value) :: rest => by
      rw [spelledFields, fieldsToJson, toJson_spelled value, fieldsToJson_spelledFields rest, displayFields]
      rfl

end

mutual

theorem spelled_eq_self : ∀ v : Value, v.references = [] → v.spelled = v
  | .reference _, nothing => by cases nothing
  | .list items, nothing => by rw [spelled, spelledItems_eq_self items nothing]
  | .mapping fields, nothing => by rw [spelled, spelledFields_eq_self fields nothing]
  | .text _, _ | .integer _, _ | .double _, _ | .boolean _, _ | .null, _ => rfl

theorem spelledItems_eq_self : ∀ items : List Value, itemsReferences items = [] → spelledItems items = items
  | [], _ => rfl
  | item :: rest, nothing => by
      rw [itemsReferences, List.append_eq_nil_iff] at nothing
      rw [spelledItems, spelled_eq_self item nothing.1, spelledItems_eq_self rest nothing.2]

theorem spelledFields_eq_self : ∀ fields : List (String × Value), fieldsReferences fields = [] →
    spelledFields fields = fields
  | [], _ => rfl
  | (key, value) :: rest, nothing => by
      rw [fieldsReferences, List.append_eq_nil_iff] at nothing
      rw [spelledFields, spelled_eq_self value nothing.1, spelledFields_eq_self rest nothing.2]

end

theorem toJson_of_isResolved {v : Value} (resolved : v.isResolved = true) : v.toJson = .ok v.display := by
  have same := toJson_spelled v
  rw [spelled_eq_self v ((isResolved_iff v).mp resolved)] at same
  exact same

/-! ### In one pass -/

mutual

/-- A value written in one pass. -/
theorem write_display : ∀ v : Value, v.display.write = v.streamed
  | .reference _ | .text _ | .null => by simp only [display, Json.write, streamed]
  | .boolean true | .boolean false => by simp only [display, Json.write, streamed]
  | .integer i => by simp only [display, Json.int, Json.write, Json.writeNumber, streamed]
  | .double x => by
      rw [display, streamed, Json.ofBinary64]
      split
      · rw [Json.write, Json.writeNumber]
      · rw [Json.write]
  | .list [] => by simp [display, displayItems, streamed, streamedItems, Json.write, Json.writeItems]
  | .list (item :: rest) => by
      rw [display, displayItems, Json.write, Json.writeItems_cons, write_display item,
        ← streamedItems_eq rest, streamed, streamedItems]
      rfl
  | .mapping [] => by simp [display, displayFields, streamed, streamedFields, Json.write, Json.writeFields]
  | .mapping ((key, value) :: rest) => by
      rw [display, displayFields, Json.write, Json.writeFields_cons, write_display value,
        ← streamedFields_eq rest, streamed, streamedFields]
      rfl

theorem streamedItems_eq : ∀ items : List Value,
    streamedItems false items = (displayItems items).flatMap fun j => ',' :: j.write
  | [] => rfl
  | item :: rest => by
      rw [streamedItems, displayItems, List.flatMap_cons, write_display item, streamedItems_eq rest]
      rfl

theorem streamedFields_eq : ∀ fields : List (String × Value), streamedFields false fields =
    (displayFields fields).flatMap fun field => ',' :: Json.writeText field.1 ++ ':' :: field.2.write
  | [] => rfl
  | (key, value) :: rest => by
      rw [streamedFields, displayFields, List.flatMap_cons, write_display value, streamedFields_eq rest]
      rfl

end

/-- A reference, a double that JSON has no number for, and a field. -/
example : (list [reference "x", double (Binary64.infinity false), mapping [("k", integer (-1))]]).display.compact =
    "[\"$\x7bx\x7d\",null,\x7b\"k\":-1\x7d]" := by decide +kernel

/-! ### The order of fields -/

theorem keys_spelledFields (fields : List (String × Value)) :
    (spelledFields fields).map Prod.fst = fields.map Prod.fst := by
  induction fields with
  | nil => rfl
  | cons field rest ih => rw [spelledFields, List.map_cons, List.map_cons, ih]

mutual

theorem sorted_spelled : ∀ v : Value, v.Sorted → v.spelled.Sorted
  | .list items, sorted => sortedItems_spelledItems items sorted
  | .mapping fields, sorted =>
      ⟨sorted.1.of_keys_eq (keys_spelledFields fields), sortedFields_spelledFields fields sorted.2⟩
  | .reference _, _ | .text _, _ | .integer _, _ | .double _, _ | .boolean _, _ | .null, _ => trivial

theorem sortedItems_spelledItems : ∀ items : List Value, SortedItems items → SortedItems (spelledItems items)
  | [], _ => trivial
  | item :: rest, sorted => ⟨sorted_spelled item sorted.1, sortedItems_spelledItems rest sorted.2⟩

theorem sortedFields_spelledFields : ∀ fields : List (String × Value), SortedFields fields →
    SortedFields (spelledFields fields)
  | [], _ => trivial
  | (_, value) :: rest, sorted => ⟨sorted_spelled value sorted.1, sortedFields_spelledFields rest sorted.2⟩

end

/-- The objects in the JSON form of a value are in order as the mappings in the value are. -/
theorem ordered_display {v : Value} (sorted : v.Sorted) : v.display.ordered = v.display :=
  Json.ordered_eq_self _ (sorted_toJson _ (toJson_spelled v) (sorted_spelled v sorted))

theorem find?_displayFields (key : String) (fields : List (String × Value)) :
    Fields.find? key (displayFields fields) = (Fields.find? key fields).map display := by
  induction fields with
  | nil => rfl
  | cons field rest ih =>
      rw [displayFields, Fields.find?, Fields.find?]
      split
      · rfl
      · exact ih

theorem find?_fieldsToJson {key : String} {v : Value} {fields : List (String × Value)}
    {written : List (String × Json)} (done : fieldsToJson fields = .ok written)
    (found : Fields.find? key fields = some v) :
    ∃ j, v.toJson = .ok j ∧ Fields.find? key written = some j := by
  induction fields generalizing written with
  | nil => cases found
  | cons field rest ih =>
      rw [fieldsToJson] at done
      split at done
      · cases done
      next j value_done =>
        obtain ⟨more, rest_done, rfl⟩ := exists_of_map_eq_ok done
        rw [Fields.find?] at found ⊢
        split at found
        next same =>
          cases found
          exact ⟨j, value_done, by rw [if_pos same]⟩
        next other =>
          rw [if_neg other]
          exact ih rest_done found

end Value

/-! ### Parameters -/

theorem Context.find?_resolveFields {context : Context} {key : String} {v : Value}
    {fields resolved : List (String × Value)} (done : context.resolveFields fields = .ok resolved)
    (found : Fields.find? key fields = some v) :
    ∃ v', context.resolve v = .ok v' ∧ Fields.find? key resolved = some v' := by
  induction fields generalizing resolved with
  | nil => cases found
  | cons field rest ih =>
      rw [resolveFields] at done
      split at done
      · cases done
      next v' value_done =>
        obtain ⟨more, rest_done, rfl⟩ := exists_of_map_eq_ok done
        rw [Fields.find?] at found ⊢
        split at found
        next same =>
          cases found
          exact ⟨v', value_done, by rw [if_pos same]⟩
        next other =>
          rw [if_neg other]
          exact ih rest_done found

/-- A parameter without references is among the arguments as it is shown. -/
theorem Run.Runner.field?_arguments {context : Context} {i : Invocation} {arguments : Json} {key : String}
    {v : Value} (done : Run.Runner.arguments context i = .ok arguments)
    (found : Fields.find? key i.parameters = some v) (resolved : v.isResolved = true) :
    arguments.field? key = some v.display := by
  unfold Run.Runner.arguments at done
  split at done
  · cases done
  next parameters interpolated =>
    obtain ⟨v', replaced, found'⟩ := Context.find?_resolveFields interpolated found
    have kept : context.resolve v = .ok v :=
      (Context.resolve_eq_ok_iff v).mpr (Context.Replaced.refl v ((Value.isResolved_iff v).mp resolved))
    rw [kept, Except.ok.injEq] at replaced
    subst replaced
    obtain ⟨written, fields_done, rfl⟩ := exists_of_map_eq_ok done
    obtain ⟨j, value_done, found''⟩ := Value.find?_fieldsToJson fields_done found'
    rw [Value.toJson_of_isResolved resolved, Except.ok.injEq] at value_done
    rw [value_done]
    exact found''

end CallScript
