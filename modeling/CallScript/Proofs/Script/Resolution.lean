import CallScript.Proofs.Script.References

/-! # Failures of resolving references

A value has a JSON form under a context unless a reference in it stands for nothing, or for a value that
holds a reference itself.  The only error of replacing references is therefore an undefined variable, and so
is the only error of writing a value as JSON, where a reference is left over.

* `Context.outcome_resolve`: replacing references fails with the first one that stands for nothing.
* `Context.references_resolve`: the references that are left are those in the values that were put in.
* `Value.outcome_toJson`: writing a value as JSON fails with the first reference in it.
* `Runner.arguments_error`: the arguments of a call fail with an undefined variable. -/

namespace CallScript

theorem eq_error_of_map {ε α β : Type} {f : α → β} {x : Except ε α} {e : ε}
    (h : x.map f = .error e) : x = .error e := by
  cases x with
  | error e' =>
      cases h
      rfl
  | ok a => cases h

theorem exists_of_map_eq_ok {ε α β : Type} {f : α → β} {x : Except ε α} {b : β} (h : x.map f = .ok b) :
    ∃ a, x = .ok a ∧ b = f a := by
  cases x with
  | error e => cases h
  | ok a =>
      cases h
      exact ⟨a, rfl, rfl⟩

namespace Context

variable {context : Context}

theorem lookup_error {name : String} {e : Error} (h : context.lookup name = .error e) :
    context.find? name = none ∧ e = .undefinedVariable name := by
  unfold lookup at h
  split at h
  · cases h
  next nothing =>
    cases h
    exact ⟨nothing, rfl⟩

theorem lookup_ok {name : String} {v : Value} : context.lookup name = .ok v ↔ context.find? name = some v := by
  unfold lookup
  split
  next found => simp [found]
  next nothing => simp [nothing]

/-- A reference that stands for nothing, and the error that says so. -/
def Undefined (context : Context) (names : List String) (e : Error) : Prop :=
  ∃ name ∈ names, context.find? name = none ∧ e = .undefinedVariable name

/-- Looks names up one after the other; fails with the first one that stands for nothing. -/
def lookupAll (context : Context) : List String → Except Error Unit
  | [] => .ok ()
  | name :: more =>
    match context.lookup name with
    | .error e => .error e
    | .ok _ => lookupAll context more

theorem lookupAll_append (names more : List String) : context.lookupAll (names ++ more) =
    match context.lookupAll names with
    | .error e => .error e
    | .ok () => context.lookupAll more := by
  induction names with
  | nil => rfl
  | cons name names ih =>
      rw [List.cons_append, lookupAll, lookupAll, ih]
      cases context.lookup name with
      | error e => rfl
      | ok v => rfl

theorem lookupAll_eq_ok_iff {names : List String} :
    context.lookupAll names = .ok () ↔ ∀ name ∈ names, context.find? name ≠ none := by
  induction names with
  | nil => simp [lookupAll]
  | cons name names ih =>
      rw [lookupAll, lookup, List.forall_mem_cons, ← ih]
      cases context.find? name with
      | none => simp
      | some v => simp

theorem lookupAll_eq_error_iff {names : List String} {e : Error} : context.lookupAll names = .error e ↔
    ∃ before name after, names = before ++ name :: after ∧ (∀ earlier ∈ before, context.find? earlier ≠ none) ∧
      context.find? name = none ∧ e = .undefinedVariable name := by
  constructor
  · intro failed
    induction names with
    | nil => cases failed
    | cons name names ih =>
        rw [lookupAll] at failed
        cases looked_up : context.lookup name with
        | error e' =>
            rw [looked_up] at failed
            cases failed
            obtain ⟨nothing, e_eq⟩ := lookup_error looked_up
            exact ⟨[], name, names, rfl, nofun, nothing, e_eq⟩
        | ok v =>
            rw [looked_up] at failed
            obtain ⟨before, first, after, rfl, found, nothing, e_eq⟩ := ih failed
            have found_name : context.find? name ≠ none := by simp [lookup_ok.mp looked_up]
            exact ⟨name :: before, first, after, rfl, List.forall_mem_cons.mpr ⟨found_name, found⟩, nothing, e_eq⟩
  · rintro ⟨before, name, after, rfl, found, nothing, rfl⟩
    rw [lookupAll_append, lookupAll_eq_ok_iff.mpr found, lookupAll, lookup, nothing]

/-- Where no name stands for anything, the first one fails. -/
theorem lookupAll_empty (names : List String) : ({} : Context).lookupAll names =
    match names with
    | [] => .ok ()
    | name :: _ => .error (.undefinedVariable name) := by
  cases names with
  | nil => rfl
  | cons name more =>
      rw [lookupAll, lookup]
      simp [find?, Fields.find?]

mutual

/-- Replacing references fails exactly as looking them up does. -/
theorem outcome_resolve : ∀ v : Value, (context.resolve v).map (fun _ => ()) = context.lookupAll v.references
  | .reference name => by
      rw [resolve, Value.references, lookupAll]
      cases context.lookup name with
      | error e => rfl
      | ok v => rfl
  | .list items => by
      rw [resolve, Value.references, ← outcome_resolveItems items]
      cases context.resolveItems items <;> rfl
  | .mapping fields => by
      rw [resolve, Value.references, ← outcome_resolveFields fields]
      cases context.resolveFields fields <;> rfl
  | .text _ | .integer _ | .double _ | .boolean _ | .null => by
      rw [resolve]
      rfl

theorem outcome_resolveItems : ∀ items : List Value,
    (context.resolveItems items).map (fun _ => ()) = context.lookupAll (Value.itemsReferences items)
  | [] => rfl
  | item :: rest => by
      rw [resolveItems, Value.itemsReferences, lookupAll_append, ← outcome_resolve item,
        ← outcome_resolveItems rest]
      cases context.resolve item with
      | error e => rfl
      | ok item' => cases context.resolveItems rest <;> rfl

theorem outcome_resolveFields : ∀ fields : List (String × Value),
    (context.resolveFields fields).map (fun _ => ()) = context.lookupAll (Value.fieldsReferences fields)
  | [] => rfl
  | (_, value) :: rest => by
      rw [resolveFields, Value.fieldsReferences, lookupAll_append, ← outcome_resolve value,
        ← outcome_resolveFields rest]
      cases context.resolve value with
      | error e => rfl
      | ok value' => cases context.resolveFields rest <;> rfl

end

theorem resolveFields_error (fields : List (String × Value)) {e : Error}
    (failed : context.resolveFields fields = .error e) : context.Undefined (Value.fieldsReferences fields) e := by
  have outcome : (context.resolveFields fields).map (fun _ => ()) = _ := outcome_resolveFields fields
  rw [failed] at outcome
  obtain ⟨before, name, after, names_eq, -, nothing, e_eq⟩ := lookupAll_eq_error_iff.mp outcome.symm
  exact ⟨name, names_eq ▸ List.mem_append_right before List.mem_cons_self, nothing, e_eq⟩

/-- The references in what a name stands for. -/
def remaining (context : Context) (name : String) : List String :=
  ((context.find? name).map Value.references).getD []

mutual

/-- The references that are left are those in what the references stood for. -/
theorem references_resolve : ∀ (v : Value) {v' : Value}, context.resolve v = .ok v' →
    v'.references = v.references.flatMap context.remaining
  | .reference name, v', h => by
      rw [resolve, lookup_ok] at h
      simp [Value.references, remaining, h]
  | .list items, _, h => by
      rw [resolve] at h
      obtain ⟨items', resolved, rfl⟩ := exists_of_map_eq_ok h
      exact references_resolveItems items resolved
  | .mapping fields, _, h => by
      rw [resolve] at h
      obtain ⟨fields', resolved, rfl⟩ := exists_of_map_eq_ok h
      exact references_resolveFields fields resolved
  | .text _, _, h | .integer _, _, h | .double _, _, h | .boolean _, _, h | .null, _, h => by
      rw [resolve] at h
      cases h
      rfl

theorem references_resolveItems : ∀ (items : List Value) {items' : List Value},
    context.resolveItems items = .ok items' →
      Value.itemsReferences items' = (Value.itemsReferences items).flatMap context.remaining
  | [], _, h => by
      rw [resolveItems] at h
      cases h
      rfl
  | item :: rest, _, h => by
      rw [resolveItems] at h
      split at h
      · cases h
      next first =>
        obtain ⟨rest', others, rfl⟩ := exists_of_map_eq_ok h
        rw [Value.itemsReferences, Value.itemsReferences, List.flatMap_append, references_resolve item first,
          references_resolveItems rest others]

theorem references_resolveFields : ∀ (fields : List (String × Value)) {fields' : List (String × Value)},
    context.resolveFields fields = .ok fields' →
      Value.fieldsReferences fields' = (Value.fieldsReferences fields).flatMap context.remaining
  | [], _, h => by
      rw [resolveFields] at h
      cases h
      rfl
  | (_, value) :: rest, _, h => by
      rw [resolveFields] at h
      split at h
      · cases h
      next first =>
        obtain ⟨rest', others, rfl⟩ := exists_of_map_eq_ok h
        rw [Value.fieldsReferences, Value.fieldsReferences, List.flatMap_append, references_resolve value first,
          references_resolveFields rest others]

end

end Context

namespace Value

mutual

theorem isResolved_iff : ∀ v : Value, v.isResolved = true ↔ v.references = []
  | .reference _ => by simp [isResolved, references]
  | .list items => allResolved_iff items
  | .mapping fields => allFieldsResolved_iff fields
  | .text _ | .integer _ | .double _ | .boolean _ | .null => by simp [isResolved, references]

theorem allResolved_iff : ∀ items : List Value, allResolved items = true ↔ itemsReferences items = []
  | [] => by simp [allResolved, itemsReferences]
  | item :: rest => by
      rw [allResolved, itemsReferences, Bool.and_eq_true, List.append_eq_nil_iff]
      exact and_congr (isResolved_iff item) (allResolved_iff rest)

theorem allFieldsResolved_iff : ∀ fields : List (String × Value),
    allFieldsResolved fields = true ↔ fieldsReferences fields = []
  | [] => by simp [allFieldsResolved, fieldsReferences]
  | (_, value) :: rest => by
      rw [allFieldsResolved, fieldsReferences, Bool.and_eq_true, List.append_eq_nil_iff]
      exact and_congr (isResolved_iff value) (allFieldsResolved_iff rest)

end

mutual

/-- Writing a value as JSON fails exactly as looking up its references does where no name stands for
anything. -/
theorem outcome_toJson : ∀ v : Value, v.toJson.map (fun _ => ()) = ({} : Context).lookupAll v.references
  | .reference name => by
      rw [toJson, references, Context.lookupAll_empty]
      rfl
  | .list items => by
      rw [toJson, references, ← outcome_itemsToJson items]
      cases itemsToJson items <;> rfl
  | .mapping fields => by
      rw [toJson, references, ← outcome_fieldsToJson fields]
      cases fieldsToJson fields <;> rfl
  | .text _ | .integer _ | .double _ | .boolean _ | .null => by
      rw [toJson]
      rfl

theorem outcome_itemsToJson : ∀ items : List Value,
    (itemsToJson items).map (fun _ => ()) = ({} : Context).lookupAll (itemsReferences items)
  | [] => rfl
  | item :: rest => by
      rw [itemsToJson, itemsReferences, Context.lookupAll_append, ← outcome_toJson item,
        ← outcome_itemsToJson rest]
      cases item.toJson with
      | error e => rfl
      | ok j => cases itemsToJson rest <;> rfl

theorem outcome_fieldsToJson : ∀ fields : List (String × Value),
    (fieldsToJson fields).map (fun _ => ()) = ({} : Context).lookupAll (fieldsReferences fields)
  | [] => rfl
  | (_, value) :: rest => by
      rw [fieldsToJson, fieldsReferences, Context.lookupAll_append, ← outcome_toJson value,
        ← outcome_fieldsToJson rest]
      cases value.toJson with
      | error e => rfl
      | ok j => cases fieldsToJson rest <;> rfl

end

theorem exists_toJson_iff_references {v : Value} : (∃ j, v.toJson = .ok j) ↔ v.references = [] := by
  have outcome := outcome_toJson v
  rw [Context.lookupAll_empty] at outcome
  cases written : v.toJson with
  | ok j =>
      rw [written] at outcome
      cases names : v.references with
      | nil => simp
      | cons name more =>
          rw [names] at outcome
          cases outcome
  | error e =>
      rw [written] at outcome
      cases names : v.references with
      | nil =>
          rw [names] at outcome
          cases outcome
      | cons name more => simp

theorem toJson_eq_error_iff {v : Value} {e : Error} :
    v.toJson = .error e ↔ ∃ name more, v.references = name :: more ∧ e = .undefinedVariable name := by
  have outcome := outcome_toJson v
  rw [Context.lookupAll_empty] at outcome
  constructor
  · intro failed
    rw [failed] at outcome
    cases names : v.references with
    | nil =>
        rw [names] at outcome
        cases outcome
    | cons name more =>
        rw [names] at outcome
        cases outcome
        exact ⟨name, more, rfl, rfl⟩
  · rintro ⟨name, more, names, rfl⟩
    rw [names] at outcome
    exact eq_error_of_map outcome

theorem exists_toJson_iff {parameters : Mapping} :
    (∃ j, parameters.toJson = .ok j) ↔ fieldsReferences parameters = [] := by
  have written : (∃ j, (mapping parameters).toJson = .ok j) ↔ fieldsReferences parameters = [] :=
    exists_toJson_iff_references
  rw [toJson] at written
  exact written

theorem fieldsToJson_error (fields : List (String × Value)) {e : Error}
    (failed : fieldsToJson fields = .error e) :
    ∃ name ∈ fieldsReferences fields, e = .undefinedVariable name := by
  have written : (mapping fields).toJson = .error e := by
    rw [toJson, failed]
    rfl
  obtain ⟨name, more, names, e_eq⟩ := toJson_eq_error_iff.mp written
  have names : fieldsReferences fields = name :: more := names
  exact ⟨name, by simp [names], e_eq⟩

end Value

/-- The arguments of a call can only fail with an undefined variable. -/
theorem Run.Runner.arguments_error {context : Context} {i : Invocation} {e : Error}
    (h : Run.Runner.arguments context i = .error e) : ∃ name, e = .undefinedVariable name := by
  unfold arguments at h
  split at h
  next failed =>
    cases h
    obtain ⟨name, -, -, e_eq⟩ := Context.resolveFields_error _ failed
    exact ⟨name, e_eq⟩
  next resolved _ =>
    obtain ⟨name, -, e_eq⟩ := Value.fieldsToJson_error resolved (eq_error_of_map h)
    exact ⟨name, e_eq⟩

end CallScript
