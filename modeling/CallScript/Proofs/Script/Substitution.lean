import CallScript.Proofs.Fields
import CallScript.Proofs.Script.Resolution
import Mathlib.Data.List.Forall2

/-! # Replacing references is one simultaneous substitution

What a reference stands for is said by `Binding`: `last_result` for the latest result, any other name for the
caller's variable of that name.  `Replaced` relates a value to the one in which each reference has given way to
what it stands for; it descends through lists and mappings and keeps all else, and it does not look into what it
puts in.

Resolving computes this relation (`resolve_eq_ok_iff`).  Whether it fails, and with which name, is a matter of
the references alone, in the order in which they stand (`outcome_resolve`).

* `interpolation_is_simultaneous`: when replacing the references of a call succeeds, what it fails with, and
  what it returns. -/

namespace CallScript.Context

variable {context : Context} {name : String} {v : Value}

/-! ### What names stand for -/

/-- A name stands for something: `last_result` if there is a result, any other name if the caller has a variable of
that name. -/
def Binds (context : Context) (name : String) : Prop :=
  name = lastResultName ∧ context.lastResult ≠ none ∨
    name ≠ lastResultName ∧ name ∈ context.bindings.map Prod.fst

/-- What a name stands for. -/
inductive Binding (context : Context) : String → Value → Prop
  | result {fields : Mapping} (recorded : context.lastResult = some fields) :
      Binding context lastResultName (.mapping fields)
  | caller {name : String} {v : Value} (other : name ≠ lastResultName)
      (given : Fields.find? name context.bindings = some v) : Binding context name v

theorem find?_eq_some_iff : context.find? name = some v ↔ context.Binding name v := by
  constructor
  · intro found
    unfold find? at found
    split at found
    next built_in =>
      obtain ⟨fields, recorded, rfl⟩ := Option.map_eq_some_iff.mp found
      rw [built_in]
      exact .result recorded
    next other => exact .caller other found
  · intro binding
    cases binding with
    | result recorded => simp [find?, recorded]
    | caller other given => simp [find?, other, given]

theorem find?_eq_none_iff : context.find? name = none ↔ ¬ context.Binds name := by
  unfold find? Binds
  split
  next built_in => simp [built_in]
  next other =>
    rw [← Fields.contains_iff]
    simp [other, Fields.contains]

/-! ### Values with their references replaced -/

/-- The second value is the first one with what they stand for in the place of its references. -/
inductive Replaced (context : Context) : Value → Value → Prop
  | reference {name : String} {v : Value} (binding : context.Binding name v) : Replaced context (.reference name) v
  | list {items items' : List Value} (each : List.Forall₂ (Replaced context) items items') :
      Replaced context (.list items) (.list items')
  | mapping {fields fields' : List (String × Value)} (keys : fields'.map Prod.fst = fields.map Prod.fst)
      (each : List.Forall₂ (Replaced context) (fields.map Prod.snd) (fields'.map Prod.snd)) :
      Replaced context (.mapping fields) (.mapping fields')
  | text (s : String) : Replaced context (.text s) (.text s)
  | integer (i : Int64) : Replaced context (.integer i) (.integer i)
  | double (x : Binary64) : Replaced context (.double x) (.double x)
  | boolean (b : Bool) : Replaced context (.boolean b) (.boolean b)
  | null : Replaced context .null .null

mutual

/-- Resolving replaces the references, and nothing else. -/
theorem resolve_eq_ok_iff : ∀ (v : Value) {v' : Value}, context.resolve v = .ok v' ↔ context.Replaced v v'
  | .reference name, v' => by
      rw [resolve, lookup_ok, find?_eq_some_iff]
      constructor
      · exact .reference
      · intro replaced
        cases replaced with
        | reference binding => exact binding
  | .list items, v' => by
      rw [resolve]
      constructor
      · intro resolved
        obtain ⟨items', items_resolved, rfl⟩ := exists_of_map_eq_ok resolved
        exact .list ((resolveItems_eq_ok_iff items).mp items_resolved)
      · intro replaced
        cases replaced with
        | list each =>
            rw [(resolveItems_eq_ok_iff items).mpr each]
            rfl
  | .mapping fields, v' => by
      rw [resolve]
      constructor
      · intro resolved
        obtain ⟨fields', fields_resolved, rfl⟩ := exists_of_map_eq_ok resolved
        obtain ⟨keys, each⟩ := (resolveFields_eq_ok_iff fields).mp fields_resolved
        exact .mapping keys each
      · intro replaced
        cases replaced with
        | mapping keys each =>
            rw [(resolveFields_eq_ok_iff fields).mpr ⟨keys, each⟩]
            rfl
  | .text s, v' | .integer i, v' | .double x, v' | .boolean b, v' | .null, v' => by
      rw [resolve]
      constructor
      · intro same
        cases same
        constructor
      · intro replaced
        cases replaced
        rfl

theorem resolveItems_eq_ok_iff : ∀ (items : List Value) {items' : List Value},
    context.resolveItems items = .ok items' ↔ List.Forall₂ context.Replaced items items'
  | [], items' => by
      rw [resolveItems, List.forall₂_nil_left_iff]
      simp [eq_comm]
  | item :: rest, items' => by
      rw [resolveItems, List.forall₂_cons_left_iff]
      constructor
      · intro resolved
        split at resolved
        · cases resolved
        next item' first =>
          obtain ⟨rest', others, rfl⟩ := exists_of_map_eq_ok resolved
          exact ⟨item', rest', (resolve_eq_ok_iff item).mp first, (resolveItems_eq_ok_iff rest).mp others, rfl⟩
      · rintro ⟨item', rest', first, others, rfl⟩
        rw [(resolve_eq_ok_iff item).mpr first, (resolveItems_eq_ok_iff rest).mpr others]
        rfl

theorem resolveFields_eq_ok_iff : ∀ (fields : List (String × Value)) {fields' : List (String × Value)},
    context.resolveFields fields = .ok fields' ↔ fields'.map Prod.fst = fields.map Prod.fst ∧
      List.Forall₂ context.Replaced (fields.map Prod.snd) (fields'.map Prod.snd)
  | [], fields' => by
      rw [resolveFields]
      constructor
      · intro resolved
        cases resolved
        exact ⟨rfl, .nil⟩
      · rintro ⟨keys, -⟩
        rw [List.map_eq_nil_iff.mp keys]
  | (key, value) :: rest, fields' => by
      rw [resolveFields]
      constructor
      · intro resolved
        split at resolved
        · cases resolved
        next value' first =>
          obtain ⟨rest', others, rfl⟩ := exists_of_map_eq_ok resolved
          obtain ⟨keys, each⟩ := (resolveFields_eq_ok_iff rest).mp others
          exact ⟨congrArg (key :: ·) keys, .cons ((resolve_eq_ok_iff value).mp first) each⟩
      · rintro ⟨keys, each⟩
        cases fields' with
        | nil => cases keys
        | cons field rest' =>
            obtain ⟨rfl, other_keys⟩ := List.cons.inj keys
            obtain _ | ⟨first, others⟩ := each
            rw [(resolve_eq_ok_iff value).mpr first, (resolveFields_eq_ok_iff rest).mpr ⟨other_keys, others⟩]
            rfl

end

mutual

theorem Replaced.refl : ∀ v : Value, v.references = [] → context.Replaced v v
  | .reference _, nothing => by cases nothing
  | .list items, nothing => .list (Replaced.refl_items items nothing)
  | .mapping fields, nothing => .mapping rfl (Replaced.refl_fields fields nothing)
  | .text s, _ => .text s
  | .integer i, _ => .integer i
  | .double x, _ => .double x
  | .boolean b, _ => .boolean b
  | .null, _ => .null

theorem Replaced.refl_items : ∀ items : List Value, Value.itemsReferences items = [] →
    List.Forall₂ context.Replaced items items
  | [], _ => .nil
  | item :: rest, nothing => by
      rw [Value.itemsReferences, List.append_eq_nil_iff] at nothing
      exact .cons (Replaced.refl item nothing.1) (Replaced.refl_items rest nothing.2)

theorem Replaced.refl_fields : ∀ fields : List (String × Value), Value.fieldsReferences fields = [] →
    List.Forall₂ context.Replaced (fields.map Prod.snd) (fields.map Prod.snd)
  | [], _ => .nil
  | (_, value) :: rest, nothing => by
      rw [Value.fieldsReferences, List.append_eq_nil_iff] at nothing
      exact .cons (Replaced.refl value nothing.1) (Replaced.refl_fields rest nothing.2)

end

/-! ### Parameters -/

/-- The references of a call are replaced at once, by what they stand for before any is replaced.  That succeeds if
and only if each of them, at any depth, is `last_result` after a result or another name that the caller has a
variable for; otherwise the first one that is neither, in the order in which they stand, is reported as undefined.
The result has the same keys, and lists of the same length in the same order, and all that is no reference is
kept; without references it is what there was before. -/
theorem interpolation_is_simultaneous (context : Context) (parameters : Mapping) :
    ((∃ replaced, context.interpolate parameters = .ok replaced) ↔
        ∀ name ∈ Value.fieldsReferences parameters, context.Binds name) ∧
      (∀ e, context.interpolate parameters = .error e ↔
        ∃ before name after, Value.fieldsReferences parameters = before ++ name :: after ∧
          (∀ earlier ∈ before, context.Binds earlier) ∧ ¬ context.Binds name ∧ e = .undefinedVariable name) ∧
      (∀ replaced, context.interpolate parameters = .ok replaced ↔
        replaced.map Prod.fst = parameters.map Prod.fst ∧
          List.Forall₂ context.Replaced (parameters.map Prod.snd) (replaced.map Prod.snd)) ∧
      (Value.fieldsReferences parameters = [] → context.interpolate parameters = .ok parameters) := by
  have binds_iff (name : String) : context.Binds name ↔ context.find? name ≠ none := by
    rw [ne_eq, find?_eq_none_iff, not_not]
  have outcome : (context.resolveFields parameters).map (fun _ => ()) = _ := outcome_resolveFields parameters
  refine ⟨?_, fun e => ?_, fun replaced => resolveFields_eq_ok_iff parameters, fun nothing => ?_⟩
  · simp only [binds_iff]
    rw [← lookupAll_eq_ok_iff, ← outcome]
    unfold interpolate
    cases context.resolveFields parameters <;> simp [Except.map]
  · simp only [binds_iff, not_not]
    rw [← lookupAll_eq_error_iff, ← outcome]
    unfold interpolate
    cases context.resolveFields parameters <;> simp [Except.map]
  · exact (resolveFields_eq_ok_iff parameters).mpr ⟨rfl, Replaced.refl_fields parameters nothing⟩

/-- The first of two undefined names is the one that stands first, not the one that is less deep. -/
example : Context.interpolate { bindings := [("x", .integer 1), ("last_result", .null)] }
    [("a", .list [.reference "x", .mapping [("k", .reference "last_result")]]), ("b", .reference "y")] =
      .error (.undefinedVariable "last_result") := rfl

end CallScript.Context
