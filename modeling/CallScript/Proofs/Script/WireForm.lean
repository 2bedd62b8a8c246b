import CallScript.Proofs.Script.WrittenValues

/-! # The wire form of a value

Writing a value as JSON goes through its items in their order and through its fields in the order of their
keys, and ends with an error at the first reference.  A value without references always has a JSON form, and
if its doubles are finite as well (`Value.IsExact`) nothing of it is lost: integers stay integers, doubles
stay doubles, also those without a fraction, and texts stay texts.

* `Value.IsExact.exists_toJson`: the JSON form of such a value stands for the value.
* `Value.wire_form_is_faithful`: when a value has a JSON form, the error where it has none, and what the form
  keeps. -/

namespace CallScript.Value

/-- A value without references, all doubles of which are finite. -/
structure IsExact (v : Value) : Prop where
  resolved : v.isResolved = true
  finite : ∀ x ∈ v.doubles, x.IsFinite

variable {v w : Value}

/-- The JSON form of such a value stands for it. -/
theorem IsExact.exists_toJson (exact : v.IsExact) : ∃ j, v.toJson = .ok j ∧ ofJson j = v := by
  obtain ⟨j, done⟩ := Value.exists_toJson exact.resolved
  exact ⟨j, done, (toJson_ofJson_iff v done).mpr exact.finite⟩

theorem IsExact.eq_of_toJson_eq (exact : v.IsExact) (exact' : w.IsExact) (same : v.toJson = w.toJson) :
    v = w := by
  obtain ⟨j, done, back⟩ := exact.exists_toJson
  obtain ⟨j', done', back'⟩ := exact'.exists_toJson
  rw [done, done', Except.ok.injEq] at same
  rw [← back, ← back', same]

/-- A value has a JSON form if and only if no reference is left in it, and otherwise the error names the first
one, in the order of items and of fields.  The JSON form stands for the value itself if and only if all doubles
in the value are finite, and no two values of that kind have the same JSON form. -/
theorem wire_form_is_faithful (v : Value) :
    ((∃ j, v.toJson = .ok j) ↔ v.isResolved = true) ∧
      (∀ e, v.toJson = .error e ↔
        ∃ name more, v.references = name :: more ∧ e = .undefinedVariable name) ∧
      (∀ j, v.toJson = .ok j → (ofJson j = v ↔ ∀ x ∈ v.doubles, x.IsFinite)) ∧
      ∀ w, v.IsExact → w.IsExact → v.toJson = w.toJson → v = w := by
  refine ⟨?_, fun e => toJson_eq_error_iff, fun j done => toJson_ofJson_iff v done, fun w => ?_⟩
  · rw [exists_toJson_iff_references, isResolved_iff]
  · exact IsExact.eq_of_toJson_eq

/-- An integer and the double of the same number have different JSON forms, and of two references behind them the
first is the error. -/
theorem two_ones_stay_apart :
    let v := list [integer 1, mapping [("a", null)]]
    let w := list [double ⟨false, 1023, 0⟩, mapping [("a", null)]]
    let open_ := list [v, mapping [("b", reference "y"), ("c", reference "x")]]
    v.IsExact ∧ w.IsExact ∧ v.toJson ≠ w.toJson ∧ w.toJson.map ofJson = .ok w ∧
      open_.references = ["y", "x"] ∧ open_.toJson = .error (.undefinedVariable "y") := by
  intro v w open_
  have exact_v : v.IsExact := ⟨rfl, nofun⟩
  have exact_w : w.IsExact := ⟨rfl, List.forall_mem_singleton.mpr (by decide)⟩
  have different : v ≠ w := by simp [v, w]
  obtain ⟨-, -, -, injective⟩ := wire_form_is_faithful v
  obtain ⟨-, -, kept, -⟩ := wire_form_is_faithful w
  obtain ⟨-, first, -, -⟩ := wire_form_is_faithful open_
  obtain ⟨j, done, -⟩ := exact_w.exists_toJson
  refine ⟨exact_v, exact_w, fun same => different (injective w exact_v exact_w same), ?_, rfl, ?_⟩
  · rw [done]
    exact congrArg Except.ok ((kept j done).mpr exact_w.finite)
  · exact (first _).mpr ⟨"y", ["x"], rfl, rfl⟩

end CallScript.Value
