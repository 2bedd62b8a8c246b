import CallScript.Proofs.Script.Resolution

/-! # Received values on their way back

What a server answered becomes the latest result, and a reference to it puts that result into the arguments
of a later call.  On this way a value is made of the JSON received and JSON of that value.  The two differ in
their numbers: an integer beyond the signed range has no value of its own and is sent back as the nearest
double (`Json.narrowed`).  Everything else comes back as it was received, at any depth.

* `toJson_ofJson`: the JSON made of the value of received JSON.
* `narrowed_eq_self_iff`: what comes back is what was received exactly if no integer in it is beyond the
  signed range.
* `received_is_sent_iff`: the same for the latest result as an argument. -/

namespace CallScript

/-! ### Doubles of integers -/

namespace Binary64

theorem isFinite_assemble (negative : Bool) (m : Nat) {place : Int} (low : place ≤ 900) :
    (assemble negative m place).IsFinite := by
  unfold assemble
  split
  · exact Nat.zero_lt_succ 2046
  · have bounded : (place + 1075).toNat + (if m < 2 * leading then 0 else 1) < 2047 := by
      split
      · omega
      · omega
    simp only
    rw [if_neg (Nat.not_le.mpr bounded)]
    unfold IsFinite
    simp only [Fin.ofNat]
    omega

theorem isFinite_ofNat {n : Nat} (h : n < Bounds.unsigned) : (ofNat n).IsFinite := by
  unfold ofNat ofRatio
  split
  · exact isFinite_zero false
  next nonzero =>
    apply isFinite_assemble
    have digits : n.log2 < 64 := (Nat.log2_lt nonzero).mpr h
    unfold lastPlace
    simp only
    split
    · omega
    · omega

end Binary64

/-! ### What comes back -/

namespace Json

/-- A number as it comes back: an integer beyond the signed range as the double nearest to it. -/
def Number.narrowed : Number → Number
  | .large n _ => .double (Binary64.ofNat n.toNat) (Binary64.isFinite_ofNat n.toNat_lt)
  | n => n

mutual

/-- The value with every number in it as it comes back. -/
def narrowed : Json → Json
  | .number n => .number n.narrowed
  | .arr items => .arr (narrowedItems items)
  | .obj fields => .obj (narrowedFields fields)
  | j => j

/-- The items with every number in them as it comes back. -/
def narrowedItems : List Json → List Json
  | [] => []
  | item :: rest => item.narrowed :: narrowedItems rest

/-- The fields with every number in them as it comes back. -/
def narrowedFields : List (String × Json) → List (String × Json)
  | [] => []
  | (key, value) :: rest => (key, value.narrowed) :: narrowedFields rest

end

mutual

/-- No integer in the value, at any depth, is beyond the signed range. -/
def Signed : Json → Prop
  | .number (.large _ _) => False
  | .arr items => SignedItems items
  | .obj fields => SignedFields fields
  | _ => True

/-- No integer in the items is beyond the signed range. -/
def SignedItems : List Json → Prop
  | [] => True
  | item :: rest => item.Signed ∧ SignedItems rest

/-- No integer in the fields is beyond the signed range. -/
def SignedFields : List (String × Json) → Prop
  | [] => True
  | (_, value) :: rest => value.Signed ∧ SignedFields rest

end

mutual

theorem narrowed_eq_self_iff : ∀ j : Json, j.narrowed = j ↔ j.Signed
  | .number (.large _ _) => by simp [narrowed, Number.narrowed, Signed]
  | .number (.int _) | .number (.double _ _) => by simp [narrowed, Number.narrowed, Signed]
  | .arr items => by
      rw [narrowed, Signed, Json.arr.injEq]
      exact narrowedItems_eq_self_iff items
  | .obj fields => by
      rw [narrowed, Signed, Json.obj.injEq]
      exact narrowedFields_eq_self_iff fields
  | .null | .bool _ | .str _ => by simp [narrowed, Signed]

theorem narrowedItems_eq_self_iff : ∀ items : List Json,
    narrowedItems items = items ↔ SignedItems items
  | [] => by simp [narrowedItems, SignedItems]
  | item :: rest => by
      rw [narrowedItems, SignedItems, List.cons.injEq]
      exact and_congr (narrowed_eq_self_iff item) (narrowedItems_eq_self_iff rest)

theorem narrowedFields_eq_self_iff : ∀ fields : List (String × Json),
    narrowedFields fields = fields ↔ SignedFields fields
  | [] => by simp [narrowedFields, SignedFields]
  | (key, value) :: rest => by
      rw [narrowedFields, SignedFields, List.cons.injEq, Prod.mk.injEq]
      exact and_congr ((and_iff_right rfl).trans (narrowed_eq_self_iff value))
        (narrowedFields_eq_self_iff rest)

end

end Json

namespace Value

theorem toJson_ofNumber (n : Json.Number) : (ofNumber n).toJson = .ok (.number n.narrowed) := by
  cases n with
  | int i => rfl
  | large n beyond =>
      simp only [ofNumber, toJson, Json.Number.narrowed, Json.ofBinary64]
      rw [dif_pos (Binary64.isFinite_ofNat n.toNat_lt)]
  | double x finite =>
      simp only [ofNumber, toJson, Json.Number.narrowed, Json.ofBinary64]
      rw [dif_pos finite]

mutual

/-- The JSON made of a received value. -/
theorem toJson_ofJson : ∀ j : Json, (ofJson j).toJson = .ok j.narrowed
  | .null | .bool _ | .str _ => by simp [ofJson, toJson, Json.narrowed]
  | .number n => by
      rw [ofJson, Json.narrowed]
      exact toJson_ofNumber n
  | .arr items => by
      rw [ofJson, toJson, itemsToJson_itemsOfJson items, Json.narrowed]
      rfl
  | .obj fields => by
      rw [ofJson, toJson, fieldsToJson_fieldsOfJson fields, Json.narrowed]
      rfl

theorem itemsToJson_itemsOfJson : ∀ items : List Json,
    itemsToJson (itemsOfJson items) = .ok (Json.narrowedItems items)
  | [] => by simp [itemsOfJson, itemsToJson, Json.narrowedItems]
  | item :: rest => by
      rw [itemsOfJson, itemsToJson, toJson_ofJson item, itemsToJson_itemsOfJson rest, Json.narrowedItems]
      rfl

theorem fieldsToJson_fieldsOfJson : ∀ fields : List (String × Json),
    fieldsToJson (fieldsOfJson fields) = .ok (Json.narrowedFields fields)
  | [] => by simp [fieldsOfJson, fieldsToJson, Json.narrowedFields]
  | (key, value) :: rest => by
      rw [fieldsOfJson, fieldsToJson, toJson_ofJson value, fieldsToJson_fieldsOfJson rest,
        Json.narrowedFields]
      rfl

end

end Value

theorem Mapping.toJson_ofFields (m : List (String × Json)) :
    (Mapping.ofFields m).toJson = .ok (.obj (Json.narrowedFields m)) := by
  rw [Mapping.toJson, Mapping.ofFields, Value.fieldsToJson_fieldsOfJson]
  rfl

theorem Run.Runner.arguments_lastResult (context : Context) (m : List (String × Json))
    (tool key : String) :
    Run.Runner.arguments (context.record (.obj m)) ⟨tool, [(key, .reference Context.lastResultName)]⟩ =
      .ok (.obj [(key, .obj (Json.narrowedFields m))]) := by
  have found : (context.record (.obj m)).resolve (.reference Context.lastResultName) =
      .ok (.mapping (Mapping.ofFields m)) := by
    simp [Context.resolve, Context.lookup, Context.find?, Context.record, Context.resultMapping]
  have sent : (Value.mapping (Mapping.ofFields m)).toJson = .ok (.obj (Json.narrowedFields m)) := by
    rw [Value.toJson]
    exact Mapping.toJson_ofFields m
  simp only [Run.Runner.arguments, Context.interpolate, Context.resolveFields, found]
  simp only [Except.map, Mapping.toJson, Value.fieldsToJson, sent]

/-- A received object comes back as it is exactly if no integer in it is beyond the signed range, and so it
does as the argument of a call that refers to the latest result. -/
theorem received_is_sent_iff (m : List (String × Json)) :
    ((Mapping.ofFields m).toJson = .ok (.obj m) ↔ Json.SignedFields m) ∧
      ∀ (context : Context) (tool key : String),
        Run.Runner.arguments (context.record (.obj m))
            ⟨tool, [(key, .reference Context.lastResultName)]⟩ = .ok (.obj [(key, .obj m)]) ↔
          Json.SignedFields m := by
  constructor
  · rw [Mapping.toJson_ofFields, Except.ok.injEq, Json.obj.injEq]
    exact Json.narrowedFields_eq_self_iff m
  · intro context tool key
    rw [Run.Runner.arguments_lastResult, ← Json.narrowedFields_eq_self_iff]
    simp

/-- The largest unsigned integer comes back as the double next to it. -/
theorem largest_unsigned_comes_back_as_double :
    let n : Json := .number (.large 18446744073709551615 (by decide))
    (Mapping.ofFields [("n", n)]).toJson ≠ .ok (.obj [("n", n)]) ∧
      (Mapping.ofFields [("n", n)]).toJson.map Json.compact =
        .ok "\x7b\"n\":1.8446744073709552e+19\x7d" := by
  constructor
  · intro same
    rw [Mapping.toJson_ofFields] at same
    cases same
  · rw [Mapping.toJson_ofFields]
    exact congrArg Except.ok (by decide +kernel)

end CallScript
