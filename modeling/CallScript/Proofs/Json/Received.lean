import CallScript.Proofs.Fields
import CallScript.Proofs.Json.RoundTrip

/-! # What the reader gives

Every value that is read has its objects in order of their keys, and nests no deeper than the reader allows
(`Received`).  So a value that was read, and every part of it, is read back from its text without spacing as
it is, as long as there is no double in it.

* `received_arr_iff`, `received_obj_iff`: a value is received exactly if its parts are.
* `received_readValue`: by the recursion of the reader.
* `received_of_readAll?`: a whole text. -/

namespace CallScript.Json

/-- A value is in order, and nests no deeper than so many levels. -/
structure Received (levels : Nat) (j : Json) : Prop where
  sorted : j.Sorted
  shallow : j.depth ≤ levels

variable {levels : Nat} {j : Json} {rest : List Char}

/-! ### Parts -/

@[simp] theorem received_str (s : String) : (Json.str s).Received levels := ⟨trivial, Nat.zero_le levels⟩

@[simp] theorem received_int (i : Int64) : (Json.int i).Received levels := ⟨trivial, Nat.zero_le levels⟩

theorem received_items_iff {items : List Json} :
    SortedItems items ∧ itemsDepth items ≤ levels ↔ ∀ item ∈ items, item.Received levels := by
  induction items with
  | nil => simp [SortedItems, itemsDepth]
  | cons item rest ih =>
      rw [List.forall_mem_cons, ← ih, SortedItems, itemsDepth, Nat.max_le]
      constructor
      · rintro ⟨⟨first, others⟩, first_shallow, others_shallow⟩
        exact ⟨⟨first, first_shallow⟩, others, others_shallow⟩
      · rintro ⟨⟨first, first_shallow⟩, others, others_shallow⟩
        exact ⟨⟨first, others⟩, first_shallow, others_shallow⟩

theorem received_fields_iff {fields : List (String × Json)} :
    SortedFields fields ∧ fieldsDepth fields ≤ levels ↔ ∀ field ∈ fields, field.2.Received levels := by
  induction fields with
  | nil => simp [SortedFields, fieldsDepth]
  | cons field rest ih =>
      rw [List.forall_mem_cons, ← ih, SortedFields, fieldsDepth, Nat.max_le]
      constructor
      · rintro ⟨⟨first, others⟩, first_shallow, others_shallow⟩
        exact ⟨⟨first, first_shallow⟩, others, others_shallow⟩
      · rintro ⟨⟨first, first_shallow⟩, others, others_shallow⟩
        exact ⟨⟨first, others⟩, first_shallow, others_shallow⟩

theorem received_arr_iff {items : List Json} :
    (Json.arr items).Received (levels + 1) ↔ ∀ item ∈ items, item.Received levels := by
  rw [← received_items_iff]
  exact ⟨fun h => ⟨h.sorted, Nat.le_of_succ_le_succ h.shallow⟩,
    fun h => ⟨h.1, Nat.succ_le_succ h.2⟩⟩

theorem received_obj_iff {fields : List (String × Json)} : (Json.obj fields).Received (levels + 1) ↔
    Fields.Sorted fields ∧ ∀ field ∈ fields, field.2.Received levels := by
  rw [← received_fields_iff]
  exact ⟨fun h => ⟨h.sorted.1, h.sorted.2, Nat.le_of_succ_le_succ h.shallow⟩,
    fun h => ⟨⟨h.1, h.2.1⟩, Nat.succ_le_succ h.2.2⟩⟩

theorem Received.of_find? {fields : List (String × Json)} {key : String}
    (h : (Json.obj fields).Received (levels + 1)) (found : Fields.find? key fields = some j) :
    j.Received levels :=
  (received_obj_iff.mp h).2 (key, j) (Fields.mem_of_find?_eq_some found)

/-! ### Numbers -/

theorem received_ofBinary64 (x : Binary64) : (ofBinary64 x).Received levels := by
  unfold ofBinary64
  split
  · exact ⟨trivial, Nat.zero_le levels⟩
  · exact ⟨trivial, Nat.zero_le levels⟩

theorem received_of_ofInt? {i : Int} (h : ofInt? i = some j) : j.Received levels := by
  unfold ofInt? at h
  split at h
  · cases h
    exact ⟨trivial, Nat.zero_le levels⟩
  · split at h
    · cases h
      exact ⟨trivial, Nat.zero_le levels⟩
    · cases h

theorem received_of_numberValue {p : Decimal.Parts} {written : Bool} (h : numberValue p written = some j) :
    j.Received levels := by
  have double {j : Json} (h : (Decimal.scaled p).map ofBinary64 = some j) : j.Received levels := by
    obtain ⟨x, -, rfl⟩ := Option.map_eq_some_iff.mp h
    exact received_ofBinary64 x
  have integer {i : Int} {j : Json} (h : (ofInt? i).or ((Decimal.scaled p).map ofBinary64) = some j) :
      j.Received levels := by
    rcases Option.or_eq_some_iff.mp h with found | ⟨-, found⟩
    · exact received_of_ofInt? found
    · exact double found
  unfold numberValue at h
  dsimp only at h
  split at h
  · exact double h
  · split at h
    · split at h
      · exact double h
      · exact integer h
    · exact integer h

theorem received_of_readNumber {s : List Char} (h : readNumber s = some (j, rest)) : j.Received levels := by
  unfold readNumber at h
  simp only [bind, Option.bind_eq_some_iff] at h
  obtain ⟨whole, -, fraction, -, exponent, -, value, read, same⟩ := h
  obtain ⟨rfl, -⟩ := Prod.mk.inj (Option.some.inj same)
  exact received_of_numberValue read

/-! ### Values -/

theorem received_leaf {α : Type} {found : Option α} {leaf : α → Json × List Char}
    (read : found.map leaf = some (j, rest)) (shallow : ∀ a, (leaf a).1.Received levels) : j.Received levels := by
  obtain ⟨a, -, same⟩ := Option.map_eq_some_iff.mp read
  have received := shallow a
  rwa [same] at received

mutual

theorem received_readValue : ∀ (fuel levels : Nat) (s : List Char) {j : Json} {rest : List Char},
    readValue fuel levels s = some (j, rest) → j.Received levels
  | fuel + 1, levels, s, j, rest, read => by
      rw [readValue] at read
      split at read
      · exact received_leaf read fun _ => ⟨trivial, Nat.zero_le levels⟩
      · exact received_leaf read fun _ => ⟨trivial, Nat.zero_le levels⟩
      · exact received_leaf read fun _ => ⟨trivial, Nat.zero_le levels⟩
      · exact received_leaf read fun _ => ⟨trivial, Nat.zero_le levels⟩
      · split at read
        · cases read
        next levels =>
          split at read
          · cases read
            exact received_arr_iff.mpr (by simp)
          · obtain ⟨_, items_read, same⟩ := Option.map_eq_some_iff.mp read
            cases same
            have received := received_readItems fuel levels [] _ (by simp) items_read
            exact received_arr_iff.mpr fun item member => received item (List.mem_reverse.mp member)
      · split at read
        · cases read
        next levels =>
          split at read
          · cases read
            exact received_obj_iff.mpr ⟨List.Pairwise.nil, by simp⟩
          · obtain ⟨_, fields_read, same⟩ := Option.map_eq_some_iff.mp read
            cases same
            exact received_obj_iff.mpr
              (received_readFields fuel levels [] _ ⟨List.Pairwise.nil, by simp⟩ fields_read)
      · exact received_of_readNumber read

theorem received_readItems : ∀ (fuel levels : Nat) (before : List Json) (s : List Char)
    {items : List Json} {rest : List Char}, (∀ item ∈ before, item.Received levels) →
    readItems fuel levels before s = some (items, rest) → ∀ item ∈ items, item.Received levels
  | fuel + 1, levels, before, s, items, rest, received, read => by
      rw [readItems] at read
      split at read
      · cases read
      next first more first_read =>
        have together : ∀ item ∈ first :: before, item.Received levels :=
          List.forall_mem_cons.mpr ⟨received_readValue fuel levels s first_read, received⟩
        split at read
        · exact received_readItems fuel levels _ _ together read
        · cases read
          exact together
        · cases read

theorem received_readFields : ∀ (fuel levels : Nat) (before : List (String × Json)) (s : List Char)
    {fields : List (String × Json)} {rest : List Char},
    (Fields.Sorted before ∧ ∀ field ∈ before, field.2.Received levels) →
    readFields fuel levels before s = some (fields, rest) →
      Fields.Sorted fields ∧ ∀ field ∈ fields, field.2.Received levels
  | fuel + 1, levels, before, s, fields, rest, received, read => by
      rw [readFields] at read
      split at read
      · split at read
        · cases read
        next key after_key _ =>
          split at read
          next after_colon _ =>
            split at read
            · cases read
            next value more value_read =>
              have together : Fields.Sorted (Fields.insert key value before) ∧
                  ∀ field ∈ Fields.insert key value before, field.2.Received levels := by
                refine ⟨received.1.insert, fun field member => ?_⟩
                rcases Fields.mem_insert member with rfl | earlier
                · exact received_readValue fuel levels after_colon value_read
                · exact received.2 field earlier
              simp only at read
              split at read
              · exact received_readFields fuel levels _ _ together read
              · cases read
                exact together
              · cases read
          · cases read
      · cases read

end

/-- A value that is read from a text is in order, and nests no deeper than the reader allows. -/
theorem received_of_readAll? {s : List Char} (read : readAll? s = some j) : j.Received maxDepth := by
  unfold readAll? at read
  split at read
  next value rest value_read =>
    split at read
    · cases read
      exact received_readValue _ _ _ value_read
    · cases read
  · cases read

/-- A value that could have been read, and holds no double, is read back from its text. -/
theorem Received.read?_compact (h : j.Received maxDepth) (no_double : j.NoDouble) :
    read? j.compact = some j := by
  rw [Json.read?_compact no_double h.shallow, ordered_eq_self j h.sorted]

end CallScript.Json
