import CallScript.Json.Printer
import CallScript.Proofs.Text.Digits

/-! # What the writer writes

Written JSON is one line whatever it holds: characters below U+0020 are escaped wherever a text or a key
brings them, and neither numbers nor the marks around items have any (`Uncontrolled`).

* `writeItems_cons`, `writeFields_cons`: what follows the first item and the first field.
* `uncontrolled_write`: a written value, by its constructors. -/

namespace CallScript.Json

/-- No character is below U+0020. -/
def Uncontrolled (s : List Char) : Prop := ∀ c ∈ s, 32 ≤ c.toNat

@[simp] theorem uncontrolled_nil : Uncontrolled [] := List.forall_mem_nil _

@[simp] theorem uncontrolled_cons {c : Char} {s : List Char} :
    Uncontrolled (c :: s) ↔ 32 ≤ c.toNat ∧ Uncontrolled s := List.forall_mem_cons

@[simp] theorem uncontrolled_append {s t : List Char} :
    Uncontrolled (s ++ t) ↔ Uncontrolled s ∧ Uncontrolled t := List.forall_mem_append

theorem Uncontrolled.of_subset {s t : List Char} (h : Uncontrolled t) (subset : s ⊆ t) : Uncontrolled s :=
  fun c member => h c (subset member)

theorem Uncontrolled.flatMap {α : Type} {f : α → List Char} {xs : List α} (h : ∀ x ∈ xs, Uncontrolled (f x)) :
    Uncontrolled (xs.flatMap f) := by
  intro c member
  obtain ⟨x, of_xs, of_x⟩ := List.mem_flatMap.mp member
  exact h x of_xs c of_x

theorem Uncontrolled.not_mem {s : List Char} (h : Uncontrolled s) {c : Char} (below : c.toNat < 32) : c ∉ s :=
  fun member => absurd (h c member) (Nat.not_le.mpr below)

/-! ### Texts and numbers -/

/-- A character inside a text; below U+0020 it is written with two hexadecimal digits, if not by a letter. -/
theorem uncontrolled_escaped (c : Char) : Uncontrolled (escaped c) := by
  have digit : ∀ d < 16, 32 ≤ (Nat.digitChar d).toNat := by decide
  unfold escaped
  iterate 7
    split
    · simp
  split
  next below =>
    have high := digit (c.toNat / 16) (by omega)
    have low := digit (c.toNat % 16) (Nat.mod_lt _ (by decide))
    simp [high, low]
  next above => simpa using above

theorem uncontrolled_writeText (s : String) : Uncontrolled (writeText s) := by
  simp [writeText, Uncontrolled.flatMap fun c _ => uncontrolled_escaped c]

theorem uncontrolled_toDigits (n : Nat) : Uncontrolled (Nat.toDigits 10 n) := by
  intro c member
  have digit := Text.isDigit_of_mem_toDigits member
  simp only [Text.isDigit, Bool.and_eq_true, decide_eq_true_eq] at digit
  have least : '0'.toNat ≤ c.toNat := digit.1
  exact Nat.le_trans (by decide) least

theorem uncontrolled_writeInt (i : Int) : Uncontrolled (writeInt i) := by
  unfold writeInt
  split <;> simp [uncontrolled_toDigits]

theorem uncontrolled_replicate (n : Nat) {c : Char} (h : 32 ≤ c.toNat) : Uncontrolled (List.replicate n c) := by
  intro d member
  rwa [List.eq_of_mem_replicate member]

theorem uncontrolled_withPoint {digits : List Char} (h : Uncontrolled digits) (whole : Int) :
    Uncontrolled (Layout.withPoint digits whole) := by
  have zeros (n : Nat) : Uncontrolled (List.replicate n '0') := uncontrolled_replicate n (by decide)
  have before := h.of_subset (List.take_subset whole.toNat digits)
  have after := h.of_subset (List.drop_subset whole.toNat digits)
  unfold Layout.withPoint
  split
  · simp [h, zeros]
  · dsimp only
    split <;> simp [before, after, zeros]

variable {layout : Layout}

theorem uncontrolled_withExponent {digits : List Char} (h : Uncontrolled digits)
    (plus : Uncontrolled layout.plus) (e : Int) : Uncontrolled (layout.withExponent digits e) := by
  have sign : Uncontrolled (if e < 0 then ['-'] else layout.plus) := by
    split
    · simp
    · exact plus
  have exponent := uncontrolled_toDigits e.natAbs
  rcases digits with _ | ⟨d, _ | ⟨next, rest⟩⟩
  · simp [Layout.withExponent, sign, exponent]
  · simpa [Layout.withExponent, sign, exponent] using h
  · simpa [Layout.withExponent, sign, exponent] using h

theorem uncontrolled_layout (plus : Uncontrolled layout.plus) (x : Binary64) :
    Uncontrolled (layout.write x) := by
  have digits := uncontrolled_toDigits x.shortest.digits
  have sign : Uncontrolled (if x.shortest.negative then ['-'] else []) := by split <;> simp
  unfold Layout.write
  dsimp only
  split
  · simp [sign]
  split
  · simp [sign, uncontrolled_withPoint digits]
  · simp [sign, uncontrolled_withExponent digits plus]

theorem uncontrolled_writeNumber (n : Number) : Uncontrolled (writeNumber n) := by
  cases n with
  | int i => exact uncontrolled_writeInt i.toInt
  | large n beyond => exact uncontrolled_toDigits n.toNat
  | double x finite => exact uncontrolled_layout (by simp [Layout.scientificBeyond]) x

/-! ### Values -/

theorem writeItems_cons (item : Json) (rest : List Json) :
    writeItems (item :: rest) = item.write ++ rest.flatMap fun j => ',' :: j.write := by
  induction rest generalizing item with
  | nil => simp [writeItems]
  | cons next rest ih =>
      rw [writeItems, ih next]
      · simp
      · exact List.cons_ne_nil next rest

theorem writeFields_cons (key : String) (value : Json) (rest : List (String × Json)) :
    writeFields ((key, value) :: rest) = writeText key ++ ':' :: value.write ++
      rest.flatMap fun field => ',' :: writeText field.1 ++ ':' :: field.2.write := by
  induction rest generalizing key value with
  | nil => simp [writeFields]
  | cons next rest ih =>
      rw [writeFields, ih next.1 next.2]
      · simp
      · exact List.cons_ne_nil next rest

mutual

/-- A written value, whatever stands in it. -/
theorem uncontrolled_write : ∀ j : Json, Uncontrolled j.write
  | .null | .bool true | .bool false => by simp [write]
  | .number n => by
      rw [write]
      exact uncontrolled_writeNumber n
  | .str s => by
      rw [write]
      exact uncontrolled_writeText s
  | .arr [] => by simp [write, writeItems]
  | .arr (item :: rest) => by
      simp [write, writeItems_cons, uncontrolled_write item, uncontrolled_further_items rest]
  | .obj [] => by simp [write, writeFields]
  | .obj ((key, value) :: rest) => by
      simp [write, writeFields_cons, uncontrolled_writeText key, uncontrolled_write value,
        uncontrolled_further_fields rest]

theorem uncontrolled_further_items : ∀ items : List Json,
    Uncontrolled (items.flatMap fun j => ',' :: j.write)
  | [] => by simp
  | item :: rest => by simp [uncontrolled_write item, uncontrolled_further_items rest]

theorem uncontrolled_further_fields : ∀ fields : List (String × Json),
    Uncontrolled (fields.flatMap fun field => ',' :: (writeText field.1 ++ ':' :: field.2.write))
  | [] => by simp
  | (key, value) :: rest => by
      simp [uncontrolled_writeText key, uncontrolled_write value, uncontrolled_further_fields rest]

end

end CallScript.Json
