import CallScript.Proofs.Fields
import CallScript.Proofs.Json.Tokens

/-! # What is written is read back

A value that holds no double and does not nest too deep is read back from its text without spacing.  Objects
come back in order of their keys (`ordered`), and so does a whole value that was in order before.  Doubles are
left out: the reader scales their leading digits once and may come out one place off.

* `readValue_write`: a value in front of something that ends it, with fuel for its length; by its constructors.
* `read?_compact`: the whole text of a value. -/

namespace CallScript.Json

/-! ### The values that are read back -/

mutual

/-- How many arrays and objects are around the innermost value. -/
def depth : Json → Nat
  | .arr items => itemsDepth items + 1
  | .obj fields => fieldsDepth fields + 1
  | _ => 0

/-- How deep the items nest. -/
def itemsDepth : List Json → Nat
  | [] => 0
  | item :: rest => max item.depth (itemsDepth rest)

/-- How deep the values of the fields nest. -/
def fieldsDepth : List (String × Json) → Nat
  | [] => 0
  | (_, value) :: rest => max value.depth (fieldsDepth rest)

end

mutual

/-- No number in the value, at any depth, is a double. -/
def NoDouble : Json → Prop
  | .number (.double _ _) => False
  | .arr items => NoDoubleItems items
  | .obj fields => NoDoubleFields fields
  | _ => True

/-- No number in the items is a double. -/
def NoDoubleItems : List Json → Prop
  | [] => True
  | item :: rest => item.NoDouble ∧ NoDoubleItems rest

/-- No number in the fields is a double. -/
def NoDoubleFields : List (String × Json) → Prop
  | [] => True
  | (_, value) :: rest => value.NoDouble ∧ NoDoubleFields rest

end

mutual

/-- The value with all objects in order of their keys; of fields with the same key the last one stays. -/
def ordered : Json → Json
  | .arr items => .arr (orderedItems items)
  | .obj fields => .obj (Fields.ofList (orderedFields fields))
  | j => j

/-- The items, each in order. -/
def orderedItems : List Json → List Json
  | [] => []
  | item :: rest => item.ordered :: orderedItems rest

/-- The fields as they stand, each value in order. -/
def orderedFields : List (String × Json) → List (String × Json)
  | [] => []
  | (key, value) :: rest => (key, value.ordered) :: orderedFields rest

end

mutual

theorem ordered_eq_self : ∀ (j : Json), j.Sorted → j.ordered = j
  | .arr items, sorted => by rw [ordered, orderedItems_eq_self items sorted]
  | .obj fields, sorted => by
      rw [ordered, orderedFields_eq_self fields sorted.2, Fields.ofList_eq_of_perm (.refl fields) sorted.1]
  | .null, _ | .bool _, _ | .number _, _ | .str _, _ => by simp only [ordered]

theorem orderedItems_eq_self : ∀ (items : List Json), SortedItems items → orderedItems items = items
  | [], _ => rfl
  | item :: rest, sorted => by
      rw [orderedItems, ordered_eq_self item sorted.1, orderedItems_eq_self rest sorted.2]

theorem orderedFields_eq_self : ∀ (fields : List (String × Json)), SortedFields fields →
    orderedFields fields = fields
  | [], _ => rfl
  | (key, value) :: rest, sorted => by
      rw [orderedFields, ordered_eq_self value sorted.1, orderedFields_eq_self rest sorted.2]

end

variable {c : Char} {rest : List Char} {fuel level : Nat}

/-! ### Values -/

theorem readNumber_writeNumber (n : Number) (no_double : NoDouble (.number n)) (ends : Ends rest) :
    readNumber (writeNumber n ++ rest) = some (.number n, rest) := by
  cases n with
  | int i => exact readNumber_writeInt i ends
  | large n beyond => exact readNumber_toDigits (ofInt?_toNat n beyond) ends
  | double x finite => cases no_double

theorem writeNumber_head (n : Number) (no_double : NoDouble (.number n)) :
    ∃ c more, writeNumber n = c :: more ∧ (c = '-' ∨ Text.isDigit c = true) := by
  cases n with
  | int i => exact writeInt_head i
  | large n beyond =>
      obtain ⟨c, more, digits_eq, digit⟩ := Text.exists_toDigits_cons n.toNat
      exact ⟨c, more, digits_eq, .inr digit⟩
  | double x finite => cases no_double

theorem not_isSpacing_of_start (start : c = '-' ∨ Text.isDigit c = true) : Text.isSpacing c = false := by
  apply Bool.eq_false_iff.mpr
  intro space
  simp only [Text.isSpacing, Bool.or_eq_true, decide_eq_true_eq] at space
  rcases space with ((rfl | rfl) | rfl) | rfl <;> rcases start with minus | digit
  all_goals contradiction

theorem write_head : ∀ (j : Json), j.NoDouble →
    ∃ c more, j.write = c :: more ∧ Text.isSpacing c = false ∧ c ≠ ']'
  | .null, _ => ⟨'n', _, rfl, rfl, by decide⟩
  | .bool true, _ => ⟨'t', _, rfl, rfl, by decide⟩
  | .bool false, _ => ⟨'f', _, rfl, rfl, by decide⟩
  | .number n, no_double => by
      obtain ⟨c, more, text_eq, start⟩ := writeNumber_head n no_double
      refine ⟨c, more, text_eq, not_isSpacing_of_start start, ?_⟩
      rintro rfl
      rcases start with minus | digit
      · cases minus
      · cases digit
  | .str s, _ => ⟨'"', _, rfl, rfl, by decide⟩
  | .arr items, _ => ⟨'[', _, rfl, rfl, by decide⟩
  | .obj fields, _ => ⟨'{', _, rfl, rfl, by decide⟩

theorem writeItems_head (item : Json) (items : List Json) (no_double : NoDoubleItems (item :: items)) :
    ∃ c more, writeItems (item :: items) = c :: more ∧ Text.isSpacing c = false ∧ c ≠ ']' := by
  obtain ⟨c, more, text_eq, no_space, no_close⟩ := write_head item no_double.1
  cases items with
  | nil => exact ⟨c, more, text_eq, no_space, no_close⟩
  | cons next items =>
      refine ⟨c, more ++ ',' :: writeItems (next :: items), ?_, no_space, no_close⟩
      simp [writeItems, text_eq]

theorem writeFields_head (key : String) (value : Json) (fields : List (String × Json)) :
    ∃ more, writeFields ((key, value) :: fields) = '"' :: more := by
  cases fields with
  | nil => exact ⟨_, rfl⟩
  | cons next fields => exact ⟨_, rfl⟩

theorem readValue_number (start : c = '-' ∨ Text.isDigit c = true) (s : List Char) :
    readValue (fuel + 1) level (c :: s) = readNumber (c :: s) := by
  rw [readValue, Text.skipSpacing_cons (not_isSpacing_of_start start)]
  split
  all_goals try
    next same =>
      obtain ⟨rfl, -⟩ := List.cons.inj same
      rcases start with minus | digit
      · cases minus
      · cases digit
  rfl

theorem readValue_quote (s : List Char) : readValue (fuel + 1) level ('"' :: s) =
    (readText (fuel + 1) s).map fun (text, rest) => (.str text, rest) := rfl

theorem readValue_items (no_space : Text.isSpacing c = false) (no_close : c ≠ ']') (s : List Char) :
    readValue (fuel + 1) (level + 1) ('[' :: c :: s) =
      (readItems fuel level [] (c :: s)).map fun (items, rest) => (.arr items.reverse, rest) := by
  have bracket : Text.skipSpacing ('[' :: c :: s) = '[' :: c :: s := rfl
  rw [readValue, bracket]
  simp only [Text.skipSpacing_cons no_space]
  split
  next same => exact absurd (List.cons.inj same).1 no_close
  · rfl

theorem readValue_fields (s : List Char) : readValue (fuel + 1) (level + 1) ('{' :: '"' :: s) =
    (readFields fuel level [] ('"' :: s)).map fun (fields, rest) => (.obj fields, rest) := rfl

/-- What follows an item: a comma and more items, or the closing bracket. -/
def nextItem (fuel level : Nat) (items : List Json) : List Char → Option (List Json × List Char)
  | ',' :: rest => readItems fuel level items rest
  | ']' :: rest => some (items, rest)
  | _ => none

/-- What follows a field. -/
def nextField (fuel level : Nat) (fields : List (String × Json)) :
    List Char → Option (List (String × Json) × List Char)
  | ',' :: rest => readFields fuel level fields rest
  | '}' :: rest => some (fields, rest)
  | _ => none

theorem readItems_cons {item : Json} {s t : List Char} (items : List Json)
    (read : readValue fuel level s = some (item, c :: t)) (no_space : Text.isSpacing c = false) :
    readItems (fuel + 1) level items s = nextItem fuel level (item :: items) (c :: t) := by
  rw [readItems, read]
  simp only [Text.skipSpacing_cons no_space]
  rfl

theorem readFields_cons {key : String} {value : Json} {s t : List Char} (fields : List (String × Json))
    (enough : (writeText key).length ≤ fuel + 1) (read : readValue fuel level s = some (value, c :: t))
    (no_space : Text.isSpacing c = false) :
    readFields (fuel + 1) level fields (writeText key ++ ':' :: s) =
      nextField fuel level (Fields.insert key value fields) (c :: t) := by
  obtain ⟨more, text_eq, key_read⟩ := readText_writeText key (':' :: s) enough
  have quote : Text.skipSpacing ('"' :: more) = '"' :: more := rfl
  have colon : Text.skipSpacing (':' :: s) = ':' :: s := rfl
  rw [text_eq, readFields, quote]
  simp only [key_read, colon, read, Text.skipSpacing_cons no_space]
  rfl

/-! ### A whole value -/

mutual

theorem readValue_write : ∀ (j : Json), j.NoDouble → ∀ (fuel level : Nat) (rest : List Char),
    j.write.length ≤ fuel → j.depth ≤ level → Ends rest →
    readValue fuel level (j.write ++ rest) = some (j.ordered, rest)
  | .null, _, fuel + 1, level, rest, _, _, _ => rfl
  | .bool true, _, fuel + 1, level, rest, _, _, _ => rfl
  | .bool false, _, fuel + 1, level, rest, _, _, _ => rfl
  | .number n, no_double, fuel, level, rest, enough, _, ends => by
      obtain ⟨c, more, text_eq, start⟩ := writeNumber_head n no_double
      have read := readNumber_writeNumber n no_double ends
      have text : (Json.number n).write = c :: more := text_eq
      rw [text] at enough ⊢
      rw [text_eq] at read
      obtain ⟨fuel, rfl⟩ := Nat.exists_eq_add_of_le' enough
      exact (readValue_number start _).trans read
  | .str s, _, fuel + 1, level, rest, enough, _, _ => by
      obtain ⟨more, text_eq, read⟩ := readText_writeText s rest enough
      have text : (Json.str s).write ++ rest = '"' :: more := text_eq
      rw [text, readValue_quote, read]
      rfl
  | .arr [], _, fuel + 1, level + 1, rest, _, _, _ => rfl
  -- The brackets are two characters: the items are left with more fuel than they are long.
  | .arr (item :: items), no_double, fuel + 1, level + 1, rest, enough, shallow, _ => by
      obtain ⟨c, more, text_eq, no_space, no_close⟩ := writeItems_head item items no_double
      rw [write, List.cons_append, List.length_cons, List.length_append, List.length_singleton] at enough
      have read := readItems_write (item :: items) (List.cons_ne_nil _ _) no_double fuel level []
        (Nat.le_of_succ_le_succ enough) (Nat.le_of_succ_le_succ shallow) rest
      rw [write, List.cons_append, List.cons_append, List.append_assoc, List.singleton_append]
      rw [text_eq] at read ⊢
      rw [List.cons_append, readValue_items no_space no_close, ← List.cons_append, read, ordered]
      simp
  | .obj [], _, fuel + 1, level + 1, rest, _, _, _ => rfl
  | .obj ((key, value) :: fields), no_double, fuel + 1, level + 1, rest, enough, shallow, _ => by
      obtain ⟨more, text_eq⟩ := writeFields_head key value fields
      rw [write, List.cons_append, List.length_cons, List.length_append, List.length_singleton] at enough
      have read := readFields_write ((key, value) :: fields) (List.cons_ne_nil _ _) no_double fuel level []
        (Nat.le_of_succ_le_succ enough) (Nat.le_of_succ_le_succ shallow) rest
      rw [write, List.cons_append, List.cons_append, List.append_assoc, List.singleton_append]
      rw [text_eq] at read ⊢
      rw [List.cons_append, readValue_fields, ← List.cons_append, read, ordered]
      rfl

theorem readItems_write : ∀ (items : List Json), items ≠ [] → NoDoubleItems items →
    ∀ (fuel level : Nat) (before : List Json), (writeItems items).length < fuel → itemsDepth items ≤ level →
    ∀ rest : List Char, readItems fuel level before (writeItems items ++ ']' :: rest) =
      some ((orderedItems items).reverse ++ before, rest)
  | [item], _, no_double, fuel + 1, level, before, enough, shallow, rest => by
      have read := readValue_write item no_double.1 fuel level (']' :: rest)
        (Nat.le_of_lt_succ enough) (Nat.le_trans (Nat.le_max_left _ _) shallow) (.cons (by decide) rest)
      exact readItems_cons before read rfl
  | item :: next :: more, _, no_double, fuel + 1, level, before, enough, shallow, rest => by
      have text : writeItems (item :: next :: more) = item.write ++ ',' :: writeItems (next :: more) := by
        rw [writeItems]
        exact List.cons_ne_nil _ _
      rw [text, List.length_append, List.length_cons] at enough
      have read := readValue_write item no_double.1 fuel level
        (',' :: (writeItems (next :: more) ++ ']' :: rest)) (by omega)
        (Nat.le_trans (Nat.le_max_left _ _) shallow) (.cons (by decide) _)
      have following := readItems_write (next :: more) (List.cons_ne_nil _ _) no_double.2 fuel level
        (item.ordered :: before) (by omega) (Nat.le_trans (Nat.le_max_right _ _) shallow) rest
      rw [text, List.append_assoc, List.cons_append, readItems_cons before read rfl, orderedItems]
      simpa [nextItem] using following

theorem readFields_write : ∀ (fields : List (String × Json)), fields ≠ [] → NoDoubleFields fields →
    ∀ (fuel level : Nat) (before : List (String × Json)), (writeFields fields).length < fuel →
    fieldsDepth fields ≤ level →
    ∀ rest : List Char, readFields fuel level before (writeFields fields ++ '}' :: rest) =
      some ((orderedFields fields).foldl (fun fields pair => Fields.insert pair.1 pair.2 fields) before, rest)
  | [(key, value)], _, no_double, fuel + 1, level, before, enough, shallow, rest => by
      rw [writeFields, List.length_append, List.length_cons] at enough
      have read := readValue_write value no_double.1 fuel level ('}' :: rest)
        (by omega) (Nat.le_trans (Nat.le_max_left _ _) shallow) (.cons (by decide) rest)
      rw [writeFields, List.append_assoc, List.cons_append]
      exact readFields_cons before (by omega) read rfl
  | (key, value) :: next :: more, _, no_double, fuel + 1, level, before, enough, shallow, rest => by
      have text : writeFields ((key, value) :: next :: more) =
          writeText key ++ ':' :: value.write ++ ',' :: writeFields (next :: more) := by
        rw [writeFields]
        exact List.cons_ne_nil _ _
      rw [text, List.length_append, List.length_append, List.length_cons, List.length_cons] at enough
      have read := readValue_write value no_double.1 fuel level
        (',' :: (writeFields (next :: more) ++ '}' :: rest)) (by omega)
        (Nat.le_trans (Nat.le_max_left _ _) shallow) (.cons (by decide) _)
      have following := readFields_write (next :: more) (List.cons_ne_nil _ _) no_double.2 fuel level
        (Fields.insert key value.ordered before) (by omega) (Nat.le_trans (Nat.le_max_right _ _) shallow) rest
      rw [text, List.append_assoc, List.append_assoc, List.cons_append, List.cons_append,
        readFields_cons before (by omega) read rfl, orderedFields]
      exact following

end

/-- A text without spacing is read as a whole. -/
theorem read?_compact {j : Json} (no_double : j.NoDouble) (shallow : j.depth ≤ maxDepth) :
    read? j.compact = some j.ordered := by
  have read := readValue_write j no_double (j.write.length + 1) maxDepth [] (Nat.le_succ _) shallow .nil
  rw [List.append_nil] at read
  rw [read?, compact, String.toList_ofList, readAll?, read]
  rfl

end CallScript.Json
