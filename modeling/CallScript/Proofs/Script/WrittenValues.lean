import CallScript.Proofs.Number.Overflow
import CallScript.Proofs.Script.Grammar
import CallScript.Proofs.Script.IntegerFields
import CallScript.Proofs.Script.KeyOrder
import CallScript.Proofs.Script.Splitting

/-! # Written values on the wire

A value that is written in a script is sent as JSON, and the JSON stands for a value again.  That is the value
that was written, unless a number in it is too large for a double: such a number is read as infinity, infinity
is sent as `null`, and `null` is another value (`written_comes_back_iff`).

* `toJson_ofJson_iff`: what comes back of a value without references.
* `Denotes.exists_double`, `ReadFrom.exists_double`: every double in a value stands in the text as a numeral.
* `Literal.exists_decimal`: the double that a numeral is read as, and the number that it denotes. -/

namespace CallScript

/-! ### What comes back -/

namespace Value

mutual

/-- The doubles in a value, at any depth. -/
def doubles : Value → List Binary64
  | .double x => [x]
  | .list items => itemsDoubles items
  | .mapping fields => fieldsDoubles fields
  | _ => []

/-- The doubles in the items. -/
def itemsDoubles : List Value → List Binary64
  | [] => []
  | item :: rest => item.doubles ++ itemsDoubles rest

/-- The doubles in the values of the fields. -/
def fieldsDoubles : List (String × Value) → List Binary64
  | [] => []
  | (_, value) :: rest => value.doubles ++ fieldsDoubles rest

end

mutual

/-- A value comes back if every double in it is finite. -/
theorem toJson_ofJson_iff : ∀ (v : Value) {j : Json}, v.toJson = .ok j →
    (ofJson j = v ↔ ∀ x ∈ v.doubles, x.IsFinite)
  | .double x, _, done => by
      cases done
      by_cases finite : x.IsFinite
      · simp [Json.ofBinary64, finite, ofJson, ofNumber, doubles]
      · simp [Json.ofBinary64, finite, ofJson, doubles]
  | .list items, _, done => by
      rw [toJson] at done
      obtain ⟨written, items_done, rfl⟩ := exists_of_map_eq_ok done
      rw [ofJson, Value.list.injEq, doubles]
      exact itemsToJson_itemsOfJson_iff items items_done
  | .mapping fields, _, done => by
      rw [toJson] at done
      obtain ⟨written, fields_done, rfl⟩ := exists_of_map_eq_ok done
      rw [ofJson, Value.mapping.injEq, doubles]
      exact fieldsToJson_fieldsOfJson_iff fields fields_done
  | .text _, _, done | .integer _, _, done | .boolean _, _, done | .null, _, done => by
      cases done
      simp [ofJson, ofNumber, Json.int, doubles]

theorem itemsToJson_itemsOfJson_iff : ∀ (items : List Value) {written : List Json},
    itemsToJson items = .ok written →
      (itemsOfJson written = items ↔ ∀ x ∈ itemsDoubles items, x.IsFinite)
  | [], _, done => by
      cases done
      simp [itemsOfJson, itemsDoubles]
  | item :: rest, _, done => by
      rw [itemsToJson] at done
      split at done
      · cases done
      next item_done =>
        obtain ⟨more, rest_done, rfl⟩ := exists_of_map_eq_ok done
        rw [itemsOfJson, itemsDoubles, List.cons.injEq, List.forall_mem_append]
        exact and_congr (toJson_ofJson_iff item item_done) (itemsToJson_itemsOfJson_iff rest rest_done)

theorem fieldsToJson_fieldsOfJson_iff : ∀ (fields : List (String × Value)) {written : List (String × Json)},
    fieldsToJson fields = .ok written →
      (fieldsOfJson written = fields ↔ ∀ x ∈ fieldsDoubles fields, x.IsFinite)
  | [], _, done => by
      cases done
      simp [fieldsOfJson, fieldsDoubles]
  | (key, value) :: rest, _, done => by
      rw [fieldsToJson] at done
      split at done
      · cases done
      next value_done =>
        obtain ⟨more, rest_done, rfl⟩ := exists_of_map_eq_ok done
        rw [fieldsOfJson, fieldsDoubles, List.cons.injEq, Prod.mk.injEq, List.forall_mem_append]
        exact and_congr ((and_iff_right rfl).trans (toJson_ofJson_iff value value_done))
          (fieldsToJson_fieldsOfJson_iff rest rest_done)

end

theorem exists_toJson {v : Value} (resolved : v.isResolved = true) : ∃ j, v.toJson = .ok j :=
  exists_toJson_iff_references.mpr ((isResolved_iff v).mp resolved)

end Value

/-! ### Doubles in literals -/

namespace Literal

variable {s : List Char} {x : Binary64} {loneComma : Bool}

mutual

/-- Every double in a value stands as a number in the text that denotes the value. -/
theorem Denotes.exists_double : ∀ (v : Value) {s : List Char}, Denotes loneComma s v →
    ∀ x ∈ v.doubles, ∃ t, t <:+: s ∧ Numeral t (.double x)
  | .double x, s, denotes, y, member => by
      cases List.mem_singleton.mp member
      cases denotes with
      | scalar kind =>
          cases kind with
          | number numeral => exact ⟨s, List.infix_rfl, numeral⟩
          | keyword word => cases word
  | .list items, s, denotes, x, member => by
      cases denotes with
      | scalar kind => exact absurd kind Scalar.not_list
      | @list s _ between =>
          obtain ⟨t, inside, numeral⟩ := Denotes.exists_double_items items between.exists_element x member
          exact ⟨t, inside.trans ⟨['['], [']'], by simp⟩, numeral⟩
  | .mapping fields, s, denotes, x, member => by
      cases denotes with
      | scalar kind => exact absurd kind Scalar.not_mapping
      | @mapping s _ _ between collected =>
          obtain ⟨t, inside, numeral⟩ :=
            Denotes.exists_double_fields fields (between.exists_value collected) x member
          exact ⟨t, inside.trans ⟨['\x7b'], ['\x7d'], by simp⟩, numeral⟩

theorem Denotes.exists_double_items {whole : List Char} : ∀ (items : List Value),
    (∀ item ∈ items, ∃ s, s <:+: whole ∧ Denotes loneComma s item) →
      ∀ x ∈ Value.itemsDoubles items, ∃ t, t <:+: whole ∧ Numeral t (.double x)
  | item :: rest, denoted, x, member => by
      obtain ⟨⟨s, inside, first⟩, others⟩ := List.forall_mem_cons.mp denoted
      rcases List.mem_append.mp member with here | later
      · obtain ⟨t, inside', numeral⟩ := Denotes.exists_double item first x here
        exact ⟨t, inside'.trans inside, numeral⟩
      · exact Denotes.exists_double_items rest others x later

theorem Denotes.exists_double_fields {whole : List Char} : ∀ (fields : List (String × Value)),
    (∀ field ∈ fields, ∃ s, s <:+: whole ∧ Denotes loneComma s field.2) →
      ∀ x ∈ Value.fieldsDoubles fields, ∃ t, t <:+: whole ∧ Numeral t (.double x)
  | (_, value) :: rest, denoted, x, member => by
      obtain ⟨⟨s, inside, first⟩, others⟩ := List.forall_mem_cons.mp denoted
      rcases List.mem_append.mp member with here | later
      · obtain ⟨t, inside', numeral⟩ := Denotes.exists_double value first x here
        exact ⟨t, inside'.trans inside, numeral⟩
      · exact Denotes.exists_double_fields rest others x later

end

theorem isMantissa_of_fraction {whole fraction digits : List Char} (filled : IsDigits whole)
    (fractional : IsFraction fraction digits) : Token.IsMantissa (whole ++ fraction) whole digits := by
  cases fractional with
  | none =>
      rw [List.append_nil]
      exact .whole filled
  | some digits_filled =>
      exact .pointed filled.2 digits_filled.2 fun nothing => filled.1 (List.append_eq_nil_iff.mp nothing).1

/-- A double is read from a numeral, which denotes a number, and is what the number is rounded to. -/
theorem exists_decimal {t : List Char} (numeral : Numeral t (.double x)) :
    ∃ d : Decimal, Token.Numeral t d.value ∧ x = d.toBinary64 := by
  cases numeral with
  | @double _ whole fraction _ fractionDigits exponentDigits negative exponentNegative signed filled fractional
      exponential _ =>
      refine ⟨_, ?_, rfl⟩
      rw [Token.value_ofParts, ← List.append_assoc whole]
      exact .mk signed (isMantissa_of_fraction filled fractional) exponential

end Literal

/-! ### Values from a text -/

/-- A double is written in a text: a numeral stands there that is read as the double and denotes the number. -/
def Literal.Writes (text : List Char) (x : Binary64) (q : ℚ) : Prop :=
  ∃ t, t <:+: text ∧ Literal.Numeral t (.double x) ∧ Token.Numeral t q

/-- What is written in a text: a literal, a token by itself, or the value of a parameter of a call. -/
inductive Value.ReadFrom (text : String) : Value → Prop
  | literal {v : Value} (read : Literal.parse text = .ok v) : ReadFrom text v
  | token {v : Value} (read : Token.parse text = .ok v) : ReadFrom text v
  | parameter {schema : Schema} {i : Invocation} {key : String} {v : Value}
      (read : Invocation.parse schema text = .ok i) (member : (key, v) ∈ i.parameters) : ReadFrom text v

section

variable {raw : List Char} {v : Value} {x : Binary64} {isInteger : Bool}

theorem Literal.exists_double (read : Literal.decode raw = .ok v) (member : x ∈ v.doubles) :
    ∃ t, t <:+: raw ∧ Literal.Numeral t (.double x) := by
  obtain @⟨gap, gap', s, _, -, -, denotes⟩ := Literal.written_of_decode read
  obtain ⟨t, inside, numeral⟩ := denotes.exists_double v x member
  exact ⟨t, inside.trans ⟨gap, gap', by simp⟩, numeral⟩

theorem Token.exists_double (read : Token.decode isInteger raw = .ok v) (member : x ∈ v.doubles) :
    ∃ t, t <:+: raw ∧ Literal.Numeral t (.double x) := by
  rcases Token.literal_or_isFlat read with literal | flat
  · obtain ⟨t, inside, numeral⟩ := Literal.exists_double literal member
    exact ⟨t, inside.trans (Text.trim_infix raw), numeral⟩
  · -- outside of brackets no token is a double
    cases flat <;> cases member

theorem Invocation.Reading.parameters_infix {schema : Schema} {line : String} (r : Reading schema line) :
    r.layout.parameters <:+: line.toList := by
  have in_layout : r.layout.parameters <:+: r.layout.text := by
    refine ⟨(r.layout.scope.elim [] (· ++ [':'])) ++ (r.layout.name ++ (r.layout.gap ++
      ((r.layout.tag.elim [] Tag.written) ++ ['(']))), [')'], ?_⟩
    simp [Layout.text, Layout.tail]
  have in_line : undecorated line.toList <:+: line.toList :=
    (Text.trim_infix _).trans ((List.dropWhile_suffix isMarker).isInfix.trans (Text.trim_infix _))
  rw [← r.laid] at in_layout
  exact in_layout.trans in_line

/-- Every double in a value stands as a numeral in the text that the value is read from. -/
theorem Value.ReadFrom.exists_double {text : String} (read : ReadFrom text v) (member : x ∈ v.doubles) :
    ∃ t, t <:+: text.toList ∧ Literal.Numeral t (.double x) := by
  cases read with
  | literal read =>
      unfold Literal.parse at read
      split at read
      next done =>
        cases read
        exact Literal.exists_double done member
      · cases read
  | token read =>
      unfold Token.parse at read
      split at read
      next done =>
        cases read
        exact Token.exists_double done member
      · cases read
  | parameter read listed =>
      obtain ⟨reading, rfl⟩ := Invocation.exists_reading read
      obtain ⟨piece, piece_listed, raw, isInteger, inside, decodes⟩ := reading.exists_token listed
      obtain ⟨t, inside', numeral⟩ := Token.exists_double decodes member
      have in_list := (Segment.split_piece reading.cut piece_listed).1
      exact ⟨t, inside'.trans (inside.trans (in_list.trans reading.parameters_infix)), numeral⟩

/-- A value that is written in a script and holds no references has a JSON form, and what this stands for is the
value itself if and only if every double in the value is finite.  Every double in it is written in the text,
and it is finite if and only if the number that is written there is not too large. -/
theorem Value.written_comes_back_iff {text : String} (read : ReadFrom text v) (resolved : v.isResolved = true) :
    ∃ j, v.toJson = .ok j ∧ (Value.ofJson j = v ↔ ∀ x ∈ v.doubles, x.IsFinite) ∧
      ∀ x ∈ v.doubles, ∃ q, Literal.Writes text.toList x q ∧ (x.IsFinite ↔ |q| < Binary64.overflow) := by
  obtain ⟨j, done⟩ := exists_toJson resolved
  refine ⟨j, done, toJson_ofJson_iff v done, fun x member => ?_⟩
  obtain ⟨t, inside, numeral⟩ := read.exists_double member
  obtain ⟨d, denotes, rfl⟩ := Literal.exists_decimal numeral
  exact ⟨d.value, ⟨t, inside, numeral, denotes⟩, d.isFinite_toBinary64_iff⟩

end

/-- A list with a negative fraction comes back. -/
theorem Value.fraction_comes_back :
    let v := Value.list [.double ⟨true, 1023, 0x8000000000000⟩]
    ReadFrom "[-1.5]" v ∧ v.isResolved = true ∧ ∃ j, v.toJson = .ok j ∧ Value.ofJson j = v := by
  intro v
  have read : ReadFrom "[-1.5]" v := .literal rfl
  obtain ⟨j, done, comes_back_iff, -⟩ := written_comes_back_iff read rfl
  have finite : ∀ x ∈ v.doubles, x.IsFinite := by
    intro x member
    cases List.mem_singleton.mp member
    decide
  exact ⟨read, rfl, j, done, comes_back_iff.mpr finite⟩

/-- A number that is too large is read as infinity, and comes back as `null`. -/
theorem Value.infinity_comes_back_as_null :
    let v := Value.list [.double (Binary64.infinity false)]
    ReadFrom "[1e999]" v ∧ v.isResolved = true ∧ v.toJson = .ok (.arr [.null]) ∧
      Value.ofJson (.arr [.null]) = .list [.null] ∧ Value.ofJson (.arr [.null]) ≠ v := by
  intro v
  have other : Value.ofJson (.arr [.null]) = .list [.null] := by
    simp [ofJson, itemsOfJson]
  have infinite : (Decimal.ofParts ⟨false, ['1'], [], false, ['9', '9', '9']⟩).toBinary64 =
      Binary64.infinity false := by decide +kernel
  have numeral : Literal.Numeral ([] ++ (['1'] ++ ([] ++ ['e', '9', '9', '9'])))
      (.double (Binary64.infinity false)) := by
    rw [← infinite]
    exact .double .none ⟨List.cons_ne_nil _ _, List.all_eq_true.mp rfl⟩ .none
      (.some (.inl rfl) .none ⟨List.cons_ne_nil _ _, List.all_eq_true.mp rfl⟩) (List.cons_ne_nil _ _)
  have denotes : Literal.Denotes true _ v :=
    .list (Literal.Series.cons (.scalar (.number numeral)) .nil).sequence
  have decoded : Literal.decode "[1e999]".toList = .ok v := Literal.decode_of_written denotes.written
  have read : ReadFrom "[1e999]" v := .literal (by rw [Literal.parse, decoded])
  refine ⟨read, rfl, ?_, other, ?_⟩
  · simp [v, toJson, itemsToJson, Json.ofBinary64, Binary64.not_isFinite_infinity, Except.map]
  · rw [other]
    simp [v]

end CallScript
