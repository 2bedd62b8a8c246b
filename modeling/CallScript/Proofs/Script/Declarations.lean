import CallScript.Proofs.Number.Integers
import CallScript.Proofs.Script.Grammar
import CallScript.Proofs.Script.IntegerFields
import CallScript.Proofs.Script.Schemas

/-! # What declarations change

A declaration is looked up when the value of its parameter is read, and nowhere else.  So a line is read alike under
two schemas that agree on the parameters that it writes (`parse_congr`).  Where one schema declares more than the
other, only a token with a point or an exponent is read in another way: it is a text under the one, and under the
other the integer that the nearest double is, or no value at all.

* `Writes`: the tokens that a line writes for its parameters.
* `Coerced`: what more declarations make of a parameter.
* `declarations_affect_their_parameters`: what they make of a line.
* `integer_in_range_is_refused`: an integer of 64 bits that is refused. -/

namespace CallScript

/-- Every declaration of the one schema is one of the other. -/
def Schema.Within (s s' : Schema) : Prop :=
  ∀ tool parameter, s.isInteger tool parameter = true → s'.isInteger tool parameter = true

theorem Schema.within_declare (s : Schema) (tool parameter : String) : s.Within (s.declare tool parameter) :=
  fun _ _ declared => isInteger_declare_iff.mpr (.inl declared)

namespace Invocation

variable {line tool key : String} {s s' t : Schema} {token piece : List Char} {pieces : List (List Char)}
  {stored : Mapping} {assigned : List (String × Value)} {pair : String × Value}

/-! ### The tokens of a line -/

/-- A line writes a token for a parameter of a tool. -/
def Writes (line tool key : String) (token : List Char) : Prop :=
  ∃ (layout : Layout) (pieces : List (List Char)), undecorated line.toList = layout.text ∧
    Segment.split layout.parameters = .ok pieces ∧ tool = String.ofList layout.name ∧
    ∃ piece ∈ pieces, ∃ word, Segment.keyValue piece = .ok (word, token) ∧ key = String.ofList word

theorem Writes.of_header {name parameters : List Char} (written : Writes line tool key token)
    (headed : header? (undecorated line.toList) = some (name, parameters)) :
    tool = String.ofList name ∧ ∃ pieces, Segment.split parameters = .ok pieces ∧
      ∃ piece ∈ pieces, ∃ word, Segment.keyValue piece = .ok (word, token) ∧ key = String.ofList word := by
  obtain ⟨layout, pieces, laid, cut, tool_eq, listed⟩ := written
  rw [laid, header?_text cut] at headed
  cases headed
  exact ⟨tool_eq, pieces, cut, listed⟩

theorem readPieces_congr (same : ∀ piece ∈ pieces, ∀ word token, Segment.keyValue piece = .ok (word, token) →
      t.isInteger tool (String.ofList word) = s.isInteger tool (String.ofList word)) :
    readPieces t tool stored pieces = readPieces s tool stored pieces := by
  induction pieces generalizing stored with
  | nil => rfl
  | cons piece rest ih =>
      obtain ⟨first, others⟩ := List.forall_mem_cons.mp same
      rw [readPieces, readPieces]
      cases cut : Segment.keyValue piece with
      | error fault => rfl
      | ok parts =>
          obtain ⟨word, token⟩ := parts
          dsimp only
          rw [first word token cut]
          simp only [ih others]

/-- A line is read alike under schemas that agree on the parameters that it writes. -/
theorem parse_congr
    (same : ∀ tool key token, Writes line tool key token → t.isInteger tool key = s.isInteger tool key) :
    parse t line = parse s line := by
  unfold parse read
  cases headed : header? (undecorated line.toList) with
  | none => rfl
  | some parts =>
      obtain ⟨name, parameters⟩ := parts
      obtain ⟨layout, laid, rfl, rfl⟩ := header?_eq_some headed
      dsimp only
      cases cut : Segment.split layout.parameters with
      | error fault => rfl
      | ok pieces =>
          dsimp only
          rw [readPieces_congr fun piece member word token key_value =>
            same _ _ token ⟨layout, pieces, laid, cut, rfl, piece, member, word, key_value, rfl⟩]

/-! ### More declarations -/

/-- A parameter that only the second schema declares, written as a numeral with a point or an exponent. -/
structure Affected (line tool : String) (s s' : Schema) (key : String) (token : List Char) (q : ℚ) : Prop where
  undeclared : s.isInteger tool key = false
  declared : s'.isInteger tool key = true
  written : Writes line tool key token
  numeral : Token.Numeral token q
  not_plain : ¬ Token.IsPlain token

/-- What more declarations make of a parameter: nothing, or the integer that is the double nearest to a numeral. -/
inductive Coerced (line tool : String) (s s' : Schema) : String × Value → String × Value → Prop
  | same (pair : String × Value) : Coerced line tool s s' pair pair
  | integer {key : String} {token : List Char} {q : ℚ} {x : Binary64} {n : Int64}
      (affected : Affected line tool s s' key token q) (nearest : Binary64.Nearest q x)
      (value_eq : x.value = n.toInt) :
      Coerced line tool s s' (key, .text (String.ofList token)) (key, .integer n)

theorem Coerced.key_eq (a b : String × Value) (coerced : Coerced line tool s s' a b) : a.1 = b.1 := by
  cases coerced <;> rfl

theorem assigns_iff_of_cut {word : List Char} (cut : Segment.keyValue piece = .ok (word, token)) :
    Assigns s tool piece pair ↔ ∃ value, Token.decode (s.isInteger tool (String.ofList word)) token = .ok value ∧
      pair = (String.ofList word, value) := by
  simp [assigns_iff, cut]

/-- What more declarations make of a piece: nothing, or an integer of a text, or nothing that gives a value. -/
theorem assigns_cases (within : s.Within s')
    (written : ∀ word token, Segment.keyValue piece = .ok (word, token) →
      Writes line tool (String.ofList word) token) :
    (∀ pair, Assigns s tool piece pair ↔ Assigns s' tool piece pair) ∨
    ∃ key token q, Affected line tool s s' key token q ∧
      (∀ pair, Assigns s tool piece pair ↔ pair = (key, .text (String.ofList token))) ∧
      ((∃ (n : Int64) (x : Binary64), Binary64.Nearest q x ∧ x.value = n.toInt ∧
          ∀ pair, Assigns s' tool piece pair ↔ pair = (key, .integer n)) ∨
        (∀ x, Binary64.Nearest q x → ∀ n : Int64, x.value ≠ n.toInt) ∧ ∀ pair, ¬ Assigns s' tool piece pair) := by
  cases cut : Segment.keyValue piece with
  | error fault => exact .inl fun pair => by simp [assigns_iff, cut]
  | ok parts =>
      obtain ⟨word, token⟩ := parts
      have trimmed : Text.trim token = token := by
        obtain ⟨before, separator, after, -, -, -, -, -, -, rfl⟩ := Segment.keyValue_eq_ok_iff.mp cut
        exact Text.trim_trim after
      simp only [assigns_iff_of_cut cut]
      by_cases same : s.isInteger tool (String.ofList word) = s'.isInteger tool (String.ofList word)
      · rw [same]
        exact .inl fun pair => Iff.rfl
      · have undeclared : s.isInteger tool (String.ofList word) = false := by
          apply Bool.eq_false_iff.mpr
          intro declared
          exact same (declared.trans (within _ _ declared).symm)
        have declared : s'.isInteger tool (String.ofList word) = true := by
          rw [undeclared] at same
          exact Bool.eq_true_of_not_eq_false (Ne.symm same)
        rw [undeclared, declared]
        rcases Token.decode_declared_cases token with equal | ⟨q, numeral, not_plain, text, outcome⟩
        · rw [equal]
          exact .inl fun pair => Iff.rfl
        · rw [trimmed] at numeral not_plain text outcome
          refine .inr ⟨_, token, q, ⟨undeclared, declared, written _ _ cut, numeral, not_plain⟩, ?_, ?_⟩
          · intro pair
            simp [text]
          · rcases outcome with ⟨n, x, nearest, value_eq, integer⟩ | ⟨none, failed⟩
            · exact .inl ⟨n, x, nearest, value_eq, fun pair => by simp [integer]⟩
            · exact .inr ⟨none, fun pair => by simp [failed]⟩

/-- Where the pieces of a list have values under one schema, they have related ones under another, or one of them is
an exception. -/
theorem exists_assigned_or {R : String × Value → String × Value → Prop} {Exception : String × Value → Prop}
    (each : ∀ piece ∈ pieces, ∀ pair, Assigns s tool piece pair →
      (∃ pair', Assigns t tool piece pair' ∧ R pair pair') ∨ Exception pair)
    (assigns : List.Forall₂ (Assigns s tool) pieces assigned) :
    (∃ assigned', List.Forall₂ (Assigns t tool) pieces assigned' ∧ List.Forall₂ R assigned assigned') ∨
      ∃ pair ∈ assigned, Exception pair := by
  induction assigns with
  | nil => exact .inl ⟨[], .nil, .nil⟩
  | @cons piece pair pieces assigned first _ ih =>
      obtain ⟨each_first, each_other⟩ := List.forall_mem_cons.mp each
      rcases each_first pair first with ⟨pair', first', related⟩ | exceptional
      · rcases ih each_other with ⟨assigned', others, all_related⟩ | ⟨other, member, exceptional⟩
        · exact .inl ⟨pair' :: assigned', .cons first' others, .cons related all_related⟩
        · exact .inr ⟨other, List.mem_cons_of_mem _ member, exceptional⟩
      · exact .inr ⟨pair, List.mem_cons_self, exceptional⟩

theorem Reading.exists_call_or {R : String × Value → String × Value → Prop} {Exception : String × Value → Prop}
    (r : Reading s line) (same_key : ∀ a b, R a b → a.1 = b.1)
    (each : ∀ piece ∈ r.pieces, ∀ pair, Assigns s (String.ofList r.layout.name) piece pair →
      (∃ pair', Assigns t (String.ofList r.layout.name) piece pair' ∧ R pair pair') ∨ Exception pair) :
    (∃ i', parse t line = .ok i' ∧ i'.tool = r.invocation.tool ∧
        List.Forall₂ R r.invocation.parameters i'.parameters) ∨
      ∃ pair ∈ r.invocation.parameters, Exception pair := by
  rcases exists_assigned_or each r.assigns with ⟨assigned', assigns', related⟩ | ⟨pair, member, exceptional⟩
  · have different := r.different
    rw [Fields.map_fst_eq_of_forall₂ same_key related] at different
    exact .inl ⟨_, (parse_eq_ok_iff r.laid r.cut).mpr ⟨assigned', assigns', different, rfl⟩, rfl,
      Fields.forall₂_ofList same_key related⟩
  · exact .inr ⟨pair, (Fields.ofList_perm r.different).mem_iff.mpr member, exceptional⟩

theorem Reading.writes {word : List Char} (r : Reading t line) (member : piece ∈ r.pieces)
    (cut : Segment.keyValue piece = .ok (word, token)) :
    Writes line (String.ofList r.layout.name) (String.ofList word) token :=
  ⟨r.layout, r.pieces, r.laid, r.cut, rfl, piece, member, word, cut, rfl⟩

/-- A call with more declarations is one without them, with texts for the integers that they make. -/
theorem exists_call_within {i' : Invocation} (within : s.Within s') (parsed : parse s' line = .ok i') :
    ∃ i, parse s line = .ok i ∧ i.tool = i'.tool ∧
      List.Forall₂ (Coerced line i.tool s s') i.parameters i'.parameters := by
  obtain ⟨r, rfl⟩ := exists_reading parsed
  have each : ∀ piece ∈ r.pieces, ∀ pair', Assigns s' (String.ofList r.layout.name) piece pair' →
      (∃ pair, Assigns s (String.ofList r.layout.name) piece pair ∧
        Coerced line (String.ofList r.layout.name) s s' pair pair') ∨ False := by
    intro piece member pair' assigns'
    rcases assigns_cases within fun word token => r.writes member with
      same | ⟨key, token, q, affected, texts, ⟨n, x, nearest, value_eq, integers⟩ | ⟨-, none⟩⟩
    · exact .inl ⟨pair', (same pair').mpr assigns', .same pair'⟩
    · obtain rfl := (integers pair').mp assigns'
      exact .inl ⟨_, (texts _).mpr rfl, .integer affected nearest value_eq⟩
    · exact absurd assigns' (none pair')
  rcases r.exists_call_or (fun a b coerced => (Coerced.key_eq b a coerced).symm) each with
    ⟨i, parsed', tool_eq, coerced⟩ | ⟨_, -, impossible⟩
  · refine ⟨i, parsed', tool_eq, ?_⟩
    rw [tool_eq]
    exact coerced.flip
  · exact impossible.elim

/-- A call that more declarations refuse has a parameter that they do not read as an integer. -/
theorem exists_affected {i : Invocation} (within : s.Within s') (parsed : parse s line = .ok i)
    (refused : ∀ i', parse s' line ≠ .ok i') : ∃ key token q, Affected line i.tool s s' key token q ∧
      (key, .text (String.ofList token)) ∈ i.parameters ∧
      ∀ x, Binary64.Nearest q x → ∀ n : Int64, x.value ≠ n.toInt := by
  obtain ⟨r, rfl⟩ := exists_reading parsed
  have each : ∀ piece ∈ r.pieces, ∀ pair, Assigns s (String.ofList r.layout.name) piece pair →
      (∃ pair', Assigns s' (String.ofList r.layout.name) piece pair' ∧
        Coerced line (String.ofList r.layout.name) s s' pair pair') ∨
      ∃ key token q, Affected line (String.ofList r.layout.name) s s' key token q ∧
        pair = (key, .text (String.ofList token)) ∧ ∀ x, Binary64.Nearest q x → ∀ n : Int64, x.value ≠ n.toInt := by
    intro piece member pair assigns
    rcases assigns_cases within fun word token => r.writes member with
      same | ⟨key, token, q, affected, texts, ⟨n, x, nearest, value_eq, integers⟩ | ⟨no_integer, -⟩⟩
    · exact .inl ⟨pair, (same pair).mp assigns, .same pair⟩
    · obtain rfl := (texts pair).mp assigns
      exact .inl ⟨_, (integers _).mpr rfl, .integer affected nearest value_eq⟩
    · exact .inr ⟨key, token, q, affected, (texts pair).mp assigns, no_integer⟩
  rcases r.exists_call_or Coerced.key_eq each with
    ⟨i', parsed', -⟩ | ⟨_, member, key, token, q, affected, rfl, no_integer⟩
  · exact absurd parsed' (refused i')
  · exact ⟨key, token, q, affected, member, no_integer⟩

/-- What more declarations make of a line.  A line that is a call with them is one without them, with the same tool
and the same keys, and with the same values but for texts that they make integers.  A line that is a call without
them only has a text among its parameters that they refuse: a numeral with a point or an exponent that is no integer
of 64 bits, or one of the last 512.  And a line is read alike whatever is declared for parameters that it does not
write. -/
theorem declarations_affect_their_parameters (line : String) (within : s.Within s') :
    (∀ i', parse s' line = .ok i' → ∃ i, parse s line = .ok i ∧ i.tool = i'.tool ∧
        List.Forall₂ (Coerced line i.tool s s') i.parameters i'.parameters) ∧
      (∀ i, parse s line = .ok i → (∀ i', parse s' line ≠ .ok i') → ∃ key token q,
        Affected line i.tool s s' key token q ∧ (key, .text (String.ofList token)) ∈ i.parameters ∧
          (∀ x, Binary64.Nearest q x → ∀ n : Int64, x.value ≠ n.toInt) ∧
          ((∀ n : Int64, q ≠ n.toInt) ∨ 2 ^ 63 - 512 ≤ q)) ∧
      ∀ t : Schema, (∀ tool key token, Writes line tool key token → t.isInteger tool key = s.isInteger tool key) →
        parse t line = parse s line := by
  refine ⟨fun i' => exists_call_within within, fun i parsed refused => ?_, fun t same => parse_congr same⟩
  obtain ⟨key, token, q, affected, member, no_integer⟩ := exists_affected within parsed refused
  refine ⟨key, token, q, affected, member, no_integer, ?_⟩
  by_cases last : 2 ^ 63 - 512 ≤ q
  · exact .inr last
  · refine .inl fun n q_eq => ?_
    rw [q_eq, not_le] at last
    obtain ⟨x, nearest, m, value_eq⟩ := Binary64.exists_nearest_int64 last
    rw [← q_eq] at nearest
    exact no_integer x nearest m value_eq

/-- A line with a declared numeral and another one, whose declaration makes it an integer; one with a numeral that
its declaration refuses; and a declaration for another tool. -/
theorem one_more_declaration :
    let s := Schema.empty.declare "f" "b"
    let s' := s.declare "f" "a"
    s.Within s' ∧
      (∃ i, parse s "f(a=10.0, b=1e2)" = .ok i ∧ i.tool = "f" ∧
        List.Forall₂ (Coerced "f(a=10.0, b=1e2)" i.tool s s') i.parameters
          [("a", .integer 10), ("b", .integer 100)]) ∧
      (∃ key token q, Affected "f(a=1.5)" "f" s s' key token q ∧
        (key, .text (String.ofList token)) ∈ [("a", Value.text "1.5")] ∧
          (∀ x, Binary64.Nearest q x → ∀ n : Int64, x.value ≠ n.toInt) ∧
          ((∀ n : Int64, q ≠ n.toInt) ∨ 2 ^ 63 - 512 ≤ q)) ∧
      parse (s.declare "g" "a") "f(a=1.5)" = parse s "f(a=1.5)" := by
  intro s s'
  have within : s.Within s' := s.within_declare "f" "a"
  have read : parse s' "f(a=10.0, b=1e2)" = .ok ⟨"f", [("a", .integer 10), ("b", .integer 100)]⟩ := rfl
  have text : parse s "f(a=1.5)" = .ok ⟨"f", [("a", .text "1.5")]⟩ := rfl
  have refused : ∀ i', parse s' "f(a=1.5)" ≠ .ok i' := by
    intro i' parsed
    have failed : parse s' "f(a=1.5)" = .error (.parse "f(a=1.5)" _) := rfl
    rw [failed] at parsed
    cases parsed
  have another_tool : ∀ tool key token, Writes "f(a=1.5)" tool key token →
      (s.declare "g" "a").isInteger tool key = s.isInteger tool key := by
    intro tool key token written
    obtain ⟨rfl, -⟩ := written.of_header (by decide +kernel : header? _ = some (['f'], "a=1.5".toList))
    rfl
  obtain ⟨less, -⟩ := declarations_affect_their_parameters "f(a=10.0, b=1e2)" within
  obtain ⟨-, exceptions, congruent⟩ := declarations_affect_their_parameters "f(a=1.5)" within
  exact ⟨within, less _ read, exceptions _ text refused, congruent _ another_tool⟩

/-- The largest integer of 64 bits, written with a point, is refused, because the nearest double is the next one. -/
theorem integer_in_range_is_refused :
    let line := "f(a=9223372036854775807.0)"
    let declared := Schema.empty.declare "f" "a"
    Schema.empty.Within declared ∧
      parse .empty line = .ok ⟨"f", [("a", .text "9223372036854775807.0")]⟩ ∧ (∀ i, parse declared line ≠ .ok i) ∧
      ∀ tool key token q, Writes line tool key token → Token.Numeral token q → ∃ n : Int64, q = n.toInt := by
  have text : parse .empty "f(a=9223372036854775807.0)" = .ok ⟨"f", [("a", .text "9223372036854775807.0")]⟩ := by
    rfl
  have failed : parse (Schema.empty.declare "f" "a") "f(a=9223372036854775807.0)" =
      .error (.parse "f(a=9223372036854775807.0)"
        "parameter 'a': integer field got non-integral value 9223372036854775807.0") := by
    rfl
  intro line declared
  refine ⟨Schema.within_declare _ _ _, text, fun i parsed => ?_, fun tool key token q written numeral => ?_⟩
  · rw [failed] at parsed
    cases parsed
  · obtain ⟨-, pieces, cut, piece, member, word, key_value, -⟩ := written.of_header
      (by decide +kernel : header? _ = some (['f'], "a=9223372036854775807.0".toList))
    have pieces_eq : Segment.split "a=9223372036854775807.0".toList = .ok ["a=9223372036854775807.0".toList] := by
      decide +kernel
    rw [pieces_eq] at cut
    cases cut
    cases List.mem_singleton.mp member
    have parts_eq : Segment.keyValue "a=9223372036854775807.0".toList =
        .ok (['a'], "9223372036854775807.0".toList) := by decide +kernel
    rw [parts_eq] at key_value
    cases key_value
    obtain ⟨parts, read, value_eq⟩ := numeral.numeral?_eq
    have read_eq : Token.numeral? "9223372036854775807.0".toList =
        some ⟨false, "9223372036854775807".toList, ['0'], false, []⟩ := rfl
    rw [read_eq] at read
    cases read
    refine ⟨9223372036854775807, ?_⟩
    rw [← value_eq, Token.value_ofParts]
    have whole : Text.digitsToNat "9223372036854775807".toList = 9223372036854775807 := by decide +kernel
    have zero : Text.digitsToNat ['0'] = 0 := rfl
    have none : Text.digitsToNat [] = 0 := rfl
    have largest : (9223372036854775807 : Int64).toInt = 9223372036854775807 := by decide
    norm_num [Binary64.signed, Token.mantissaValue, Token.exponentValue, whole, zero, none, largest]

end Invocation

end CallScript
