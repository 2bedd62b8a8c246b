import CallScript.Proofs.Script.Canonical
import CallScript.Proofs.Script.Parameters
import CallScript.Proofs.Script.ScalarTokens

/-! # Calls in canonical notation

A call is written as its tool, and its parameters in parentheses: `tool(key=value, key=value)`, each value in
canonical notation.  Reading the line gives the call back (`parse_line`), in whichever order the parameters
stand.  Three readers have to agree on the line for that: the header, which ends at the last parenthesis; the
cutting of the parameter list, which must not cut a value (`split_separated`); and the reader of the tokens,
which must see in each what was written (`decode_text`). -/

namespace CallScript.Canonical

variable {v : Value} {i : Invocation} {pairs : List (String × Value)} {c : Char}

/-! ### The notation -/

/-- A parameter as it is written. -/
def parameter (pair : String × Value) : List Char := pair.1.toList ++ '=' :: text pair.2

/-- A call as it is written, with its parameters in a given order. -/
def line (tool : String) (pairs : List (String × Value)) : String :=
  String.ofList (tool.toList ++ '(' :: (separated (pairs.map parameter) ++ [')']))

/-- A call that can be written: its tool and keys are names, and each of its values has a notation and is
not `null`, which outside of lists and mappings would be a text.  Its parameters, and the mappings in its
values, are in order of their keys, as all fields are. -/
structure Writable (i : Invocation) : Prop where
  tool : isName i.tool = true
  sorted : Fields.Sorted i.parameters
  keys : ∀ pair ∈ i.parameters, isName pair.1 = true
  values : ∀ pair ∈ i.parameters, isWritable pair.2 = true
  values_sorted : ∀ pair ∈ i.parameters, pair.2.Sorted
  values_ne_null : ∀ pair ∈ i.parameters, pair.2 ≠ .null

/-! ### Tokens -/

theorem isWordText_name {s : String} (named : isName s = true) : Segment.isWordText s.toList = true := by
  obtain ⟨filled, chars⟩ := isName_iff.mp named
  exact Invocation.isWordText_iff.mpr ⟨filled, fun c member => isWord_of_isIdentifierChar (chars c member)⟩

theorem bare_reference {name : String} (named : isName name = true) :
    Token.bare (text (.reference name)) = .reference name := by
  have bare_eq := Token.bare_referenceText name.toList
  rwa [if_pos (isWordText_name named), String.ofList_toList] at bare_eq

theorem decode_eq_unquoted {more : List Char} (writable : isWritable v = true) (text_eq : text v = c :: more)
    (no_quote : Literal.isQuote c = false) (no_bracket : ¬ Literal.IsBracket c) (isInteger : Bool) :
    Token.decode isInteger (text v) = Token.unquoted isInteger (text v) := by
  have trimmed := trim_text writable
  rw [text_eq] at trimmed ⊢
  exact Token.decode_unquoted trimmed no_quote no_bracket

theorem decode_eq_bare {more : List Char} (writable : isWritable v = true) (text_eq : text v = c :: more)
    (letter : c = 't' ∨ c = 'f' ∨ c = '$') (isInteger : Bool) :
    Token.decode isInteger (text v) = .ok (Token.bare (text v)) := by
  rcases letter with rfl | rfl | rfl
  all_goals
    rw [decode_eq_unquoted writable text_eq (by decide) (by simp [Literal.IsBracket]), text_eq]
    exact Token.unquoted_eq_bare (by decide) (by decide) (by decide) (by decide)

/-- A token is read as the value that it was written for, whether or not its parameter is declared an
integer. -/
theorem decode_text (writable : isWritable v = true) (sorted : v.Sorted) (not_null : v ≠ .null)
    (isInteger : Bool) : Token.decode isInteger (text v) = .ok v := by
  have trimmed := trim_text writable
  have literal := decode_literal writable sorted
  cases v with
  | text s => exact Token.decode_quoted trimmed (quotedText_quoted s)
  | integer i =>
      obtain ⟨c, more, text_eq, head⟩ := Json.writeInt_head i
      obtain ⟨no_quote, -, -, no_list, no_mapping⟩ := Literal.number_start (.inr head)
      obtain ⟨negative, sign, digits, parts_eq, signed, filled, toInt_eq⟩ := writeInt_parts i
      rw [decode_eq_unquoted writable text_eq no_quote (not_or.mpr ⟨no_list, no_mapping⟩), text, parts_eq,
        Token.unquoted_digits signed filled, Literal.integer?_eq_some_iff.mpr toInt_eq]
  | double x => cases writable
  | boolean b =>
      cases b with
      | true => exact decode_eq_bare writable rfl (.inl rfl) isInteger
      | false => exact decode_eq_bare writable rfl (.inr (.inl rfl)) isInteger
  | null => exact absurd rfl not_null
  | list items => exact Token.decode_bracketed trimmed ⟨'[', rfl, .inl rfl⟩ literal
  | mapping fields => exact Token.decode_bracketed trimmed ⟨'\x7b', rfl, .inr rfl⟩ literal
  | reference name =>
      rw [decode_eq_bare writable rfl (.inr (.inr rfl)), bare_reference writable]

/-! ### The parameter list -/

theorem separated_eq_intercalate (texts : List (List Char)) : separated texts = [',', ' '].intercalate texts := by
  cases texts with
  | nil => rfl
  | cons first more =>
      rw [separated]
      induction more generalizing first with
      | nil => simp [continued]
      | cons next more ih =>
          rw [continued, ih, List.intercalate_cons_cons, List.append_assoc]
          rfl

theorem split_separated {texts : List (List Char)} (each : ∀ t ∈ texts, Segment.split t = .ok [t]) :
    Segment.split (separated texts) = .ok texts := by
  have blank : ∀ c ∈ [' '], Text.isBlank c = true := List.forall_mem_singleton.mpr rfl
  rw [separated_eq_intercalate]
  exact Segment.split_intercalate blank (List.forall₂_same.mpr each)

theorem text_ne_nil (writable : isWritable v = true) : text v ≠ [] := by
  obtain ⟨c, more, text_eq, -⟩ := text_head writable
  rw [text_eq]
  exact List.cons_ne_nil _ _

theorem split_parameter {key : String} (named : isName key = true) (writable : isWritable v = true)
    (sorted : v.Sorted) : Segment.split (parameter (key, v)) = .ok [parameter (key, v)] :=
  Segment.split_assignment (isWordText_name named) (denotes_text v writable sorted).passes (trim_text writable)
    (text_ne_nil writable)

theorem parameter_assigns {key : String} (schema : Schema) (tool : String) (named : isName key = true)
    (writable : isWritable v = true) (sorted : v.Sorted) (not_null : v ≠ .null) :
    Invocation.Assigns schema tool (parameter (key, v)) (key, v) := by
  have assigns : Invocation.Assigns schema tool (parameter (key, v)) (String.ofList key.toList, v) :=
    .of_word (isWordText_name named) (trim_text writable) (text_ne_nil writable)
      (decode_text writable sorted not_null _)
  rwa [String.ofList_toList] at assigns

theorem newline_not_mem_parameter {key : String} (named : isName key = true)
    (writable : isWritable v = true) : '\n' ∉ parameter (key, v) := by
  simp [parameter, newline_not_mem_name named, newline_not_mem_text v writable]

/-! ### The line -/

/-- Writing a call and reading the line gives the call back, whatever the schema declares and in whichever
order the parameters are written. -/
theorem parse_line (schema : Schema) (writable : Writable i) (order : pairs.Perm i.parameters) :
    Invocation.parse schema (line i.tool pairs) = .ok i := by
  have parameters : ∀ pair ∈ pairs, isName pair.1 = true ∧ isWritable pair.2 = true ∧ pair.2.Sorted ∧
      pair.2 ≠ .null := by
    intro pair member
    have member := order.mem_iff.mp member
    exact ⟨writable.keys pair member, writable.values pair member, writable.values_sorted pair member,
      writable.values_ne_null pair member⟩
  have one_line : '\n' ∉ separated (pairs.map parameter) := by
    apply not_mem_separated (by decide) (by decide)
    intro t member
    obtain ⟨pair, listed, rfl⟩ := List.mem_map.mp member
    exact newline_not_mem_parameter (parameters pair listed).1 (parameters pair listed).2.1
  have cut : Segment.split (separated (pairs.map parameter)) = .ok (pairs.map parameter) := by
    apply split_separated
    intro t member
    obtain ⟨pair, listed, rfl⟩ := List.mem_map.mp member
    obtain ⟨named, value_writable, sorted, -⟩ := parameters pair listed
    exact split_parameter named value_writable sorted
  have assigns : List.Forall₂ (Invocation.Assigns schema (String.ofList i.tool.toList))
      (pairs.map parameter) pairs := by
    rw [List.forall₂_map_left_iff]
    apply List.forall₂_same.mpr
    intro pair listed
    obtain ⟨named, value_writable, sorted, not_null⟩ := parameters pair listed
    exact parameter_assigns schema _ named value_writable sorted not_null
  have different : (pairs.map Prod.fst).Nodup :=
    (order.map Prod.fst).nodup_iff.mpr writable.sorted.nodup_keys
  have read := Invocation.parse_call (isWordText_name writable.tool) one_line cut assigns different
  have stored := Fields.ofList_eq_of_perm order writable.sorted
  rw [String.ofList_toList, stored] at read
  exact read

/-- A call with the least integer, a reference, quotes, brackets, commas and line feeds inside texts and keys,
and `null` inside a mapping, written with its keys in the opposite order. -/
theorem parse_line_of_nested_call :
    let i : Invocation := ⟨"store", [
      ("at", .reference "last_result"),
      ("items", .list [.integer Int64.minValue, .list [],
        .mapping [("it's", .null), ("k\", ]", .text "\\ )\n")]]),
      ("note", .text "a=b, \"c\" (d\n\\")]⟩
    Writable i ∧ i.parameters.reverse.Perm i.parameters ∧
      (line i.tool i.parameters.reverse).toList =
        "store(note=\"a=b, \\\"c\\\" (d\\n\\\\\", ".toList ++
        "items=[-9223372036854775808, [], \x7b\"it's\": null, \"k\\\", ]\": \"\\\\ )\\n\"\x7d], ".toList ++
        "at=$\x7blast_result\x7d)".toList ∧
      Invocation.parse (Schema.empty.declare "store" "items") (line i.tool i.parameters.reverse) = .ok i := by
  intro i
  have writable : Writable i := by
    refine ⟨by decide, ?_, by decide, by decide, ?_, ?_⟩
    · simp only [i, Fields.Sorted]
      decide
    · intro pair member
      simp only [i, List.mem_cons, List.not_mem_nil, or_false] at member
      rcases member with rfl | rfl | rfl
      · trivial
      · have keys_sorted : Fields.Sorted [("it's", Value.null), ("k\", ]", .text "\\ )\n")] := by
          unfold Fields.Sorted
          decide
        exact ⟨trivial, trivial, ⟨keys_sorted, trivial, trivial, trivial⟩, trivial⟩
      · trivial
    · simp [i]
  have order : i.parameters.reverse.Perm i.parameters := List.reverse_perm _
  exact ⟨writable, order, by decide +kernel, parse_line _ writable order⟩

end CallScript.Canonical
