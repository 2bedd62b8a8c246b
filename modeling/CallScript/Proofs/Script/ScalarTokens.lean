import CallScript.Proofs.Script.Grammar
import CallScript.Proofs.Script.Tokens

/-! # Scalars alone and inside a list

Integers, booleans, quoted texts and references can be written as the value of a parameter and as an item of a
list.  Two readers take them apart, `Token.decode` and the reader of literals, and they agree on all of them but
one kind: which characters the name in a reference may consist of (`alone_iff_in_list`).  Alone it is a word, in
a list it consists of name characters, and neither class contains the other beyond ASCII
(`names_alone_and_in_lists`).

* `Stands.decode_singleton_iff`: a list of one scalar is read as the list of its value.
* `decode_reference_iff`, `scalar_reference_iff`: references, alone and in a list.
* `Agrees`: what the readers do with all other tokens. -/

namespace CallScript.Token

open Literal (IsBracket IsSign IsDigits IsName Keyword QuotedText Scalar Denotes isQuote)

variable {t name sign digits : List Char} {c : Char} {negative : Bool} {v : Value}

/-! ### The tokens -/

/-- A reference as it is written. -/
def referenceText (name : List Char) : List Char := '$' :: '\x7b' :: (name ++ ['\x7d'])

/-- The scalars that can be written alone and inside a list: digits with or without a sign, `true` and `false`
in any case, quoted texts, and references, whatever stands between their braces. -/
inductive ScalarToken : List Char → Prop
  | integer {sign digits : List Char} {negative : Bool} (signed : IsSign sign negative) (filled : IsDigits digits) :
      ScalarToken (sign ++ digits)
  | boolean {t : List Char} {b : Bool} (word : Keyword t (.boolean b)) : ScalarToken t
  | quoted {t : List Char} {s : String} (quoted : QuotedText t s) : ScalarToken t
  | reference (name : List Char) : ScalarToken (referenceText name)

/-! ### Lists of one item -/

/-- The list with a token as its one item. -/
def singleton (t : List Char) : List Char := '[' :: (t ++ [']'])

/-- A token with characters of its own at both ends: no blank, no bracket before it and no comma after it. -/
structure Stands (t : List Char) : Prop where
  first : ∃ c ∈ t.head?, Text.isBlank c = false ∧ ¬ IsBracket c
  last : ∀ c ∈ t.getLast?, Text.isBlank c = false ∧ c ≠ ','

theorem Stands.trim_eq (h : Stands t) : Text.trim t = t := by
  obtain ⟨c, head, not_blank, -⟩ := h.first
  apply Text.trim_eq_self
  · intro d head'
    rwa [Option.mem_unique head' head]
  · exact fun d last => (h.last d last).1

theorem not_isSpacing_of_not_isBlank (not_blank : Text.isBlank c = false) : Text.isSpacing c = false := by
  apply Bool.eq_false_iff.mpr
  intro spacing
  rw [Literal.isBlank_of_isSpacing spacing] at not_blank
  cases not_blank

theorem gap_eq_nil {gap : List Char} (spacing : Literal.IsGap gap)
    (last : ∀ c ∈ gap.getLast?, Text.isSpacing c = false) : gap = [] := by
  rcases List.eq_nil_or_concat gap with rfl | ⟨init, c, rfl⟩
  · rfl
  · have space := spacing c (by simp)
    rw [last c (by simp)] at space
    cases space

/-- Nothing stands before a closing bracket but the last item, if that does not end with spacing or a comma. -/
theorem tail_eq_nil {p : Prop} {tail : List Char} (closing : Literal.Tail p tail)
    (last : ∀ c ∈ tail.getLast?, Text.isSpacing c = false ∧ c ≠ ',') : tail = [] := by
  cases closing with
  | gap spacing => exact gap_eq_nil spacing fun c member => (last c member).1
  | @comma gap gap' _ _ after =>
      have no_gap : gap' = [] := gap_eq_nil after fun c member =>
        (last c (by rw [List.getLast?_append, List.getLast?_cons, Option.mem_def.mp member]; rfl)).1
      subst no_gap
      exact absurd rfl (last ',' (by simp)).2

theorem sequence_of_singleton (read : Literal.decode (singleton t) = .ok (.list [v])) :
    Literal.Sequence true (Denotes true) t [v] := by
  obtain ⟨s, gap, whole, spacing, denotes, -⟩ := Literal.exists_literal read ⟨'[', rfl, .inl rfl⟩
  have no_gap : gap = [] := by
    apply gap_eq_nil spacing
    intro c member
    have last : c ∈ (('[' :: t) ++ [']']).getLast? := by
      have closed : singleton t = ('[' :: t) ++ [']'] := rfl
      rw [← closed, whole, List.getLast?_append, Option.mem_def.mp member]
      rfl
    rw [List.getLast?_concat] at last
    cases last
    decide
  rw [no_gap, List.append_nil] at whole
  rw [← whole] at denotes
  generalize same : singleton t = text at denotes
  cases denotes with
  | scalar kind => exact absurd kind Scalar.not_list
  | list between =>
      rw [singleton, List.cons.injEq] at same
      rwa [List.append_cancel_right same.2]

theorem Stands.scalar_of_sequence (h : Stands t) (between : Literal.Sequence true (Denotes true) t [v]) :
    Scalar t v := by
  obtain @⟨gap, s, tail, _, spacing, elements, closing⟩ := between
  obtain _ | @⟨item, _, _, _, item_denotes, more⟩ := elements
  cases more
  obtain ⟨c, head, not_blank, no_bracket⟩ := h.first
  have no_tail : tail = [] := by
    apply tail_eq_nil closing
    intro d member
    have last := h.last d (by simp [List.getLast?_append, Option.mem_def.mp member])
    exact ⟨not_isSpacing_of_not_isBlank last.1, last.2⟩
  have no_gap : gap = [] := by
    cases gap with
    | nil => rfl
    | cons d gap =>
        cases head
        have blank := Literal.isBlank_of_isSpacing (spacing _ List.mem_cons_self)
        rw [not_blank] at blank
        cases blank
  subst no_tail no_gap
  rw [List.append_nil, List.append_nil, List.nil_append] at head ⊢
  cases item_denotes with
  | scalar kind => exact kind
  | list _ =>
      cases head
      exact absurd (.inl rfl) no_bracket
  | mapping _ _ =>
      cases head
      exact absurd (.inr rfl) no_bracket

/-- A list of one token is read as a list of one value if the token is a scalar with this value. -/
theorem Stands.decode_singleton_iff (h : Stands t) :
    Literal.decode (singleton t) = .ok (.list [v]) ↔ Scalar t v := by
  constructor
  · exact fun read => h.scalar_of_sequence (sequence_of_singleton read)
  · intro scalar
    have series : Literal.Series (Denotes true) (t ++ []) [v] := .cons (.scalar scalar) .nil
    rw [List.append_nil] at series
    exact Literal.decode_of_written (Denotes.list series.sequence).written

theorem scalar_iff : Scalar t v ↔ Literal.scalar t = .ok (v, []) := by
  constructor
  · intro scalar
    have read := Literal.scalar_append scalar .nil
    rwa [List.append_nil] at read
  · intro read
    obtain ⟨s, rfl, scalar⟩ := Literal.reads_scalar read
    rwa [List.append_nil]

/-! ### Integers, booleans and quoted texts -/

/-- A token has the same values alone and in a list, and is no reference. -/
structure Agrees (t : List Char) : Prop where
  stands : Stands t
  same : ∀ v, decode false t = .ok v ↔ Scalar t v
  no_reference : ∀ name, t ≠ referenceText name

theorem ne_referenceText (no_dollar : c ≠ '$') (more name : List Char) : c :: more ≠ referenceText name :=
  fun same => no_dollar (List.cons.inj same).1

theorem scalar_digits (signed : IsSign sign negative) (filled : IsDigits digits) :
    Literal.scalar (sign ++ digits) = match Literal.integer? negative digits with
      | some i => .ok (.integer i, [])
      | none => .error (.outOfRange (sign ++ digits)) := by
  obtain ⟨c, more, token_eq, start⟩ := Literal.signed_digits_head signed filled []
  have cut : Literal.sign (sign ++ (digits ++ [])) = (negative, digits ++ []) :=
    Literal.sign_append signed filled
  have span : Text.spanOf Text.isDigit (digits ++ []) = (digits, []) := Literal.digits_append filled nofun
  rw [List.append_nil] at token_eq cut span
  obtain ⟨no_quote, no_dollar, -⟩ := Literal.number_start start
  have no_text := Literal.quotedText_mismatch no_quote more
  have no_reference := Literal.reference?_eq_none no_dollar more
  rw [← token_eq] at no_text no_reference
  cases read : Literal.integer? negative digits with
  | none =>
      simp [Literal.scalar, no_text, no_reference, Literal.number, cut, span, filled.1, Literal.fraction,
        Literal.exponent, read]
  | some i =>
      simp [Literal.scalar, no_text, no_reference, Literal.number, cut, span, filled.1, Literal.fraction,
        Literal.exponent, read]

theorem agrees_integer (signed : IsSign sign negative) (filled : IsDigits digits) : Agrees (sign ++ digits) := by
  obtain ⟨c, more, token_eq, start⟩ := Literal.signed_digits_head signed filled []
  rw [List.append_nil] at token_eq
  obtain ⟨no_quote, no_dollar, -, no_list, no_mapping⟩ := Literal.number_start start
  have no_bracket : ¬ IsBracket c := not_or.mpr ⟨no_list, no_mapping⟩
  have not_blank : Text.isBlank c = false := by
    rcases start with rfl | rfl | digit
    · decide
    · decide
    · exact Text.not_isBlank_of_isDigit digit
  have stands : Stands (sign ++ digits) := by
    refine ⟨⟨c, token_eq ▸ rfl, not_blank, no_bracket⟩, fun d last => ?_⟩
    rw [List.getLast?_append_of_ne_nil _ filled.1] at last
    have digit := filled.2 d (List.mem_of_getLast? last)
    refine ⟨Text.not_isBlank_of_isDigit digit, ?_⟩
    rintro rfl
    cases digit
  refine ⟨stands, fun v => ?_, fun name => token_eq ▸ ne_referenceText no_dollar more name⟩
  have alone : decode false (sign ++ digits) = unquoted false (sign ++ digits) := by
    have trimmed := stands.trim_eq
    rw [token_eq] at trimmed ⊢
    exact decode_unquoted trimmed no_quote no_bracket
  rw [alone, unquoted_digits signed filled, scalar_iff, scalar_digits signed filled]
  cases Literal.integer? negative digits with
  | none => simp
  | some i => simp

theorem stands_letter (letter : c.toLower ∈ ['t', 'r', 'u', 'e'] ++ ['f', 'a', 'l', 's', 'e']) :
    Text.isBlank c = false ∧ c ≠ ',' := by
  constructor
  · apply Bool.eq_false_iff.mpr
    intro blank
    have no_letter : ∀ n ∈ Text.blankPoints,
        (Char.ofNat n).toLower ∉ ['t', 'r', 'u', 'e'] ++ ['f', 'a', 'l', 's', 'e'] := by decide +kernel
    have outside := no_letter c.toNat (Text.mem_blankPoints blank)
    rw [Char.ofNat_toNat] at outside
    exact outside letter
  · rintro rfl
    exact absurd letter (by decide)

theorem agrees_boolean {b : Bool} (word : Keyword t (.boolean b)) : Agrees t := by
  have letters : ∀ c ∈ t, c.toLower ∈ ['t', 'r', 'u', 'e'] ++ ['f', 'a', 'l', 's', 'e'] := by
    intro c member
    have lower := List.mem_map_of_mem (f := Char.toLower) member
    cases word with
    | trueWord same => exact List.mem_append_left _ (same ▸ lower)
    | falseWord same => exact List.mem_append_right _ (same ▸ lower)
  have bare_eq : bare t = .boolean b := by
    cases word with
    | trueWord same => simp [bare, Text.eqIgnoringCase, same]
    | falseWord same => simp [bare, Text.eqIgnoringCase, same]
  have scalar : Scalar t (.boolean b) := .keyword word
  obtain ⟨c, more, rfl, alpha⟩ := word.head
  obtain ⟨start, -, no_list, no_mapping⟩ := Literal.keyword_start alpha
  simp only [Bool.or_eq_false_iff, decide_eq_false_iff_not] at start
  obtain ⟨⟨⟨⟨no_quote, no_digit⟩, no_dollar⟩, no_plus⟩, no_minus⟩ := start
  have no_bracket : ¬ IsBracket c := not_or.mpr ⟨no_list, no_mapping⟩
  have no_point : c ≠ '.' := by
    rintro rfl
    cases alpha
  have stands : Stands (c :: more) :=
    ⟨⟨c, rfl, (stands_letter (letters c List.mem_cons_self)).1, no_bracket⟩,
      fun d last => stands_letter (letters d (List.mem_of_getLast? last))⟩
  refine ⟨stands, fun v => ?_, ne_referenceText no_dollar more⟩
  rw [decode_unquoted stands.trim_eq no_quote no_bracket, unquoted_eq_bare no_plus no_minus no_point no_digit,
    bare_eq, scalar_iff, scalar_iff.mp scalar]
  simp

theorem agrees_quoted {s : String} (quoted : QuotedText t s) : Agrees t := by
  have scalar : Scalar t (.text s) := .text quoted
  have ends : ∃ quote body, t = quote :: (body ++ [quote]) ∧ isQuote quote = true := by
    obtain @⟨quote, body, chars, quotes, -⟩ := quoted
    exact ⟨quote, body, rfl, quotes⟩
  obtain ⟨quote, body, rfl, quotes⟩ := ends
  have not_blank : Text.isBlank quote = false ∧ quote ≠ ',' ∧ quote ≠ '$' ∧ ¬ IsBracket quote := by
    unfold IsBracket
    rcases Literal.isQuote_cases quotes with rfl | rfl <;> decide
  obtain ⟨not_blank, no_comma, no_dollar, no_bracket⟩ := not_blank
  have stands : Stands (quote :: (body ++ [quote])) := by
    refine ⟨⟨quote, rfl, not_blank, no_bracket⟩, fun c last => ?_⟩
    rw [← List.cons_append, List.getLast?_concat] at last
    cases last
    exact ⟨not_blank, no_comma⟩
  refine ⟨stands, fun v => ?_, ne_referenceText no_dollar _⟩
  rw [decode_quoted stands.trim_eq quoted, scalar_iff, scalar_iff.mp scalar]
  simp

/-! ### References -/

theorem stands_referenceText (name : List Char) : Stands (referenceText name) := by
  refine ⟨⟨'$', rfl, by decide, by simp [IsBracket]⟩, fun c last => ?_⟩
  have closed : referenceText name = ('$' :: '\x7b' :: name) ++ ['\x7d'] := rfl
  rw [closed, List.getLast?_concat] at last
  cases last
  decide

theorem referenceText_inj {other : List Char} (same : referenceText name = referenceText other) : name = other :=
  List.append_cancel_right (List.cons.inj (List.cons.inj same).2).2

theorem referenced?_referenceText (name : List Char) :
    referenced? (referenceText name) = if Segment.isWordText name = true then some name else none := by
  by_cases word : Segment.isWordText name = true
  · obtain ⟨filled, chars⟩ := Invocation.isWordText_iff.mp word
    have span : Text.spanOf Text.isWord (name ++ ['\x7d']) = (name, ['\x7d']) :=
      Text.spanOf_append_cons chars (by decide) []
    obtain ⟨c, more, rfl⟩ := List.exists_cons_of_ne_nil filled
    simp only [referenced?, referenceText, span, word, if_true]
  · rw [if_neg word]
    simp only [referenced?, referenceText]
    split
    · rfl
    next found filled span =>
      -- a name that ends where the closing brace stands is all of the text before it
      obtain ⟨whole, chars, -⟩ := Text.spanOf_eq_iff.mp span
      cases List.append_cancel_right whole
      have is_word := Invocation.isWordText_iff.mpr ⟨filled, chars⟩
      exact absurd is_word word
    · rfl

theorem bare_referenceText (name : List Char) : bare (referenceText name) =
    if Segment.isWordText name = true then .reference (String.ofList name)
    else .text (String.ofList (referenceText name)) := by
  have no_boolean : Text.eqIgnoringCase (referenceText name) ['t', 'r', 'u', 'e'] = false ∧
      Text.eqIgnoringCase (referenceText name) ['f', 'a', 'l', 's', 'e'] = false := by
    simp [Text.eqIgnoringCase, referenceText]
  rw [bare, no_boolean.1, no_boolean.2, referenced?_referenceText]
  by_cases word : Segment.isWordText name = true
  · simp [word]
  · simp [word]

/-- Alone, a token is a reference if there is a word between its braces, and a text otherwise. -/
theorem decode_reference_iff (no_text : ∀ s, v ≠ .text s) : decode false (referenceText name) = .ok v ↔
    Segment.isWordText name = true ∧ v = .reference (String.ofList name) := by
  have trimmed := (stands_referenceText name).trim_eq
  have alone : decode false (referenceText name) = .ok (bare (referenceText name)) := by
    rw [referenceText] at trimmed ⊢
    rw [decode_unquoted trimmed (by decide) (by simp [IsBracket]),
      unquoted_eq_bare (by decide) (by decide) (by decide) (by decide)]
  rw [alone, bare_referenceText, Except.ok.injEq]
  by_cases word : Segment.isWordText name = true
  · simp [word, eq_comm]
  · simp [word, (no_text _).symm]

theorem decode_reference (word : Segment.isWordText name = true) :
    decode false (referenceText name) = .ok (.reference (String.ofList name)) := by
  have no_text : ∀ s, Value.reference (String.ofList name) ≠ .text s := fun _ => nofun
  exact (decode_reference_iff no_text).mpr ⟨word, rfl⟩

/-- In a list it is one if there is a name between its braces, and nothing otherwise. -/
theorem scalar_reference_iff : Scalar (referenceText name) v ↔ IsName name ∧ v = .reference (String.ofList name) := by
  constructor
  · intro scalar
    generalize same : referenceText name = t at scalar
    cases scalar with
    | text quoted => exact absurd same.symm ((agrees_quoted quoted).no_reference name)
    | @reference other named =>
        cases referenceText_inj same
        exact ⟨named, rfl⟩
    | number numeral =>
        obtain ⟨c, more, rfl, start⟩ := numeral.head
        exact absurd same.symm (ne_referenceText (Literal.number_start start).2.1 more name)
    | keyword word =>
        obtain ⟨c, more, rfl, alpha⟩ := word.head
        have no_dollar : c ≠ '$' := by
          rintro rfl
          cases alpha
        exact absurd same.symm (ne_referenceText no_dollar more name)
  · rintro ⟨named, rfl⟩
    exact .reference named

/-- The two classes of names are the same for ASCII texts. -/
theorem isWordText_iff_isName (ascii : ∀ c ∈ name, c.toNat < 128) : Segment.isWordText name = true ↔ IsName name := by
  have same : ∀ c ∈ name, Text.isWord c = Literal.isNameChar c := fun c member => Text.isWord_ascii (ascii c member)
  rw [Invocation.isWordText_iff, IsName]
  refine and_congr_right fun _ => forall₂_congr fun c member => ?_
  rw [same c member]

/-! ### All scalars -/

theorem ScalarToken.agrees_or_reference (scalar : ScalarToken t) : Agrees t ∨ ∃ name, t = referenceText name := by
  cases scalar with
  | integer signed filled => exact .inl (agrees_integer signed filled)
  | boolean word => exact .inl (agrees_boolean word)
  | quoted quoted => exact .inl (agrees_quoted quoted)
  | reference name => exact .inr ⟨name, rfl⟩

/-- A scalar is read as the same value alone and as the one item of a list, except for a reference between
whose braces stands a word that is no name or a name that is no word.  Among ASCII texts there is no such
exception.  (A value that is a text counts for quoted texts only: alone, anything can be a text without
quotes.) -/
theorem alone_iff_in_list (scalar : ScalarToken t) (typed : (∃ s, v = .text s) → ∃ s, QuotedText t s) :
    ((decode false t = .ok v ↔ Literal.decode (singleton t) = .ok (.list [v])) ↔
      ∀ name, t = referenceText name → v = .reference (String.ofList name) →
        (Segment.isWordText name = true ↔ IsName name)) ∧
      ((∀ c ∈ t, c.toNat < 128) →
        (decode false t = .ok v ↔ Literal.decode (singleton t) = .ok (.list [v]))) := by
  rcases scalar.agrees_or_reference with agrees | ⟨name, rfl⟩
  · have same : decode false t = .ok v ↔ Literal.decode (singleton t) = .ok (.list [v]) := by
      rw [agrees.stands.decode_singleton_iff, agrees.same]
    exact ⟨⟨fun _ name reference => absurd reference (agrees.no_reference name), fun _ => same⟩, fun _ => same⟩
  · have no_text : ∀ s, v ≠ .text s := by
      intro s is_text
      obtain ⟨s', quoted⟩ := typed ⟨s, is_text⟩
      exact (agrees_quoted quoted).no_reference name rfl
    rw [(stands_referenceText name).decode_singleton_iff, decode_reference_iff no_text, scalar_reference_iff]
    have exact_iff : ((Segment.isWordText name = true ∧ v = .reference (String.ofList name)) ↔
        (IsName name ∧ v = .reference (String.ofList name))) ↔
        ∀ other, referenceText name = referenceText other → v = .reference (String.ofList other) →
          (Segment.isWordText other = true ↔ IsName other) := by
      rw [and_congr_left_iff]
      constructor
      · intro same other text_eq value_eq
        cases referenceText_inj text_eq
        exact same value_eq
      · exact fun same value_eq => same name rfl value_eq
    refine ⟨exact_iff, fun ascii => and_congr_left fun _ => isWordText_iff_isName fun c member => ?_⟩
    exact ascii c (List.mem_cons_of_mem _ (List.mem_cons_of_mem _ (List.mem_append_left _ member)))

/-- A reference to the last result is the same in both places. -/
theorem last_result_alone_and_in_list :
    let t := referenceText "last_result".toList
    ScalarToken t ∧ decode false t = .ok (.reference "last_result") ∧
      Literal.decode (singleton t) = .ok (.list [.reference "last_result"]) := by
  intro t
  have alone : decode false t = .ok (.reference "last_result") :=
    decode_reference (by decide)
  have ascii : ∀ c ∈ t, c.toNat < 128 :=
    fun c member => of_decide_eq_true (List.all_eq_true.mp (rfl : t.all (·.toNat < 128) = true) c member)
  have same := (alone_iff_in_list (t := t) (v := .reference "last_result") (.reference _) nofun).2 ascii
  exact ⟨.reference _, alone, same.mp alone⟩

/-- A name with a combining mark is a word, and can be referred to alone only; one with a superscript digit
is none, and can be referred to in lists only. -/
theorem names_alone_and_in_lists :
    let marked := referenceText ['e', '\u0301']
    let raised := referenceText ['\u00b2']
    ScalarToken marked ∧ decode false marked = .ok (.reference "e\u0301") ∧
      Literal.decode (singleton marked) ≠ .ok (.list [.reference "e\u0301"]) ∧
      ScalarToken raised ∧ Literal.decode (singleton raised) = .ok (.list [.reference "\u00b2"]) ∧
      decode false raised ≠ .ok (.reference "\u00b2") := by
  intro marked raised
  have classes : Segment.isWordText ['e', '\u0301'] = true ∧ Literal.isNameChar '\u0301' = false ∧
      Segment.isWordText ['\u00b2'] = false ∧ Literal.isNameChar '\u00b2' = true := by decide +kernel
  obtain ⟨marked_word, marked_name, raised_word, raised_name⟩ := classes
  refine ⟨.reference _, decode_reference marked_word, fun listed => ?_, .reference _, ?_, fun alone => ?_⟩
  · have scalar := (stands_referenceText _).decode_singleton_iff.mp listed
    have named := (scalar_reference_iff.mp scalar).1
    rw [named.2 '\u0301' (by decide)] at marked_name
    cases marked_name
  · have named : IsName ['\u00b2'] := by
      refine ⟨by decide, fun c member => ?_⟩
      cases List.mem_singleton.mp member
      exact raised_name
    exact (stands_referenceText _).decode_singleton_iff.mpr (.reference named)
  · have no_text : ∀ s, Value.reference "\u00b2" ≠ .text s := fun _ => nofun
    have word := ((decode_reference_iff no_text).mp alone).1
    rw [raised_word] at word
    cases word

end CallScript.Token
