import CallScript.Proofs.Fields
import CallScript.Script.Literal

/-! # The grammar of bracketed literals

The grammar by itself, as a relation between texts and values, and the tokens that it is built from.  Spacing
may stand between tokens and nowhere inside them.

    value    = list | mapping | text | reference | number | keyword
    list     = "[" [value {"," value} [","]] "]"
    mapping  = "{" [entry {"," entry} [","]] "}"
    entry    = (text | name) ":" value

* `Scalar`: the values that hold no other value, kind by kind.
* `Sequence`: what stands between two brackets.  Whether a comma may stand there where there is no element is
  the one choice that is left open (`loneComma`); the lines above are the grammar without it.
* `Denotes`, `Written`: a text denotes a value, by itself and with spacing around it.
* `collected_iff`: the fields of a mapping are what storing its entries one by one comes to.
* `Sequence.exists_element`, `Sequence.exists_value`: what stands between two brackets stands there. -/

namespace CallScript.Literal

/-! ### Tokens -/

/-- Spacing, or nothing. -/
def IsGap (s : List Char) : Prop := ∀ c ∈ s, Text.isSpacing c = true

theorem isGap_space : IsGap [' '] := List.forall_mem_singleton.mpr rfl

/-- What stands between two quotes, and the characters that it stands for. -/
inductive QuotedChars (quote : Char) : List Char → List Char → Prop
  | nil : QuotedChars quote [] []
  | plain {c : Char} {body chars : List Char} (not_quote : c ≠ quote) (not_escape : c ≠ '\\')
      (more : QuotedChars quote body chars) : QuotedChars quote (c :: body) (c :: chars)
  | escape (c : Char) {body chars : List Char} (more : QuotedChars quote body chars) :
      QuotedChars quote ('\\' :: c :: body) (unescape c :: chars)

/-- A text between two quotes of one kind. -/
inductive QuotedText : List Char → String → Prop
  | mk {quote : Char} {body chars : List Char} (quotes : isQuote quote = true)
      (between : QuotedChars quote body chars) :
      QuotedText (quote :: (body ++ [quote])) (String.ofList chars)

theorem QuotedChars.of_plain {quote : Char} {s : List Char} (plain : ∀ c ∈ s, c ≠ quote ∧ c ≠ '\\') :
    QuotedChars quote s s := by
  induction s with
  | nil => exact .nil
  | cons c s ih =>
      obtain ⟨first, others⟩ := List.forall_mem_cons.mp plain
      exact .plain first.1 first.2 (ih others)

/-- Characters of names, at least one. -/
def IsName (s : List Char) : Prop := s ≠ [] ∧ ∀ c ∈ s, isNameChar c = true

/-- Digits, at least one. -/
def IsDigits (s : List Char) : Prop := s ≠ [] ∧ ∀ c ∈ s, Text.isDigit c = true

/-- A sign that may be left out; whether it is a minus. -/
inductive IsSign : List Char → Bool → Prop
  | none : IsSign [] false
  | plus : IsSign ['+'] false
  | minus : IsSign ['-'] true

/-- A fraction that may be left out, and its digits. -/
inductive IsFraction : List Char → List Char → Prop
  | none : IsFraction [] []
  | some {digits : List Char} (filled : IsDigits digits) : IsFraction ('.' :: digits) digits

/-- An exponent that may be left out, its sign and its digits. -/
inductive IsExponent : List Char → Bool → List Char → Prop
  | none : IsExponent [] false []
  | some {mark : Char} {sign digits : List Char} {negative : Bool} (marks : mark = 'e' ∨ mark = 'E')
      (signed : IsSign sign negative) (filled : IsDigits digits) :
      IsExponent (mark :: (sign ++ digits)) negative digits

/-- A number: without fraction and exponent a signed 64-bit integer, otherwise the double nearest to it. -/
inductive Numeral : List Char → Value → Prop
  | integer {sign digits : List Char} {negative : Bool} {i : Int64} (signed : IsSign sign negative)
      (filled : IsDigits digits)
      (toInt_eq : i.toInt =
        if negative then -(Text.digitsToNat digits : Int) else (Text.digitsToNat digits : Int)) :
      Numeral (sign ++ digits) (.integer i)
  | double {sign whole fraction exponent fractionDigits exponentDigits : List Char}
      {negative exponentNegative : Bool} (signed : IsSign sign negative) (filled : IsDigits whole)
      (fractional : IsFraction fraction fractionDigits)
      (exponential : IsExponent exponent exponentNegative exponentDigits)
      (not_plain : fraction ++ exponent ≠ []) :
      Numeral (sign ++ (whole ++ (fraction ++ exponent))) (.double
        (Decimal.ofParts
          ⟨negative, whole, fractionDigits, exponentNegative, exponentDigits⟩).toBinary64)

/-- A keyword: `true` and `false` in any case, `null` and `None` as they stand. -/
inductive Keyword : List Char → Value → Prop
  | trueWord {s : List Char} (same : s.map Char.toLower = ['t', 'r', 'u', 'e']) : Keyword s (.boolean true)
  | falseWord {s : List Char} (same : s.map Char.toLower = ['f', 'a', 'l', 's', 'e']) :
      Keyword s (.boolean false)
  | nullWord : Keyword ['n', 'u', 'l', 'l'] .null
  | noneWord : Keyword ['N', 'o', 'n', 'e'] .null

/-- A value that holds no other value. -/
inductive Scalar : List Char → Value → Prop
  | text {s : List Char} {text : String} (quoted : QuotedText s text) : Scalar s (.text text)
  | reference {name : List Char} (named : IsName name) :
      Scalar ('$' :: '\x7b' :: (name ++ ['\x7d'])) (.reference (String.ofList name))
  | number {s : List Char} {v : Value} (numeral : Numeral s v) : Scalar s v
  | keyword {s : List Char} {v : Value} (word : Keyword s v) : Scalar s v

/-! ### Lists and mappings -/

/-- More elements, each after a comma. -/
inductive Continued {α : Type} (Element : List Char → α → Prop) : List Char → List α → Prop
  | nil : Continued Element [] []
  | cons {gap gap' s t : List Char} {x : α} {xs : List α} (before : IsGap gap) (after : IsGap gap')
      (element : Element s x) (more : Continued Element t xs) :
      Continued Element (gap ++ ',' :: (gap' ++ (s ++ t))) (x :: xs)

/-- Elements with commas between them, or nothing. -/
inductive Series {α : Type} (Element : List Char → α → Prop) : List Char → List α → Prop
  | nil : Series Element [] []
  | cons {s t : List Char} {x : α} {xs : List α} (first : Element s x) (more : Continued Element t xs) :
      Series Element (s ++ t) (x :: xs)

/-- What may stand before a closing bracket: spacing, and where it is allowed one comma. -/
inductive Tail (commaAllowed : Prop) : List Char → Prop
  | gap {gap : List Char} (spacing : IsGap gap) : Tail commaAllowed gap
  | comma {gap gap' : List Char} (allowed : commaAllowed) (before : IsGap gap) (after : IsGap gap') :
      Tail commaAllowed (gap ++ ',' :: gap')

/-- What stands between two brackets.  After an element there may be one more comma; whether that comma may
stand where there is no element is left open. -/
inductive Sequence {α : Type} (loneComma : Bool) (Element : List Char → α → Prop) :
    List Char → List α → Prop
  | mk {gap s tail : List Char} {xs : List α} (spacing : IsGap gap) (elements : Series Element s xs)
      (closing : Tail (xs ≠ [] ∨ loneComma = true) tail) :
      Sequence loneComma Element (gap ++ (s ++ tail)) xs

/-- The key of an entry. -/
inductive Key : List Char → String → Prop
  | text {s : List Char} {text : String} (quoted : QuotedText s text) : Key s text
  | name {s : List Char} (named : IsName s) : Key s (String.ofList s)

/-- A key, a colon and a value. -/
inductive Entry (Element : List Char → Value → Prop) : List Char → String × Value → Prop
  | mk {k gap gap' s : List Char} {key : String} {v : Value} (keyed : Key k key) (before : IsGap gap)
      (after : IsGap gap') (value : Element s v) : Entry Element (k ++ (gap ++ ':' :: (gap' ++ s))) (key, v)

/-- The fields that entries come to: of those with the same key the last one counts. -/
structure Collected (entries fields : List (String × Value)) : Prop where
  sorted : Fields.Sorted fields
  find?_eq : ∀ key, Fields.find? key fields = (entries.filter (·.1 = key)).getLast?.map Prod.snd

/-- A text denotes a value. -/
inductive Denotes (loneComma : Bool) : List Char → Value → Prop
  | scalar {s : List Char} {v : Value} (scalar : Scalar s v) : Denotes loneComma s v
  | list {s : List Char} {items : List Value}
      (between : Sequence loneComma (Denotes loneComma) s items) :
      Denotes loneComma ('[' :: (s ++ [']'])) (.list items)
  | mapping {s : List Char} {entries fields : List (String × Value)}
      (between : Sequence loneComma (Entry (Denotes loneComma)) s entries)
      (collected : Collected entries fields) :
      Denotes loneComma ('\x7b' :: (s ++ ['\x7d'])) (.mapping fields)

/-- A text denotes a value, with spacing around it. -/
inductive Written (loneComma : Bool) : List Char → Value → Prop
  | mk {gap gap' s : List Char} {v : Value} (before : IsGap gap) (after : IsGap gap')
      (denotes : Denotes loneComma s v) : Written loneComma (gap ++ (s ++ gap')) v

theorem Scalar.not_list {s : List Char} {items : List Value} : ¬ Scalar s (.list items) := by
  intro kind
  cases kind with
  | number numeral => cases numeral
  | keyword word => cases word

theorem Scalar.not_mapping {s : List Char} {fields : List (String × Value)} : ¬ Scalar s (.mapping fields) := by
  intro kind
  cases kind with
  | number numeral => cases numeral
  | keyword word => cases word

theorem Series.sequence {α : Type} {loneComma : Bool} {Element : List Char → α → Prop} {s : List Char}
    {xs : List α} (elements : Series Element s xs) : Sequence loneComma Element s xs := by
  have between : Sequence loneComma Element ([] ++ (s ++ [])) xs := .mk nofun elements (.gap nofun)
  rwa [List.nil_append, List.append_nil] at between

theorem Denotes.written {loneComma : Bool} {s : List Char} {v : Value} (denotes : Denotes loneComma s v) :
    Written loneComma s v := by
  have written : Written loneComma ([] ++ (s ++ [])) v := .mk nofun nofun denotes
  rwa [List.nil_append, List.append_nil] at written

theorem collected_iff {entries fields : List (String × Value)} :
    Collected entries fields ↔ fields = Fields.ofList entries := by
  constructor
  · rintro ⟨sorted, found⟩
    refine Fields.eq_of_find?_eq sorted (Fields.Sorted.ofList entries) fun key => ?_
    rw [found, Fields.find?_ofList]
  · rintro rfl
    exact ⟨Fields.Sorted.ofList entries, fun key => Fields.find?_ofList key entries⟩

/-! ### Elements -/

section

variable {α : Type} {Element : List Char → α → Prop} {s : List Char} {xs : List α} {loneComma : Bool}

theorem Continued.exists_element (more : Continued Element s xs) : ∀ x ∈ xs, ∃ t, t <:+: s ∧ Element t x := by
  induction more with
  | nil => nofun
  | @cons gap gap' s t _ _ _ _ element _ ih =>
      refine List.forall_mem_cons.mpr ⟨⟨s, ⟨gap ++ ',' :: gap', t, by simp⟩, element⟩, fun x member => ?_⟩
      obtain ⟨u, inside, element⟩ := ih x member
      have later : t <:+: gap ++ ',' :: (gap' ++ (s ++ t)) := ⟨gap ++ ',' :: (gap' ++ s), [], by simp⟩
      exact ⟨u, inside.trans later, element⟩

/-- Each element between two brackets is written there. -/
theorem Sequence.exists_element (between : Sequence loneComma Element s xs) :
    ∀ x ∈ xs, ∃ t, t <:+: s ∧ Element t x := by
  obtain @⟨gap, s, tail, _, _, elements, _⟩ := between
  have inner : s <:+: gap ++ (s ++ tail) := ⟨gap, tail, by simp⟩
  cases elements with
  | nil => nofun
  | @cons s t _ _ first more =>
      refine List.forall_mem_cons.mpr ⟨⟨s, .trans ⟨[], t, by simp⟩ inner, first⟩, fun x member => ?_⟩
      obtain ⟨u, inside, element⟩ := more.exists_element x member
      exact ⟨u, inside.trans (.trans ⟨s, [], by simp⟩ inner), element⟩

/-- Each value of a mapping is written between its brackets: the one under a key is that of the last entry with
this key. -/
theorem Sequence.exists_value {Element : List Char → Value → Prop} {entries fields : List (String × Value)}
    (between : Sequence loneComma (Entry Element) s entries) (collected : Collected entries fields) :
    ∀ field ∈ fields, ∃ t, t <:+: s ∧ Element t field.2 := by
  intro field member
  have found := (Fields.find?_eq_some_iff collected.sorted).mpr member
  rw [collected.find?_eq, Option.map_eq_some_iff] at found
  obtain ⟨entry, last, value_eq⟩ := found
  obtain ⟨u, inside, written⟩ := between.exists_element entry (List.mem_filter.mp (List.mem_of_getLast? last)).1
  obtain @⟨k, gap, gap', t, _, _, _, _, _, element⟩ := written
  rw [← value_eq]
  exact ⟨t, .trans ⟨k ++ (gap ++ ':' :: gap'), [], by simp⟩ inside, element⟩

end

end CallScript.Literal
