import CallScript.Proofs.Json.Tokens
import CallScript.Proofs.Script.LiteralReading

/-! # Values in canonical notation

The notation in which a value is written down: integers in decimal, texts in double quotes with backslashes,
double quotes and line feeds escaped, lists and mappings in brackets, keys of mappings quoted.  `isWritable`
are the values that it serves: those without doubles, with references to plain names.

* `denotes_text`: a value in canonical notation is one of the grammar of literals, so it is read back.
* `newline_not_mem_text`: it stands on one line. -/

namespace CallScript.Canonical

/-! ### The notation -/

/-- One character inside a quoted text. -/
def escaped (c : Char) : List Char :=
  if c = '\\' then ['\\', '\\'] else if c = '"' then ['\\', '"'] else if c = '\n' then ['\\', 'n'] else [c]

/-- A text in double quotes. -/
def quoted (s : String) : List Char := '"' :: (s.toList.flatMap escaped ++ ['"'])

/-- Texts with a comma and a space before each of them. -/
def continued : List (List Char) → List Char
  | [] => []
  | next :: more => ',' :: ' ' :: (next ++ continued more)

/-- Texts with a comma and a space between them. -/
def separated : List (List Char) → List Char
  | [] => []
  | first :: more => first ++ continued more

mutual

/-- A value in canonical notation. -/
def text : Value → List Char
  | .text s => quoted s
  | .integer i => Json.writeInt i.toInt
  | .double x => Layout.scientificBeyond.write x
  | .boolean true => ['t', 'r', 'u', 'e']
  | .boolean false => ['f', 'a', 'l', 's', 'e']
  | .null => ['n', 'u', 'l', 'l']
  | .list items => '[' :: (separated (itemTexts items) ++ [']'])
  | .mapping fields => '\x7b' :: (separated (entryTexts fields) ++ ['\x7d'])
  | .reference name => '$' :: '\x7b' :: (name.toList ++ ['\x7d'])

/-- The items of a list. -/
def itemTexts : List Value → List (List Char)
  | [] => []
  | item :: rest => text item :: itemTexts rest

/-- The entries of a mapping. -/
def entryTexts : List (String × Value) → List (List Char)
  | [] => []
  | (key, value) :: rest => (quoted key ++ ':' :: ' ' :: text value) :: entryTexts rest

end

/-- ASCII letters, digits and the underscore. -/
def isIdentifierChar (c : Char) : Bool := Text.isAsciiAlphanumeric c || c = '_'

/-- Whether a text is a name: not empty, and of such characters only. -/
def isName (s : String) : Bool := !s.toList.isEmpty && s.toList.all isIdentifierChar

mutual

/-- Whether a value has a canonical notation: no double at any depth, and only references to names. -/
def isWritable : Value → Bool
  | .double _ => false
  | .list items => allWritable items
  | .mapping fields => allFieldsWritable fields
  | .reference name => isName name
  | _ => true

/-- Whether all items have one. -/
def allWritable : List Value → Bool
  | [] => true
  | item :: rest => isWritable item && allWritable rest

/-- Whether the values of all fields have one. -/
def allFieldsWritable : List (String × Value) → Bool
  | [] => true
  | (_, value) :: rest => isWritable value && allFieldsWritable rest

end

variable {c : Char} {rest digits : List Char}

/-! ### Quoted texts -/

theorem quotedChars_escaped (s : List Char) : Literal.QuotedChars '"' (s.flatMap escaped) s := by
  induction s with
  | nil => exact .nil
  | cons c s ih =>
      rw [List.flatMap_cons, escaped]
      by_cases backslash : c = '\\'
      · subst backslash
        exact .escape '\\' ih
      by_cases quote : c = '"'
      · subst quote
        exact .escape '"' ih
      by_cases feed : c = '\n'
      · subst feed
        exact .escape 'n' ih
      rw [if_neg backslash, if_neg quote, if_neg feed]
      exact .plain quote backslash ih

theorem quotedText_quoted (s : String) : Literal.QuotedText (quoted s) s := by
  have text : Literal.QuotedText (quoted s) (String.ofList s.toList) := .mk rfl (quotedChars_escaped s.toList)
  rwa [String.ofList_toList] at text

theorem newline_not_mem_quoted (s : String) : '\n' ∉ quoted s := by
  have no_feed : ∀ c ∈ s.toList, '\n' ∉ escaped c := by
    intro c _
    unfold escaped
    split
    · decide
    · split
      · decide
      · split
        · decide
        next not_feed => simpa using Ne.symm not_feed
  simpa [quoted] using no_feed

/-! ### Names -/

theorem toNat_lt_of_isIdentifierChar (h : isIdentifierChar c = true) : c.toNat < 128 := by
  simp only [isIdentifierChar, Text.isAsciiAlphanumeric, Bool.or_eq_true, Bool.and_eq_true,
    decide_eq_true_eq] at h
  rcases h with ((⟨-, high⟩ | ⟨-, high⟩) | ⟨-, high⟩) | rfl
  · exact Nat.lt_of_le_of_lt high (by decide)
  · exact Nat.lt_of_le_of_lt high (by decide)
  · exact Nat.lt_of_le_of_lt high (by decide)
  · decide

theorem isWord_of_isIdentifierChar (h : isIdentifierChar c = true) : Text.isWord c = true := by
  rw [Text.isWord, if_pos (toNat_lt_of_isIdentifierChar h)]
  exact h

theorem isNameChar_of_isIdentifierChar (h : isIdentifierChar c = true) : Literal.isNameChar c = true := by
  rw [Literal.isNameChar, Text.isAlphanumeric, if_pos (toNat_lt_of_isIdentifierChar h)]
  exact h

theorem isName_iff {s : String} :
    isName s = true ↔ s.toList ≠ [] ∧ ∀ c ∈ s.toList, isIdentifierChar c = true := by
  simp [isName]

theorem newline_not_mem_name {name : String} (named : isName name = true) : '\n' ∉ name.toList := by
  intro member
  cases (isName_iff.mp named).2 _ member

theorem literal_isName {name : String} (named : isName name = true) : Literal.IsName name.toList := by
  obtain ⟨filled, chars⟩ := isName_iff.mp named
  exact ⟨filled, fun c member => isNameChar_of_isIdentifierChar (chars c member)⟩

/-! ### Integers -/

theorem writeInt_parts (i : Int64) : ∃ negative sign digits, Json.writeInt i.toInt = sign ++ digits ∧
    Literal.IsSign sign negative ∧ Literal.IsDigits digits ∧ i.toInt =
      if negative then -(Text.digitsToNat digits : Int) else (Text.digitsToNat digits : Int) := by
  have filled : Literal.IsDigits (Nat.toDigits 10 i.toInt.natAbs) :=
    ⟨Nat.toDigits_ne_nil, fun _ => Text.isDigit_of_mem_toDigits⟩
  by_cases below : i.toInt < 0
  · refine ⟨true, ['-'], _, by rw [Json.writeInt, if_pos below]; rfl, .minus, filled, ?_⟩
    rw [if_pos rfl, Text.digitsToNat_toDigits]
    omega
  · refine ⟨false, [], _, by rw [Json.writeInt, if_neg below]; rfl, .none, filled, ?_⟩
    rw [if_neg Bool.false_ne_true, Text.digitsToNat_toDigits]
    omega

/-! ### First and last characters -/

theorem text_head : ∀ {v : Value}, isWritable v = true → ∃ c more, text v = c :: more ∧
    (c ∈ ['"', '-', '$', 't', 'f', 'n', '[', '\x7b'] ∨ Text.isDigit c = true)
  | .text s, _ => ⟨'"', _, rfl, .inl (by decide)⟩
  | .integer i, _ => by
      obtain ⟨c, more, text_eq, head⟩ := Json.writeInt_head i
      refine ⟨c, more, text_eq, ?_⟩
      rcases head with rfl | digit
      · exact .inl (by decide)
      · exact .inr digit
  | .boolean true, _ => ⟨'t', _, rfl, .inl (by decide)⟩
  | .boolean false, _ => ⟨'f', _, rfl, .inl (by decide)⟩
  | .null, _ => ⟨'n', _, rfl, .inl (by decide)⟩
  | .list items, _ => ⟨'[', _, rfl, .inl (by decide)⟩
  | .mapping fields, _ => ⟨'\x7b', _, rfl, .inl (by decide)⟩
  | .reference name, _ => ⟨'$', _, rfl, .inl (by decide)⟩
  | .double x, h => by cases h

theorem text_head_not_blank {v : Value} (writable : isWritable v = true) :
    ∀ c ∈ (text v).head?, Text.isBlank c = false := by
  intro c head
  obtain ⟨d, more, text_eq, first⟩ := text_head writable
  rw [text_eq] at head
  cases head
  rcases first with one_of | digit
  · simp only [List.mem_cons, List.not_mem_nil, or_false] at one_of
    rcases one_of with rfl | rfl | rfl | rfl | rfl | rfl | rfl | rfl <;> decide
  · exact Text.not_isBlank_of_isDigit digit

/-! ### Values are read back -/

mutual

/-- A value in canonical notation is one of the grammar of literals. -/
theorem denotes_text : ∀ (v : Value), isWritable v = true → v.Sorted → Literal.Denotes false (text v) v
  | .text s, _, _ => .scalar (.text (quotedText_quoted s))
  | .integer i, _, _ => by
      obtain ⟨negative, sign, digits, text_eq, signed, filled, toInt_eq⟩ := writeInt_parts i
      rw [text, text_eq]
      exact .scalar (.number (.integer signed filled toInt_eq))
  | .boolean true, _, _ => .scalar (.keyword (.trueWord (by decide)))
  | .boolean false, _, _ => .scalar (.keyword (.falseWord (by decide)))
  | .null, _, _ => .scalar (.keyword .nullWord)
  | .reference name, named, _ => by
      have denotes : Literal.Denotes false _ _ := .scalar (.reference (literal_isName named))
      rwa [String.ofList_toList] at denotes
  | .list items, writable, sorted => .list (series_itemTexts items writable sorted).sequence
  | .mapping fields, writable, sorted => by
      have stored := Fields.ofList_eq_of_perm (.refl fields) sorted.1
      exact .mapping (series_entryTexts fields writable sorted.2).sequence
        (Literal.collected_iff.mpr stored.symm)

theorem series_itemTexts : ∀ (items : List Value), allWritable items = true → Value.SortedItems items →
    Literal.Series (Literal.Denotes false) (separated (itemTexts items)) items
  | [], _, _ => .nil
  | item :: more, writable, sorted => by
      rw [allWritable, Bool.and_eq_true] at writable
      exact .cons (denotes_text item writable.1 sorted.1) (continued_itemTexts more writable.2 sorted.2)

theorem continued_itemTexts : ∀ (items : List Value), allWritable items = true → Value.SortedItems items →
    Literal.Continued (Literal.Denotes false) (continued (itemTexts items)) items
  | [], _, _ => .nil
  | item :: more, writable, sorted => by
      rw [allWritable, Bool.and_eq_true] at writable
      exact .cons .nil Literal.isGap_space (denotes_text item writable.1 sorted.1)
        (continued_itemTexts more writable.2 sorted.2)

theorem series_entryTexts : ∀ (fields : List (String × Value)), allFieldsWritable fields = true →
    Value.SortedFields fields →
    Literal.Series (Literal.Entry (Literal.Denotes false)) (separated (entryTexts fields)) fields
  | [], _, _ => .nil
  | (key, value) :: more, writable, sorted => by
      rw [allFieldsWritable, Bool.and_eq_true] at writable
      have entry : Literal.Entry (Literal.Denotes false) _ (key, value) :=
        .mk (.text (quotedText_quoted key)) .nil Literal.isGap_space (denotes_text value writable.1 sorted.1)
      exact .cons entry (continued_entryTexts more writable.2 sorted.2)

theorem continued_entryTexts : ∀ (fields : List (String × Value)), allFieldsWritable fields = true →
    Value.SortedFields fields →
    Literal.Continued (Literal.Entry (Literal.Denotes false)) (continued (entryTexts fields)) fields
  | [], _, _ => .nil
  | (key, value) :: more, writable, sorted => by
      rw [allFieldsWritable, Bool.and_eq_true] at writable
      have entry : Literal.Entry (Literal.Denotes false) _ (key, value) :=
        .mk (.text (quotedText_quoted key)) .nil Literal.isGap_space (denotes_text value writable.1 sorted.1)
      exact .cons .nil Literal.isGap_space entry (continued_entryTexts more writable.2 sorted.2)

end

variable {v : Value}

theorem decode_literal (writable : isWritable v = true) (sorted : v.Sorted) :
    Literal.decode (text v) = .ok v :=
  Literal.decode_of_written (denotes_text v writable sorted).written

/-! ### Ends and line feeds -/

theorem not_mem_continued {texts : List (List Char)} (no_comma : c ≠ ',') (no_space : c ≠ ' ')
    (absent : ∀ t ∈ texts, c ∉ t) : c ∉ continued texts := by
  induction texts with
  | nil => exact List.not_mem_nil
  | cons next more ih =>
      have in_more := ih fun t member => absent t (List.mem_cons_of_mem _ member)
      simp [continued, no_comma, no_space, absent next List.mem_cons_self, in_more]

theorem not_mem_separated {texts : List (List Char)} (no_comma : c ≠ ',') (no_space : c ≠ ' ')
    (absent : ∀ t ∈ texts, c ∉ t) : c ∉ separated texts := by
  cases texts with
  | nil => exact List.not_mem_nil
  | cons first more =>
      have in_more := not_mem_continued no_comma no_space
        fun t member => absent t (List.mem_cons_of_mem _ member)
      simp [separated, absent first List.mem_cons_self, in_more]

theorem newline_not_mem_writeInt (i : Int64) : '\n' ∉ Json.writeInt i.toInt := by
  intro member
  rcases Json.mem_writeInt member with sign | digit
  · cases sign
  · cases digit

mutual

/-- A value in canonical notation stands on one line. -/
theorem newline_not_mem_text : ∀ (v : Value), isWritable v = true → '\n' ∉ text v
  | .text s, _ => newline_not_mem_quoted s
  | .integer i, _ => newline_not_mem_writeInt i
  | .boolean true, _ => by decide
  | .boolean false, _ => by decide
  | .null, _ => by decide
  | .reference name, named => by
      simpa [text] using newline_not_mem_name named
  | .list items, writable => by
      have in_items := not_mem_separated (by decide) (by decide) (newline_not_mem_itemTexts items writable)
      simpa [text] using in_items
  | .mapping fields, writable => by
      have in_entries := not_mem_separated (by decide) (by decide)
        (newline_not_mem_entryTexts fields writable)
      simpa [text] using in_entries

theorem newline_not_mem_itemTexts : ∀ (items : List Value), allWritable items = true →
    ∀ t ∈ itemTexts items, '\n' ∉ t
  | [], _ => nofun
  | item :: more, writable => by
      rw [allWritable, Bool.and_eq_true] at writable
      intro t member
      rcases List.mem_cons.mp member with rfl | later
      · exact newline_not_mem_text item writable.1
      · exact newline_not_mem_itemTexts more writable.2 t later

theorem newline_not_mem_entryTexts : ∀ (fields : List (String × Value)), allFieldsWritable fields = true →
    ∀ t ∈ entryTexts fields, '\n' ∉ t
  | [], _ => nofun
  | (key, value) :: more, writable => by
      rw [allFieldsWritable, Bool.and_eq_true] at writable
      intro t member
      rcases List.mem_cons.mp member with rfl | later
      · have in_key := newline_not_mem_quoted key
        have in_value := newline_not_mem_text value writable.1
        simp [in_key, in_value]
      · exact newline_not_mem_entryTexts more writable.2 t later

end

theorem text_last_not_blank (writable : isWritable v = true) :
    ∀ c ∈ (text v).getLast?, Text.isBlank c = false := by
  cases v with
  | text s => exact Text.last_not_blank (by decide) ('"' :: s.toList.flatMap escaped)
  | integer i =>
      intro c last
      rcases Json.mem_writeInt (List.mem_of_getLast? last) with rfl | digit
      · decide
      · exact Text.not_isBlank_of_isDigit digit
  | double x => cases writable
  | boolean b =>
      cases b with
      | true => exact Text.last_not_blank (by decide) ['t', 'r', 'u']
      | false => exact Text.last_not_blank (by decide) ['f', 'a', 'l', 's']
  | null => exact Text.last_not_blank (by decide) ['n', 'u', 'l']
  | list items => exact Text.last_not_blank (by decide) ('[' :: separated (itemTexts items))
  | mapping fields => exact Text.last_not_blank (by decide) ('\x7b' :: separated (entryTexts fields))
  | reference name => exact Text.last_not_blank (by decide) ('$' :: '\x7b' :: name.toList)

theorem trim_text (writable : isWritable v = true) : Text.trim (text v) = text v :=
  Text.trim_eq_self (text_head_not_blank writable) (text_last_not_blank writable)

end CallScript.Canonical
