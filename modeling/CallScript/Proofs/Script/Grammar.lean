import CallScript.Proofs.Fields
import CallScript.Proofs.Script.Scanning
import CallScript.Proofs.Text.Span
import CallScript.Script.Invocation

/-! # The grammar of a script line

What the lines are that are calls, said without a reader.  A `Layout` is a line cut into the parts that the
notation names, a `Reading` is a layout with the values that its parameter list gives to its keys, and
`Invocation.parse` returns an invocation if and only if the line has a reading of it.

The notation leaves open whether a pair of parentheses after the name is a tag or opens the parameter list.
The readers try the tag first.  That loses no reading: where a tag fits, the parameter list that would start
in its place is closed by the parenthesis that closes the tag, and cannot be cut
(`split_error_of_tagged`).

* `header?_eq_some`, `header?_text`: the header of a line is a layout of it, and any layout is found
  whose parameter list can be cut.
* `Layout.undecorated_text`: a layout has no decoration.
* `readPieces_eq_ok_iff`, `parse_eq_ok_iff`: the pieces that give values to keys, and the calls that they make.
* `Reading.parse_eq`: a line with a reading is parsed as this reading says.
* `parse_iff_reading`: the grammar is what is parsed, and it is unambiguous. -/

namespace CallScript

namespace Segment

variable {s : Scan} {text rest piece key raw : List Char}

theorem keyValue_append_cons {before after : List Char} {separator : Char}
    (first : ∀ c ∈ before, isSeparator c = false) (separates : isSeparator separator = true) :
    keyValue (before ++ separator :: after) = .ok (key, raw) ↔
      isWordText (Text.trim before) = true ∧ Text.trim after ≠ [] ∧
        key = Text.trim before ∧ raw = Text.trim after := by
  have span : Text.spanOf (fun c => !isSeparator c) (before ++ separator :: after) =
      (before, separator :: after) := by
    apply Text.spanOf_append_cons
    · intro c member
      rw [first c member, Bool.not_false]
    · rw [separates, Bool.not_true]
  by_cases word : isWordText (Text.trim before) = true
  · by_cases given : Text.trim after = []
    · simp [keyValue, span, given]
    · simp [keyValue, span, word, given, eq_comm (a := key), eq_comm (a := raw)]
  · simp [keyValue, span, word]

theorem keyValue_eq_ok_iff : keyValue piece = .ok (key, raw) ↔
    ∃ before separator after, piece = before ++ separator :: after ∧
      (∀ c ∈ before, isSeparator c = false) ∧ isSeparator separator = true ∧
      isWordText (Text.trim before) = true ∧ Text.trim after ≠ [] ∧
      key = Text.trim before ∧ raw = Text.trim after := by
  constructor
  · intro cut
    generalize span : Text.spanOf (fun c => !isSeparator c) piece = parts
    obtain ⟨before, rest⟩ := parts
    obtain ⟨rfl, inside, stop⟩ := Text.spanOf_eq_iff.mp span
    cases rest with
    | nil =>
        simp only [keyValue, span] at cut
        cases cut
    | cons separator after =>
        have first : ∀ c ∈ before, isSeparator c = false := fun c member => Bool.not_eq_true' _ ▸ inside c member
        have separates : isSeparator separator = true := Bool.not_eq_false' _ ▸ stop separator rfl
        exact ⟨before, separator, after, rfl, first, separates, (keyValue_append_cons first separates).mp cut⟩
  · rintro ⟨before, separator, after, rfl, first, separates, accepted⟩
    exact (keyValue_append_cons first separates).mpr accepted

/-- What opens a tag's place as a parameter list is closed where the tag is, and nothing is open there. -/
theorem run_tag_error (rest : List Char) (tag : ∀ c ∈ text, Invocation.isTagChar c = true)
    (outside : s.quoting = .outside) (unopened : '(' ∉ s.opened) :
    ∃ fault, s.run (text ++ ')' :: rest) = .error fault := by
  induction text generalizing s with
  | nil =>
      have other : s.opened.head? ≠ some '(' := fun innermost => unopened (List.mem_of_head? innermost)
      have stepped : s.step ')' = .error (.unbalanced ')') := step_closing_error outside rfl other
      exact ⟨.unbalanced ')', by rw [List.nil_append, Scan.run, stepped]⟩
  | cons c text ih =>
      have tag_rest : ∀ other ∈ text, Invocation.isTagChar other = true :=
        fun other member => tag other (List.mem_cons_of_mem _ member)
      have tag_char := tag c List.mem_cons_self
      simp only [Invocation.isTagChar, Bool.not_eq_true', Bool.or_eq_false_iff,
        decide_eq_false_iff_not] at tag_char
      obtain ⟨⟨⟨⟨⟨⟨no_opening, no_closing⟩, no_double⟩, no_single⟩, -⟩, -⟩, no_comma⟩ := tag_char
      cases opens : isOpening c with
      | true =>
          have unopened_next : '(' ∉ c :: s.opened :=
            List.not_mem_cons_of_ne_of_not_mem (Ne.symm no_opening) unopened
          rw [List.cons_append, run_cons (step_opening outside opens)]
          exact ih tag_rest outside unopened_next
      | false =>
          cases closes : opening? c with
          | none =>
              have plain : isPlain c = true := by
                simp [isPlain, opens, closes, no_double, no_single, no_comma]
              rw [List.cons_append, run_cons (step_plain outside plain)]
              exact ih tag_rest outside unopened
          | some opening =>
              by_cases innermost : s.opened.head? = some opening
              · obtain ⟨opened, open_here⟩ := List.head?_eq_some_iff.mp innermost
                have unopened_next : '(' ∉ opened := by
                  intro member
                  rw [open_here] at unopened
                  exact unopened (List.mem_cons_of_mem _ member)
                rw [List.cons_append, run_cons (step_closing outside closes open_here)]
                exact ih tag_rest outside unopened_next
              · exact ⟨.unbalanced c, by
                  rw [List.cons_append, Scan.run, step_closing_error outside closes innermost]⟩

end Segment

namespace Invocation

/-! ### The layout of a line -/

/-- A tag in parentheses, with the blanks after it. -/
structure Tag where
  text : List Char
  gap : List Char
  text_isTag : ∀ c ∈ text, isTagChar c = true
  gap_isBlank : ∀ c ∈ gap, Text.isBlank c = true

/-- The tag as it is written. -/
def Tag.written (tag : Tag) : List Char := '(' :: tag.text ++ ')' :: tag.gap

/-- A namespace, a name, a tag and a parameter list, of which namespace and tag may be absent. -/
structure Layout where
  scope : Option (List Char)
  name : List Char
  gap : List Char
  tag : Option Tag
  parameters : List Char
  scope_isWord : ∀ word ∈ scope, Segment.isWordText word = true
  name_isWord : Segment.isWordText name = true
  gap_isBlank : ∀ c ∈ gap, Text.isBlank c = true
  parameters_oneLine : '\n' ∉ parameters

/-- What follows the name. -/
def Layout.tail (layout : Layout) : List Char :=
  layout.gap ++ ((layout.tag.elim [] Tag.written) ++ '(' :: (layout.parameters ++ [')']))

/-- The line of a layout, without decoration. -/
def Layout.text (layout : Layout) : List Char :=
  (layout.scope.elim [] (· ++ [':'])) ++ (layout.name ++ layout.tail)

variable {s inner parameters name : List Char} {layout : Layout}

theorem closed?_eq_some_iff : closed? s = some inner ↔ s = inner ++ [')'] ∧ '\n' ∉ inner := by
  constructor
  · intro closed
    unfold closed? at closed
    split at closed
    next rest reversed =>
      split at closed
      · cases closed
      next one_line =>
        cases closed
        rw [List.contains_iff_mem] at one_line
        refine ⟨?_, fun member => one_line (List.mem_reverse.mp member)⟩
        rw [← List.reverse_reverse s, reversed, List.reverse_cons]
    · cases closed
  · rintro ⟨rfl, one_line⟩
    simp [closed?, one_line]

theorem taggedParameters?_eq_some (found : taggedParameters? s = some parameters) :
    ∃ tag : Tag, '(' :: s = tag.written ++ '(' :: (parameters ++ [')']) ∧ '\n' ∉ parameters := by
  unfold taggedParameters? at found
  split at found
  next text rest span =>
    obtain ⟨whole, inside, -⟩ := Text.spanOf_eq_iff.mp span
    obtain ⟨gap, rest_eq, blank⟩ := Text.exists_gap rest
    split at found
    next inner trimmed =>
      obtain ⟨inner_eq, one_line⟩ := closed?_eq_some_iff.mp found
      refine ⟨⟨text, gap, inside, blank⟩, ?_, one_line⟩
      rw [trimmed, inner_eq] at rest_eq
      rw [whole, rest_eq, Tag.written]
      simp
    · cases found
  · cases found

theorem taggedParameters?_written (tag : Tag) (one_line : '\n' ∉ parameters) :
    taggedParameters? (tag.text ++ ')' :: (tag.gap ++ '(' :: (parameters ++ [')']))) = some parameters := by
  have span : Text.spanOf isTagChar (tag.text ++ ')' :: (tag.gap ++ '(' :: (parameters ++ [')']))) =
      (tag.text, ')' :: (tag.gap ++ '(' :: (parameters ++ [')']))) :=
    Text.spanOf_append_cons tag.text_isTag (by decide) _
  have trimmed : Text.trimStart (tag.gap ++ '(' :: (parameters ++ [')'])) = '(' :: (parameters ++ [')']) := by
    refine Text.trimStart_append tag.gap_isBlank ?_
    intro c head
    cases head
    decide
  simp only [taggedParameters?, span, trimmed]
  exact closed?_eq_some_iff.mpr ⟨rfl, one_line⟩

/-- Where a tag and a parameter list fit, the text that would be the parameter list without the tag cannot
be cut. -/
theorem split_error_of_tagged {others : List Char}
    (found : taggedParameters? (parameters ++ [')']) = some others) :
    ∃ fault, Segment.split parameters = .error fault := by
  obtain ⟨tag, whole, -⟩ := taggedParameters?_eq_some found
  -- the closing parenthesis of the tag stands before the last character, hence in the parameter list
  have inner_eq : parameters = tag.text ++ ')' :: (tag.gap ++ '(' :: others) := by
    have tail_eq := List.tail_eq_of_cons_eq whole
    have closed_eq : parameters ++ [')'] = (tag.text ++ ')' :: (tag.gap ++ '(' :: others)) ++ [')'] := by
      rw [tail_eq]
      simp
    exact List.append_cancel_right closed_eq
  obtain ⟨fault, failed⟩ := Segment.run_tag_error (tag.gap ++ '(' :: others) tag.text_isTag
    (s := {}) rfl List.not_mem_nil
  refine ⟨fault, ?_⟩
  rw [Segment.split, inner_eq, failed]

theorem parameterList?_eq_some (found : parameterList? s = some parameters) :
    ∃ (gap : List Char) (tag : Option Tag), (∀ c ∈ gap, Text.isBlank c = true) ∧ '\n' ∉ parameters ∧
      s = gap ++ ((tag.elim [] Tag.written) ++ '(' :: (parameters ++ [')'])) := by
  obtain ⟨gap, s_eq, blank⟩ := Text.exists_gap s
  unfold parameterList? at found
  split at found
  next inner trimmed =>
    rw [trimmed] at s_eq
    rcases Option.or_eq_some_iff.mp found with tagged | ⟨-, closed⟩
    · obtain ⟨tag, inner_eq, one_line⟩ := taggedParameters?_eq_some tagged
      exact ⟨gap, some tag, blank, one_line, by rw [s_eq, inner_eq, Option.elim_some]⟩
    · obtain ⟨inner_eq, one_line⟩ := closed?_eq_some_iff.mp closed
      exact ⟨gap, none, blank, one_line, by rw [s_eq, inner_eq, Option.elim_none, List.nil_append]⟩
  · cases found

theorem head_tag {tag : Option Tag} {rest : List Char} {c : Char}
    (head : c ∈ ((tag.elim [] Tag.written) ++ '(' :: rest).head?) : c = '(' := by
  cases tag with
  | none =>
      cases head
      rfl
  | some tag =>
      cases head
      rfl

theorem parameterList?_tail {pieces : List (List Char)}
    (cut : Segment.split layout.parameters = .ok pieces) :
    parameterList? layout.tail = some layout.parameters := by
  have trimmed : Text.trimStart layout.tail =
      (layout.tag.elim [] Tag.written) ++ '(' :: (layout.parameters ++ [')']) := by
    refine Text.trimStart_append layout.gap_isBlank ?_
    intro c head
    rw [head_tag head]
    decide
  unfold parameterList?
  rw [trimmed]
  cases tag : layout.tag with
  | none =>
      have untagged : taggedParameters? (layout.parameters ++ [')']) = none := by
        rw [Option.eq_none_iff_forall_ne_some]
        intro others found
        obtain ⟨fault, failed⟩ := split_error_of_tagged found
        rw [failed] at cut
        cases cut
      simp only [Option.elim_none, List.nil_append, untagged, Option.none_or]
      exact closed?_eq_some_iff.mpr ⟨rfl, layout.parameters_oneLine⟩
  | some tag' =>
      have tagged := taggedParameters?_written tag' layout.parameters_oneLine
      simp only [Option.elim_some, Tag.written, List.cons_append, List.append_assoc, tagged,
        Option.some_or]

theorem isWordText_iff {word : List Char} :
    Segment.isWordText word = true ↔ word ≠ [] ∧ ∀ c ∈ word, Text.isWord c = true := by
  simp [Segment.isWordText, List.all_eq_true]

/-- The first characters of what follows the name: blanks or a parenthesis, so neither the name nor a
namespace before it goes on. -/
theorem Layout.tail_head (layout : Layout) {c : Char} (head : c ∈ layout.tail.head?) :
    Text.isWord c = false ∧ c ≠ ':' := by
  have blank_or : Text.isBlank c = true ∨ c = '(' := by
    unfold Layout.tail at head
    cases gap : layout.gap with
    | cons blank rest =>
        rw [gap] at head
        cases head
        exact .inl (layout.gap_isBlank c (gap ▸ List.mem_cons_self))
    | nil =>
        rw [gap] at head
        exact .inr (head_tag head)
  rcases blank_or with blank | rfl
  · refine ⟨Bool.eq_false_iff.mpr fun word => ?_, ?_⟩
    · rw [Text.not_isBlank_of_isWord word] at blank
      cases blank
    · rintro rfl
      exact absurd blank (by decide)
  · decide

theorem header_parts {first word rest : List Char}
    (found : (if first.isEmpty || word.isEmpty then none
      else (parameterList? rest).map fun parameters => (word, parameters)) = some (name, parameters)) :
    first ≠ [] ∧ word ≠ [] ∧ word = name ∧ parameterList? rest = some parameters := by
  split at found
  · cases found
  next accepted =>
    rw [Bool.or_eq_true, not_or, List.isEmpty_iff, List.isEmpty_iff] at accepted
    obtain ⟨_, listed, same⟩ := Option.map_eq_some_iff.mp found
    cases same
    exact ⟨accepted.1, accepted.2, rfl, listed⟩

/-- The header that is read is that of a layout. -/
theorem header?_eq_some (found : header? s = some (name, parameters)) :
    ∃ layout : Layout, s = layout.text ∧ layout.name = name ∧ layout.parameters = parameters := by
  unfold header? at found
  generalize first_span : Text.spanOf Text.isWord s = span at found
  obtain ⟨first, rest⟩ := span
  obtain ⟨s_eq, first_isWord, -⟩ := Text.spanOf_eq_iff.mp first_span
  dsimp only at found
  split at found
  next after =>
    -- a colon follows the first word, which is the namespace
    generalize name_span : Text.spanOf Text.isWord after = span at found
    obtain ⟨word, rest⟩ := span
    obtain ⟨after_eq, word_isWord, -⟩ := Text.spanOf_eq_iff.mp name_span
    dsimp only at found
    obtain ⟨first_ne, word_ne, rfl, listed⟩ := header_parts found
    obtain ⟨gap, tag, blank, one_line, rest_eq⟩ := parameterList?_eq_some listed
    refine ⟨⟨some first, word, gap, tag, parameters, ?_, isWordText_iff.mpr ⟨word_ne, word_isWord⟩,
      blank, one_line⟩, ?_, rfl, rfl⟩
    · intro scope member
      cases member
      exact isWordText_iff.mpr ⟨first_ne, first_isWord⟩
    · rw [s_eq, after_eq, rest_eq, Layout.text, Layout.tail]
      simp
  · dsimp only at found
    obtain ⟨first_ne, -, rfl, listed⟩ := header_parts found
    obtain ⟨gap, tag, blank, one_line, rest_eq⟩ := parameterList?_eq_some listed
    refine ⟨⟨none, first, gap, tag, parameters, ?_, isWordText_iff.mpr ⟨first_ne, first_isWord⟩,
      blank, one_line⟩, ?_, rfl, rfl⟩
    · rintro scope ⟨⟩
    · rw [s_eq, rest_eq, Layout.text, Layout.tail]
      simp

/-- The header of a layout is read if its parameter list can be cut. -/
theorem header?_text {pieces : List (List Char)} (cut : Segment.split layout.parameters = .ok pieces) :
    header? layout.text = some (layout.name, layout.parameters) := by
  have listed := parameterList?_tail cut
  obtain ⟨name_ne, name_isWord⟩ := isWordText_iff.mp layout.name_isWord
  have name_span : Text.spanOf Text.isWord (layout.name ++ layout.tail) = (layout.name, layout.tail) :=
    Text.spanOf_eq_iff.mpr ⟨rfl, name_isWord, fun c head => (layout.tail_head head).1⟩
  cases scope : layout.scope with
  | none =>
      have text_eq : layout.text = layout.name ++ layout.tail := by simp [Layout.text, scope]
      have no_colon : ∀ rest, layout.tail ≠ ':' :: rest := by
        intro rest tail_eq
        exact (layout.tail_head (tail_eq ▸ rfl : ':' ∈ layout.tail.head?)).2 rfl
      rw [text_eq]
      -- no namespace is read, by `no_colon`
      simp [header?, name_span, name_ne, listed]
  | some word =>
      obtain ⟨word_ne, word_isWord⟩ := isWordText_iff.mp (layout.scope_isWord word scope)
      have text_eq : layout.text = word ++ ':' :: (layout.name ++ layout.tail) := by
        simp [Layout.text, scope]
      have word_span : Text.spanOf Text.isWord (word ++ ':' :: (layout.name ++ layout.tail)) =
          (word, ':' :: (layout.name ++ layout.tail)) :=
        Text.spanOf_append_cons word_isWord (by decide) _
      rw [text_eq]
      simp [header?, word_span, name_span, word_ne, name_ne, listed]

theorem Layout.text_head (layout : Layout) : ∃ c more, layout.text = c :: more ∧ Text.isWord c = true := by
  unfold Layout.text
  cases scope : layout.scope with
  | none =>
      obtain ⟨filled, chars⟩ := isWordText_iff.mp layout.name_isWord
      obtain ⟨c, more, name_eq⟩ := List.exists_cons_of_ne_nil filled
      exact ⟨c, more ++ layout.tail, by simp [name_eq], chars c (name_eq ▸ List.mem_cons_self)⟩
  | some word =>
      obtain ⟨filled, chars⟩ := isWordText_iff.mp (layout.scope_isWord word scope)
      obtain ⟨c, more, word_eq⟩ := List.exists_cons_of_ne_nil filled
      exact ⟨c, more ++ ':' :: (layout.name ++ layout.tail), by simp [word_eq],
        chars c (word_eq ▸ List.mem_cons_self)⟩

theorem Layout.trim_text (layout : Layout) : Text.trim layout.text = layout.text := by
  apply Text.trim_eq_self
  · intro d head
    obtain ⟨c, more, text_eq, word⟩ := layout.text_head
    rw [text_eq] at head
    cases head
    exact Text.not_isBlank_of_isWord word
  · have closed : layout.text = ((layout.scope.elim [] (· ++ [':'])) ++ (layout.name ++ (layout.gap ++
        ((layout.tag.elim [] Tag.written) ++ '(' :: layout.parameters)))) ++ [')'] := by
      simp [Layout.text, Layout.tail]
    rw [closed]
    exact Text.last_not_blank (by decide) _

theorem isMarker_cases {c : Char} (marker : isMarker c = true) : c = '●' ∨ c = '•' := by
  simpa [isMarker] using marker

theorem Layout.dropWhile_isMarker_text (layout : Layout) : layout.text.dropWhile isMarker = layout.text := by
  obtain ⟨c, more, text_eq, word⟩ := layout.text_head
  have no_marker : isMarker c = false := by
    apply Bool.eq_false_iff.mpr
    intro marker
    have no_word : Text.isWord '●' = false ∧ Text.isWord '•' = false := by decide +kernel
    rcases isMarker_cases marker with rfl | rfl
    · rw [no_word.1] at word
      cases word
    · rw [no_word.2] at word
      cases word
  rw [text_eq]
  simp [no_marker]

/-- A layout is a line without decoration. -/
theorem Layout.undecorated_text (layout : Layout) : undecorated layout.text = layout.text := by
  rw [undecorated, layout.trim_text, layout.dropWhile_isMarker_text, layout.trim_text]

/-- The first pair of parentheses is a tag if another pair follows it up to the end, and else the list. -/
example : header? "run (x) (k=v)".toList = some ("run".toList, "k=v".toList) ∧
    header? "run (k=v) (x)".toList = some ("run".toList, "k=v) (x".toList) := by decide +kernel

/-! ### The values of a parameter list -/

/-- A piece gives a value to a key: it is a word, the first separator of the piece, and a token that has the
value.  Blanks may stand around the word and the token. -/
inductive Assigns (schema : Schema) (tool : String) : List Char → String × Value → Prop
  | intro {before after : List Char} {separator : Char} {value : Value}
      (first : ∀ c ∈ before, Segment.isSeparator c = false)
      (separates : Segment.isSeparator separator = true)
      (word : Segment.isWordText (Text.trim before) = true) (given : Text.trim after ≠ [])
      (decodes : Token.decode (schema.isInteger tool (String.ofList (Text.trim before)))
        (Text.trim after) = .ok value) :
      Assigns schema tool (before ++ separator :: after) (String.ofList (Text.trim before), value)

variable {schema : Schema} {tool : String} {pieces : List (List Char)} {stored read : Mapping}

theorem assigns_iff {piece : List Char} {pair : String × Value} : Assigns schema tool piece pair ↔
    ∃ key raw value, Segment.keyValue piece = .ok (key, raw) ∧
      Token.decode (schema.isInteger tool (String.ofList key)) raw = .ok value ∧
      pair = (String.ofList key, value) := by
  constructor
  · rintro ⟨first, separates, word, given, decodes⟩
    exact ⟨_, _, _, Segment.keyValue_eq_ok_iff.mpr ⟨_, _, _, rfl, first, separates, word, given, rfl, rfl⟩,
      decodes, rfl⟩
  · rintro ⟨key, raw, value, cut, decodes, rfl⟩
    obtain ⟨before, separator, after, rfl, first, separates, word, given, rfl, rfl⟩ :=
      Segment.keyValue_eq_ok_iff.mp cut
    exact .intro first separates word given decodes

/-- Pieces are read into parameters if each of them gives a value to a key, and no key has one before. -/
theorem readPieces_eq_ok_iff : readPieces schema tool stored pieces = .ok read ↔
    ∃ assigned, List.Forall₂ (Assigns schema tool) pieces assigned ∧ (assigned.map Prod.fst).Nodup ∧
      (∀ pair ∈ assigned, pair.1 ∉ stored.map Prod.fst) ∧
      read = assigned.foldl (fun fields pair => Fields.insert pair.1 pair.2 fields) stored := by
  induction pieces generalizing stored with
  | nil =>
      constructor
      · intro done
        cases done
        exact ⟨[], .nil, List.nodup_nil, nofun, rfl⟩
      · rintro ⟨assigned, each, -, -, rfl⟩
        cases each
        rfl
  | cons piece rest ih =>
      constructor
      · intro done
        rw [readPieces] at done
        split at done
        · cases done
        next key raw cut =>
          dsimp only at done
          split at done
          · cases done
          next value decodes =>
            split at done
            · cases done
            next unused =>
              rw [Fields.contains_iff] at unused
              obtain ⟨assigned, each, different, new, rfl⟩ := ih.mp done
              have key_new : String.ofList key ∉ assigned.map Prod.fst := by
                intro again
                obtain ⟨pair, member, same⟩ := List.mem_map.mp again
                exact new pair member (Fields.mem_keys_insert.mpr (.inl same))
              have assigns : Assigns schema tool piece (String.ofList key, value) :=
                assigns_iff.mpr ⟨key, raw, value, cut, decodes, rfl⟩
              refine ⟨(String.ofList key, value) :: assigned, .cons assigns each,
                List.nodup_cons.mpr ⟨key_new, different⟩, ?_, rfl⟩
              intro pair member
              rcases List.mem_cons.mp member with rfl | later
              · exact unused
              · exact fun earlier => new pair later (Fields.mem_keys_insert.mpr (.inr earlier))
      · rintro ⟨assigned, each, different, new, rfl⟩
        obtain _ | ⟨assigns, each⟩ := each
        obtain ⟨key, raw, value, cut, decodes, rfl⟩ := assigns_iff.mp assigns
        have unused : Fields.contains (String.ofList key) stored = false := by
          have new_key := new _ List.mem_cons_self
          rw [← Fields.contains_iff] at new_key
          exact Bool.eq_false_iff.mpr new_key
        obtain ⟨key_new, different⟩ := List.nodup_cons.mp different
        simp only [readPieces, cut, decodes, unused, Bool.false_eq_true, if_false]
        refine ih.mpr ⟨_, each, different, ?_, rfl⟩
        intro pair member again
        rcases Fields.mem_keys_insert.mp again with same | earlier
        · exact key_new (List.mem_map.mpr ⟨pair, member, same⟩)
        · exact new pair (List.mem_cons_of_mem _ member) earlier

/-- A line whose parameter list can be cut is a call if each piece gives a value to a key, no key twice. -/
theorem parse_eq_ok_iff {line : String} {i : Invocation} (laid : undecorated line.toList = layout.text)
    (cut : Segment.split layout.parameters = .ok pieces) : parse schema line = .ok i ↔
      ∃ assigned, List.Forall₂ (Assigns schema (String.ofList layout.name)) pieces assigned ∧
        (assigned.map Prod.fst).Nodup ∧ i = ⟨String.ofList layout.name, Fields.ofList assigned⟩ := by
  have headed := header?_text cut
  rw [← laid] at headed
  simp only [parse, Invocation.read, headed, cut]
  constructor
  · intro parsed
    cases done : readPieces schema (String.ofList layout.name) [] pieces with
    | error fault =>
        rw [done] at parsed
        cases parsed
    | ok read =>
        rw [done] at parsed
        cases parsed
        obtain ⟨assigned, assigns, different, -, rfl⟩ := readPieces_eq_ok_iff.mp done
        exact ⟨assigned, assigns, different, rfl⟩
  · rintro ⟨assigned, assigns, different, rfl⟩
    have done : readPieces schema (String.ofList layout.name) [] pieces = .ok (Fields.ofList assigned) :=
      readPieces_eq_ok_iff.mpr ⟨assigned, assigns, different, fun _ _ => List.not_mem_nil, rfl⟩
    rw [done]

theorem Assigns.exists_token {piece : List Char} {key : String} {v : Value}
    (assigns : Assigns schema tool piece (key, v)) :
    ∃ raw isInteger, raw <:+: piece ∧ Token.decode isInteger raw = .ok v := by
  cases assigns with
  | @intro before after separator _ _ _ _ _ decodes =>
      have inside : Text.trim after <:+: before ++ separator :: after :=
        (Text.trim_infix after).trans ⟨before ++ [separator], [], by simp⟩
      exact ⟨_, _, inside, decodes⟩

theorem exists_piece {assigned : List (String × Value)} {pair : String × Value}
    (assigns : List.Forall₂ (Assigns schema tool) pieces assigned) (member : pair ∈ assigned) :
    ∃ piece ∈ pieces, Assigns schema tool piece pair := by
  induction assigns with
  | nil => cases member
  | @cons piece _ pieces _ first _ ih =>
      rcases List.mem_cons.mp member with rfl | later
      · exact ⟨piece, List.mem_cons_self, first⟩
      · obtain ⟨other, listed, given⟩ := ih later
        exact ⟨other, List.mem_cons_of_mem _ listed, given⟩

/-! ### Readings -/

/-- A reading of a line: a layout of it without decoration, and a value for the key of each piece of its
parameter list, no key twice. -/
structure Reading (schema : Schema) (line : String) where
  layout : Layout
  pieces : List (List Char)
  assigned : List (String × Value)
  laid : undecorated line.toList = layout.text
  cut : Segment.split layout.parameters = .ok pieces
  assigns : List.Forall₂ (Assigns schema (String.ofList layout.name)) pieces assigned
  different : (assigned.map Prod.fst).Nodup

variable {line : String}

/-- The invocation that a reading says: the name, and the keys with their values. -/
def Reading.invocation (r : Reading schema line) : Invocation :=
  ⟨String.ofList r.layout.name, Fields.ofList r.assigned⟩

/-- A line with a reading is parsed as the reading says. -/
theorem Reading.parse_eq (r : Reading schema line) : parse schema line = .ok r.invocation :=
  (parse_eq_ok_iff r.laid r.cut).mpr ⟨r.assigned, r.assigns, r.different, rfl⟩

theorem exists_reading {i : Invocation} (parsed : parse schema line = .ok i) :
    ∃ r : Reading schema line, r.invocation = i := by
  cases headed : header? (undecorated line.toList) with
  | none => simp [parse, Invocation.read, headed] at parsed
  | some parts =>
      obtain ⟨name, parameters⟩ := parts
      obtain ⟨layout, laid, rfl, rfl⟩ := header?_eq_some headed
      cases cut : Segment.split layout.parameters with
      | error fault => simp [parse, Invocation.read, headed, cut] at parsed
      | ok pieces =>
          obtain ⟨assigned, assigns, different, rfl⟩ := (parse_eq_ok_iff laid cut).mp parsed
          exact ⟨⟨layout, pieces, assigned, laid, cut, assigns, different⟩, rfl⟩

/-- The value of a parameter is that of a token, which stands in a piece of the list. -/
theorem Reading.exists_token {key : String} {v : Value} (r : Reading schema line)
    (member : (key, v) ∈ r.invocation.parameters) :
    ∃ piece ∈ r.pieces, ∃ raw isInteger, raw <:+: piece ∧ Token.decode isInteger raw = .ok v := by
  have assigned := (Fields.ofList_perm r.different).mem_iff.mp member
  obtain ⟨piece, listed, assigns⟩ := exists_piece r.assigns assigned
  exact ⟨piece, listed, assigns.exists_token⟩

theorem exists_parse_error (schema : Schema) (line : String)
    (refused : ∀ i, parse schema line ≠ .ok i) :
    ∃ reason, parse schema line = .error (.parse line reason) := by
  unfold parse at refused ⊢
  split at refused
  next i _ => exact absurd rfl (refused i)
  next fault _ => exact ⟨fault.message, rfl⟩

/-- The parser accepts its grammar and nothing else.  A line is parsed as an invocation if and only if it has
a reading that says this invocation, whose parameters are the pairs that the reading assigns; two readings
of a line say the same; and a line without a reading is a parse error that carries it. -/
theorem parse_iff_reading (schema : Schema) (line : String) :
    (∀ i, parse schema line = .ok i ↔ ∃ r : Reading schema line, r.invocation = i) ∧
      (∀ r : Reading schema line, r.invocation.parameters.Perm r.assigned) ∧
      (∀ r r' : Reading schema line, r.invocation = r'.invocation) ∧
      (IsEmpty (Reading schema line) → ∃ reason, parse schema line = .error (.parse line reason)) := by
  refine ⟨fun i => ⟨exists_reading, ?_⟩, fun r => Fields.ofList_perm r.different, ?_, ?_⟩
  · rintro ⟨r, rfl⟩
    exact r.parse_eq
  · intro r r'
    have same : (.ok r.invocation : Except Error Invocation) = .ok r'.invocation :=
      r.parse_eq.symm.trans r'.parse_eq
    exact Except.ok.inj same
  · intro none
    refine exists_parse_error schema line fun i parsed => ?_
    obtain ⟨r, -⟩ := exists_reading parsed
    exact none.false r

end Invocation

end CallScript
