import CallScript.Proofs.Script.Grammar
import CallScript.Proofs.Script.Splitting
import CallScript.Proofs.Script.Tokens

/-! # Literals among the parameters of a call

A text that is read as a bracketed literal may stand as the value of a parameter in any call: the parameter
list is not cut inside it, whatever brackets, quotes and commas it holds, and the parameters on either side
are read as without it (`literal_is_one_parameter`).

The grammar of literals and the cutting have nothing in common but the texts.  They meet in
`Literal.Denotes.passes`: what denotes a value closes every bracket and quote that it opens.  The rest is the
way from a parameter list to a call and holds of any parameters.

* `parse_call_iff`: a call is read from the pieces of its parameter list.
* `Segment.split_assignment`, `Assigns.of_word`: a parameter that is written as key, `=` and value. -/

namespace CallScript

theorem Segment.split_comma_blank {text rest : List Char} {pieces more : List (List Char)}
    (cut : split text = .ok pieces) (cut_rest : split rest = .ok more) :
    split (text ++ ',' :: ' ' :: rest) = .ok (pieces ++ more) := by
  have blank : ∀ c ∈ [' '], Text.isBlank c = true := List.forall_mem_singleton.mpr rfl
  have spaced : split (' ' :: rest) = .ok more := (split_blank_append blank rest).trans cut_rest
  rw [split_comma cut, spaced]
  rfl

/-! ### A parameter by itself -/

section

variable {key raw : List Char} {c : Char}

theorem Segment.isPlain_of_isWord (word : Text.isWord c = true) : isPlain c = true :=
  Literal.isPlain_of (by decide +kernel) word

theorem Segment.isSeparator_cases (separates : isSeparator c = true) : c = '=' ∨ c = ':' := by
  simpa [isSeparator] using separates

theorem Segment.not_isSeparator_of_isWord (word : Text.isWord c = true) : isSeparator c = false := by
  apply Bool.eq_false_iff.mpr
  intro separates
  have no_word : Text.isWord '=' = false ∧ Text.isWord ':' = false := by decide +kernel
  rcases isSeparator_cases separates with rfl | rfl
  · rw [no_word.1] at word
    cases word
  · rw [no_word.2] at word
    cases word

theorem Text.trim_word (word : Segment.isWordText key = true) : trim key = key := by
  obtain ⟨-, chars⟩ := Invocation.isWordText_iff.mp word
  apply trim_eq_self
  · intro c head
    exact not_isBlank_of_isWord (chars c (List.mem_of_head? head))
  · intro c last
    exact not_isBlank_of_isWord (chars c (List.mem_of_getLast? last))

/-- A parameter whose value is passed over is one piece. -/
theorem Segment.split_assignment (word : isWordText key = true) (passes : Passes true false raw)
    (trimmed : Text.trim raw = raw) (filled : raw ≠ []) :
    split (key ++ '=' :: raw) = .ok [key ++ '=' :: raw] := by
  obtain ⟨key_filled, chars⟩ := Invocation.isWordText_iff.mp word
  obtain ⟨k, more, key_eq⟩ := List.exists_cons_of_ne_nil key_filled
  have key_passes : Passes false false key := passes_plain fun c member => isPlain_of_isWord (chars c member)
  have value_passes : Passes false false ('=' :: raw) :=
    passes.after_plain (by decide) (fun _ before => by cases before <;> decide)
  have all_passes : Passes true false (key ++ '=' :: raw) := (key_passes.append value_passes).mono nofun nofun
  have trimmed_all : Text.trim (key ++ '=' :: raw) = key ++ '=' :: raw := by
    apply Text.trim_eq_self
    · intro c head
      rw [key_eq] at head
      cases head
      exact Text.not_isBlank_of_isWord (chars k (key_eq ▸ List.mem_cons_self))
    · intro c last
      rw [List.getLast?_append, List.getLast?_cons_of_ne_nil filled] at last
      have last_raw : c ∈ raw.getLast? := by
        cases same : raw.getLast? with
        | none => exact absurd (List.getLast?_eq_none_iff.mp same) filled
        | some d => rwa [same] at last
      exact Text.not_isBlank_getLast?_trim raw c (trimmed.symm ▸ last_raw)
  have cut := all_passes.split_eq (by simp [trimmed_all])
  rwa [trimmed_all] at cut

/-- A word, `=` and a token give the value of the token to the word. -/
theorem Invocation.Assigns.of_word {schema : Schema} {tool : String} {v : Value}
    (word : Segment.isWordText key = true) (trimmed : Text.trim raw = raw) (filled : raw ≠ [])
    (decodes : Token.decode (schema.isInteger tool (String.ofList key)) raw = .ok v) :
    Assigns schema tool (key ++ '=' :: raw) (String.ofList key, v) := by
  have key_trimmed := Text.trim_word word
  have assigns : Assigns schema tool (key ++ '=' :: raw) (String.ofList (Text.trim key), v) := by
    apply Assigns.intro
    · intro c member
      exact Segment.not_isSeparator_of_isWord ((isWordText_iff.mp word).2 c member)
    · decide
    · rwa [key_trimmed]
    · rwa [trimmed]
    · rwa [key_trimmed, trimmed]
  rwa [key_trimmed] at assigns

end

/-! ### Calls -/

namespace Invocation

variable {schema : Schema} {name parameters key literal first last : List Char} {v : Value}
  {pieces before after : List (List Char)} {assigned : List (String × Value)}

/-- A call without decoration. -/
def call (name parameters : List Char) : String := String.ofList (name ++ '(' :: (parameters ++ [')']))

/-- A name and a parameter list, with nothing else. -/
def plain (named : Segment.isWordText name = true) (one_line : '\n' ∉ parameters) : Layout :=
  ⟨none, name, [], none, parameters, nofun, named, fun _ => nofun, one_line⟩

theorem call_eq (named : Segment.isWordText name = true) (one_line : '\n' ∉ parameters) :
    call name parameters = String.ofList (plain named one_line).text := rfl

/-- A call is read from the pieces of its parameter list. -/
theorem parse_call_iff {i : Invocation} (named : Segment.isWordText name = true) (one_line : '\n' ∉ parameters)
    (cut : Segment.split parameters = .ok pieces) : parse schema (call name parameters) = .ok i ↔
      ∃ assigned, List.Forall₂ (Assigns schema (String.ofList name)) pieces assigned ∧
        (assigned.map Prod.fst).Nodup ∧ i = ⟨String.ofList name, Fields.ofList assigned⟩ := by
  let layout := plain named one_line
  have laid : undecorated (call name parameters).toList = layout.text := by
    rw [call_eq named one_line, String.toList_ofList]
    exact layout.undecorated_text
  have cut_layout : Segment.split layout.parameters = .ok pieces := cut
  exact parse_eq_ok_iff laid cut_layout

theorem parse_call (named : Segment.isWordText name = true) (one_line : '\n' ∉ parameters)
    (cut : Segment.split parameters = .ok pieces)
    (assigns : List.Forall₂ (Assigns schema (String.ofList name)) pieces assigned)
    (different : (assigned.map Prod.fst).Nodup) :
    parse schema (call name parameters) = .ok ⟨String.ofList name, Fields.ofList assigned⟩ :=
  (parse_call_iff named one_line cut).mpr ⟨assigned, assigns, different, rfl⟩

theorem exists_assigned_append {tool : String}
    (assigns : List.Forall₂ (Assigns schema tool) (before ++ after) assigned) :
    ∃ first last, assigned = first ++ last ∧ List.Forall₂ (Assigns schema tool) before first ∧
      List.Forall₂ (Assigns schema tool) after last := by
  have assigns_before := List.forall₂_take before.length assigns
  have assigns_after := List.forall₂_drop before.length assigns
  rw [List.take_left] at assigns_before
  rw [List.drop_left] at assigns_after
  exact ⟨_, _, (List.take_append_drop before.length assigned).symm, assigns_before, assigns_after⟩

theorem ofList_middle {key : String} {before after : List (String × Value)}
    (different : (key :: (before ++ after).map Prod.fst).Nodup) :
    Fields.ofList (before ++ (key, v) :: after) = Fields.insert key v (Fields.ofList (before ++ after)) := by
  obtain ⟨new, others⟩ := List.nodup_cons.mp different
  have stored := Fields.ofList_perm others
  have new_stored : key ∉ (Fields.ofList (before ++ after)).map Prod.fst :=
    fun member => new ((stored.map Prod.fst).mem_iff.mp member)
  have order : (before ++ (key, v) :: after).Perm (Fields.insert key v (Fields.ofList (before ++ after))) :=
    List.perm_middle.trans ((stored.symm.cons _).trans (Fields.insert_perm v new_stored).symm)
  exact Fields.ofList_eq_of_perm order (Fields.Sorted.ofList _).insert

/-- A list that is one piece, between two others in a call, gives its value to its key and changes nothing
else. -/
theorem parse_call_middle {middle piece : List Char} {key : String} (named : Segment.isWordText name = true)
    (one_line : '\n' ∉ first ++ ',' :: ' ' :: (middle ++ ',' :: ' ' :: last))
    (cut_first : Segment.split first = .ok before) (cut_middle : Segment.split middle = .ok [piece])
    (cut_last : Segment.split last = .ok after) (given : Assigns schema (String.ofList name) piece (key, v))
    (assigns : List.Forall₂ (Assigns schema (String.ofList name)) (before ++ after) assigned)
    (different : (key :: assigned.map Prod.fst).Nodup) :
    parse schema (call name (first ++ ',' :: ' ' :: (middle ++ ',' :: ' ' :: last))) =
      .ok ⟨String.ofList name, Fields.insert key v (Fields.ofList assigned)⟩ := by
  have cut : Segment.split (first ++ ',' :: ' ' :: (middle ++ ',' :: ' ' :: last)) =
      .ok (before ++ ([piece] ++ after)) :=
    Segment.split_comma_blank cut_first (Segment.split_comma_blank cut_middle cut_last)
  obtain ⟨assigned_before, assigned_after, rfl, assigns_before, assigns_after⟩ := exists_assigned_append assigns
  have assigns_all := List.rel_append assigns_before (.cons given assigns_after)
  have order : (assigned_before ++ (key, v) :: assigned_after).Perm
      ((key, v) :: (assigned_before ++ assigned_after)) := List.perm_middle
  have different_all := (order.map Prod.fst).nodup_iff.mpr different
  rw [parse_call named one_line cut assigns_all different_all, ofList_middle different]

/-- A bracketed literal after a key is one piece, and gives its value to the key. -/
theorem exists_literal_piece (keyed : Segment.isWordText key = true)
    (opens : ∃ c ∈ literal.head?, Literal.IsBracket c) (read : Literal.decode literal = .ok v) :
    ∃ piece, Segment.split (key ++ '=' :: literal) = .ok [piece] ∧
      ∀ schema tool, Assigns schema tool piece (String.ofList key, v) := by
  obtain ⟨s, gap, rfl, spacing, denotes, trimmed, s_opens⟩ := Literal.exists_literal read opens
  have filled : s ≠ [] := by
    rintro rfl
    obtain ⟨c, none, -⟩ := s_opens
    cases none
  have blank : ∀ c ∈ gap, Text.isBlank c = true :=
    fun c member => Literal.isBlank_of_isSpacing (spacing c member)
  refine ⟨key ++ '=' :: s, ?_, fun schema tool => ?_⟩
  · calc Segment.split (key ++ '=' :: (s ++ gap)) = Segment.split ((key ++ '=' :: s) ++ gap) := by simp
      _ = Segment.split (key ++ '=' :: s) := Segment.split_append_blank blank _
      _ = .ok [key ++ '=' :: s] := Segment.split_assignment keyed denotes.passes trimmed filled
  · exact .of_word keyed trimmed filled
      (Token.decode_bracketed trimmed s_opens (Literal.decode_of_written denotes.written))

/-- What is read as a bracketed literal can be the value of one more parameter of a call, between any of its
parameters and whatever the schema declares: the call with it is the call without it, with the value stored
under the new key. -/
theorem literal_is_one_parameter (schema : Schema) (named : Segment.isWordText name = true)
    (keyed : Segment.isWordText key = true) (literal_oneLine : '\n' ∉ literal)
    (opens : ∃ c ∈ literal.head?, Literal.IsBracket c) (read : Literal.decode literal = .ok v)
    (first_oneLine : '\n' ∉ first) (cut_first : Segment.split first = .ok before)
    (last_oneLine : '\n' ∉ last) (cut_last : Segment.split last = .ok after)
    (assigns : List.Forall₂ (Assigns schema (String.ofList name)) (before ++ after) assigned)
    (different : (String.ofList key :: assigned.map Prod.fst).Nodup) :
    parse schema (call name (first ++ ',' :: ' ' :: last)) =
        .ok ⟨String.ofList name, Fields.ofList assigned⟩ ∧
      parse schema (call name (first ++ ',' :: ' ' :: (key ++ '=' :: literal ++ ',' :: ' ' :: last))) =
        .ok ⟨String.ofList name, Fields.insert (String.ofList key) v (Fields.ofList assigned)⟩ := by
  have key_oneLine : '\n' ∉ key := by
    intro member
    have word := (isWordText_iff.mp keyed).2 _ member
    exact absurd word (by decide)
  obtain ⟨piece, cut_piece, given⟩ := exists_literal_piece keyed opens read
  refine ⟨?_, ?_⟩
  · have cut := Segment.split_comma_blank cut_first cut_last
    exact parse_call named (by simp [first_oneLine, last_oneLine]) cut assigns (List.nodup_cons.mp different).2
  · have one_line : '\n' ∉ first ++ ',' :: ' ' :: (key ++ '=' :: literal ++ ',' :: ' ' :: last) := by
      simp [first_oneLine, last_oneLine, key_oneLine, literal_oneLine]
    exact parse_call_middle named one_line cut_first cut_piece cut_last (given schema _) assigns different

theorem denotes_nested_literal : Literal.Denotes true "['a, ]', \x7b\"k(\": [1,]\x7d]".toList
    (.list [.text "a, ]", .mapping [("k(", .list [.integer 1])]]) := by
  have nothing : Literal.IsGap [] := nofun
  have one : Literal.Denotes true ([] ++ ['1']) (.integer 1) :=
    .scalar (.number (.integer .none ⟨List.cons_ne_nil _ _, List.forall_mem_singleton.mpr rfl⟩ rfl))
  have ones : Literal.Sequence true (Literal.Denotes true) _ [.integer 1] :=
    .mk nothing (.cons one .nil) (.comma (.inr rfl) nothing nothing)
  have key : Literal.QuotedText ('"' :: (['k', '('] ++ ['"'])) "k(" := .mk rfl (.of_plain (by simp))
  have entry : Literal.Entry (Literal.Denotes true) _ ("k(", .list [.integer 1]) :=
    .mk (.text key) nothing Literal.isGap_space (.list ones)
  have mapping : Literal.Denotes true _ (.mapping [("k(", .list [.integer 1])]) :=
    .mapping (Literal.Series.cons entry .nil).sequence (Literal.collected_iff.mpr rfl)
  have text : Literal.QuotedText ('\'' :: (['a', ',', ' ', ']'] ++ ['\''])) "a, ]" :=
    .mk rfl (.of_plain (by simp))
  have first : Literal.Denotes true _ (.text "a, ]") := .scalar (.text text)
  exact .list (Literal.Series.cons first (.cons nothing Literal.isGap_space mapping .nil)).sequence

/-- A literal with commas, brackets and quotes inside quotes, a comma too many and spacing after it, between
two parameters. -/
theorem parse_call_of_nested_literal :
    parse Schema.empty (call ['f'] ("x='1, 2'".toList ++ ',' :: ' ' :: "z=it's".toList)) =
        .ok ⟨"f", [("x", .text "1, 2"), ("z", .text "it's")]⟩ ∧
      parse Schema.empty (call ['f'] ("x='1, 2'".toList ++ ',' :: ' ' ::
          (['y'] ++ '=' :: "['a, ]', \x7b\"k(\": [1,]\x7d] ".toList ++ ',' :: ' ' :: "z=it's".toList))) =
        .ok ⟨"f", [("x", .text "1, 2"), ("y", .list [.text "a, ]", .mapping [("k(", .list [.integer 1])]]),
          ("z", .text "it's")]⟩ := by
  have read := Literal.decode_of_written (.mk (nofun : Literal.IsGap []) Literal.isGap_space denotes_nested_literal)
  have assigns : List.Forall₂ (Assigns Schema.empty "f") (["x='1, 2'".toList] ++ ["z=it's".toList])
      [("x", .text "1, 2"), ("z", .text "it's")] :=
    .cons (.of_word (by decide : Segment.isWordText ['x'] = true) (by decide) (by decide) rfl)
      (.cons (.of_word (by decide : Segment.isWordText ['z'] = true) (by decide) (by decide) rfl) .nil)
  exact literal_is_one_parameter Schema.empty (by decide : Segment.isWordText ['f'] = true)
    (by decide : Segment.isWordText ['y'] = true) (by decide +kernel) ⟨'[', rfl, .inl rfl⟩ read
    (by decide +kernel) (by decide +kernel) (by decide +kernel) (by decide +kernel) assigns (by decide)

end Invocation

end CallScript
