import CallScript.Proofs.Script.Parameters
import Mathlib.Data.List.Perm.Basic

/-! # The order of parameters

A call stores its parameters under their keys, and refuses a key that it has stored already.  So it does not matter
in which order they are written: each piece of the list gives its value to its key by itself, pairs with different
keys are stored alike in any order, and whether two of them have the same key is no matter of order either.

* `exists_assigned_perm`: pieces in another order give the same pairs in another order.
* `parameter_order_is_irrelevant`: a call with its parameters in another order. -/

namespace CallScript.Invocation

variable {schema : Schema} {name gap : List Char} {texts others pieces pieces' : List (List Char)} {tool : String}
  {assigned : List (String × Value)} {i : Invocation}

/-- Parameters with a comma and blanks between them. -/
def joined (gap : List Char) (texts : List (List Char)) : List Char := (',' :: gap).intercalate texts

theorem newline_not_mem_joined (gap_oneLine : '\n' ∉ gap) (each : ∀ text ∈ texts, '\n' ∉ text) :
    '\n' ∉ joined gap texts := by
  unfold joined
  induction texts with
  | nil => simp
  | cons text texts ih =>
      obtain ⟨first, rest⟩ := List.forall_mem_cons.mp each
      cases texts with
      | nil => simpa using first
      | cons next texts =>
          rw [List.intercalate_cons_cons]
          simp [first, gap_oneLine, ih rest]

/-- A text that is one piece of a parameter list gives a value to this key. -/
def Names (text : List Char) (key : String) : Prop :=
  ∃ piece word raw, Segment.split text = .ok [piece] ∧ Segment.keyValue piece = .ok (word, raw) ∧
    key = String.ofList word

theorem Names.key_eq {text piece : List Char} {key : String} {pair : String × Value} (names : Names text key)
    (cut : Segment.split text = .ok [piece]) (assigns : Assigns schema tool piece pair) : pair.1 = key := by
  obtain ⟨piece', word, raw, cut', key_value, rfl⟩ := names
  rw [cut] at cut'
  cases cut'
  obtain ⟨word', raw', v, key_value', -, rfl⟩ := assigns_iff.mp assigns
  rw [key_value] at key_value'
  cases key_value'
  rfl

/-- Pieces in another order give the same pairs in another order. -/
theorem exists_assigned_perm (order : pieces.Perm pieces')
    (assigns : List.Forall₂ (Assigns schema tool) pieces assigned) :
    ∃ assigned', List.Forall₂ (Assigns schema tool) pieces' assigned' ∧ assigned'.Perm assigned :=
  List.perm_comp_forall₂ order.symm assigns

theorem parse_call_of_perm {parameters parameters' : List Char} (named : Segment.isWordText name = true)
    (one_line : '\n' ∉ parameters) (one_line' : '\n' ∉ parameters') (cut : Segment.split parameters = .ok pieces)
    (cut' : Segment.split parameters' = .ok pieces') (order : pieces.Perm pieces')
    (parsed : parse schema (call name parameters) = .ok i) : parse schema (call name parameters') = .ok i := by
  obtain ⟨assigned, assigns, different, rfl⟩ := (parse_call_iff named one_line cut).mp parsed
  obtain ⟨assigned', assigns', reordered⟩ := exists_assigned_perm order assigns
  have different' := (reordered.map Prod.fst).nodup_iff.mpr different
  have stored : Fields.ofList assigned' = Fields.ofList assigned :=
    Fields.ofList_eq_of_perm (reordered.trans (Fields.ofList_perm different).symm) (Fields.Sorted.ofList assigned)
  rw [parse_call named one_line' cut' assigns' different', stored]

/-- Parameters that are one piece each and have no line feeds may be written in any order: the call is read as the
same one, or in no order at all.  In particular it is refused, in any order, if two of them name the same key. -/
theorem parameter_order_is_irrelevant (schema : Schema) (named : Segment.isWordText name = true)
    (blank : ∀ c ∈ gap, Text.isBlank c = true) (gap_oneLine : '\n' ∉ gap)
    (each : ∀ text ∈ texts, '\n' ∉ text ∧ ∃ piece, Segment.split text = .ok [piece]) (order : texts.Perm others) :
    (∀ i, parse schema (call name (joined gap texts)) = .ok i ↔
        parse schema (call name (joined gap others)) = .ok i) ∧
      ((∃ text text' key, [text, text'].Subperm texts ∧ Names text key ∧ Names text' key) →
        ∃ reason, parse schema (call name (joined gap others)) =
          .error (.parse (call name (joined gap others)) reason)) := by
  choose! piece cut using fun text member => (each text member).2
  have one_line {list : List (List Char)} (same : texts.Perm list) : '\n' ∉ joined gap list :=
    newline_not_mem_joined gap_oneLine fun text member => (each text (same.mem_iff.mpr member)).1
  have cut_joined {list : List (List Char)} (same : texts.Perm list) :
      Segment.split (joined gap list) = .ok (list.map piece) := by
    apply Segment.split_intercalate blank
    rw [List.forall₂_map_right_iff]
    exact List.forall₂_same.mpr fun text member => cut text (same.mem_iff.mpr member)
  -- A list in one order is read alike in any other.
  have reordered {list list' : List (List Char)} (same : texts.Perm list) (same' : texts.Perm list') {i : Invocation}
      (parsed : parse schema (call name (joined gap list)) = .ok i) :
      parse schema (call name (joined gap list')) = .ok i :=
    parse_call_of_perm named (one_line same) (one_line same') (cut_joined same) (cut_joined same')
      ((same.symm.trans same').map piece) parsed
  refine ⟨fun i => ⟨reordered (.refl _) order, reordered order (.refl _)⟩, ?_⟩
  rintro ⟨text, text', key, ⟨both, both_perm, within⟩, names, names'⟩
  apply exists_parse_error
  intro i parsed
  -- With the two at its head, the list would be read, too.
  obtain ⟨rest, rest_perm⟩ := within.exists_perm_append
  have first : texts.Perm (text :: text' :: rest) := rest_perm.trans (both_perm.append_right rest)
  have parsed_first := reordered order first parsed
  obtain ⟨assigned, assigns, different, -⟩ :=
    (parse_call_iff named (one_line first) (cut_joined first)).mp parsed_first
  obtain _ | ⟨assigns_text, assigns⟩ := assigns
  obtain _ | ⟨assigns_text', -⟩ := assigns
  have key_eq := names.key_eq (cut text (first.mem_iff.mpr (by simp))) assigns_text
  have key_eq' := names'.key_eq (cut text' (first.mem_iff.mpr (by simp))) assigns_text'
  simp [key_eq, key_eq'] at different

/-- Three parameters with a comma inside quotes, a colon for `=` and a comma too many, read alike from the last to
the first; and two of the same key, far apart. -/
theorem three_parameters_in_two_orders :
    let texts := ["x: '1, 2'".toList, "y=[a, 3],".toList, "z=it's".toList]
    let again := "x=4".toList :: texts
    texts.Perm texts.reverse ∧ again.Perm again.reverse ∧ Names "x: '1, 2'".toList "x" ∧ Names "x=4".toList "x" ∧
      (∀ i, parse .empty (call ['f'] (joined [' '] texts)) = .ok i ↔
        parse .empty (call ['f'] (joined [' '] texts.reverse)) = .ok i) ∧
      ∃ reason, parse .empty (call ['f'] (joined [' '] again.reverse)) =
        .error (.parse (call ['f'] (joined [' '] again.reverse)) reason) := by
  intro texts again
  have named : Segment.isWordText ['f'] = true := by decide
  have blank : ∀ c ∈ [' '], Text.isBlank c = true := List.forall_mem_singleton.mpr rfl
  have each_again : ∀ text ∈ again, '\n' ∉ text ∧ ∃ piece, Segment.split text = .ok [piece] := by
    refine List.forall_mem_cons.mpr ⟨⟨by decide +kernel, _, by rfl⟩, ?_⟩
    refine List.forall_mem_cons.mpr ⟨⟨by decide +kernel, _, by rfl⟩, ?_⟩
    refine List.forall_mem_cons.mpr ⟨⟨by decide +kernel, _, by rfl⟩, ?_⟩
    exact List.forall_mem_singleton.mpr ⟨by decide +kernel, _, by rfl⟩
  have names : Names "x: '1, 2'".toList "x" := ⟨_, _, _, by rfl, by rfl, rfl⟩
  have names_again : Names "x=4".toList "x" := ⟨_, _, _, by rfl, by rfl, rfl⟩
  have order : texts.Perm texts.reverse := (List.reverse_perm texts).symm
  have order_again : again.Perm again.reverse := (List.reverse_perm again).symm
  have twice : ["x=4".toList, "x: '1, 2'".toList].Subperm again := (List.prefix_append _ _).sublist.subperm
  exact ⟨order, order_again, names, names_again,
    (parameter_order_is_irrelevant .empty named blank (by decide) (List.forall_mem_cons.mp each_again).2 order).1,
    (parameter_order_is_irrelevant .empty named blank (by decide) each_again order_again).2
      ⟨_, _, "x", twice, names_again, names⟩⟩

end CallScript.Invocation
