import CallScript.Script.Schema
import CallScript.Proofs.Fields
import CallScript.Proofs.Text.Span
import Mathlib.Data.List.Induction
import Mathlib.Logic.Function.Basic

/-! # Schemas as sets of declarations

However a schema comes about, it is known by what is declared in it.  There is one way to change a schema, which is
to add parameters of a tool (`Schema.add`): a declaration adds one of them, and the declarations of another schema
are added tool by tool.  This keeps a schema well-formed: tools and parameters are in order, and no tool is held
without parameters.  Well-formed schemas that declare the same are equal, from which the laws of `Schema.extend`
follow.

* `Schema.IsDotted`: declarations of the form `tool.parameter`.
* `Schema.WellFormed.eq_of_isInteger_eq`: a well-formed schema is the set of its declarations.
* `Schema.isInteger_extend_iff`, `Schema.extend_assoc`, `Schema.extend_comm`, `Schema.extend_self`: schemas together.
* `Schema.Declared`: what a history of operations declares in each of several schemas.
* `Schema.wellFormed_perform`, `Schema.isInteger_perform_iff`: one operation.
* `Schema.schemas_are_their_declarations`: the schemas after any history. -/

namespace CallScript.Schema

variable {s s' other : Schema} {tool tool' parameter parameter' spec : String} {added : List (String × Unit)}

/-! ### Declarations with a dot -/

/-- A text declares a parameter of a tool: neither is empty, and what stands between them is the first dot. -/
structure IsDotted (spec tool parameter : String) : Prop where
  parts : spec = tool ++ "." ++ parameter
  first : '.' ∉ tool.toList
  tool_ne : tool ≠ ""
  parameter_ne : parameter ≠ ""

theorem forall_ne_dot {chars : List Char} (absent : '.' ∉ chars) : ∀ c ∈ chars, decide (c ≠ '.') = true := by
  intro c member
  exact decide_eq_true fun same => absent (same ▸ member)

theorem dottedParts_of_first {before after : List Char} (first : '.' ∉ before) :
    dottedParts (String.ofList (before ++ '.' :: after)) =
      if before.isEmpty || after.isEmpty then none else some (String.ofList before, String.ofList after) := by
  have dot_stops : decide ('.' ≠ '.') = false := rfl
  obtain ⟨taken, dropped⟩ := Prod.mk.inj (Text.spanOf_append_cons (forall_ne_dot first) dot_stops after)
  unfold dottedParts
  rw [String.toList_ofList]
  simp only [taken, dropped]

theorem dottedParts_of_not_mem (absent : '.' ∉ spec.toList) : dottedParts spec = none := by
  have nothing_left : spec.toList.dropWhile (· ≠ '.') = [] :=
    List.dropWhile_eq_nil_iff.mpr (forall_ne_dot absent)
  unfold dottedParts
  simp only [nothing_left]

theorem dottedParts_eq_some_iff : dottedParts spec = some (tool, parameter) ↔ IsDotted spec tool parameter := by
  constructor
  · intro cut
    by_cases dot : '.' ∈ spec.toList
    · obtain ⟨before, after, spec_eq, first⟩ := List.eq_append_cons_of_mem dot
      rw [← String.ofList_toList (s := spec), spec_eq, dottedParts_of_first first] at cut
      split at cut
      · cases cut
      next some_parts =>
        rw [Bool.not_eq_true, Bool.or_eq_false_iff, List.isEmpty_eq_false_iff, List.isEmpty_eq_false_iff] at some_parts
        obtain ⟨rfl, rfl⟩ := Prod.mk.inj (Option.some.inj cut)
        refine ⟨?_, ?_, ?_, ?_⟩
        · apply String.toList_injective
          simp [spec_eq]
        · rwa [String.toList_ofList]
        · simpa using some_parts.1
        · simpa using some_parts.2
    · rw [dottedParts_of_not_mem dot] at cut
      cases cut
  · rintro ⟨rfl, first, tool_ne, parameter_ne⟩
    have spec_eq : tool ++ "." ++ parameter = String.ofList (tool.toList ++ '.' :: parameter.toList) := by
      apply String.toList_injective
      simp
    rw [spec_eq, dottedParts_of_first first]
    simp [tool_ne, parameter_ne]

/-! ### Adding parameters of a tool -/

/-- A schema with more parameters of a tool. -/
def add (s : Schema) (tool : String) (added : List (String × Unit)) : Schema :=
  ⟨Fields.insert tool (Fields.merge (s.parameters tool) added) s.tools⟩

theorem declare_eq_add (s : Schema) (tool parameter : String) :
    s.declare tool parameter = s.add tool [(parameter, ())] := rfl

theorem extend_eq_foldl (s other : Schema) :
    s.extend other = other.tools.foldl (fun s entry => s.add entry.1 entry.2) s :=
  (List.foldl_hom Schema.mk fun _ _ => rfl).symm

theorem isInteger_iff_mem : s.isInteger tool parameter = true ↔ parameter ∈ (s.parameters tool).map Prod.fst :=
  Fields.contains_iff

theorem isInteger_add_iff : (s.add tool added).isInteger tool' parameter = true ↔
    s.isInteger tool' parameter = true ∨ tool' = tool ∧ parameter ∈ added.map Prod.fst := by
  rw [isInteger_iff_mem, isInteger_iff_mem]
  unfold parameters add
  by_cases same : tool = tool'
  · subst same
    rw [Fields.find?_insert_self, Option.getD_some, Fields.mem_keys_merge]
    simp [parameters]
  · rw [Fields.find?_insert_ne same]
    simp [Ne.symm same]

theorem isInteger_declare_iff : (s.declare tool parameter).isInteger tool' parameter' = true ↔
    s.isInteger tool' parameter' = true ∨ tool' = tool ∧ parameter' = parameter := by
  rw [declare_eq_add, isInteger_add_iff, List.map_singleton, List.mem_singleton]

theorem isInteger_foldl_iff {β : Type} {change : Schema → β → Schema} {declares : β → Prop}
    (each : ∀ s x, (change s x).isInteger tool parameter = true ↔ s.isInteger tool parameter = true ∨ declares x)
    (changes : List β) : (changes.foldl change s).isInteger tool parameter = true ↔
      s.isInteger tool parameter = true ∨ ∃ x ∈ changes, declares x := by
  induction changes generalizing s with
  | nil => simp
  | cons first rest ih =>
      rw [List.foldl_cons, ih, each, or_assoc]
      simp only [List.mem_cons, exists_eq_or_imp]

/-! ### Well-formed schemas -/

/-- Tools and parameters are in order, and no tool is held without parameters. -/
structure WellFormed (s : Schema) : Prop where
  sorted : Fields.Sorted s.tools
  parameters_sorted : ∀ entry ∈ s.tools, Fields.Sorted entry.2
  parameters_ne : ∀ entry ∈ s.tools, entry.2 ≠ []

theorem wellFormed_empty : empty.WellFormed := ⟨List.Pairwise.nil, nofun, nofun⟩

namespace WellFormed

theorem sorted_parameters (w : s.WellFormed) (tool : String) : Fields.Sorted (s.parameters tool) := by
  unfold parameters
  cases found : Fields.find? tool s.tools with
  | none => exact List.Pairwise.nil
  | some parameters => exact w.parameters_sorted _ (Fields.mem_of_find?_eq_some found)

theorem add (w : s.WellFormed) (tool : String) (some_added : added ≠ []) : (s.add tool added).WellFormed := by
  have merged_ne : Fields.merge (s.parameters tool) added ≠ [] := by
    obtain ⟨pair, rest, rfl⟩ := List.exists_cons_of_ne_nil some_added
    have member : pair.1 ∈ (Fields.merge (s.parameters tool) (pair :: rest)).map Prod.fst :=
      Fields.mem_keys_merge.mpr (.inr List.mem_cons_self)
    exact fun nothing => by simp [nothing] at member
  refine ⟨w.sorted.insert, fun entry member => ?_, fun entry member => ?_⟩
  · rcases Fields.mem_insert member with rfl | before
    · exact (w.sorted_parameters tool).merge added
    · exact w.parameters_sorted entry before
  · rcases Fields.mem_insert member with rfl | before
    · exact merged_ne
    · exact w.parameters_ne entry before

theorem declare (w : s.WellFormed) (tool parameter : String) : (s.declare tool parameter).WellFormed :=
  w.add tool (List.cons_ne_nil (parameter, ()) [])

theorem extend (w : s.WellFormed) (other_w : other.WellFormed) : (s.extend other).WellFormed := by
  rw [extend_eq_foldl]
  exact List.foldlRecOn _ _ w fun _ before entry member => before.add entry.1 (other_w.parameters_ne entry member)

theorem declareDotted (w : s.WellFormed) (spec : String) : ((s.declareDotted spec).getD s).WellFormed := by
  unfold Schema.declareDotted
  cases dottedParts spec with
  | none => exact w
  | some parts => exact w.declare parts.1 parts.2

theorem isInteger_iff (w : s.WellFormed) : s.isInteger tool parameter = true ↔
    ∃ entry ∈ s.tools, tool = entry.1 ∧ parameter ∈ entry.2.map Prod.fst := by
  rw [isInteger_iff_mem]
  unfold parameters
  constructor
  · intro member
    cases found : Fields.find? tool s.tools with
    | none => simp [found] at member
    | some parameters =>
        rw [found] at member
        exact ⟨(tool, parameters), Fields.mem_of_find?_eq_some found, rfl, member⟩
  · rintro ⟨entry, held, rfl, member⟩
    rw [(Fields.find?_eq_some_iff w.sorted).mpr held]
    exact member

theorem find?_tools (w : s.WellFormed) : Fields.find? tool s.tools = some added ↔
    s.parameters tool = added ∧ added ≠ [] := by
  unfold parameters
  cases found : Fields.find? tool s.tools with
  | none => simp +contextual [eq_comm]
  | some parameters =>
      have some_parameters : parameters ≠ [] := w.parameters_ne _ (Fields.mem_of_find?_eq_some found)
      rw [Option.some.injEq, Option.getD_some, iff_self_and]
      rintro rfl
      exact some_parameters

/-- Well-formed schemas that declare the same are equal. -/
theorem eq_of_isInteger_eq (w : s.WellFormed) (w' : s'.WellFormed)
    (alike : ∀ tool parameter, s.isInteger tool parameter = s'.isInteger tool parameter) : s = s' := by
  -- A tool held without parameters would declare as little as one that is not held; `find?_tools` rules it out.
  have parameters_eq (tool : String) : s.parameters tool = s'.parameters tool :=
    Fields.eq_of_contains_eq (w.sorted_parameters tool) (w'.sorted_parameters tool) (alike tool)
  rw [Schema.mk.injEq]
  apply Fields.eq_of_find?_eq w.sorted w'.sorted
  intro tool
  apply Option.ext
  intro held
  rw [w.find?_tools, w'.find?_tools, parameters_eq]

theorem eq_iff (w : s.WellFormed) (w' : s'.WellFormed) :
    s = s' ↔ ∀ tool parameter, s.isInteger tool parameter = s'.isInteger tool parameter :=
  ⟨fun same _ _ => by rw [same], w.eq_of_isInteger_eq w'⟩

theorem isEmpty_iff (w : s.WellFormed) :
    s.isEmpty = true ↔ ∀ tool parameter, ¬ s.isInteger tool parameter = true := by
  have empty_iff : s.isEmpty = true ↔ s = empty := by
    rw [Schema.isEmpty, List.isEmpty_iff, empty, Schema.mk.injEq]
  rw [empty_iff, w.eq_iff wellFormed_empty]
  simp only [Bool.not_eq_true]
  rfl

end WellFormed

/-! ### Schemas together -/

section

variable {a b c : Schema}

theorem isInteger_extend_iff (b_w : b.WellFormed) : (a.extend b).isInteger tool parameter = true ↔
    a.isInteger tool parameter = true ∨ b.isInteger tool parameter = true := by
  have each (s : Schema) (entry : String × List (String × Unit)) :
      (s.add entry.1 entry.2).isInteger tool parameter = true ↔ s.isInteger tool parameter = true ∨
        tool = entry.1 ∧ parameter ∈ entry.2.map Prod.fst := isInteger_add_iff
  rw [extend_eq_foldl, isInteger_foldl_iff each, ← b_w.isInteger_iff]

theorem extend_assoc (a_w : a.WellFormed) (b_w : b.WellFormed) (c_w : c.WellFormed) :
    (a.extend b).extend c = a.extend (b.extend c) := by
  apply ((a_w.extend b_w).extend c_w).eq_of_isInteger_eq (a_w.extend (b_w.extend c_w))
  intro tool parameter
  rw [Bool.eq_iff_iff, isInteger_extend_iff c_w, isInteger_extend_iff b_w, isInteger_extend_iff (b_w.extend c_w),
    isInteger_extend_iff c_w, or_assoc]

theorem extend_comm (a_w : a.WellFormed) (b_w : b.WellFormed) : a.extend b = b.extend a := by
  apply (a_w.extend b_w).eq_of_isInteger_eq (b_w.extend a_w)
  intro tool parameter
  rw [Bool.eq_iff_iff, isInteger_extend_iff b_w, isInteger_extend_iff a_w, or_comm]

theorem extend_self (a_w : a.WellFormed) : a.extend a = a := by
  apply (a_w.extend a_w).eq_of_isInteger_eq a_w
  intro tool parameter
  rw [Bool.eq_iff_iff, isInteger_extend_iff a_w, or_self]

end

/-! ### Histories of schemas -/

theorem declareDotted_eq_some_iff : s.declareDotted spec = some s' ↔
    ∃ tool parameter, IsDotted spec tool parameter ∧ s.declare tool parameter = s' := by
  unfold declareDotted
  simp only [Option.map_eq_some_iff, Prod.exists, dottedParts_eq_some_iff]

theorem isInteger_declareDotted_iff : ((s.declareDotted spec).getD s).isInteger tool parameter = true ↔
    s.isInteger tool parameter = true ∨ IsDotted spec tool parameter := by
  rw [← dottedParts_eq_some_iff]
  unfold declareDotted
  cases dottedParts spec with
  | none => simp
  | some parts =>
      have pair_eq : some parts = some (tool, parameter) ↔ tool = parts.1 ∧ parameter = parts.2 := by
        rw [Option.some.injEq, eq_comm, Prod.ext_iff]
      rw [Option.map_some, Option.getD_some, isInteger_declare_iff, pair_eq]

section

variable {ι : Type}

/-- What is done with schemas, which are told apart by labels.  A declaration is made in place or while a schema
is being built; either adds to the schema that it is made in. -/
inductive Operation (ι : Type) where
  | declare (i : ι) (tool parameter : String)
  | declareDotted (i : ι) (spec : String)
  | extend (i j : ι)

namespace Operation

/-- The schema that may change. -/
def target : Operation ι → ι
  | declare i _ _ | declareDotted i _ | extend i _ => i

/-- What becomes of this schema.  A text that declares nothing is refused, and changes nothing. -/
def result (schemas : ι → Schema) : Operation ι → Schema
  | declare i tool parameter => (schemas i).declare tool parameter
  | declareDotted i spec => ((schemas i).declareDotted spec).getD (schemas i)
  | extend i j => (schemas i).extend (schemas j)

/-- An operation declares a parameter of a tool, given what is declared before in each schema. -/
def Declares (before : ι → String → String → Prop) (tool parameter : String) : Operation ι → Prop
  | declare _ tool' parameter' => tool = tool' ∧ parameter = parameter'
  | declareDotted _ spec => IsDotted spec tool parameter
  | extend _ j => before j tool parameter

end Operation

/-- A history declares a parameter of a tool in a schema: there is a declaration of it in this schema, or the schema is
extended by one in which the history up to there declares it. -/
inductive Declared : List (Operation ι) → ι → String → String → Prop
  | declared {before operations : List (Operation ι)} {i : ι} {tool parameter : String}
      (made : before ++ [.declare i tool parameter] <+: operations) : Declared operations i tool parameter
  | dotted {before operations : List (Operation ι)} {i : ι} {spec tool parameter : String}
      (made : before ++ [.declareDotted i spec] <+: operations) (dotted : IsDotted spec tool parameter) :
      Declared operations i tool parameter
  | extended {before operations : List (Operation ι)} {i j : ι} {tool parameter : String}
      (made : before ++ [.extend i j] <+: operations) (earlier : Declared before j tool parameter) :
      Declared operations i tool parameter

variable {operations before : List (Operation ι)} {operation last : Operation ι} {i : ι}

theorem Declared.append (declared : Declared operations i tool parameter) (more : List (Operation ι)) :
    Declared (operations ++ more) i tool parameter := by
  have longer : operations <+: operations ++ more := List.prefix_append operations more
  cases declared with
  | declared made => exact .declared (made.trans longer)
  | dotted made dotted => exact .dotted (made.trans longer) dotted
  | extended made earlier => exact .extended (made.trans longer) earlier

theorem made_concat (made : before ++ [operation] <+: operations ++ [last]) :
    before ++ [operation] <+: operations ∨ before = operations ∧ operation = last := by
  rcases List.prefix_concat_iff.mp made with whole | earlier
  · obtain ⟨same, last_eq⟩ := List.append_inj' whole rfl
    exact .inr ⟨same, List.singleton_inj.mp last_eq⟩
  · exact .inl earlier

/-- What a history declares, one operation after the other. -/
theorem declared_concat_iff : Declared (operations ++ [last]) i tool parameter ↔
    Declared operations i tool parameter ∨
      i = last.target ∧ last.Declares (Declared operations) tool parameter := by
  constructor
  · intro declared
    cases declared with
    | declared made =>
        obtain earlier | ⟨rfl, rfl⟩ := made_concat made
        · exact .inl (.declared earlier)
        · exact .inr ⟨rfl, rfl, rfl⟩
    | dotted made dotted =>
        obtain earlier | ⟨rfl, rfl⟩ := made_concat made
        · exact .inl (.dotted earlier dotted)
        · exact .inr ⟨rfl, dotted⟩
    | extended made before =>
        obtain earlier | ⟨rfl, rfl⟩ := made_concat made
        · exact .inl (.extended earlier before)
        · exact .inr ⟨rfl, before⟩
  · rintro (declared | ⟨rfl, declares⟩)
    · exact declared.append [last]
    · cases last with
      | declare j tool' parameter' =>
          obtain ⟨rfl, rfl⟩ := declares
          exact .declared (List.prefix_refl _)
      | declareDotted j spec => exact .dotted (List.prefix_refl _) declares
      | extend j k => exact .extended (List.prefix_refl _) declares

variable [DecidableEq ι] {schemas : ι → Schema}

/-- The schemas after an operation on one of them. -/
def perform (schemas : ι → Schema) (operation : Operation ι) : ι → Schema :=
  Function.update schemas operation.target (operation.result schemas)

/-- The schemas, new at first, after a history of operations. -/
def performAll (operations : List (Operation ι)) : ι → Schema := operations.foldl perform fun _ => empty

theorem performAll_concat (operations : List (Operation ι)) (operation : Operation ι) :
    performAll (operations ++ [operation]) = perform (performAll operations) operation :=
  List.foldl_concat ..

theorem wellFormed_perform (w : ∀ i, (schemas i).WellFormed) (operation : Operation ι) (i : ι) :
    (perform schemas operation i).WellFormed := by
  have result_wellFormed : (operation.result schemas).WellFormed := by
    cases operation with
    | declare j tool parameter => exact (w j).declare tool parameter
    | declareDotted j spec => exact (w j).declareDotted spec
    | extend j k => exact (w j).extend (w k)
  exact (Function.forall_update_iff schemas fun _ s => s.WellFormed).mpr ⟨result_wellFormed, fun j _ => w j⟩ i

/-- What is declared after an operation. -/
theorem isInteger_perform_iff (w : ∀ i, (schemas i).WellFormed) :
    (perform schemas operation i).isInteger tool parameter = true ↔ (schemas i).isInteger tool parameter = true ∨
      i = operation.target ∧
        operation.Declares (fun j tool parameter => (schemas j).isInteger tool parameter = true) tool parameter := by
  unfold perform
  by_cases changed : i = operation.target
  · subst changed
    rw [Function.update_self, and_iff_right rfl]
    cases operation with
    | declare j tool' parameter' => exact isInteger_declare_iff
    | declareDotted j spec => exact isInteger_declareDotted_iff
    | extend j k => exact isInteger_extend_iff (w k)
  · rw [Function.update_of_ne changed]
    simp [changed]

theorem wellFormed_performAll (operations : List (Operation ι)) (i : ι) : (performAll operations i).WellFormed := by
  induction operations using List.reverseRecOn generalizing i with
  | nil => exact wellFormed_empty
  | append_singleton before last ih =>
      rw [performAll_concat]
      exact wellFormed_perform ih last i

theorem isInteger_performAll_iff :
    (performAll operations i).isInteger tool parameter = true ↔ Declared operations i tool parameter := by
  -- Of all schemas at once, since the last operation may look at another one.
  induction operations using List.reverseRecOn generalizing i tool parameter with
  | nil =>
      have nothing : ¬ Declared ([] : List (Operation ι)) i tool parameter := by
        rintro (made | made | made) <;> simp at made
      exact iff_of_false Bool.false_ne_true nothing
  | append_singleton before last ih =>
      have by_history : (fun j tool parameter => (performAll before j).isInteger tool parameter = true) =
          Declared before := by
        funext j tool parameter
        exact propext ih
      rw [performAll_concat, isInteger_perform_iff (wellFormed_performAll before), declared_concat_iff, ih, by_history]

theorem perform_dotted (dotted : IsDotted spec tool parameter) (schemas : ι → Schema) (i : ι) :
    perform schemas (.declareDotted i spec) = perform schemas (.declare i tool parameter) := by
  have taken : (schemas i).declareDotted spec = some ((schemas i).declare tool parameter) :=
    declareDotted_eq_some_iff.mpr ⟨tool, parameter, dotted, rfl⟩
  unfold perform Operation.result
  simp only [taken, Option.getD_some]
  rfl

theorem perform_refused (refused : (schemas i).declareDotted spec = none) :
    perform schemas (.declareDotted i spec) = schemas := by
  unfold perform Operation.result
  simp only [refused, Option.getD_none]
  exact Function.update_eq_self i schemas

/-- Whatever is done with schemas that are new at first, each is exactly the set of its declarations.  It declares what
was declared in it, or in one by which it was extended, before that.  No tool is held without parameters, so a schema
is empty if nothing is declared in it, and two schemas are equal if they declare the same.  Schemas are extended in any
order and grouping, and once as well as twice.  A text is taken as a declaration if it is a tool and a parameter, none
of them empty, with the first dot between them; it then declares this parameter, and otherwise changes nothing. -/
theorem schemas_are_their_declarations (operations : List (Operation ι)) :
    let schemas := performAll operations
    (∀ i tool parameter, (schemas i).isInteger tool parameter = true ↔ Declared operations i tool parameter) ∧
      (∀ i, ∀ entry ∈ (schemas i).tools, entry.2 ≠ []) ∧
      (∀ i, (schemas i).isEmpty = true ↔ ∀ tool parameter, ¬ Declared operations i tool parameter) ∧
      (∀ i j, schemas i = schemas j ↔
        ∀ tool parameter, (schemas i).isInteger tool parameter = (schemas j).isInteger tool parameter) ∧
      (∀ i j k, ((schemas i).extend (schemas j)).extend (schemas k) =
        (schemas i).extend ((schemas j).extend (schemas k))) ∧
      (∀ i j, (schemas i).extend (schemas j) = (schemas j).extend (schemas i)) ∧
      (∀ i, (schemas i).extend (schemas i) = schemas i) ∧
      ∀ i spec,
        (((schemas i).declareDotted spec).isSome ↔ ∃ tool parameter, IsDotted spec tool parameter) ∧
        (∀ tool parameter, IsDotted spec tool parameter → ∀ tool' parameter',
          (perform schemas (.declareDotted i spec) i).isInteger tool' parameter' = true ↔
            (schemas i).isInteger tool' parameter' = true ∨ tool' = tool ∧ parameter' = parameter) ∧
        ((schemas i).declareDotted spec = none → perform schemas (.declareDotted i spec) = schemas) := by
  intro schemas
  have w : ∀ i, (schemas i).WellFormed := wellFormed_performAll operations
  refine ⟨fun i tool parameter => isInteger_performAll_iff, fun i => (w i).parameters_ne, fun i => ?_,
    fun i j => (w i).eq_iff (w j), fun i j k => extend_assoc (w i) (w j) (w k), fun i j => extend_comm (w i) (w j),
    fun i => extend_self (w i),
    fun i spec => ⟨?_, fun tool parameter dotted tool' parameter' => ?_, perform_refused⟩⟩
  · rw [(w i).isEmpty_iff]
    simp only [schemas, isInteger_performAll_iff]
  · rw [Option.isSome_iff_exists]
    simp only [declareDotted_eq_some_iff]
    constructor
    · rintro ⟨-, tool, parameter, dotted, -⟩
      exact ⟨tool, parameter, dotted⟩
    · rintro ⟨tool, parameter, dotted⟩
      exact ⟨_, tool, parameter, dotted, rfl⟩
  · rw [perform_dotted dotted, isInteger_perform_iff w]
    simp [Operation.target, Operation.Declares]

example :
    let schemas := performAll [.declare 0 "hover" "line", .declareDotted 1 "hover.character", .extend 0 1,
      .declareDotted 1 ".line", .declareDotted 1 "hover.line"]
    schemas 0 = schemas 1 ∧ (schemas 0).isInteger "hover" "line" ∧ (schemas 2).isEmpty := by decide

end

end CallScript.Schema
