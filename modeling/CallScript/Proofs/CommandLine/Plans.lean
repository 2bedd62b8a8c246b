import CallScript.CommandLine.Action
import CallScript.Proofs.Script.Schemas

/-! # Plans of runs

A run is planned before a server is started: its script, the settings file and the command line are brought
together.  `RunRequest.settle` says under which settings a script is run, and `RunRequest.Valid` what has to
be right about a request, part by part.

* `plan_eq_ok_iff`: a plan, part by part.
* `isInteger_of_plan`: the parameters that a planned run reads as integers.
* `exists_plan_iff`: the requests that have a plan are the valid ones. -/

namespace CallScript

variable {declarations : Declarations} {tool parameter : String}

/-! ### Declarations as they are written -/

theorem isInteger_declareAll_iff (s : Schema) (entry : String × List String) :
    (entry.2.foldl (fun s parameter => s.declare entry.1 parameter) s).isInteger tool parameter = true ↔
      s.isInteger tool parameter = true ∨ tool = entry.1 ∧ parameter ∈ entry.2 := by
  have each (s : Schema) (written : String) : (s.declare entry.1 written).isInteger tool parameter = true ↔
      s.isInteger tool parameter = true ∨ tool = entry.1 ∧ parameter = written := Schema.isInteger_declare_iff
  rw [Schema.isInteger_foldl_iff each]
  simp [and_comm]

theorem Declarations.wellFormed_schema (declarations : Declarations) : declarations.schema.WellFormed := by
  refine List.foldlRecOn _ _ Schema.wellFormed_empty fun s w entry _ => ?_
  exact List.foldlRecOn _ _ w fun _ before parameter _ => before.declare entry.1 parameter

theorem Declarations.isInteger_schema_iff : declarations.schema.isInteger tool parameter = true ↔
    ∃ entry ∈ declarations, tool = entry.1 ∧ parameter ∈ entry.2 := by
  have nothing : ¬ Schema.empty.isInteger tool parameter = true := Bool.false_ne_true
  exact (Schema.isInteger_foldl_iff isInteger_declareAll_iff declarations).trans (or_iff_right nothing)

namespace CommandLine

/-- The settings under which a script is run: those of the file, with the scenario's server and then the
command line laid over them. -/
def RunRequest.settle (r : RunRequest) (config : Config) (scenario : Scenario) : Config :=
  let config := { config with server := (scenario.server.map config.server.merge).getD config.server }
  let config := r.server.override config
  { config with verdicts := {
      keepsGoing := config.verdicts.keepsGoing || r.keepsGoing
      failsOnReportedError := config.verdicts.failsOnReportedError || r.failsOnReportedError } }

/-! ### Parts of a request -/

theorem exists_launch_iff {search : SearchPath} {settings : ServerSettings} :
    (∃ launch, settings.launch search = .ok launch) ↔ settings.command.isSome := by
  unfold ServerSettings.launch
  cases settings.command with
  | none => simp
  | some command => simp

theorem exists_declareFields_iff {schema : Schema} {fields : List String} :
    (∃ declared, declareFields schema fields = .ok declared) ↔
      ∀ field ∈ fields, (Schema.dottedParts field).isSome := by
  unfold declareFields
  induction fields generalizing schema with
  | nil => simp [pure, Except.pure]
  | cons field rest ih =>
      simp only [List.foldlM_cons, List.forall_mem_cons, Schema.declareDotted]
      rcases Schema.dottedParts field with _ | ⟨tool, parameter⟩
      · simp [bind, Except.bind]
      · exact ih.trans (by simp)

theorem isInteger_of_declareFields {schema declared : Schema} {fields : List String}
    (fields_declared : declareFields schema fields = .ok declared) :
    declared.isInteger tool parameter = true ↔
      schema.isInteger tool parameter = true ∨ ∃ field ∈ fields, Schema.IsDotted field tool parameter := by
  unfold declareFields at fields_declared
  induction fields generalizing schema with
  | nil =>
      obtain rfl := Except.ok.inj fields_declared
      simp
  | cons field rest ih =>
      obtain ⟨next, first, others⟩ := bind_eq_ok_iff.mp (List.foldlM_cons.symm.trans fields_declared)
      cases taken : schema.declareDotted field with
      | none => simp [taken] at first
      | some s =>
          rw [taken] at first
          obtain rfl := Except.ok.inj first
          have one : s.isInteger tool parameter = true ↔
              schema.isInteger tool parameter = true ∨ Schema.IsDotted field tool parameter := by
            rw [← Schema.isInteger_declareDotted_iff, taken, Option.getD_some]
          rw [ih others, one, or_assoc]
          simp only [List.mem_cons, exists_eq_or_imp]

theorem exists_addVariables_iff {bindings : Mapping} {given : List String} :
    (∃ added, addVariables bindings given = .ok added) ↔
      ∀ text ∈ given, ∃ binding, readVariable text = .ok binding := by
  unfold addVariables
  induction given generalizing bindings with
  | nil => simp [pure, Except.pure]
  | cons text rest ih =>
      simp only [List.foldlM_cons, List.forall_mem_cons]
      cases read : readVariable text with
      | error e => simp [Except.map, bind, Except.bind]
      | ok binding => exact ih.trans (by simp)

/-! ### Plans -/

section

variable {ω σ : Type} {s : Surroundings ω σ} {files : Files} {r : RunRequest}

/-- A plan, part by part. -/
theorem plan_eq_ok_iff {p : RunPlan} : plan s files r = .ok p ↔
    ∃ scenario config launch schema bindings, resolveInput s files r.input = .ok scenario ∧
      loadSettings s files r.server.settings = .ok config ∧
      (r.settle config scenario).server.launch (s.search files) = .ok launch ∧
      declareFields (config.declarations.schema.extend scenario.declarations.schema) r.integerFields =
        .ok schema ∧
      addVariables (Fields.merge (variableValues config.bindings) (variableValues scenario.bindings))
        r.bindings = .ok bindings ∧
      p = { scenario, launch,
            runner := { options := (r.settle config scenario).options, schema, bindings } } := by
  unfold plan
  simp only [bind_eq_ok_iff]
  constructor
  · rintro ⟨scenario, resolved, config, loaded, launch, launched, schema, declared, bindings, added, planned⟩
    obtain rfl := Except.ok.inj planned
    exact ⟨scenario, config, launch, schema, bindings, resolved, loaded, launched, declared, added, rfl⟩
  · rintro ⟨scenario, config, launch, schema, bindings, resolved, loaded, launched, declared, added, rfl⟩
    exact ⟨scenario, resolved, config, loaded, launch, launched, schema, declared, bindings, added, rfl⟩

/-- The parameters that a planned run reads as integers are those that the settings file, the scenario or the command
line declares. -/
theorem isInteger_of_plan {p : RunPlan} (planned : plan s files r = .ok p) :
    ∃ config scenario, loadSettings s files r.server.settings = .ok config ∧
      resolveInput s files r.input = .ok scenario ∧
      ∀ tool parameter, p.runner.schema.isInteger tool parameter = true ↔
        (∃ entry ∈ config.declarations ++ scenario.declarations, tool = entry.1 ∧ parameter ∈ entry.2) ∨
          ∃ field ∈ r.integerFields, Schema.IsDotted field tool parameter := by
  obtain ⟨scenario, config, launch, schema, bindings, resolved, loaded, -, declared, -, rfl⟩ :=
    plan_eq_ok_iff.mp planned
  refine ⟨config, scenario, loaded, resolved, fun tool parameter => ?_⟩
  rw [isInteger_of_declareFields declared,
    Schema.isInteger_extend_iff scenario.declarations.wellFormed_schema, Declarations.isInteger_schema_iff,
    Declarations.isInteger_schema_iff]
  simp only [List.mem_append, or_and_right, exists_or]

variable (s files r)

/-- What has to be right about a request to run a script: there are a script and settings, with a command of
a server among them, and the parameters and variables of the command line are well-formed. -/
structure RunRequest.Valid : Prop where
  script : ∃ scenario, resolveInput s files r.input = .ok scenario
  settings : ∃ config, loadSettings s files r.server.settings = .ok config
  command : ∀ scenario config, resolveInput s files r.input = .ok scenario →
    loadSettings s files r.server.settings = .ok config → (r.settle config scenario).server.command.isSome
  integerFields : ∀ field ∈ r.integerFields, (Schema.dottedParts field).isSome
  bindings : ∀ given ∈ r.bindings, ∃ binding, readVariable given = .ok binding

/-- The requests that have a plan are the valid ones. -/
theorem exists_plan_iff : (∃ p, plan s files r = .ok p) ↔ r.Valid s files := by
  constructor
  · rintro ⟨p, planned⟩
    obtain ⟨scenario, config, launch, schema, bindings, resolved, loaded, launched, declared, added, -⟩ :=
      plan_eq_ok_iff.mp planned
    refine ⟨⟨scenario, resolved⟩, ⟨config, loaded⟩, ?_, exists_declareFields_iff.mp ⟨schema, declared⟩,
      exists_addVariables_iff.mp ⟨bindings, added⟩⟩
    intro scenario' config' resolved' loaded'
    obtain rfl : scenario = scenario' := Except.ok.inj (resolved.symm.trans resolved')
    obtain rfl : config = config' := Except.ok.inj (loaded.symm.trans loaded')
    exact exists_launch_iff.mp ⟨launch, launched⟩
  · rintro ⟨⟨scenario, resolved⟩, ⟨config, loaded⟩, command, fields, given⟩
    obtain ⟨launch, launched⟩ := exists_launch_iff.mpr (command scenario config resolved loaded)
    obtain ⟨schema, declared⟩ := exists_declareFields_iff.mpr fields
    obtain ⟨bindings, added⟩ := exists_addVariables_iff.mpr given
    exact ⟨_, plan_eq_ok_iff.mpr
      ⟨scenario, config, launch, schema, bindings, resolved, loaded, launched, declared, added, rfl⟩⟩

end

end CommandLine

end CallScript
