import CallScript.CommandLine.Standard
import CallScript.Proofs.CommandLine.Plans
import CallScript.Proofs.Fields

/-! # Layers of server settings

Server settings come in layers: those of the settings file, of a scenario and of the command line.  To lay one
layer over another is associative, the empty layer changes nothing on either side, and a layer over itself is
the layer.  Of several layers the highest one that sets a command gives the command, and the highest one that
has a say about the arguments (`HasSay`) gives the arguments; a layer that sets a command has a say.

* `merge_assoc`, `default_merge`, `merge_default`, `merge_self`: the laws of `merge`.
* `ordered_of_load`, `ordered_of_resolveInput`: the environments that are read are in order.
* `command_stacked`, `arguments_stacked`: what several layers come to.
* `settings_are_layered`: the laws, the command line as a layer, and the layers of a run. -/

namespace CallScript

namespace ServerSettings

variable {a b c : ServerSettings}

/-- The variables of the environment are in order of their names, each of them once. -/
def Ordered (s : ServerSettings) : Prop := Fields.Sorted s.environment

/-- Whether a layer has a say about the arguments: it gives some, or a command to which they belong. -/
def HasSay (s : ServerSettings) : Bool := s.command.isSome || !s.arguments.isEmpty

/-! ### The laws of merging -/

theorem arguments_merge (base upper : ServerSettings) :
    (base.merge upper).arguments = if upper.HasSay then upper.arguments else base.arguments := rfl

theorem hasSay_merge (base upper : ServerSettings) :
    (base.merge upper).HasSay = (base.HasSay || upper.HasSay) := by
  obtain ⟨command, arguments, -, -⟩ := upper
  cases command with
  | some command => simp [merge, HasSay]
  | none =>
      cases arguments with
      | nil => simp [merge, HasSay]
      | cons first rest => simp [merge, HasSay]

theorem arguments_eq_nil_of_not_hasSay (silent : a.HasSay = false) : a.arguments = [] := by
  simp only [HasSay, Bool.or_eq_false_iff, Bool.not_eq_false', List.isEmpty_iff] at silent
  exact silent.2

theorem Ordered.merge (ordered : a.Ordered) (upper : ServerSettings) : (a.merge upper).Ordered :=
  Fields.Sorted.merge ordered upper.environment

theorem Ordered.anchored (ordered : a.Ordered) (directory : String) : (a.anchored directory).Ordered := ordered

theorem ordered_default : ({} : ServerSettings).Ordered := List.Pairwise.nil

theorem merge_assoc (a_ordered : a.Ordered) (b_ordered : b.Ordered) (c_ordered : c.Ordered) :
    (a.merge b).merge c = a.merge (b.merge c) := by
  have arguments_eq : ((a.merge b).merge c).arguments = (a.merge (b.merge c)).arguments := by
    simp only [arguments_merge, hasSay_merge]
    cases b.HasSay <;> cases c.HasSay <;> rfl
  rw [ServerSettings.mk.injEq]
  exact ⟨Option.or_assoc.symm, arguments_eq, Option.or_assoc.symm,
    Fields.merge_assoc a_ordered b_ordered c_ordered⟩

theorem merge_default (a : ServerSettings) : a.merge {} = a := rfl

theorem default_merge (ordered : a.Ordered) : ({} : ServerSettings).merge a = a := by
  have arguments_eq : (({} : ServerSettings).merge a).arguments = a.arguments := by
    rw [arguments_merge]
    split
    · rfl
    next silent => exact (arguments_eq_nil_of_not_hasSay (Bool.eq_false_iff.mpr silent)).symm
  rw [ServerSettings.mk.injEq]
  exact ⟨Option.or_none, arguments_eq, Option.or_none, Fields.nil_merge ordered⟩

theorem merge_self (ordered : a.Ordered) : a.merge a = a := by
  have arguments_eq : (a.merge a).arguments = a.arguments := by rw [arguments_merge, ite_self]
  rw [ServerSettings.mk.injEq]
  exact ⟨Option.or_self, arguments_eq, Option.or_self, Fields.merge_self ordered⟩

end ServerSettings

/-! ### Layers that are read -/

section

variable {δ α : Type} {parts : Parts δ} {position : Nat} {name : String} {read : δ → Option α}

theorem Parts.defaulted_cases {default a : α} (h : parts.defaulted position name read default = some a) :
    a = default ∨ ∃ d, read d = some a := by
  unfold Parts.defaulted at h
  split at h
  next d _ => exact .inr ⟨d, h⟩
  · exact .inl (Option.some.inj h).symm

theorem Parts.optional_cases {form : Form δ} {a : Option α}
    (h : Parts.optional form parts position name read = some a) :
    a = none ∨ ∃ d b, read d = some b ∧ a = some b := by
  unfold Parts.optional at h
  split at h
  next d _ =>
    split at h
    · cases h
    · exact .inl (Option.some.inj h).symm
    · obtain ⟨b, found, rfl⟩ := Option.map_eq_some_iff.mp h
      exact .inr ⟨d, b, found, rfl⟩
  · exact .inl (Option.some.inj h).symm
  · cases h

theorem Form.sorted_of_mapping {form : Form δ} {d : δ} {fields : List (String × α)}
    (h : form.mapping? read d = some fields) : Fields.Sorted fields := by
  unfold Form.mapping? at h
  split at h
  · obtain ⟨pairs, -, rfl⟩ := Option.map_eq_some_iff.mp h
    exact Fields.Sorted.ofList pairs
  · cases h

variable {form : Form δ} {d : δ}

theorem ServerSettings.ordered_of_document {settings : ServerSettings}
    (h : ServerSettings.ofDocument? form d = some settings) : settings.Ordered := by
  simp only [ServerSettings.ofDocument?, Option.bind_eq_bind, Option.bind_eq_some_iff] at h
  obtain ⟨parts, -, command, -, arguments, -, directory, -, environment, environment_read, made⟩ := h
  cases made
  rcases Parts.defaulted_cases environment_read with rfl | ⟨d, mapped⟩
  · exact ServerSettings.ordered_default
  · exact Form.sorted_of_mapping mapped

theorem Config.ordered_of_document {config : Config} (h : Config.ofDocument? form d = some config) :
    config.server.Ordered := by
  simp only [Config.ofDocument?, Option.bind_eq_bind, Option.bind_eq_some_iff] at h
  obtain ⟨parts, -, server, server_read, timeouts, -, introduction, -, verdicts, -, bindings, -,
    declarations, -, made⟩ := h
  cases made
  rcases Parts.defaulted_cases server_read with rfl | ⟨d, read⟩
  · exact ServerSettings.ordered_default
  · exact ServerSettings.ordered_of_document read

theorem Scenario.ordered_of_document {scenario : Scenario} {settings : ServerSettings}
    (h : Scenario.ofDocument? form d = some scenario) (held : scenario.server = some settings) :
    settings.Ordered := by
  simp only [Scenario.ofDocument?, Option.bind_eq_bind, Option.bind_eq_some_iff] at h
  obtain ⟨parts, -, name, -, description, -, server, server_read, bindings, -, declarations, -, steps, -,
    made⟩ := h
  cases made
  rcases Parts.optional_cases server_read with rfl | ⟨d, settings', read, rfl⟩
  · cases held
  · cases held
    exact ServerSettings.ordered_of_document read

end

theorem Scenario.ordered_of_text {path content : String} {scenario : Scenario} {settings : ServerSettings}
    (h : Scenario.ofText path content = .ok scenario) (held : scenario.server = some settings) :
    settings.Ordered := by
  unfold Scenario.ofText at h
  split at h
  · split at h
    · cases h
    next found =>
      cases h
      obtain ⟨written, held_written, rfl⟩ := Option.map_eq_some_iff.mp held
      simp only [Scenario.ofYaml?, Option.bind_eq_bind, Option.bind_eq_some_iff] at found
      obtain ⟨document, -, found⟩ := found
      split at found
      · exact (Scenario.ordered_of_document found held_written).anchored _
      · cases found
  · cases h
    cases held

namespace CommandLine

variable {ω σ : Type} {s : Surroundings ω σ} {files : Files}

/-- The settings that a run loads are ordered. -/
theorem ordered_of_load {given : Option String} {config : Config}
    (loaded : loadSettings s files given = .ok config) : config.server.Ordered := by
  have of_file {path : String} (h : Config.ofFile files s.directory path = .ok config) :
      config.server.Ordered := by
    unfold Config.ofFile Config.ofText at h
    split at h
    · cases h
    · split at h
      · cases h
      · split at h
        · cases h
        next read =>
          cases h
          exact Config.ordered_of_document read
  unfold loadSettings Config.load at loaded
  split at loaded
  · exact of_file loaded
  · split at loaded
    · exact of_file loaded
    · cases loaded
      exact ServerSettings.ordered_default

/-- So are the settings of a server that a script comes with. -/
theorem ordered_of_resolveInput {input : List String} {scenario : Scenario} {settings : ServerSettings}
    (resolved : resolveInput s files input = .ok scenario) (held : scenario.server = some settings) :
    settings.Ordered := by
  have of_lines (h : (.ok (Scenario.ofLines input) : Except Error Scenario) = .ok scenario) :
      settings.Ordered := by
    cases h
    cases held
  unfold resolveInput at resolved
  split at resolved
  · split at resolved
    · unfold Scenario.ofFile at resolved
      split at resolved
      · cases resolved
      · exact Scenario.ordered_of_text resolved held
    · exact of_lines resolved
  · exact of_lines resolved

end CommandLine

/-! ### Several layers -/

namespace ServerSettings

/-- Layers over each other, the lowest first. -/
def stacked (layers : List ServerSettings) : ServerSettings := layers.foldl merge {}

theorem stacked_concat (layers : List ServerSettings) (upper : ServerSettings) :
    stacked (layers ++ [upper]) = (stacked layers).merge upper := by
  unfold stacked
  rw [List.foldl_append]
  rfl

/-- The command is that of the highest layer that sets one. -/
theorem command_stacked (layers : List ServerSettings) :
    (stacked layers).command = layers.reverse.findSome? command := by
  induction layers using List.reverseRecOn with
  | nil => rfl
  | append_singleton layers upper ih =>
      rw [stacked_concat, List.reverse_concat, List.findSome?_cons, ← ih]
      cases given : upper.command with
      | none => simp [merge, given]
      | some command => simp [merge, given]

/-- The arguments are those of the highest layer that has a say about them. -/
theorem arguments_stacked (layers : List ServerSettings) :
    (stacked layers).arguments = ((layers.reverse.find? HasSay).map arguments).getD [] := by
  induction layers using List.reverseRecOn with
  | nil => rfl
  | append_singleton layers upper ih =>
      rw [stacked_concat, List.reverse_concat, List.find?_cons, arguments_merge]
      cases speaks : upper.HasSay with
      | true => rfl
      | false => exact ih

/-- If one layer sets a command and none above it does, that is the command, and the arguments are those of
this layer or of one above it. -/
theorem supplied_stacked {lower higher : List ServerSettings} {supplier : ServerSettings} {command : String}
    (given : supplier.command = some command) (last : ∀ layer ∈ higher, layer.command = none) :
    (stacked (lower ++ supplier :: higher)).command = some command ∧
      ∃ layer ∈ supplier :: higher, (stacked (lower ++ supplier :: higher)).arguments = layer.arguments := by
  have reversed : (lower ++ supplier :: higher).reverse = higher.reverse ++ supplier :: lower.reverse := by
    simp
  have speaks : supplier.HasSay = true := by simp [HasSay, given]
  constructor
  · have none_higher : higher.reverse.findSome? ServerSettings.command = none := by
      rw [List.findSome?_eq_none_iff]
      intro layer member
      exact last layer (List.mem_reverse.mp member)
    rw [command_stacked, reversed, List.findSome?_append, none_higher, Option.none_or, List.findSome?_cons,
      given]
  · rw [arguments_stacked, reversed, List.find?_append]
    cases found : higher.reverse.find? HasSay with
    | none =>
        refine ⟨supplier, List.mem_cons_self, ?_⟩
        rw [Option.none_or, List.find?_cons, speaks]
        rfl
    | some layer =>
        have member := List.mem_reverse.mp (List.mem_of_find?_eq_some found)
        exact ⟨layer, List.mem_cons_of_mem _ member, rfl⟩

end ServerSettings

namespace CommandLine

/-- The layers of the settings of a run: the settings file, the scenario, and the command line. -/
def RunRequest.layers (r : RunRequest) (config : Config) (scenario : Scenario) : List ServerSettings :=
  [config.server, scenario.server.getD {}, r.server.layer]

theorem ServerArguments.apply_eq (a : ServerArguments) (settings : ServerSettings) :
    a.apply settings = settings.merge a.layer := by
  obtain ⟨command, arguments, directory, -, -, -⟩ := a
  rw [ServerSettings.mk.injEq]
  refine ⟨rfl, ?_, rfl, rfl⟩
  cases command with
  | some command => rfl
  | none =>
      cases arguments with
      | nil => rfl
      | cons first rest => rfl

theorem RunRequest.server_settle (r : RunRequest) {config : Config} (scenario : Scenario)
    (ordered : config.server.Ordered) :
    (r.settle config scenario).server = ServerSettings.stacked (r.layers config scenario) := by
  have with_scenario : (scenario.server.map config.server.merge).getD config.server =
      config.server.merge (scenario.server.getD {}) := by
    cases scenario.server with
    | none => rfl
    | some settings => rfl
  have server_eq : (r.settle config scenario).server =
      r.server.apply ((scenario.server.map config.server.merge).getD config.server) := rfl
  have stacked_eq : ServerSettings.stacked (r.layers config scenario) =
      ((({} : ServerSettings).merge config.server).merge (scenario.server.getD {})).merge r.server.layer := rfl
  rw [server_eq, ServerArguments.apply_eq, with_scenario, stacked_eq, ServerSettings.default_merge ordered]

/-! ### The layers of a run -/

section

variable {ω σ : Type} {s : Surroundings ω σ} {files : Files} {r : RunRequest} {config : Config}
  {scenario : Scenario}

theorem ordered_layers (loaded : loadSettings s files r.server.settings = .ok config)
    (resolved : resolveInput s files r.input = .ok scenario) :
    ∀ layer ∈ r.layers config scenario, layer.Ordered := by
  simp only [RunRequest.layers, List.forall_mem_cons]
  refine ⟨ordered_of_load loaded, ?_, ServerSettings.ordered_default, nofun⟩
  cases held : scenario.server with
  | none => exact ServerSettings.ordered_default
  | some settings => exact ordered_of_resolveInput resolved held

/-- The launch of a plan is made from its layers over each other. -/
theorem launch_of_plan {p : RunPlan} (planned : plan s files r = .ok p) :
    ∃ config scenario, loadSettings s files r.server.settings = .ok config ∧
      resolveInput s files r.input = .ok scenario ∧
      (ServerSettings.stacked (r.layers config scenario)).launch (s.search files) = .ok p.launch := by
  obtain ⟨scenario, config, launch, schema, bindings, resolved, loaded, launched, -, -, rfl⟩ :=
    plan_eq_ok_iff.mp planned
  rw [r.server_settle scenario (ordered_of_load loaded)] at launched
  exact ⟨config, scenario, loaded, resolved, launched⟩

end

/-- Server settings in order are a monoid under merging, with the empty settings as the unit, and every one of
them is idempotent.  The command line changes the settings of the server as the layer of its flags would.  The
layers of a run are the settings file, the scenario and the command line, each in order: the program that is
launched is what the highest command set among them means, and its arguments are those of the layer that sets
this command or of one above it. -/
theorem settings_are_layered {ω σ : Type} (s : Surroundings ω σ) (files : Files) (a b c : ServerSettings)
    (a_ordered : a.Ordered) (b_ordered : b.Ordered) (c_ordered : c.Ordered) :
    ((a.merge b).merge c = a.merge (b.merge c) ∧ ({} : ServerSettings).merge a = a ∧ a.merge {} = a ∧
      a.merge a = a) ∧
    (∀ (flags : ServerArguments) (config : Config),
      (flags.override config).server = config.server.merge flags.layer) ∧
    ∀ (r : RunRequest) (p : RunPlan), plan s files r = .ok p →
      ∃ config scenario, loadSettings s files r.server.settings = .ok config ∧
        resolveInput s files r.input = .ok scenario ∧
        (∀ layer ∈ r.layers config scenario, layer.Ordered) ∧
        (∃ command, (r.layers config scenario).reverse.findSome? ServerSettings.command = some command ∧
          p.launch.program = (s.search files).resolve command) ∧
        ∀ lower supplier higher, r.layers config scenario = lower ++ supplier :: higher →
          supplier.command.isSome → (∀ layer ∈ higher, layer.command = none) →
            ∃ layer ∈ supplier :: higher, p.launch.arguments = layer.arguments := by
  refine ⟨⟨ServerSettings.merge_assoc a_ordered b_ordered c_ordered, ServerSettings.default_merge a_ordered,
    ServerSettings.merge_default a, ServerSettings.merge_self a_ordered⟩,
    fun flags config => flags.apply_eq config.server, ?_⟩
  intro r p planned
  obtain ⟨config, scenario, loaded, resolved, launched⟩ := launch_of_plan planned
  refine ⟨config, scenario, loaded, resolved, ordered_layers loaded resolved, ?_⟩
  unfold ServerSettings.launch at launched
  split at launched
  · cases launched
  next command given =>
    have launch_eq := Except.ok.inj launched
    refine ⟨⟨command, ?_, ?_⟩, ?_⟩
    · rw [← ServerSettings.command_stacked, given]
    · rw [← launch_eq]
    · intro lower supplier higher split supplied last
      obtain ⟨command', given'⟩ := Option.isSome_iff_exists.mp supplied
      have supplied_args : ∃ layer ∈ supplier :: higher,
          (ServerSettings.stacked (lower ++ supplier :: higher)).arguments = layer.arguments :=
        (ServerSettings.supplied_stacked given' last).2
      rw [← launch_eq, split]
      exact supplied_args

/-- Three layers of a server, and a run whose scenario sets the command, over the settings file and below the
arguments of the command line. -/
theorem three_layers :
    let file : ServerSettings := { command := some "old", arguments := ["--x"], environment := [("A", "1")] }
    let upper : ServerSettings := { command := some "/bin/cat", environment := [("A", "2"), ("B", "3")] }
    let flags : ServerSettings := { arguments := ["-u"] }
    let files := (Files.empty.create ["home".toList, "c.toml".toList]
        (.file "[server]\ncommand = \"old\"\nargs = [\"--x\"]\n".toUTF8)).create
      ["home".toList, "s.yaml".toList] (.file "name: s\nserver:\n  command: /bin/cat\nsteps: []\n".toUTF8)
    let s := onMachine (.standard files "/home" []) "/home/c.toml" .plain
    let r : RunRequest := { input := ["s.yaml"], server := { arguments := ["-u"] } }
    (file.merge upper).merge flags = file.merge (upper.merge flags) ∧
      ∃ p scenario, plan s files r = .ok p ∧ p.launch.program = "/bin/cat" ∧
        resolveInput s files r.input = .ok scenario ∧
        ∃ layer ∈ [scenario.server.getD {}, r.server.layer], p.launch.arguments = layer.arguments := by
  intro file upper flags files s r
  have file_ordered : file.Ordered := List.pairwise_singleton _ _
  have upper_ordered : upper.Ordered := by
    unfold ServerSettings.Ordered Fields.Sorted
    decide +kernel
  obtain ⟨⟨assoc, -⟩, -, runs⟩ :=
    settings_are_layered s files file upper flags file_ordered upper_ordered List.Pairwise.nil
  have launched : (plan s files r).map (fun p => p.launch.program) = .ok "/bin/cat" := by decide +kernel
  have supplied : (resolveInput s files r.input).map
      (fun scenario => (scenario.server.getD {}).command.isSome) = .ok true := by decide +kernel
  cases planned : plan s files r with
  | error e => simp [planned, Except.map] at launched
  | ok p =>
      obtain ⟨config, scenario, -, resolved, -, -, arguments⟩ := runs r p planned
      rw [planned] at launched
      rw [resolved] at supplied
      refine ⟨assoc, p, scenario, rfl, Except.ok.inj launched, resolved, ?_⟩
      have no_command : ∀ layer ∈ [r.server.layer], layer.command = none := by simp [r, ServerArguments.layer]
      exact arguments [config.server] _ [r.server.layer] rfl (Except.ok.inj supplied) no_command

end CommandLine

end CallScript
