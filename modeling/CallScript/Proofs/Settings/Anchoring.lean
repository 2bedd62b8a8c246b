import CallScript.Proofs.Settings.Layers
import CallScript.Proofs.System.Places

/-! # Servers of scenarios

A scenario writes the paths of its server relative to its own file, and `ServerSettings.anchored` puts the
directory of the file before them.  The server is started in its working directory, and a relative path of its
program is taken from there (`Job.spawn_eq_ok_iff`).  Where the path of the scenario is relative and the
scenario sets a working directory, the program is therefore looked for in that directory, and not where the
scenario was found.

* `CommandLine.launch_of_scenario`: the launch of a run whose server is set by its scenario alone.
* `Job.spawn_eq_ok_iff`: what is started, and where.
* `CommandLine.server_of_scenario`: which file is executed, and when it is the one beside the scenario. -/

namespace CallScript

open Files (inside)

/-! ### What a launch starts -/

theorem Files.executed_eq_ok_iff {found : Except FileFlaw Entry} {name : String} :
    Files.executed found = .ok name ↔ found = .ok (.program name) := by
  unfold Files.executed
  split <;> simp_all

theorem Files.program_of_slash {files : Files} {directory command : String}
    (slash : Path.separator ∈ command.toList) (environment : List (String × String)) :
    files.program directory environment command = Files.executed (files.find directory command) := by
  simp [Files.program, slash]

theorem Files.enter_empty (files : Files) (directory : String) : files.enter directory "" = .error .missing := rfl

/-- A launch with the path of a program starts what is at this path, taken from the directory that the new process
works in. -/
theorem Job.spawn_eq_ok_iff {library : Library} {machine : Machine} {launch : Launch} {job : Job}
    (slash : Path.separator ∈ launch.program.toList) :
    Job.spawn library machine launch = .ok job ↔
      (∀ text ∈ Job.handedTexts launch, Job.isPassable text) ∧ launch.directory ≠ some "" ∧
        ∃ place name, machine.files.enter "/" (launch.workingDirectory machine.directory) = .ok place ∧
          machine.files.find "/" (launch.executable machine.directory) = .ok (.program name) ∧
          job = Job.ofProgram machine (library name (Job.startAt machine launch place)) := by
  have program_ne : launch.program ≠ "" := by
    intro empty
    simp [empty] at slash
  unfold Job.spawn
  by_cases passable : (Job.handedTexts launch).all Job.isPassable
  · rw [passable, Bool.not_true, if_neg Bool.false_ne_true]
    by_cases nowhere : launch.directory = some ""
    · simp [Job.goal, nowhere, Files.enter_empty]
    · have goal_eq : Job.goal machine.directory launch = launch.workingDirectory machine.directory :=
        if_neg nowhere
      rw [goal_eq]
      cases entered : machine.files.enter "/" (launch.workingDirectory machine.directory) with
      | error flaw => simp
      | ok place =>
          have found_eq : machine.files.find place.text launch.program =
              machine.files.find "/" (launch.executable machine.directory) :=
            Files.find_entered entered program_ne
          have program_eq : machine.files.program place.text (Job.startAt machine launch place).environment
              launch.program =
              Files.executed (machine.files.find "/" (launch.executable machine.directory)) := by
            rw [Files.program_of_slash slash, found_eq]
          dsimp only
          rw [show (Job.startAt machine launch place).directory = place.text from rfl, program_eq]
          simp only [← Files.executed_eq_ok_iff]
          cases Files.executed (machine.files.find "/" (launch.executable machine.directory)) with
          | error flaw => simp
          | ok name =>
              constructor
              · intro made
                exact ⟨List.all_eq_true.mp passable, nowhere, place, name, rfl, rfl, (Except.ok.inj made).symm⟩
              · rintro ⟨-, -, place', name', same_place, same_name, rfl⟩
                cases same_place
                cases same_name
                rfl
  · rw [Bool.eq_false_iff.mpr passable, Bool.not_false, if_pos rfl]
    have : ¬ ∀ text ∈ Job.handedTexts launch, Job.isPassable text := by simpa using passable
    simp [this]

/-! ### Launches of scenarios -/

theorem ServerSettings.command_anchored {settings : ServerSettings} {command directory : String}
    (given : settings.command = some command) (slash : Path.separator ∈ command.toList) :
    (settings.anchored directory).command = some (inside directory command) := by
  simp [ServerSettings.anchored, given, slash, inside]

theorem SearchPath.resolve_of_slash (search : SearchPath) {command : String}
    (slash : Path.separator ∈ command.toList) : search.resolve command = command := by
  simp [SearchPath.resolve, slash]

/-- The directory of a scenario's file, from which its paths are taken. -/
def Scenario.home (path : String) : String := String.ofList ((Path.parent? path.toList).getD ['.'])

/-- The path of a file beside a scenario. -/
def Scenario.beside (path file : String) : String := inside (Scenario.home path) file

/-- The directory that a scenario has its server work in: the one that it sets, or else the caller's. -/
def Scenario.workplace (caller path : String) (settings : ServerSettings) : String :=
  (settings.directory.map fun directory => inside caller (Scenario.beside path directory)).getD caller

theorem Scenario.isAbsolute_home {path : String} (yaml : Scenario.isYaml path = true) :
    Path.isAbsolute (Scenario.home path).toList = Path.isAbsolute path.toList := by
  have named : (Path.lastName? path.toList).isSome := by
    cases last : Path.lastName? path.toList with
    | some name => rfl
    | none => simp [Scenario.isYaml, Path.extension?, Path.fileName?, last] at yaml
  obtain ⟨parent, found⟩ := Option.isSome_iff_exists.mp ((Path.isSome_parent? _).trans named)
  rw [Scenario.home, String.toList_ofList, found, Option.getD_some, Path.isAbsolute_of_parent? found]

namespace CommandLine

variable {ω σ : Type} {s : Surroundings ω σ} {files : Files} {r : RunRequest} {path : String}
  {settings : ServerSettings} {command : String} {p : RunPlan}

/-- A run of a scenario that says by itself which server to run: neither the settings file nor the command line
have a section for it. -/
structure RunRequest.IsScenario (s : Surroundings ω σ) (files : Files) (r : RunRequest) (path : String)
    (settings : ServerSettings) : Prop where
  input : r.input = [path]
  isFile : files.isFile s.directory path = true
  isYaml : Scenario.isYaml path = true
  server : ∃ content scenario, files.readText s.directory path = .ok content ∧
    Scenario.ofYaml? content = some scenario ∧ scenario.server = some settings
  noSection : ∀ config, loadSettings s files r.server.settings = .ok config → config.server = {}
  noFlags : r.server.layer = {}

theorem isAbsolute_beside (yaml : Scenario.isYaml path = true) (relative : Path.isAbsolute command.toList = false) :
    Path.isAbsolute (Scenario.beside path command).toList = Path.isAbsolute path.toList := by
  rw [Scenario.beside, Files.toList_inside, Path.isAbsolute_join, relative, Bool.or_false,
    Scenario.isAbsolute_home yaml]

theorem inside_of_isAbsolute (directory : String) (rooted : Path.isAbsolute path.toList) :
    inside directory path = path := by
  rw [inside, Path.join_of_isAbsolute rooted, String.ofList_toList]

/-- A path that does not climb leads to the same place from two directories only if it is absolute or the
directories are the same. -/
theorem same_place_iff {one other : String} {place place' : Place} (level : ['.', '.'] ∉ Files.names path.toList)
    (located : files.locate "/".toList (inside one path).toList = .ok place)
    (located' : files.locate "/".toList (inside other path).toList = .ok place') :
    place = place' ↔ Path.isAbsolute path.toList ∨ Place.ofPath "/" one = Place.ofPath "/" other := by
  rw [Files.ofPath_of_locate located, Files.ofPath_of_locate located']
  cases rooted : Path.isAbsolute path.toList with
  | true => simp [inside_of_isAbsolute _ rooted]
  | false =>
      rw [Files.ofPath_inside rooted, Files.ofPath_inside rooted, Files.foldl_step_of_not_climbing _ level,
        Files.foldl_step_of_not_climbing _ level]
      simp

section

variable (alone : r.IsScenario s files path settings) (planned : plan s files r = .ok p)
  (given : settings.command = some command) (slash : Path.separator ∈ command.toList)

include alone planned given slash

/-- The launch of a scenario: its paths are taken from the directory of its file. -/
theorem launch_of_scenario :
    p.launch = {
      program := inside (Scenario.home path) command
      arguments := settings.arguments
      directory := settings.directory.map (inside (Scenario.home path))
      environment := settings.environment } := by
  obtain ⟨config, scenario, loaded, resolved, launched⟩ := launch_of_plan planned
  obtain ⟨content, written, read, parsed, held⟩ := alone.server
  have resolved_eq : scenario = { written with server := some (settings.anchored (Scenario.home path)) } := by
    unfold resolveInput at resolved
    rw [alone.input] at resolved
    simp only [alone.isFile, if_true, Scenario.ofFile, read, Scenario.ofText, alone.isYaml, parsed, held,
      Option.map_some] at resolved
    exact (Except.ok.inj resolved).symm
  have ordered : (settings.anchored (Scenario.home path)).Ordered := by
    refine ordered_of_resolveInput resolved ?_
    rw [resolved_eq]
  have stacked_eq : ServerSettings.stacked (r.layers config scenario) =
      settings.anchored (Scenario.home path) := by
    rw [RunRequest.layers, alone.noSection config loaded, alone.noFlags, resolved_eq]
    exact ServerSettings.default_merge ordered
  have slash_kept : Path.separator ∈ (inside (Scenario.home path) command).toList := Files.mem_inside slash _
  rw [stacked_eq] at launched
  unfold ServerSettings.launch at launched
  rw [ServerSettings.command_anchored given slash] at launched
  simp only [SearchPath.resolve_of_slash _ slash_kept] at launched
  exact (Except.ok.inj launched).symm

theorem workingDirectory_of_scenario (caller : String) :
    p.launch.workingDirectory caller = Scenario.workplace caller path settings := by
  rw [launch_of_scenario alone planned given slash, Launch.workingDirectory, Scenario.workplace]
  cases settings.directory with
  | none => rfl
  | some directory => rfl

theorem executable_of_scenario (caller : String) :
    p.launch.executable caller =
      inside (Scenario.workplace caller path settings) (Scenario.beside path command) := by
  rw [Launch.executable, workingDirectory_of_scenario alone planned given slash,
    launch_of_scenario alone planned given slash]
  rfl

/-- With an absolute path of the scenario, or without a working directory, the server goes to a directory, and
its program is the one beside the scenario. -/
theorem beside_of_fixed (relative : Path.isAbsolute command.toList = false)
    (fixed : Path.isAbsolute path.toList ∨ settings.directory = none) (caller : String) :
    p.launch.directory ≠ some "" ∧
      inside (Scenario.workplace caller path settings) (Scenario.beside path command) =
        inside caller (Scenario.beside path command) := by
  rw [launch_of_scenario alone planned given slash]
  rcases fixed with rooted | unset
  · have program_rooted : Path.isAbsolute (Scenario.beside path command).toList :=
      (isAbsolute_beside alone.isYaml relative).trans rooted
    refine ⟨fun empty => ?_, by simp only [inside_of_isAbsolute _ program_rooted]⟩
    obtain ⟨directory, -, joined⟩ := Option.map_eq_some_iff.mp empty
    have nowhere : Path.isAbsolute (inside (Scenario.home path) directory).toList = false := by rw [joined]; rfl
    rw [Files.toList_inside, Path.isAbsolute_join, Scenario.isAbsolute_home alone.isYaml, rooted] at nowhere
    cases nowhere
  · simp [Scenario.workplace, unset]

end

/-- The file that a run of a scenario executes, for a command that is a relative path.  The server works in the
directory that the scenario sets, which is taken from the directory of its file, or else in the directory of the
caller, and the program that is started is what is at the path of the command, taken from the directory of the
scenario's file and then from this working directory.  This is the file beside the scenario if the path of the
scenario is absolute or no working directory is set.  Otherwise, and unless names of the path climb, it is the
same file only if the server works where the caller does. -/
theorem server_of_scenario (library : Library) (machine : Machine) (s : Surroundings ω σ) {r : RunRequest}
    {path command : String} {settings : ServerSettings} {p : RunPlan}
    (alone : r.IsScenario s machine.files path settings) (planned : plan s machine.files r = .ok p)
    (given : settings.command = some command) (slash : Path.separator ∈ command.toList)
    (relative : Path.isAbsolute command.toList = false) :
    p.launch.workingDirectory machine.directory = Scenario.workplace machine.directory path settings ∧
    (∀ job, Job.spawn library machine p.launch = .ok job ↔
      (∀ text ∈ Job.handedTexts p.launch, Job.isPassable text) ∧ p.launch.directory ≠ some "" ∧
        ∃ place name, machine.files.enter "/" (Scenario.workplace machine.directory path settings) = .ok place ∧
          machine.files.find "/" (inside (Scenario.workplace machine.directory path settings)
            (Scenario.beside path command)) = .ok (.program name) ∧
          job = Job.ofProgram machine (library name (Job.startAt machine p.launch place))) ∧
    (Path.isAbsolute path.toList ∨ settings.directory = none →
      p.launch.directory ≠ some "" ∧
        inside (Scenario.workplace machine.directory path settings) (Scenario.beside path command) =
          inside machine.directory (Scenario.beside path command)) ∧
    ∀ executed beside, ['.', '.'] ∉ Files.names (Scenario.beside path command).toList →
      machine.files.locate "/".toList (inside (Scenario.workplace machine.directory path settings)
        (Scenario.beside path command)).toList = .ok executed →
      machine.files.locate "/".toList (inside machine.directory (Scenario.beside path command)).toList =
        .ok beside →
      (executed = beside ↔ Path.isAbsolute path.toList ∨
        Place.ofPath "/" (Scenario.workplace machine.directory path settings) =
          Place.ofPath "/" machine.directory) := by
  refine ⟨workingDirectory_of_scenario alone planned given slash _, fun job => ?_,
    fun fixed => beside_of_fixed alone planned given slash relative fixed _,
    fun executed beside level located located' => ?_⟩
  · have slash_kept : Path.separator ∈ p.launch.program.toList := by
      rw [launch_of_scenario alone planned given slash]
      exact Files.mem_inside slash _
    rw [Job.spawn_eq_ok_iff slash_kept, executable_of_scenario alone planned given slash,
      workingDirectory_of_scenario alone planned given slash]
  · rw [same_place_iff level located located', isAbsolute_beside alone.isYaml relative]

/-- The files of a user with a scenario, `/home/dir/s.yaml`, its server beside it and a directory for the server to
work in. -/
def scenarioFiles : Files :=
  ((Files.empty.create (Files.names "/home/dir/server".toList) (.program "cat")).create
    (Files.names "/home/dir/work".toList) .directory).create (Files.names "/home/dir/s.yaml".toList)
    (.file "name: s\nserver:\n  command: ./server\n  cwd: work\nsteps: []\n".toUTF8)

/-- The machine of this user, who is above the directory of the scenario. -/
def scenarioMachine : Machine := .standard scenarioFiles "/home" []

theorem isScenario_scenarioFiles {path : String} (chosen : path = "dir/s.yaml" ∨ path = "/home/dir/s.yaml") :
    ({ input := [path] } : RunRequest).IsScenario (onMachine scenarioMachine "/none" .plain) scenarioFiles path
      { command := some "./server", directory := some "work" } where
  input := rfl
  isFile := by rcases chosen with rfl | rfl <;> decide +kernel
  isYaml := by rcases chosen with rfl | rfl <;> decide +kernel
  server := by
    have read : scenarioFiles.readText "/home" path =
        .ok "name: s\nserver:\n  command: ./server\n  cwd: work\nsteps: []\n" := by
      rcases chosen with rfl | rfl <;> decide +kernel
    have parsed : (Scenario.ofYaml? "name: s\nserver:\n  command: ./server\n  cwd: work\nsteps: []\n").map
        Scenario.server = some (some { command := some "./server", directory := some "work" }) := by
      decide +kernel
    obtain ⟨scenario, parsed, held⟩ := Option.map_eq_some_iff.mp parsed
    exact ⟨_, scenario, read, parsed, held⟩
  noSection := by
    intro config loaded
    have none_set : (loadSettings (onMachine scenarioMachine "/none" .plain) scenarioFiles none).map Config.server =
        .ok {} := by decide +kernel
    rw [show loadSettings (onMachine scenarioMachine "/none" .plain) scenarioFiles none = .ok config from loaded]
      at none_set
    exact Except.ok.inj none_set
  noFlags := rfl

/-- By its absolute path the scenario has its server started, in its working directory. -/
theorem server_of_absolute_scenario :
    ∃ p job, plan (onMachine scenarioMachine "/none" .plain) scenarioFiles { input := ["/home/dir/s.yaml"] } =
        .ok p ∧
      p.launch.workingDirectory "/home" = "/home/dir/work" ∧
      Job.spawn .standard scenarioMachine p.launch = .ok job := by
  have launched : (plan (onMachine scenarioMachine "/none" .plain) scenarioFiles
      { input := ["/home/dir/s.yaml"] }).map RunPlan.launch =
        .ok { program := "/home/dir/./server", directory := some "/home/dir/work" } := by decide +kernel
  obtain ⟨p, planned, launch_eq⟩ := map_eq_ok_iff.mp launched
  obtain ⟨work_eq, started_iff, -⟩ := server_of_scenario .standard scenarioMachine
    (onMachine scenarioMachine "/none" .plain) (isScenario_scenarioFiles (.inr rfl)) planned rfl (by decide)
    (by decide)
  have workplace_eq : Scenario.workplace "/home" "/home/dir/s.yaml"
      { command := some "./server", directory := some "work" } = "/home/dir/work" := by decide +kernel
  have entered : scenarioFiles.enter "/" "/home/dir/work" = .ok ["home".toList, "dir".toList, "work".toList] := by
    decide +kernel
  have executed : Files.executed (scenarioFiles.find "/" (inside "/home/dir/work"
      (Scenario.beside "/home/dir/s.yaml" "./server"))) = .ok "cat" := by decide +kernel
  refine ⟨p, _, planned, work_eq.trans workplace_eq, (started_iff _).mpr
    ⟨?_, ?_, ["home".toList, "dir".toList, "work".toList], "cat", ?_, ?_, rfl⟩⟩
  · rw [launch_eq]
    decide
  · rw [launch_eq]
    decide
  · rw [← entered]
    exact congrArg (scenarioFiles.enter "/") workplace_eq
  · rw [← Files.executed_eq_ok_iff, ← executed]
    exact congrArg (fun work => Files.executed (scenarioFiles.find "/" (inside work _))) workplace_eq

/-- By its relative path the scenario has the program looked for in the working directory, and no session starts,
though the server stands beside the scenario and the working directory is there. -/
theorem relative_scenario_misses_its_server :
    Files.executed (scenarioFiles.find "/" (inside "/home" (Scenario.beside "dir/s.yaml" "./server"))) = .ok "cat" ∧
    (scenarioFiles.enter "/" "/home/dir/work").isOk ∧
    ∃ p, plan (onMachine scenarioMachine "/none" .plain) scenarioFiles { input := ["dir/s.yaml"] } = .ok p ∧
      p.launch.workingDirectory "/home" = "/home/dir/work" ∧
      ∀ grace, Session.start jobs scenarioMachine p.launch grace =
        (.error (.connection "Failed to start dir/./server: No such file or directory (os error 2)"),
          scenarioMachine) := by
  refine ⟨by decide +kernel, by decide +kernel, ?_⟩
  have launched : (plan (onMachine scenarioMachine "/none" .plain) scenarioFiles
      { input := ["dir/s.yaml"] }).map RunPlan.launch =
        .ok { program := "dir/./server", directory := some "dir/work" } := by decide +kernel
  obtain ⟨p, planned, launch_eq⟩ := map_eq_ok_iff.mp launched
  refine ⟨p, planned, ?_, fun grace => ?_⟩
  · rw [launch_eq]
    decide +kernel
  · have refused : (Job.spawn .standard scenarioMachine p.launch).map (fun _ => ()) =
        .error "No such file or directory (os error 2)" := by
      rw [launch_eq]
      decide +kernel
    have display_eq : p.launch.display = "dir/./server" := by
      rw [launch_eq]
      decide +kernel
    have spawn_eq : jobs.spawn scenarioMachine p.launch = .error "No such file or directory (os error 2)" := by
      cases spawned : Job.spawn .standard scenarioMachine p.launch with
      | error reason =>
          rw [spawned] at refused
          rw [Except.error.inj refused] at spawned
          exact spawned
      | ok job => simp [spawned, Except.map] at refused
    rw [Session.start, spawn_eq]
    dsimp only
    rw [display_eq]
    rfl

end CommandLine

end CallScript
