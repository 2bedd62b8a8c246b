import CallScript.CommandLine.Standard
import CallScript.Proofs.CommandLine.Plans
import CallScript.Proofs.Run.Crashes
import CallScript.Proofs.Run.Success
import Mathlib.Data.List.Forall2

/-! # Exit statuses

What the program prints and how it exits.  A run of a valid request always prints the records of its report.  It
exits with 0 if its session started, every line was executed and passed, nothing was interrupted and the report
that was asked for was written; with 130 if it was interrupted and the report was written; and with 1 otherwise;
unless the program crashes in the run (`RunPlan.Lives`), which prints nothing and exits with 101.
Lines that are parsed are printed one by one, each with the call that it is or with an error, and the program
exits with 0 if none has an error.

* `exitCode_of_saved`, `exitCode_of_unsaved`: the exit code of a run by its report; `run_of_crash` if there is
  none, and `runProgram_of_endless` for a program that cannot wait as long as it is told to.
* `parse_of_valid`, `parse_of_not_valid`: the entries of lines that are parsed.
* `exit_status_is_verdict`: the exit codes of the program. -/

namespace CallScript.CommandLine

open Run

/-! ### Answers -/

theorem exitCode_of_ok {a : Answer} {succeeded : Bool} (lives : a.crashed = false)
    (result_eq : a.result = .ok succeeded) : a.exitCode = if succeeded then 0 else 1 := by
  unfold Answer.exitCode
  rw [lives, result_eq]
  cases succeeded with
  | true => rfl
  | false => rfl

theorem exitCode_of_error {a : Answer} {e : Error} (lives : a.crashed = false) (result_eq : a.result = .error e)
    (other : e ≠ .interrupted) : a.exitCode = 1 := by
  unfold Answer.exitCode
  rw [lives, result_eq]
  cases e with
  | interrupted => exact absurd rfl other
  | _ => rfl

/-! ### Runs -/

section

variable {ω σ : Type} (s : Surroundings ω σ)

namespace RunPlan

variable (p : RunPlan) (w : ω)

/-- What carrying out a plan comes to: its report, and the surroundings after it. -/
def carryOut : Report × ω :=
  p.runner.runUntil (s.host p.launch) (s.interrupts p.launch) p.scenario.steps w

/-- The session of the run starts. -/
def Starts : Prop := p.runner.Starts (s.host p.launch) (s.interrupts p.launch) w

/-- The run is interrupted: one of its uses of the host is cut off. -/
def IsCut : Prop := p.runner.IsCut (s.host p.launch) (s.interrupts p.launch) p.scenario.steps w

/-- The program lives through the run: it does not crash in a request. -/
def Lives : Prop := p.runner.crash? (s.host p.launch) (s.interrupts p.launch) p.scenario.steps w = none

/-- A report that is asked for is written. -/
def IsSaved (path : Option String) : Prop := ∀ file, path = some file →
  ∃ files, (p.carryOut s w).1.save (s.files (p.carryOut s w).2) s.directory file (some p.scenario.name)
    (s.timestamp (p.carryOut s w).2) = .ok files

variable {p w} {path : Option String}

theorem saveReport_eq_ok_iff : (∃ left, saveReport s path p.scenario.name (p.carryOut s w).1 (p.carryOut s w).2 =
    .ok left) ↔ p.IsSaved s w path := by
  unfold saveReport IsSaved
  cases path with
  | none => simp
  | some file =>
      constructor
      · rintro ⟨left, saved⟩ file' given
        cases given
        obtain ⟨files, written, -⟩ := map_eq_ok_iff.mp saved
        exact ⟨files, written⟩
      · intro saved
        obtain ⟨files, written⟩ := saved file rfl
        exact ⟨_, map_eq_ok_iff.mpr ⟨files, written, rfl⟩⟩

theorem saveReport_eq_error {e : Error}
    (failed : saveReport s path p.scenario.name (p.carryOut s w).1 (p.carryOut s w).2 = .error e) :
    ∃ reason, e = .internal reason := by
  unfold saveReport Report.save at failed
  cases path with
  | none => cases failed
  | some file =>
      dsimp only at failed
      generalize (s.files (p.carryOut s w).2).write s.directory file _ = written at failed
      cases written with
      | ok files => cases failed
      | error flaw =>
          cases failed
          exact ⟨_, rfl⟩

end RunPlan

variable {s} {r : RunRequest} {w : ω} {p : RunPlan} (planned : plan s (s.files w) r = .ok p)

include planned

/-- A crash leaves no records, and an exit code of its own. -/
theorem run_of_crash (dies : ¬ p.Lives s w) : (run s r w).1.output = "" ∧ (run s r w).1.exitCode = 101 := by
  obtain ⟨crash, crashed⟩ := Option.ne_none_iff_exists'.mp dies
  unfold run
  rw [planned]
  dsimp only
  rw [crashed]
  exact ⟨rfl, rfl⟩

variable (lives : p.Lives s w)

include lives

theorem run_eq_conclude : run s r w = conclude s r p.scenario (p.carryOut s w).1 (p.carryOut s w).2 := by
  unfold RunPlan.Lives at lives
  unfold run
  rw [planned]
  dsimp only
  rw [lives]
  rfl

theorem output_run : (run s r w).1.output = (Json.arr ((p.carryOut s w).1.steps.map Step.toJson)).pretty.push '\n' := by
  rw [run_eq_conclude planned lives]
  unfold conclude
  dsimp only
  split <;> rfl

/-- A run whose report is written, if that is asked for, exits by its report. -/
theorem exitCode_of_saved (saved : p.IsSaved s w r.report) : (run s r w).1.exitCode =
    if (p.carryOut s w).1.interrupted then 130 else if (p.carryOut s w).1.success then 0 else 1 := by
  obtain ⟨left, saved⟩ := (p.saveReport_eq_ok_iff s).mpr saved
  rw [run_eq_conclude planned lives]
  unfold conclude
  dsimp only
  rw [saved]
  unfold Answer.exitCode ending
  dsimp only
  cases (p.carryOut s w).1.interrupted with
  | true => rfl
  | false =>
      cases (p.carryOut s w).1.success with
      | true => rfl
      | false => rfl

/-- A run whose report is not written, though that is asked for, has failed. -/
theorem exitCode_of_unsaved (unsaved : ¬ p.IsSaved s w r.report) : (run s r w).1.exitCode = 1 := by
  cases saved : saveReport s r.report p.scenario.name (p.carryOut s w).1 (p.carryOut s w).2 with
  | ok left => exact absurd ((p.saveReport_eq_ok_iff s).mp ⟨left, saved⟩) unsaved
  | error e =>
      obtain ⟨reason, rfl⟩ := p.saveReport_eq_error s saved
      rw [run_eq_conclude planned lives]
      unfold conclude
      dsimp only
      rw [saved]
      rfl

theorem exitCode_run : ((run s r w).1.exitCode = 0 ↔ p.Starts s w ∧
      (p.carryOut s w).1.steps.map Step.line = p.scenario.steps ∧
      (∀ step ∈ (p.carryOut s w).1.steps, step.success = true) ∧ ¬ p.IsCut s w ∧ p.IsSaved s w r.report) ∧
    ((run s r w).1.exitCode = 130 ↔ p.IsCut s w ∧ p.IsSaved s w r.report) ∧
    ((run s r w).1.exitCode = 0 ∨ (run s r w).1.exitCode = 130 ∨ (run s r w).1.exitCode = 1) := by
  have success_iff : (p.carryOut s w).1.success = true ↔ _ := success_iff _ _ _ _ _
  have interrupted_iff : (p.carryOut s w).1.interrupted = true ↔ p.IsCut s w := interrupted_iff _ _ _ _ _
  by_cases saved : p.IsSaved s w r.report
  · rw [exitCode_of_saved planned lives saved]
    cases interrupted : (p.carryOut s w).1.interrupted with
    | true =>
        have cut : p.IsCut s w := interrupted_iff.mp interrupted
        simp [cut, saved]
    | false =>
        have uncut : ¬ p.IsCut s w := fun cut => Bool.false_ne_true (interrupted.symm.trans (interrupted_iff.mpr cut))
        cases success : (p.carryOut s w).1.success with
        | true =>
            obtain ⟨starts, all, passed, -⟩ := success_iff.mp success
            exact ⟨iff_of_true rfl ⟨starts, all, passed, uncut, saved⟩, by simp [uncut], .inl rfl⟩
        | false =>
            refine ⟨iff_of_false (by simp) ?_, by simp [uncut], .inr (.inr rfl)⟩
            rintro ⟨starts, all, passed, -, -⟩
            exact Bool.false_ne_true (success.symm.trans (success_iff.mpr ⟨starts, all, passed, uncut⟩))
  · rw [exitCode_of_unsaved planned lives saved]
    simp [saved]

end

/-! ### Lines that are parsed -/

section

variable {ω σ : Type} (s : Surroundings ω σ) (files : Files)

/-- What has to be right about a request to parse lines. -/
structure ParseRequest.Valid (r : ParseRequest) : Prop where
  settings : ∃ config, loadSettings s files r.settings = .ok config
  integerFields : ∀ field ∈ r.integerFields, (Schema.dottedParts field).isSome

/-- The fields of an entry for a line: the line, and either the call that it is or, if it does not parse, an
error. -/
structure IsEntry (schema : Schema) (line : String) (entry : List (String × Json)) : Prop where
  line_eq : Fields.find? "line" entry = some (.str line)
  either : (Fields.find? "invocation" entry).isSome ↔ Fields.find? "error" entry = none
  parses : Fields.find? "error" entry = none ↔ (Invocation.parse schema line).isOk

/-- The fields of a parsed line. -/
def parsedFields (schema : Schema) (line : String) : List (String × Json) :=
  match Invocation.parse schema line with
  | .ok i => [("line", .str line), ("invocation", i.display)]
  | .error e => [("line", .str line), ("error", (ErrorInfo.ofError e).toJson)]

theorem parsedLine_eq (schema : Schema) (line : String) : parsedLine schema line = .obj (parsedFields schema line) := by
  unfold parsedLine parsedFields
  cases Invocation.parse schema line with
  | ok i => rfl
  | error e => rfl

theorem isEntry_parsedFields (schema : Schema) (line : String) : IsEntry schema line (parsedFields schema line) := by
  unfold parsedFields
  cases parsed : Invocation.parse schema line with
  | ok i => constructor <;> simp [Fields.find?, parsed, Except.isOk, Except.toBool]
  | error e => constructor <;> simp [Fields.find?, parsed, Except.isOk, Except.toBool]

variable {s files} {r : ParseRequest}

theorem schema_eq_ok_iff {schema : Schema} : (do
    let config ← loadSettings s files r.settings
    declareFields config.declarations.schema r.integerFields) = .ok schema ↔
      ∃ config, loadSettings s files r.settings = .ok config ∧
        declareFields config.declarations.schema r.integerFields = .ok schema :=
  bind_eq_ok_iff

theorem exists_schema_iff : (∃ config schema, loadSettings s files r.settings = .ok config ∧
    declareFields config.declarations.schema r.integerFields = .ok schema) ↔ r.Valid s files := by
  constructor
  · rintro ⟨config, schema, loaded, declared⟩
    exact ⟨⟨config, loaded⟩, exists_declareFields_iff.mp ⟨schema, declared⟩⟩
  · rintro ⟨⟨config, loaded⟩, fields⟩
    obtain ⟨schema, declared⟩ := exists_declareFields_iff.mpr fields
    exact ⟨config, schema, loaded, declared⟩

/-- Lines of a valid request are printed one by one, each with the call that it is or with an error, and the
program succeeds if none has an error. -/
theorem parse_of_valid (valid : r.Valid s files) : ∃ config schema entries,
    loadSettings s files r.settings = .ok config ∧
      declareFields config.declarations.schema r.integerFields = .ok schema ∧
      (parse s files r).output = (Json.arr (entries.map .obj)).pretty.push '\n' ∧
      List.Forall₂ (IsEntry schema) r.lines entries ∧
      (parse s files r).exitCode =
        if entries.all (fun entry => (Fields.find? "error" entry).isNone) then 0 else 1 := by
  obtain ⟨config, schema, loaded, declared⟩ := exists_schema_iff.mpr valid
  have parse_eq : parse s files r =
      { output := (Json.arr (r.lines.map (parsedLine schema))).pretty.push '\n'
        result := .ok (r.lines.all fun line => (Invocation.parse schema line).isOk) } := by
    unfold parse
    rw [schema_eq_ok_iff.mpr ⟨config, loaded, declared⟩]
  refine ⟨config, schema, r.lines.map (parsedFields schema), loaded, declared, ?_, ?_, ?_⟩
  · rw [parse_eq, List.map_map]
    have same : parsedLine schema = Json.obj ∘ parsedFields schema := funext (parsedLine_eq schema)
    rw [same]
  · rw [List.forall₂_map_right_iff, List.forall₂_same]
    exact fun line _ => isEntry_parsedFields schema line
  · have same : (fun entry => (Fields.find? "error" entry).isNone) ∘ parsedFields schema =
        fun line => (Invocation.parse schema line).isOk := by
      funext line
      rw [Function.comp_apply, Bool.eq_iff_iff, ← (isEntry_parsedFields schema line).parses, Option.isNone_iff_eq_none]
    rw [parse_eq, List.all_map, same]
    exact exitCode_of_ok rfl rfl

theorem loadSettings_ne_interrupted (given : Option String) : loadSettings s files given ≠ .error .interrupted := by
  have of_file (path : String) : Config.ofFile files s.directory path ≠ .error .interrupted := by
    unfold Config.ofFile Config.ofText
    split
    · nofun
    · split
      · nofun
      · split
        · nofun
        · nofun
  unfold loadSettings Config.load
  split
  · exact of_file _
  · split
    · exact of_file _
    · nofun

theorem declareFields_ne_interrupted (schema : Schema) (fields : List String) :
    declareFields schema fields ≠ .error .interrupted := by
  unfold declareFields
  induction fields generalizing schema with
  | nil => nofun
  | cons field rest ih =>
      rw [List.foldlM_cons]
      cases schema.declareDotted field with
      | none => nofun
      | some declared => exact ih declared

/-- Nothing is printed for a request that is not valid. -/
theorem parse_of_not_valid (invalid : ¬ r.Valid s files) :
    (parse s files r).output = "" ∧ (parse s files r).exitCode = 1 := by
  cases found : (do
      let config ← loadSettings s files r.settings
      declareFields config.declarations.schema r.integerFields : Except Error Schema) with
  | ok schema =>
      obtain ⟨config, loaded, declared⟩ := schema_eq_ok_iff.mp found
      exact absurd (exists_schema_iff.mp ⟨config, schema, loaded, declared⟩) invalid
  | error e =>
      have parse_eq : parse s files r = { result := .error e } := by
        unfold parse
        rw [found]
      have other : e ≠ .interrupted := by
        rintro rfl
        cases loaded : loadSettings s files r.settings with
        | error e =>
            rw [loaded] at found
            cases found
            exact loadSettings_ne_interrupted _ loaded
        | ok config =>
            rw [loaded] at found
            exact declareFields_ne_interrupted _ _ found
      rw [parse_eq]
      exact ⟨rfl, exitCode_of_error rfl rfl other⟩

end

/-! ### The program -/

theorem runProgram_of_run {ω σ : Type} {s : Surroundings ω σ} {arguments : List String} {w : ω} {r : RunRequest}
    (wanted : Request.ofArguments .program arguments = .ok (.run r)) :
    (runProgram s arguments w).output = (run s r w).1.output ∧
      (runProgram s arguments w).code = (run s r w).1.exitCode := by
  unfold runProgram
  rw [wanted]
  exact ⟨rfl, rfl⟩

/-- A run that introduces itself and is to wait for as long as any clock goes crashes the program, if the server has
been started and the introduction written: nothing is printed. -/
theorem runProgram_of_endless {ω σ : Type} {s : Surroundings ω σ} {arguments : List String} {w : ω} {r : RunRequest}
    {p : RunPlan} {session : σ} {left : ω} {h : Rpc.Handshake} {after : σ}
    (wanted : Request.ofArguments .program arguments = .ok (.run r)) (planned : plan s (s.files w) r = .ok p)
    (endless : Rpc.clockEnd.micros ≤ p.runner.options.requestTimeout.micros)
    (unharmed : (s.interrupts p.launch).start? w p.runner.options.startupGrace = none)
    (started : (s.host p.launch).start w p.runner.options.startupGrace = (.ok session, left))
    (handshake : p.runner.options.handshake = some h)
    (written : Rpc.Client.send (s.host p.launch).channel (s.interrupts p.launch).exchange session
      (Rpc.requestLine ((s.host p.launch).ids session).next Rpc.Client.introduceMethod (some h.toJson)) =
        (.ok (), after)) :
    (runProgram s arguments w).output = "" ∧ (runProgram s arguments w).code = 101 := by
  have crashes := p.runner.crash?_of_endless (s.host p.launch) (s.interrupts p.launch) p.scenario.steps w endless
    unharmed started handshake written
  have dies : ¬ p.Lives s w := Option.isSome_iff_ne_none.mp crashes
  rw [(runProgram_of_run wanted).1, (runProgram_of_run wanted).2]
  exact run_of_crash planned dies

/-- Surroundings without files, whose servers answer one call. -/
def answering : Surroundings Files Rpc.Rehearsed.State where
  host := fun _ => {
    start := fun files _ => (.ok { reactions :=
      [.queue [.line "\x7b\"jsonrpc\":\"2.0\",\"id\":1,\"result\":1\x7d"]] }, files)
    channel := Rpc.Rehearsed.channel
    ids := fun _ => ⟨1⟩
    stop := fun session _ => session
    leave := fun _ => .empty }
  interrupts := fun _ => .never _ _
  files := id
  withFiles := fun _ files => files
  directory := "/"
  settingsPath := "/config.toml"
  search := fun files => ⟨files, []⟩
  palette := .plain
  timestamp := fun _ => "now"

example :
    let arguments := ["run", "--server", "p", "--timeout", "18446744073709551615", "a()"]
    (runProgram answering arguments .empty).output = "" ∧ (runProgram answering arguments .empty).code = 101 := by
  decide +kernel

end CallScript.CommandLine
