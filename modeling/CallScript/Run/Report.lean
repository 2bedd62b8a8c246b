import CallScript.Json.Printer
import CallScript.Script.Invocation
import CallScript.System.Files

/-! # Reports

What a run came to: a record of each line that was executed, and how the run as a whole ended.  A run
succeeds only if its session started and every line was executed and passed. -/

namespace CallScript.Run

/-- The record of one line. -/
structure Step where
  /-- The position of the line, from zero. -/
  index : Nat
  line : String
  /-- Absent if the line does not parse. -/
  invocation : Option Invocation := none
  /-- Absent if nothing was sent. -/
  requestId : Option Int64 := none
  success : Bool := false
  /-- The result that the server answered with. -/
  payload : Option Json := none
  error : Option ErrorInfo := none
  millis : Nat := 0

/-- A field that is left out if there is nothing in it. -/
def optionalField (key : String) : Option Json → List (String × Json)
  | some value => [(key, value)]
  | none => []

/-- The record as reports hold it. -/
def Step.toJson (s : Step) : Json :=
  .obj ([("index", .ofNat s.index), ("line", .str s.line)]
    ++ optionalField "invocation" (s.invocation.map Invocation.display)
    ++ optionalField "request_id" (s.requestId.map .int)
    ++ [("success", .bool s.success)]
    ++ optionalField "payload" s.payload
    ++ optionalField "error" (s.error.map ErrorInfo.toJson)
    ++ [("duration_ms", .ofNat s.millis)])

/-- What a run came to. -/
structure Report where
  /-- Whether the session started and every line was executed and passed. -/
  success : Bool
  /-- Why the session could not be started. -/
  sessionError : Option ErrorInfo
  /-- Whether the run was cut short. -/
  interrupted : Bool
  /-- The number of lines. -/
  total : Nat
  steps : List Step

namespace Report

/-- The report of a run that came to its end. -/
def ofSteps (total : Nat) (steps : List Step) (sessionError : Option ErrorInfo) : Report where
  success := sessionError.isNone && steps.length = total && steps.all Step.success
  sessionError := sessionError
  interrupted := false
  total := total
  steps := steps

/-- The report of a run that was cut short; it never succeeds. -/
def markInterrupted (r : Report) : Report := { r with interrupted := true, success := false }

/-- How many lines passed. -/
def passed (r : Report) : Nat := (r.steps.filter Step.success).length

/-- How many lines failed. -/
def failed (r : Report) : Nat := r.steps.length - r.passed

/-- How many lines were not executed. -/
def skipped (r : Report) : Nat := r.total - r.steps.length

/-- A field that says whether the run was cut short, if it was. -/
def interruptedField (r : Report) : List (String × Json) :=
  if r.interrupted then [("interrupted", .bool true)] else []

/-- The report as a value. -/
def toJson (r : Report) : Json :=
  .obj ([("success", .bool r.success)]
    ++ optionalField "session_error" (r.sessionError.map ErrorInfo.toJson)
    ++ r.interruptedField
    ++ [("total", .ofNat r.total), ("steps", .arr (r.steps.map Step.toJson))])

/-- The numbers of a report. -/
def summary (r : Report) : Json :=
  .obj [("total", .ofNat r.total), ("passed", .ofNat r.passed), ("failed", .ofNat r.failed),
    ("skipped", .ofNat r.skipped)]

/-- The document that a report is written as, under the name of the script and with a time stamp. -/
def document (r : Report) (name : Option String) (timestamp : String) : Json :=
  .obj (optionalField "name" (name.map .str)
    ++ [("timestamp", .str timestamp), ("summary", r.summary), ("success", .bool r.success)]
    ++ optionalField "session_error" (r.sessionError.map ErrorInfo.toJson)
    ++ r.interruptedField
    ++ [("steps", .arr (r.steps.map Step.toJson))])

/-- Writes the document of a report to a file, for a process in a directory. -/
def save (files : Files) (directory path : String) (name : Option String) (timestamp : String)
    (r : Report) : Except Error Files :=
  (files.write directory path (r.document name timestamp).pretty.toUTF8).mapError fun flaw =>
    .internal s!"Failed to write report '{path}': {flaw.message}"

end Report

end CallScript.Run
