import CallScript.Json.Printer
import CallScript.Json.Reader

/-! # What can go wrong

`Error` has one constructor for each cause that a step or a command can fail from.  `Error.message` is its
wording, `Error.kind` the category that reports carry, and `Error.isFatal` tells whether the session can
be used after it.  `ErrorInfo` is an error as reports hold it. -/

namespace CallScript

/-- One step after another succeeds if both do. -/
theorem bind_eq_ok_iff {ε α β : Type} {first : Except ε α} {second : α → Except ε β} {b : β} :
    first >>= second = .ok b ↔ ∃ a, first = .ok a ∧ second a = .ok b := by
  cases first with
  | error e => simp [bind, Except.bind]
  | ok a => simp [bind, Except.bind]

/-- What is made of a result is there if the result is. -/
theorem map_eq_ok_iff {ε α β : Type} {result : Except ε α} {f : α → β} {b : β} :
    result.map f = .ok b ↔ ∃ a, result = .ok a ∧ f a = b := by
  cases result with
  | error e => simp [Except.map]
  | ok a => simp [Except.map]

/-- A span of time. -/
structure Duration where
  micros : Nat
  deriving DecidableEq, Repr

namespace Duration

/-- A span of whole milliseconds. -/
def ofMillis (n : Nat) : Duration := ⟨n * 1000⟩

/-- A span of whole seconds. -/
def ofSeconds (n : Nat) : Duration := ⟨n * 1000000⟩

/-- The whole milliseconds of a span. -/
def millis (d : Duration) : Nat := d.micros / 1000

end Duration

/-- The category of an error. -/
inductive ErrorKind where
  | parse
  | undefinedVariable
  | connection
  | timeout
  | protocol
  | tool
  | configuration
  | internal
  deriving DecidableEq, Repr

namespace ErrorKind

/-- The name of a category in reports. -/
def name : ErrorKind → String
  | .parse => "parse_error"
  | .undefinedVariable => "undefined_variable"
  | .connection => "connection_error"
  | .timeout => "request_timeout"
  | .protocol => "protocol_error"
  | .tool => "tool_error"
  | .configuration => "config_error"
  | .internal => "internal_error"

/-- All categories. -/
def all : List ErrorKind :=
  [.parse, .undefinedVariable, .connection, .timeout, .protocol, .tool, .configuration, .internal]

/-- The category of a given name. -/
def ofName? (name : String) : Option ErrorKind := all.find? fun kind => kind.name = name

theorem ofName?_name (kind : ErrorKind) : ofName? kind.name = some kind := by
  cases kind <;> decide

end ErrorKind

/-- A failure, by its cause. -/
inductive Error where
  /-- A line or token that does not parse. -/
  | parse (line reason : String)
  /-- A reference to a variable without a value. -/
  | undefinedVariable (name : String)
  /-- The server cannot be reached or has gone. -/
  | connection (reason : String)
  /-- The server's output ended. -/
  | connectionClosed
  /-- No answer within the time allowed. -/
  | timeout (allowed : Duration)
  /-- A message that breaks the protocol. -/
  | protocol (reason : String)
  /-- An answer that reports an error. -/
  | toolFailed (method : String) (code : Int64) (reason : String)
  /-- Settings that cannot be used. -/
  | configuration (reason : String)
  /-- A settings file that does not parse. -/
  | invalidConfiguration (reason : String)
  /-- A failure of reading or writing. -/
  | io (reason : String)
  /-- A file that cannot be read. -/
  | fileRead (path reason : String)
  /-- A JSON document that does not read. -/
  | json (reason : String)
  /-- A state that should not arise. -/
  | internal (reason : String)
  /-- The run was interrupted. -/
  | interrupted
  deriving DecidableEq, Repr

namespace Error

/-- The wording of an error. -/
def message : Error → String
  | .parse line reason => "Parse error: " ++ reason ++ " (in '" ++ line ++ "')"
  | .undefinedVariable name => "Undefined variable '$\x7b" ++ name ++ "\x7d'"
  | .connection reason => "Connection error: " ++ reason
  | .connectionClosed => "Connection closed: server output ended before a response arrived"
  | .timeout allowed => s!"Request timed out after {allowed.millis}ms without a response"
  | .protocol reason => "Protocol error: " ++ reason
  | .toolFailed method code reason =>
    s!"Request '{method}' failed with code {code.toInt}: {reason}"
  | .configuration reason => "Configuration error: " ++ reason
  | .invalidConfiguration reason => "Invalid configuration file: " ++ reason
  | .io reason => "IO error: " ++ reason
  | .fileRead path reason => s!"Failed to read file '{path}': {reason}"
  | .json reason => "JSON error: " ++ reason
  | .internal reason => "Internal error: " ++ reason
  | .interrupted => "Interrupted"

/-- The category of an error. -/
def kind : Error → ErrorKind
  | .parse _ _ => .parse
  | .undefinedVariable _ => .undefinedVariable
  | .connection _ | .connectionClosed => .connection
  | .timeout _ => .timeout
  | .protocol _ | .json _ => .protocol
  | .toolFailed _ _ _ => .tool
  | .configuration _ | .invalidConfiguration _ | .fileRead _ _ => .configuration
  | .io _ | .internal _ | .interrupted => .internal

/-- Whether no further step can use the session after this error. -/
def isFatal : Error → Bool
  | .connection _ | .connectionClosed => true
  | _ => false

theorem isFatal_iff_kind (e : Error) : e.isFatal = true ↔ e.kind = .connection := by
  cases e <;> simp [isFatal, kind]

end Error

/-- An error as a report holds it: category, wording, and what the server sent along. -/
structure ErrorInfo where
  kind : ErrorKind
  message : String
  data : Option Json := none
  deriving DecidableEq

namespace ErrorInfo

/-- An error without data. -/
def ofError (e : Error) : ErrorInfo := { kind := e.kind, message := e.message }

/-- The record of an error in a report. -/
def toJson (info : ErrorInfo) : Json :=
  .obj ([("kind", .str info.kind.name), ("message", .str info.message)]
    ++ (info.data.map fun data => ("data", data)).toList)

/-- Reads a record back; data that is `null` counts as absent. -/
def ofJson? (j : Json) : Option ErrorInfo := do
  let kind ← ErrorKind.ofName? (← (← j.field? "kind").str?)
  let message ← (← j.field? "message").str?
  let data := match j.field? "data" with
    | some .null => none
    | data => data
  some { kind, message, data }

end ErrorInfo

end CallScript
