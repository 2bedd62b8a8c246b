import CallScript.Error
import CallScript.Text.Hidden

/-! # Messages

The messages of JSON-RPC 2.0, one JSON object a line.  `Request` and `Notification` are what the client
writes; `Incoming.decode` reads what a server writes: a blank line, a message of the server's own (it has
a method), or a response, which carries either a result or an error.  Whatever is none of these has a
`Flaw`. -/

namespace CallScript.Rpc

/-- The version that every message carries. -/
def version : String := "2.0"

/-- A message that is to be answered, under the id of the answer. -/
structure Request where
  id : Int64
  method : String
  params : Option Json

/-- A message that is not answered. -/
structure Notification where
  method : String
  params : Option Json

/-- The field that parameters are sent in. -/
def paramsField (params : Option Json) : List (String × Json) :=
  match params with
  | some params => [("params", params)]
  | none => []

/-- The object that a request is sent as. -/
def Request.toJson (r : Request) : Json :=
  .obj ([("jsonrpc", .str version), ("id", .int r.id), ("method", .str r.method)]
    ++ paramsField r.params)

/-- The object that a notification is sent as. -/
def Notification.toJson (n : Notification) : Json :=
  .obj ([("jsonrpc", .str version), ("method", .str n.method)] ++ paramsField n.params)

/-- The error that a response carries. -/
structure Fault where
  code : Int64
  message : String
  data : Option Json
  deriving DecidableEq

namespace Fault

/-- The field that data is held in. -/
def dataField (data : Option Json) : List (String × Json) :=
  match data with
  | some data => [("data", data)]
  | none => []

/-- The error as an object in order of its keys, as results hold it. -/
def toJson (e : Fault) : Json :=
  .obj ([("code", .int e.code)] ++ dataField e.data ++ [("message", .str e.message)])

/-- The error as an object in the order of its declaration. -/
def declared (e : Fault) : Json :=
  .obj ([("code", .int e.code), ("message", .str e.message)] ++ dataField e.data)

/-- Why a value is no error object. -/
inductive Flaw where
  /-- A value of another type than the one expected. -/
  | wrongType (found : Json) (expected : String)
  /-- An integer beyond the signed range. -/
  | outOfRange (n : UInt64)
  /-- A field that has to be there. -/
  | missing (field : String)
  /-- An array of fewer than two items. -/
  | tooShort (length : Nat)
  /-- An array of more than three items. -/
  | tooLong (length : Nat)

/-- A value by its type, as flaws name it. -/
def typeName : Json → String
  | .null => "null"
  | .bool b => s!"boolean `{b}`"
  | .number (.int i) => s!"integer `{i.toInt}`"
  | .number (.large n _) => s!"integer `{n.toNat}`"
  | .number (.double x _) =>
    s!"floating point `{String.ofList (Layout.positionalAlways.write x)}`"
  | .str s => s!"string {Text.quoted s}"
  | .arr _ => "sequence"
  | .obj _ => "map"

/-- The wording of a flaw. -/
def Flaw.message : Flaw → String
  | .wrongType found expected => s!"invalid type: {typeName found}, expected {expected}"
  | .outOfRange n => s!"invalid value: integer `{n.toNat}`, expected i64"
  | .missing field => s!"missing field `{field}`"
  | .tooShort length => s!"invalid length {length}, expected struct RpcError with 3 elements"
  | .tooLong length => s!"invalid length {length}, expected fewer elements in array"

/-- The code of an error: a signed 64-bit integer. -/
def readCode : Json → Except Flaw Int64
  | .number (.int i) => .ok i
  | .number (.large n _) => .error (.outOfRange n)
  | j => .error (.wrongType j "i64")

/-- The message of an error. -/
def readMessage : Json → Except Flaw String
  | .str s => .ok s
  | j => .error (.wrongType j "a string")

/-- The data of an error; `null` counts as none. -/
def readData : Json → Option Json
  | .null => none
  | j => some j

/-- Reads a field that has to be there. -/
def readField {α : Type} (fields : List (String × Json)) (key : String)
    (read : Json → Except Flaw α) : Except Flaw (Option α) :=
  match Fields.find? key fields with
  | some j => (read j).map some
  | none => .ok none

/-- Reads an error object, or the array of its fields.  The types of the fields that are there are looked
at before it is asked whether one is missing. -/
def ofJson : Json → Except Flaw Fault
  | .obj fields => do
    let code ← readField fields "code" readCode
    let message ← readField fields "message" readMessage
    match code, message with
    | none, _ => .error (.missing "code")
    | _, none => .error (.missing "message")
    | some code, some message =>
      .ok ⟨code, message, (Fields.find? "data" fields).bind readData⟩
  | .arr items =>
    match items with
    | [] => .error (.tooShort 0)
    | [code] => do
      let _ ← readCode code
      .error (.tooShort 1)
    | code :: message :: rest => do
      let code ← readCode code
      let message ← readMessage message
      match rest with
      | [] => .ok ⟨code, message, none⟩
      | [data] => .ok ⟨code, message, readData data⟩
      | _ => .error (.tooLong items.length)
  | j => .error (.wrongType j "struct RpcError")

end Fault

/-- What a response says of its request. -/
inductive Outcome where
  | success (result : Json)
  | failure (e : Fault)
  deriving DecidableEq

/-- The result of a request; a reported error fails it. -/
def Outcome.toResult (method : String) : Outcome → Except Error Json
  | .success result => .ok result
  | .failure e => .error (.toolFailed method e.code e.message)

/-- The answer to the request of an id. -/
structure Response where
  id : Int64
  outcome : Outcome
  deriving DecidableEq

/-- A line of a server. -/
inductive Incoming where
  | response (r : Response)
  /-- A notification, or a request of the server. -/
  | serverMessage (method : String)
  | blank
  deriving DecidableEq

namespace Incoming

/-- Why a line is no message. -/
inductive Flaw where
  | notJson
  | notObject
  | version (found : String)
  | noVersion
  | idNotInteger (id : Json)
  | noId
  | malformedError (flaw : Fault.Flaw)
  | resultAndError
  | noOutcome

/-- The wording of a flaw. -/
def Flaw.message : Flaw → String
  | .notJson => "Invalid JSON from server"
  | .notObject => "Expected a JSON object"
  | .version found => s!"Unsupported jsonrpc version '{found}'"
  | .noVersion => "Missing jsonrpc field"
  | .idNotInteger id => s!"Response id is not an integer: {id.compact}"
  | .noId => "Response has no id"
  | .malformedError flaw => s!"Malformed error object: {flaw.message}"
  | .resultAndError => "Response carries both result and error"
  | .noOutcome => "Response carries neither result nor error"

/-- What a response's object says of its request. -/
def readOutcome (fields : List (String × Json)) : Except Flaw Outcome :=
  match Fields.find? "result" fields, Fields.find? "error" fields with
  | some result, none => .ok (.success result)
  | none, some e =>
    match Fault.ofJson e with
    | .ok e => .ok (.failure e)
    | .error flaw => .error (.malformedError flaw)
  | some _, some _ => .error .resultAndError
  | none, none => .error .noOutcome

/-- Reads the fields of a message. -/
def ofFields (fields : List (String × Json)) : Except Flaw Incoming :=
  match (Fields.find? "jsonrpc" fields).bind Json.str? with
  | none => .error .noVersion
  | some found =>
    if found ≠ version then .error (.version found)
    else match (Fields.find? "method" fields).bind Json.str? with
      | some method => .ok (.serverMessage method)
      | none =>
        match Fields.find? "id" fields with
        | none => .error .noId
        | some id =>
          match id.int? with
          | none => .error (.idNotInteger id)
          | some id => (readOutcome fields).map fun outcome => .response ⟨id, outcome⟩

/-- Reads a line. -/
def read (line : List Char) : Except Flaw Incoming :=
  if line.all Text.isBlank then .ok .blank
  else match Json.readAll? line with
    | none => .error .notJson
    | some (.obj fields) => ofFields fields
    | some _ => .error .notObject

/-- Reads a line; a line that is no message breaks the protocol. -/
def decode (line : String) : Except Error Incoming :=
  match read line.toList with
  | .ok incoming => .ok incoming
  | .error flaw => .error (.protocol flaw.message)

end Incoming

/-- Whether a result says of itself that the tool failed. -/
def reportsError (result : Json) : Bool :=
  match result.field? "isError" with
  | some (.bool b) => b
  | _ => false

/-- How a client introduces itself. -/
structure Handshake where
  protocolVersion : String
  clientName : String
  clientVersion : String
  deriving DecidableEq

namespace Handshake

/-- What the client can do. -/
def capabilities : Json := .obj [("tools", .obj [])]

/-- The name and version of the client. -/
def clientInfo (h : Handshake) : Json :=
  .obj [("name", .str h.clientName), ("version", .str h.clientVersion)]

/-- The parameters of the introduction, in order of their keys. -/
def toJson (h : Handshake) : Json :=
  .obj [("capabilities", capabilities), ("clientInfo", h.clientInfo),
    ("protocolVersion", .str h.protocolVersion)]

/-- The parameters of the introduction, in the order of their declaration. -/
def declared (h : Handshake) : Json :=
  .obj [("protocolVersion", .str h.protocolVersion), ("capabilities", capabilities),
    ("clientInfo", h.clientInfo)]

end Handshake

/-- The parameters of a tool call, in order of their keys. -/
def toolCallParams (name : String) (arguments : Json) : Json :=
  .obj [("arguments", arguments), ("name", .str name)]

end CallScript.Rpc
