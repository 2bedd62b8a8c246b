import CallScript.Json.Printer
import CallScript.Json.Reader

/-! # The demonstration server

A server whose tools behave well and badly in known ways, for trying out scripts.  `Server.react` says
what it does with one line of its input: a list of acts, and the state after them.  Lines that are no JSON
and messages without an id are not answered. -/

namespace CallScript.Demo

/-- What the server does with a line, piece by piece. -/
inductive Act where
  /-- It sends a message. -/
  | send (message : Json)
  /-- It puts out a line that is no message. -/
  | babble (line : String)
  /-- It rests for some milliseconds. -/
  | rest (millis : Nat)
  /-- It ends with a code. -/
  | leave (code : Nat)

/-- The state of the server. -/
structure Server where
  /-- Whether tools can only be called after the client has said that it is introduced. -/
  requiresIntroduction : Bool := false
  /-- Whether the client has said so. -/
  isIntroduced : Bool := false
  deriving DecidableEq, Repr

/-- The answer that a request of an id succeeded. -/
def success (id result : Json) : Json :=
  .obj [("id", id), ("jsonrpc", .str "2.0"), ("result", result)]

/-- The answer that a request of an id failed. -/
def failure (id : Json) (code : Int64) (message : String) : Json :=
  .obj [("error", .obj [("code", .int code), ("message", .str message)]), ("id", id),
    ("jsonrpc", .str "2.0")]

/-- A field of a value; `null` if there is none. -/
def part (key : String) (j : Json) : Json := (j.field? key).getD .null

/-- The text that a value is; the empty text if it is none. -/
def textOf (j : Json) : String := j.str?.getD ""

/-- The natural number that a value is. -/
def natOf? : Json → Option Nat
  | .number (.int i) => if 0 ≤ i.toInt then some i.toInt.toNat else none
  | .number (.large n _) => some n.toNat
  | _ => none

/-- The names of the tools. -/
def tools : List String :=
  ["echo", "position", "fail", "tool_error", "notify", "slow", "hang", "crash", "garbage", "wrong_id"]

/-- The list of the tools, as the server sends it. -/
def toolList : Json :=
  .obj [("tools", .arr (tools.map fun name =>
    .obj [("inputSchema", .obj [("type", .str "object")]), ("name", .str name)]))]

/-- What the server says of itself when the client introduces itself. -/
def introduction (params : Json) : Json :=
  .obj [("capabilities", .obj [("tools", .obj [])]),
    ("protocolVersion", part "protocolVersion" params),
    ("serverInfo", .obj [("name", .str "mock-server"), ("version", .str "0.1.0")])]

/-- What a call of a tool does. -/
def callTool (id params : Json) : List Act :=
  let arguments := part "arguments" params
  match textOf (part "name" params) with
  | "echo" => [.send (success id arguments)]
  | "position" => [.send (success id (.obj [("line", .int 7)]))]
  | "fail" => [.send (failure id (-32000) "tool failed on purpose")]
  | "tool_error" => [.send (success id (.obj [
      ("content", .arr [.obj [("text", .str "bad input"), ("type", .str "text")]]),
      ("isError", .bool true)]))]
  | "notify" => [
      .send (.obj [("jsonrpc", .str "2.0"), ("method", .str "notifications/message"),
        ("params", .obj [("level", .str "info")])]),
      .send (success id (.obj [("notified", .bool true)]))]
  | "slow" => [.rest ((natOf? (part "ms" arguments)).getD 100), .send (success id arguments)]
  | "hang" => []
  | "crash" => [.leave 3]
  | "garbage" => [.babble "this is not json"]
  | "wrong_id" => [.send (success (.int (id.int?.getD 0 + 100)) (.obj []))]
  | other => [.send (failure id (-32602) s!"Unknown tool: {other}")]

namespace Server

/-- What the server does with a request. -/
def answer (s : Server) (method : String) (id params : Json) : List Act :=
  match method with
  | "initialize" => [.send (success id (introduction params))]
  | "tools/list" => [.send (success id toolList)]
  | "tools/call" =>
    if s.requiresIntroduction && !s.isIntroduced then
      [.send (failure id (-32002) "tools/call before notifications/initialized")]
    else callTool id params
  | _ => [.send (failure id (-32601) "Method not found")]

/-- What the server does with a line, and its state after that. -/
def react (s : Server) (line : String) : List Act × Server :=
  match Json.read? line with
  | none => ([], s)
  | some message =>
    let method := textOf (part "method" message)
    match message.field? "id" with
    | none =>
      ([], if method = "notifications/initialized" then { s with isIntroduced := true } else s)
    | some id => (s.answer method id (part "params" message), s)

end Server

end CallScript.Demo
