import CallScript.Script.Lines
import CallScript.Script.Schema
import CallScript.Script.Token

/-! # Invocations

What a line of a script calls: the tool, and the parameters of its parameter list, each read with the
declarations for it.  A line that is no call says why, as a `Fault`. -/

namespace CallScript

/-- A call of a tool with its parameters. -/
structure Invocation where
  tool : String
  parameters : Mapping

namespace Invocation

/-- Why a line is no call. -/
inductive Fault where
  | header
  | segment (fault : Segment.Fault)
  | parameter (key : List Char) (fault : Token.Fault)
  | duplicate (key : List Char)
  deriving DecidableEq, Repr

/-- The wording of a fault. -/
def Fault.message : Fault → String
  | .header => "expected `name(key=value, ...)`"
  | .segment fault => fault.message
  | .parameter key fault => "parameter '" ++ String.ofList key ++ "': " ++ fault.message
  | .duplicate key => "duplicate parameter '" ++ String.ofList key ++ "'"

/-- Reads the pieces of a parameter list into parameters, in the order they stand. -/
def readPieces (schema : Schema) (tool : String) : Mapping → List (List Char) → Except Fault Mapping
  | parameters, [] => .ok parameters
  | parameters, piece :: rest =>
    match Segment.keyValue piece with
    | .error fault => .error (.segment fault)
    | .ok (key, raw) =>
      let name := String.ofList key
      match Token.decode (schema.isInteger tool name) raw with
      | .error fault => .error (.parameter key fault)
      | .ok value =>
        if Fields.contains name parameters then .error (.duplicate key)
        else readPieces schema tool (Fields.insert name value parameters) rest

/-- Reads a line. -/
def read (schema : Schema) (line : List Char) : Except Fault Invocation :=
  match header? (undecorated line) with
  | none => .error .header
  | some (name, parameters) =>
    match Segment.split parameters with
    | .error fault => .error (.segment fault)
    | .ok pieces =>
      let tool := String.ofList name
      match readPieces schema tool [] pieces with
      | .error fault => .error fault
      | .ok parameters => .ok ⟨tool, parameters⟩

/-- Reads a line; a line that is no call is a parse error. -/
def parse (schema : Schema) (line : String) : Except Error Invocation :=
  match read schema line.toList with
  | .ok invocation => .ok invocation
  | .error fault => .error (.parse line fault.message)

/-- The call as it is shown. -/
def display (i : Invocation) : Json :=
  .obj [("tool_name", .str i.tool), ("parameters", i.parameters.display)]

end Invocation

end CallScript
