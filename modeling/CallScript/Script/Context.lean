import CallScript.Script.Value

/-! # Variables of a run

A `Context` holds what references of a step may stand for: the variables given by the caller, and under
the name `last_result` the result of the latest step that had one.  A caller's variable of that name is
never used.  `Context.interpolate` replaces all references of a step at once. -/

namespace CallScript

/-- What references stand for. -/
structure Context where
  /-- The latest result, if there is one. -/
  lastResult : Option Mapping := none
  /-- The caller's variables, in order of their names. -/
  bindings : Mapping := []

namespace Context

/-- The name of the latest result. -/
def lastResultName : String := "last_result"

/-- A result as a mapping: an object as it is, any other value under the key `value`. -/
def resultMapping : Json → Mapping
  | .obj fields => Mapping.ofFields fields
  | j => [("value", Value.ofJson j)]

/-- The context after a step with a result. -/
def record (c : Context) (result : Json) : Context :=
  { c with lastResult := some (resultMapping result) }

/-- The value that a name stands for. -/
def find? (c : Context) (name : String) : Option Value :=
  if name = lastResultName then c.lastResult.map .mapping else Fields.find? name c.bindings

/-- The value that a name stands for; fails for a name without one. -/
def lookup (c : Context) (name : String) : Except Error Value :=
  match c.find? name with
  | some value => .ok value
  | none => .error (.undefinedVariable name)

mutual

/-- The value with all references replaced; fails with the first one that stands for nothing. -/
def resolve (c : Context) : Value → Except Error Value
  | .reference name => c.lookup name
  | .list items => (resolveItems c items).map .list
  | .mapping fields => (resolveFields c fields).map .mapping
  | .text s => .ok (.text s)
  | .integer i => .ok (.integer i)
  | .double x => .ok (.double x)
  | .boolean b => .ok (.boolean b)
  | .null => .ok .null

/-- The items with all references replaced. -/
def resolveItems (c : Context) : List Value → Except Error (List Value)
  | [] => .ok []
  | item :: rest =>
    match resolve c item with
    | .error e => .error e
    | .ok item => (resolveItems c rest).map (item :: ·)

/-- The fields with all references replaced. -/
def resolveFields (c : Context) : List (String × Value) → Except Error (List (String × Value))
  | [] => .ok []
  | (key, value) :: rest =>
    match resolve c value with
    | .error e => .error e
    | .ok value => (resolveFields c rest).map ((key, value) :: ·)

end

/-- Parameters with all references replaced. -/
def interpolate (c : Context) (parameters : Mapping) : Except Error Mapping :=
  c.resolveFields parameters

end Context

end CallScript
