import CallScript.Fields

/-! # Integer-typed parameters

A script cannot tell whether `line=10.0` means a number or a text.  A `Schema` settles it for the
parameters that it declares: they are integers.  It holds, for each tool, the parameters declared for it,
both in order; no tool is held without parameters. -/

namespace CallScript

/-- The parameters that are declared integers, by tool. -/
structure Schema where
  tools : List (String × List (String × Unit))
  deriving DecidableEq

namespace Schema

/-- No declarations. -/
def empty : Schema := ⟨[]⟩

/-- The parameters declared for a tool. -/
def parameters (s : Schema) (tool : String) : List (String × Unit) := (Fields.find? tool s.tools).getD []

/-- Declares a parameter of a tool to be an integer. -/
def declare (s : Schema) (tool parameter : String) : Schema :=
  ⟨Fields.insert tool (Fields.insert parameter () (s.parameters tool)) s.tools⟩

/-- Whether a parameter of a tool is declared. -/
def isInteger (s : Schema) (tool parameter : String) : Bool :=
  Fields.contains parameter (s.parameters tool)

/-- The parts of a declaration such as `tool.parameter`, cut at its first dot; neither may be empty. -/
def dottedParts (spec : String) : Option (String × String) :=
  let chars := spec.toList
  match chars.takeWhile (· ≠ '.'), chars.dropWhile (· ≠ '.') with
  | tool, '.' :: parameter =>
    if tool.isEmpty || parameter.isEmpty then none
    else some (String.ofList tool, String.ofList parameter)
  | _, _ => none

/-- Declares what a declaration such as `tool.parameter` says, if it is one. -/
def declareDotted (s : Schema) (spec : String) : Option Schema :=
  (dottedParts spec).map fun (tool, parameter) => s.declare tool parameter

/-- The declarations of two schemas together. -/
def extend (s other : Schema) : Schema :=
  ⟨other.tools.foldl
    (fun tools (tool, extra) =>
      Fields.insert tool (Fields.merge ((Fields.find? tool tools).getD []) extra) tools)
    s.tools⟩

/-- Whether nothing is declared. -/
def isEmpty (s : Schema) : Bool := s.tools.isEmpty

end Schema

end CallScript
