import CallScript.Text.Blank
import CallScript.Text.Word

/-! # The lines of a script

A script is read line by line; blanks around a line do not count, and neither do empty lines and lines
that start with `#`.  Every other line is one call of a tool:

    [marker] [namespace:]name [(TAG)] (key=value, key: value, ...)

Marker, namespace and tag are decoration.  Where the tag could also be the parameter list, it is the tag
if another pair of parentheses follows it up to the end of the line. -/

namespace CallScript.Script

/-- The pieces of a text between line feeds. -/
def splitLines (s : List Char) : List (List Char) := s.splitOn '\n'

/-- Whether a trimmed line stands for a call. -/
def isCallLine : List Char → Bool
  | [] => false
  | c :: _ => c ≠ '#'

/-- The calls of a script, as trimmed lines. -/
def lines (content : String) : List String :=
  (((splitLines content.toList).map Text.trim).filter isCallLine).map String.ofList

end CallScript.Script

namespace CallScript.Invocation

/-- The bullets that may stand before a call. -/
def isMarker (c : Char) : Bool := c = '●' || c = '•'

/-- The characters that no tag holds. -/
def isTagChar (c : Char) : Bool :=
  !(c = '(' || c = ')' || c = '"' || c = '\'' || c = '=' || c = ':' || c = ',')

/-- The line without blanks, and without bullets and the blanks after them. -/
def undecorated (line : List Char) : List Char :=
  Text.trim ((Text.trim line).dropWhile isMarker)

/-- The text without its last character, if that is a closing parenthesis and no line feed comes
before it. -/
def closed? (s : List Char) : Option (List Char) :=
  match s.reverse with
  | ')' :: inner => if inner.contains '\n' then none else some inner.reverse
  | _ => none

/-- The parameter list after a tag: a tag, a closing parenthesis, and another pair to the end. -/
def taggedParameters? (s : List Char) : Option (List Char) :=
  match Text.spanOf isTagChar s with
  | (_, ')' :: rest) =>
    match Text.trimStart rest with
    | '(' :: inner => closed? inner
    | _ => none
  | _ => none

/-- The parameter list that follows a tool's name. -/
def parameterList? (s : List Char) : Option (List Char) :=
  match Text.trimStart s with
  | '(' :: inner => (taggedParameters? inner).or (closed? inner)
  | _ => none

/-- The tool's name and the parameter list of a line. -/
def header? (s : List Char) : Option (List Char × List Char) :=
  let (first, rest) := Text.spanOf Text.isWord s
  let (name, rest) := match rest with
    | ':' :: rest => Text.spanOf Text.isWord rest
    | _ => (first, rest)
  if first.isEmpty || name.isEmpty then none
  else (parameterList? rest).map fun parameters => (name, parameters)

end CallScript.Invocation
