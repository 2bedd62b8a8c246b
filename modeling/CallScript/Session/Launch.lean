import CallScript.System.Files

/-! # Launching a server

What has to be known to start a server.  A command that holds a slash is a path; a bare name is looked up
in the directories where programs are kept, and left as it is if none of them has it. -/

namespace CallScript

/-- How a server is started. -/
structure Launch where
  program : String
  arguments : List String := []
  /-- The directory that the server works in, if it is not the caller's. -/
  directory : Option String := none
  /-- Variables of the server's environment, in order of their names. -/
  environment : List (String × String) := []
  deriving DecidableEq, Repr

namespace Launch

/-- The command line as messages show it. -/
def display (l : Launch) : String := " ".intercalate (l.program :: l.arguments)

/-- The directory that the server works in, for a caller in a directory. -/
def workingDirectory (caller : String) (l : Launch) : String :=
  match l.directory with
  | some directory => String.ofList (Path.join caller.toList directory.toList)
  | none => caller

/-- The file that is executed.  The server changes to its directory first, so a relative path starts
there. -/
def executable (caller : String) (l : Launch) : String :=
  String.ofList (Path.join (l.workingDirectory caller).toList l.program.toList)

end Launch

/-- Where bare names of programs are looked up. -/
structure SearchPath where
  files : Files
  /-- The directories that hold programs, the first one searched first. -/
  directories : List String

namespace SearchPath

/-- The path that a bare name has in a directory, if there is a program of that name. -/
def candidate? (search : SearchPath) (name directory : String) : Option String :=
  let path := String.ofList (Path.join directory.toList name.toList)
  match search.files.find "/" path with
  | .ok (.program _) => some path
  | _ => none

/-- The path of a program of a bare name. -/
def find? (search : SearchPath) (name : String) : Option String :=
  search.directories.findSome? fun directory =>
    if name.isEmpty then none else search.candidate? name directory

/-- The program that a command means. -/
def resolve (search : SearchPath) (command : String) : String :=
  if command.toList.contains Path.separator then command else (search.find? command).getD command

end SearchPath

end CallScript
