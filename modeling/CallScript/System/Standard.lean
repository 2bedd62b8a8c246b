import CallScript.Shell.Evaluation
import CallScript.System.Job

/-! # The standard system

The files that every system starts with, apart from those of its users: directories, and the programs in
them. -/

namespace CallScript.Files

/-- The directories of a system in which programs are looked up. -/
def programDirectories : List String :=
  ["/usr/local/sbin", "/usr/local/bin", "/usr/sbin", "/usr/bin", "/sbin", "/bin"]

/-- The names of the standard programs. -/
def standardPrograms : List String :=
  ["sh", "dash", "cat", "sleep", "true", "false", "echo", "printf", "pwd", "env", "printenv", "yes",
   "seq", "head"]

/-- The path of the demonstration server. -/
def demoPath : String := "/opt/demo/mock_server"

/-- The files of a system without users. -/
def standard : Files :=
  let directories := (programDirectories ++ ["/tmp", "/dev", "/etc", "/root", "/home", "/opt/demo"]).foldl
    (fun files path => files.makeDirectories [] (names path.toList)) empty
  let programs := ["/usr/bin", "/bin"].flatMap fun directory =>
    standardPrograms.map fun name => (names directory.toList ++ [name.toList], name)
  ((programs.foldl (fun files (place, name) => files.put place (.program name)) directories).put
    ["dev".toList, "null".toList] .sink).put (names demoPath.toList) (.program Tools.demoName)

end CallScript.Files

namespace CallScript

/-- Where the programs of a system with the standard directories are looked up. -/
def SearchPath.standard (files : Files) : SearchPath := ⟨files, Files.programDirectories⟩

/-- The programs of the standard system. -/
def Library.standard : Library := fun name start =>
  match decide (name = "env"), Tools.named? name with
  | true, _ => Shell.env start
  | _, some tool => Tool.program tool start
  | _, none => Shell.program start

/-- A machine of the standard system with files of its users. -/
def Machine.standard (files : Files) (directory : String) (environment : List (String × String)) :
    Machine where
  files := files
  directory := directory
  environment := Fields.merge [("PATH", ":".intercalate Files.programDirectories)] environment

end CallScript
