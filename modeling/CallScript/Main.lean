import CallScript.CommandLine.Standard
import Std.Time.DateTime.Timestamp

/-! # The command

Brings the files that a command line names to a machine of the standard system, has the program run there,
and shows what it leaves behind.  What it does is decided by `CommandLine.runProgram`. -/

namespace CallScript.CommandLine

/-- Whether a path leads to a directory. -/
def isDirectory (path : String) : IO Bool := do
  try (← IO.FS.realPath path).isDir catch _ => return false

/-- Brings what a path leads to into a tree of files, or else the directory that it would be in. -/
def bring (directory : String) (files : Files) (path : String) : IO Files := do
  let place := Place.ofPath directory path
  if (files.entry? place).isSome then return files
  if ← isDirectory path then return files.makeDirectories [] place
  try
    return files.create place (.file (← IO.FS.readBinFile path))
  catch _ =>
    if ← isDirectory (String.ofList (Place.path place.dropLast)) then
      return files.makeDirectories [] place.dropLast
    return files

/-- Writes a file that the program has changed. -/
def takeBack (directory : String) (before after : Files) (path : String) : IO Unit := do
  match before.read directory path, after.read directory path with
  | .ok old, .ok new => if old != new then IO.FS.writeBinFile path new
  | .error _, .ok new => IO.FS.writeBinFile path new
  | _, .error _ => return

/-- The time since the beginning of 1970. -/
def currentTime : IO Duration :=
  return ⟨((← Std.Time.Timestamp.now).toNanosecondsSinceUnixEpoch.val / 1000).toNat⟩

/-- Whether what the program shows may have colours. -/
def hasColours : IO Bool :=
  return (← IO.getEnv "NO_COLOR").isNone && (← (← IO.getStderr).isTty)

/-- Runs the program with arguments in the directory where it was started. -/
def runHere (arguments : List String) : IO UInt32 := do
  let directory := (← IO.currentDir).toString
  let settings := (usualSettings (← IO.getEnv "XDG_CONFIG_HOME") (← IO.getEnv "HOME")).getD ""
  let request? := (Request.ofArguments .program arguments).toOption
  let home := Files.standard.makeDirectories [] (Files.names directory.toList)
  let files ← (settings :: (request?.map Request.paths).getD []).foldlM (bring directory) home
  let machine := { Machine.standard files directory [] with now := ← currentTime }
  let palette := if ← hasColours then Run.Palette.colored else .plain
  let ending := runProgram (onMachine machine settings palette) arguments machine
  IO.eprint ending.errors
  IO.print ending.output
  match request?.bind Request.report? with
  | some path => takeBack directory files ending.machine.files path
  | none => pure ()
  return UInt32.ofNat ending.code

end CallScript.CommandLine

/-- The command. -/
def main (arguments : List String) : IO UInt32 := CallScript.CommandLine.runHere arguments
