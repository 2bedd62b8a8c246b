import CallScript.Fields
import CallScript.System.Path
import CallScript.Text.Utf8

/-! # Files

A tree of files in memory.  `Files.locate` follows the names of a path through directories, as an
operating system does; `Files.read`, `Files.write` and `Files.append` act on what it finds, and fail for
the same reasons. -/

namespace CallScript

/-- Why an operation on a file fails. -/
inductive FileFlaw where
  | missing
  | denied
  | notDirectory
  | isDirectory
  | notText
  deriving DecidableEq, Repr

/-- The wording of a flaw. -/
def FileFlaw.message : FileFlaw → String
  | .missing => "No such file or directory (os error 2)"
  | .denied => "Permission denied (os error 13)"
  | .notDirectory => "Not a directory (os error 20)"
  | .isDirectory => "Is a directory (os error 21)"
  | .notText => "stream did not contain valid UTF-8"

/-- What a path leads to. -/
inductive Entry where
  | directory
  | file (content : ByteArray)
  /-- A program of the system, by its name. -/
  | program (name : String)
  /-- Empty, whatever is written to it. -/
  | sink

/-- A tree of files: its entries by their paths from the root.  The root itself is always there. -/
structure Files where
  entries : List (String × Entry)

/-- A place in a tree of files: the names that lead to it from the root. -/
abbrev Place := List (List Char)

namespace Place

/-- The path of a place. -/
def path (p : Place) : List Char := p.flatMap fun name => Path.separator :: name

/-- The key that a place has among entries. -/
def key (p : Place) : String := String.ofList p.path

/-- The path of a place as a text. -/
def text (p : Place) : String := if p.isEmpty then "/" else p.key

/-- The place that a name leads to. -/
def step (here : Place) (name : List Char) : Place :=
  if name = ['.'] then here else if name = ['.', '.'] then here.dropLast else here ++ [name]

end Place

namespace Files

/-- No files. -/
def empty : Files := ⟨[]⟩

/-- What is at a place. -/
def entry? (files : Files) (place : Place) : Option Entry :=
  if place.isEmpty then some .directory else Fields.find? place.key files.entries

/-- The names of a path that are not empty. -/
def names (path : List Char) : List (List Char) := (Path.pieces path).filter fun name => !name.isEmpty

/-- Follows names from a place.  Every place that is left on the way has to be a directory; the last one
need not exist. -/
def follow (files : Files) : Place → List (List Char) → Except FileFlaw Place
  | here, [] => .ok here
  | here, name :: rest =>
    match files.entry? here with
    | none => .error .missing
    | some .directory => follow files (here.step name) rest
    | some _ => .error .notDirectory

/-- The place that a path starts from, for a process in a directory. -/
def origin (directory path : List Char) : Place :=
  if Path.isAbsolute path then [] else names directory

/-- Whether a path ends with a slash, and so can only mean a directory. -/
def endsOpen (path : List Char) : Bool := path.getLast? = some Path.separator

/-- The place that a path means in a directory. -/
def locate (files : Files) (directory path : List Char) : Except FileFlaw Place :=
  if path.isEmpty then .error .missing
  else files.follow (origin directory path)
    (names path ++ if endsOpen path then [['.']] else [])

/-- What a path leads to in a directory. -/
def find (files : Files) (directory path : String) : Except FileFlaw Entry :=
  match files.locate directory.toList path.toList with
  | .error flaw => .error flaw
  | .ok place =>
    match files.entry? place with
    | some entry => .ok entry
    | none => .error .missing

/-- The place of a directory that a path leads to, for a process that goes there. -/
def enter (files : Files) (directory path : String) : Except FileFlaw Place :=
  match files.locate directory.toList path.toList with
  | .error flaw => .error flaw
  | .ok place =>
    match files.entry? place with
    | some .directory => .ok place
    | some _ => .error .notDirectory
    | none => .error .missing

/-- Whether a path leads to a file. -/
def isFile (files : Files) (directory path : String) : Bool :=
  match files.find directory path with
  | .ok (.file _) | .ok (.program _) => true
  | _ => false

/-- Whether a path leads to anything. -/
def pathExists (files : Files) (directory path : String) : Bool :=
  (files.find directory path).isOk

/-- The bytes of a file. -/
def read (files : Files) (directory path : String) : Except FileFlaw ByteArray :=
  match files.find directory path with
  | .error flaw => .error flaw
  | .ok (.file content) => .ok content
  | .ok .directory => .error .isDirectory
  | .ok (.program _) | .ok .sink => .ok .empty

/-- The text of a file. -/
def readText (files : Files) (directory path : String) : Except FileFlaw String :=
  match files.read directory path with
  | .error flaw => .error flaw
  | .ok bytes => (Text.Utf8.decode bytes).mapError fun _ => .notText

/-- The place where a path may create a file. -/
def locateNew (files : Files) (directory path : List Char) : Except FileFlaw Place :=
  match (names path).getLast? with
  | none => .error (if path.isEmpty then .missing else .isDirectory)
  | some last =>
    match files.follow (origin directory path) (names path).dropLast with
    | .error flaw => .error flaw
    | .ok parent =>
      match files.entry? parent with
      | none => .error .missing
      | some .directory =>
        if endsOpen path || last = ['.'] || last = ['.', '.'] then .error .isDirectory
        else .ok (parent ++ [last])
      | some _ => .error .notDirectory

/-- Stores an entry at a place. -/
def put (files : Files) (place : Place) (entry : Entry) : Files :=
  ⟨Fields.insert place.key entry files.entries⟩

/-- Stores the bytes that a function makes of those that were in a file. -/
def modify (files : Files) (directory path : String) (f : ByteArray → ByteArray) :
    Except FileFlaw Files :=
  match files.locateNew directory.toList path.toList with
  | .error flaw => .error flaw
  | .ok place =>
    match files.entry? place with
    | some .directory => .error .isDirectory
    | some (.program _) => .error .denied
    | some .sink => .ok files
    | some (.file content) => .ok (files.put place (.file (f content)))
    | none => .ok (files.put place (.file (f .empty)))

/-- Stores bytes in a file, in place of those that were there. -/
def write (files : Files) (directory path : String) (content : ByteArray) : Except FileFlaw Files :=
  files.modify directory path fun _ => content

/-- Adds bytes at the end of a file. -/
def append (files : Files) (directory path : String) (content : ByteArray) : Except FileFlaw Files :=
  files.modify directory path (· ++ content)

/-- Makes the directories that names lead to from a place. -/
def makeDirectories (files : Files) (here : Place) : List (List Char) → Files
  | [] => files
  | name :: rest =>
    let there := here ++ [name]
    let files := if (files.entry? there).isSome then files else files.put there .directory
    files.makeDirectories there rest

/-- Stores an entry at a place, and makes the directories on the way to it. -/
def create (files : Files) (place : Place) (entry : Entry) : Files :=
  (files.makeDirectories [] place.dropLast).put place entry

end Files

/-- The place that a path means to a process in a directory if nothing stands in its way. -/
def Place.ofPath (directory path : String) : Place :=
  (Files.origin directory.toList path.toList ++ Files.names path.toList).foldl Place.step []

end CallScript
