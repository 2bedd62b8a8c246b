/-! # Paths

A path is a text of names with slashes between them.  Empty names and the name `.` stand for nothing
when the parts of a path are taken, except that a relative path may begin with `.`. -/

namespace CallScript.Path

/-- The character between names. -/
def separator : Char := '/'

/-- Whether a path starts from the root. -/
def isAbsolute (path : List Char) : Bool := path.head? = some separator

/-- Whether a name stands for no step. -/
def isIdle (name : List Char) : Bool := name = [] || name = ['.']

/-- The path of something in a directory; an absolute path stays as it is. -/
def join (directory path : List Char) : List Char :=
  if isAbsolute path || directory.isEmpty then path
  else if directory.getLast? = some separator then directory ++ path
  else directory ++ separator :: path

/-- The pieces of a path between slashes, empty ones included. -/
def pieces (path : List Char) : List (List Char) := path.splitOn separator

/-- The text of a path without idle names at its end; the root and a leading `.` stay. -/
def trimIdle (path : List Char) : List Char :=
  match pieces path with
  | [] => []
  | first :: rest =>
    let kept := (rest.reverse.dropWhile isIdle).reverse
    if first.isEmpty && !rest.isEmpty && kept.isEmpty then [separator]
    else [separator].intercalate (first :: kept)

/-- The last name of a path, if it has one. -/
def lastName? (path : List Char) : Option (List Char) :=
  match pieces path with
  | [] => none
  | first :: rest =>
    match rest.reverse.dropWhile isIdle with
    | last :: _ => some last
    | [] => if first.isEmpty then none else some first

/-- The path of the directory that something is in. -/
def parent? (path : List Char) : Option (List Char) :=
  match pieces path with
  | [] => none
  | first :: rest =>
    match rest.reverse.dropWhile isIdle with
    | _ :: before => some (trimIdle ([separator].intercalate (first :: before.reverse ++ [[]])))
    | [] => if first.isEmpty then none else some []

/-- The name of the file that a path ends in; `.` and `..` name no file. -/
def fileName? (path : List Char) : Option (List Char) :=
  (lastName? path).filter fun name => name ≠ ['.'] && name ≠ ['.', '.']

/-- A file name cut at its last dot, unless that is its first character. -/
def splitExtension (name : List Char) : List Char × Option (List Char) :=
  let backwards := name.reverse
  let stem := (backwards.dropWhile (· ≠ '.')).drop 1
  if backwards.contains '.' && !stem.isEmpty then
    (stem.reverse, some (backwards.takeWhile (· ≠ '.')).reverse)
  else (name, none)

/-- The name of a file without its extension. -/
def fileStem? (path : List Char) : Option (List Char) := (fileName? path).map fun n => (splitExtension n).1

/-- The extension of a file's name. -/
def extension? (path : List Char) : Option (List Char) :=
  (fileName? path).bind fun n => (splitExtension n).2

theorem join_of_isAbsolute {path : List Char} (h : isAbsolute path = true) (directory : List Char) :
    join directory path = path := by simp [join, h]

end CallScript.Path
