import CallScript.Shell.Expansion

/-! # Redirections

What redirections do to the descriptors of a shell, and which streams of its process are closed when no
descriptor uses them any longer. -/

namespace CallScript.Shell

namespace State

/-- The path of a file for the shell. -/
def path (sh : State) (name : Octets) : String :=
  String.ofList (Path.join sh.directory.toList name.text.toList)

/-- A descriptor that reads a text. -/
def openText (sh : State) (n : Nat) (text : Octets) : State :=
  { sh with texts := sh.texts ++ [text] }.redirect n (some (.text sh.texts.length))

end State

/-- Opens a file for reading. -/
def openSource (n : Nat) (name : Octets) (sh : State) (next : Bool → Next) : Program :=
  .look fun files =>
    match files.find "/" (sh.path name) with
    | .ok (.file content) => next true (sh.openText n (Octets.ofBytes content))
    | .ok _ => next true (sh.redirect n (some .nowhere))
    | .error _ => sh.complain s!"cannot open {name.text}: No such file" (next false)

/-- Opens a file for writing. -/
def openTarget (isAppending : Bool) (n : Nat) (name : Octets) (sh : State) (next : Bool → Next) :
    Program :=
  let path := sh.path name
  let opened := fun (files : Files) =>
    if isAppending then files.append "/" path .empty else files.write "/" path .empty
  .look fun files =>
    match files.find "/" path, opened files with
    | .ok .sink, _ => next true (sh.redirect n (some .nowhere))
    | _, .ok _ =>
      .change (fun files => match opened files with
        | .ok files => files
        | .error _ => files) fun _ => next true (sh.redirect n (some (.file path)))
    | _, .error flaw =>
      let reason := match flaw with
        | .missing => "Directory nonexistent"
        | .isDirectory => "Is a directory"
        | .denied => "Permission denied"
        | _ => "Not a directory"
      sh.complain s!"cannot create {name.text}: {reason}" (next false)

/-- Performs redirections in order; says whether all could be done. -/
def performRedirections (e : Expander) : List Redirection → State → (Bool → Next) → Program
  | [], sh, next => next true sh
  | .mk n kind word :: rest, sh, next =>
    e.text word sh fun text sh =>
      let go := fun (isFine : Bool) (sh : State) =>
        if isFine then performRedirections e rest sh next else next false sh
      match kind with
      | .source => openSource n text sh go
      | .target => openTarget false n text sh go
      | .append => openTarget true n text sh go
      | .document => go true (sh.openText n text)
      | .copy =>
        if text = ['-'] then go true (sh.redirect n none)
        else if !text.isEmpty && text.all Text.isDigit then
          match sh.descriptor? (Text.digitsToNat text) with
          | some d => go true (sh.redirect n (some d))
          | none => sh.complain s!"{text.text}: Bad file descriptor" (go false)
        else sh.complain s!"Syntax error: Bad fd number" (go false)

/-- Closes what descriptors used before and do not use now. -/
def releaseUnused (before : State) (sh : State) (next : Next) : Program :=
  let isLost := fun d => before.uses d && !sh.uses d
  let closeError := fun (_ : Unit) =>
    if isLost (.stream .error) then .close .error fun _ => next sh else next sh
  let closeOutput := fun (_ : Unit) =>
    if isLost (.stream .output) then .close .output closeError else closeError ()
  if isLost .input then .refuse closeOutput else closeOutput ()

end CallScript.Shell
