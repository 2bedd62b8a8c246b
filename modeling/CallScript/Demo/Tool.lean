import CallScript.Demo.Server
import CallScript.Rpc.Framing
import CallScript.System.Program

/-! # The demonstration server as a program

The program reads lines from its input and acts on them.  Its arguments say whether it requires an
introduction, whether it ends at once, in which file it records the lines that it reads, and in which
file it leaves its number. -/

namespace CallScript.Demo

open Rpc.Framing

/-- What the arguments of the program say. -/
structure Settings where
  endsAtOnce : Bool := false
  requiresIntroduction : Bool := false
  /-- The file to which the lines are added. -/
  record : Option String := none
  /-- The file that gets the number of the process. -/
  numberFile : Option String := none
  /-- The arguments that mean nothing, the last one first. -/
  unknown : List String := []

/-- Reads arguments.  Of a file that is given twice the last one counts. -/
def Settings.read (s : Settings) : List String → Settings
  | "--record" :: path :: rest => Settings.read { s with record := some path } rest
  | ["--record"] => { s with record := none }
  | "--pid-file" :: path :: rest => Settings.read { s with numberFile := some path } rest
  | ["--pid-file"] => { s with numberFile := none }
  | "--exit-immediately" :: rest => Settings.read { s with endsAtOnce := true } rest
  | "--require-init" :: rest => Settings.read { s with requiresIntroduction := true } rest
  | other :: rest => Settings.read { s with unknown := other :: s.unknown } rest
  | [] => s

section

variable {σ : Type} (streams : Streams σ) (start : Start) (settings : Settings)
  (leave : ExitStatus → σ → Program)

/-- Performs acts and goes on. -/
def perform : List Act → σ → (σ → Program) → Program
  | [], x, next => next x
  | .send message :: rest, x, next =>
    streams.put .output (message.compact.push '\n').toUTF8 x fun x => perform rest x next
  | .babble line :: rest, x, next =>
    streams.put .output (line.push '\n').toUTF8 x fun x => perform rest x next
  | .rest millis :: rest, x, next =>
    streams.rest (.ofMillis millis) x fun x => perform rest x next
  | .leave code :: _, x, _ => leave (.code code) x

/-- Files to which a text has been added at the end of one, if that can be done. -/
def recorded (path : String) (line : String) (files : Files) : Files :=
  match files.append start.directory path (line.push '\n').toUTF8 with
  | .ok files => files
  | .error _ => files

/-- Acts on a line and goes on. -/
def digest (s : Server) (line : String) (x : σ) (next : Server → σ → Program) : Program :=
  let (acts, s) := s.react line
  let act := fun _ => perform streams leave acts x (next s)
  match settings.record with
  | none => act ()
  | some path => .change (recorded start path line) act

/-- The first line of a buffer without its terminator, and the bytes after it. -/
def cutLine? (buffer : ByteArray) : Option (ByteArray × ByteArray) :=
  (afterFeed buffer 0 buffer.size).map fun index =>
    (stripTerminator (buffer.extract 0 index), buffer.extract index buffer.size)

/-- Serves until the input ends or holds a line that is no text. -/
def serve : (fuel : Nat) → Server → ByteArray → σ → Program
  | 0, _, _, x => leave (.code 0) x
  | fuel + 1, s, buffer, x =>
    match cutLine? buffer with
    | some (line, rest) =>
      match Text.Utf8.decode line with
      | .error _ => leave (.code 0) x
      | .ok text => digest streams start settings leave s text x fun s x => serve fuel s rest x
    | none =>
      streams.take 65536 x fun
        | .bytes piece, x => serve fuel s (buffer ++ piece) x
        | .disturbed, x => serve fuel s buffer x
        | .ended, x =>
          if buffer.size = 0 then leave (.code 0) x
          else match Text.Utf8.decode buffer with
            | .error _ => leave (.code 0) x
            | .ok text => digest streams start settings leave s text x fun _ x => leave (.code 0) x

/-- Complains about the arguments that mean nothing, and goes on. -/
def complain : List String → σ → (σ → Program) → Program
  | [], x, next => next x
  | argument :: rest, x, next =>
    streams.put .error s!"mock_server: ignoring unknown argument {argument}\n".toUTF8 x fun x =>
      complain rest x next

end

/-- A bound on the steps of the program. -/
def patience : Nat := 1000000000000

/-- The program. -/
def tool : Tool := fun streams start x leave =>
  let settings := Settings.read {} start.arguments
  complain streams settings.unknown.reverse x fun x =>
    if settings.endsAtOnce then
      streams.put .error "mock_server: refusing to start\n".toUTF8 x fun x => leave (.code 2) x
    else
      let run := fun _ => serve streams start settings leave patience
        { requiresIntroduction := settings.requiresIntroduction } .empty x
      match settings.numberFile with
      | none => run ()
      | some path => .change (fun files =>
          match files.write start.directory path (toString start.number).toUTF8 with
          | .ok files => files
          | .error _ => files) run

end CallScript.Demo
