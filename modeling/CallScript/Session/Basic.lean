import CallScript.Rpc.Channel
import CallScript.Session.Child

/-! # Server sessions

A `Session` owns one server process for its whole life: it starts the process, writes lines to it, reads
lines from it, hands out the ids of requests, and stops it.  Once the end of the process has been observed
the session keeps its status and leaves the process alone (`exitStatus`).  `stop` closes the input, asks
the process to end and waits; a process that does not end in time is killed.  A second `stop` changes
nothing. -/

namespace CallScript

open Rpc Rpc.Framing

/-- A server process and what its owner knows about it. -/
structure Session (κ : Type) where
  child : κ
  /-- How the process ended, once that has been observed. -/
  status : Option ExitStatus := none
  /-- Whether the session has been stopped. -/
  isStopped : Bool := false
  /-- Whether the input of the process is open. -/
  isInputOpen : Bool := true
  ids : Ids := ⟨1⟩
  /-- The bytes of a line that is not complete yet. -/
  buffer : ByteArray := .empty
  /-- What has arrived beyond them. -/
  inbox : Stream := []

namespace Session

variable {ω κ : Type} (ch : Child κ)

/-- How many of the last lines of the error output messages show. -/
def shownErrorLines : Nat := 20

/-- How long the end of the error output is waited for when the process has ended. -/
def errorPatience : Duration := .ofMillis 200

/-- The last elements of a list. -/
def lastOf {α : Type} (n : Nat) (xs : List α) : List α := xs.drop (xs.length - n)

/-- The last lines of the error output. -/
def errorTail (s : Session κ) : List String := lastOf shownErrorLines (ch.errorLines s.child)

/-- The last lines of the error output, as messages show them. -/
def errorNote (s : Session κ) : String :=
  match s.errorTail ch with
  | [] => ""
  | tail => "; stderr: " ++ " | ".intercalate tail

/-- How the process ended, if it has.  Once observed, the process is not asked again. -/
def exitStatus (s : Session κ) : Option ExitStatus × Session κ :=
  match s.status with
  | some status => (some status, s)
  | none =>
    let (status, child) := ch.poll s.child
    (status, { s with child, status })

/-- Whether the process still runs. -/
def isAlive (s : Session κ) : Bool × Session κ :=
  let (status, s) := s.exitStatus ch
  (status.isNone, s)

/-- The next id of a request. -/
def takeId (s : Session κ) : Int64 × Session κ := (s.ids.take.1, { s with ids := s.ids.take.2 })

/-- Writes one line. -/
def writeLine (s : Session κ) (line : String) : Except Error Unit × Session κ :=
  match s.exitStatus ch with
  | (some status, s) =>
    (.error (.connection s!"Server has exited ({status.message}){s.errorNote ch}"), s)
  | (none, s) =>
    if !s.isInputOpen then (.error (.connection "Server stdin is closed"), s)
    else match frame line with
      | .error e => (.error e, s)
      | .ok framed =>
        match ch.send s.child framed with
        | (.ok (), child) => (.ok (), { s with child })
        | (.error reason, child) =>
          let s := { s with child }
          (.error (.connection s!"Failed to write to server: {reason}{s.errorNote ch}"), s)

/-- Reads one line until a point in time; `allowed` is the time that a timeout is reported with. -/
def readUntil (allowed : Duration) (deadline : Duration) (s : Session κ) :
    Except Error String × Session κ :=
  match readLine s.buffer s.inbox with
  | (.line text, buffer, inbox) => (.ok text, { s with buffer, inbox })
  | (.ended, buffer, inbox) => (.error .connectionClosed, { s with buffer, inbox })
  | (.failed (.io reason), buffer, inbox) =>
    (.error (.connection s!"Failed to read from server: {reason}"), { s with buffer, inbox })
  | (.failed e, buffer, inbox) => (.error e, { s with buffer, inbox })
  | (.waiting, buffer, inbox) =>
    let now := ch.clock s.child
    match _h : ch.receive now.2 ⟨deadline.micros - now.1.micros⟩ with
    | (none, child) => (.error (.timeout allowed), { s with child, buffer, inbox })
    | (some delivery, child) =>
      readUntil allowed deadline { s with child, buffer, inbox := inbox ++ [delivery] }
termination_by ch.pending s.child
decreasing_by exact Nat.lt_of_lt_of_eq (ch.pending_lt _h) (ch.clock_pending _)

/-- Waits for one line. -/
def readLine (s : Session κ) (allowed : Duration) : Except Error String × Session κ :=
  let now := ch.clock s.child
  readUntil ch allowed ⟨now.1.micros + allowed.micros⟩ { s with child := now.2 }

/-- Stops the server, which may take the span of time given. -/
def stop (s : Session κ) (grace : Duration) : Session κ :=
  if s.isStopped then s
  else
    let s := { s with isStopped := true, isInputOpen := false, child := ch.closeInput s.child }
    let s := match s.exitStatus ch with
      | (some _, s) => s
      | (none, s) =>
        match ch.await (ch.terminate s.child) grace with
        | (some status, child) => { s with child, status := some status }
        | (none, child) => { s with child := ch.kill child }
    { s with child := ch.drainErrors s.child errorPatience }

/-- Lets go of the session; a server that was not stopped is killed. -/
def drop (s : Session κ) : κ := if s.isStopped then s.child else ch.kill s.child

/-- Starts a server and makes sure that it lives for the span of time given. -/
def start (sp : Spawner ω κ) (w : ω) (launch : Launch) (grace : Duration) :
    Except Error (Session κ) × ω :=
  match sp.spawn w launch with
  | .error reason =>
    (.error (.connection s!"Failed to start {launch.display}: {reason}"), w)
  | .ok child =>
    match sp.child.await child grace with
    | (none, child) => (.ok { child }, sp.system child)
    | (some status, child) =>
      let s : Session κ :=
        { child := sp.child.drainErrors child errorPatience, status := some status, isStopped := true }
      (.error (.connection
        s!"Server exited during startup ({status.message}){s.errorNote sp.child}"), sp.system s.child)

end Session

end CallScript
