import CallScript.Run.Runner
import CallScript.Session.Basic

/-! # Sessions as channels

A session is a channel for the client: every line that is read takes at least one byte of what the process
can still put out (`backlog_readLine`).  `Session.host` lets the runner start and stop servers, and
`Session.interrupts` says what an interrupt at a point in time cuts off. -/

namespace CallScript.Session

open Rpc Rpc.Framing

variable {ω κ : Type} (ch : Child κ)

/-- A bound on the bytes that can still be read. -/
def backlog (s : Session κ) : Nat := s.buffer.size + s.inbox.size + ch.pending s.child

theorem size_append_singleton (stream : Stream) (d : Delivery) :
    Stream.size (stream ++ [d]) = stream.size + d.size := by
  induction stream with
  | nil => simp
  | cons first rest ih => simp [ih, Nat.add_assoc]

theorem backlog_readUntil {allowed deadline : Duration} {s s' : Session κ} {line : String}
    (h : readUntil ch allowed deadline s = (.ok line, s')) : s'.backlog ch < s.backlog ch := by
  fun_induction readUntil ch allowed deadline s with
  | case1 s text buffer inbox read =>
    obtain ⟨_, rfl⟩ := Prod.mk.inj h
    have := size_readLineCapped read
    simp only [backlog]
    omega
  | case6 s buffer inbox read now delivery child received ih =>
    have bytes := size_readLineCapped_le cap s.buffer s.inbox
    have arrived := ch.receive_pending received
    have looked := ch.clock_pending s.child
    have := ih h
    rw [show readLineCapped cap s.buffer s.inbox = (.waiting, buffer, inbox) from read] at bytes
    simp only [backlog, size_append_singleton] at *
    simp only [Delivery.weight, now] at arrived
    omega
  | _ => simp at h

theorem backlog_readLine {allowed : Duration} {s s' : Session κ} {line : String}
    (h : s.readLine ch allowed = (.ok line, s')) : s'.backlog ch < s.backlog ch := by
  have := backlog_readUntil ch h
  have looked := ch.clock_pending s.child
  simp only [backlog] at *
  omega

/-- The clock, by way of the process. -/
def clock (s : Session κ) : Duration × Session κ :=
  ((ch.clock s.child).1, { s with child := (ch.clock s.child).2 })

/-- A session as a channel. -/
def channel : Channel (Session κ) where
  write := writeLine ch
  read := readLine ch
  clock := clock ch
  backlog := backlog ch
  read_backlog := backlog_readLine ch
  clock_backlog := fun s => by simp [clock, backlog, ch.clock_pending]

/-- The host that starts one server again and again. -/
def host (sp : Spawner ω κ) (launch : Launch) : Run.Host ω (Session κ) where
  start := fun w grace => start sp w launch grace
  channel := channel sp.child
  ids := fun s => s.ids
  stop := stop sp.child
  leave := fun s => sp.system (s.drop sp.child)

/-- What the clock of a session says. -/
def now (s : Session κ) : Duration := (ch.clock s.child).1

/-- The operations of a session that an interrupt at a point in time cuts off.  A line that can be read
before that time is still read. -/
def interrupts (moment : Duration) : Interrupts (Session κ) where
  write? := fun s _ => if moment.micros ≤ (s.now ch).micros then some s else none
  read? := fun s allowed =>
    let left : Duration := ⟨moment.micros - (s.now ch).micros⟩
    if allowed.micros < left.micros then none
    else match s.readLine ch left with
      | (.error (.timeout _), s) => some s
      | _ => none

/-- The operations of a host that an interrupt at a point in time cuts off.  A server whose start is cut
off is killed. -/
def hostInterrupts (sp : Spawner ω κ) (launch : Launch) (moment : Duration) :
    Run.HostInterrupts ω (Session κ) where
  start? := fun w grace =>
    match sp.spawn w launch with
    | .error _ => none
    | .ok child =>
      let left : Duration := ⟨moment.micros - (sp.child.clock child).1.micros⟩
      if grace.micros < left.micros then none
      else match sp.child.await child left with
        | (some _, _) => none
        | (none, child) => some (sp.system (sp.child.kill child))
  exchange := interrupts sp.child moment

end CallScript.Session
