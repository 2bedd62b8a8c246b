import CallScript.Rpc.Framing
import CallScript.Session.Launch
import CallScript.Session.Status

/-! # Child processes

A `Child` is a process that somebody started, as seen by its owner: its status is asked for or waited for,
it is told to end, lines are sent to its input, and its output arrives piece by piece.  Anything may change
the state of a child, and it may end at any moment.  The one thing that it promises is that its output does
not go on for ever: `pending` bounds what can still arrive (`receive_pending`).

A `Spawner` starts children out of the state of a system. -/

namespace CallScript

open Rpc.Framing

/-- What a delivery counts towards the bound on what can still arrive. -/
def Rpc.Framing.Delivery.weight (d : Delivery) : Nat := max 1 d.size

/-- The operations on a child process, over states of a type. -/
structure Child (κ : Type) where
  /-- Asks for the status without waiting. -/
  poll : κ → Option ExitStatus × κ
  /-- Waits for the status, at most as long as given. -/
  await : κ → Duration → Option ExitStatus × κ
  /-- Asks the process to end. -/
  terminate : κ → κ
  /-- Ends the process. -/
  kill : κ → κ
  /-- Closes the input of the process. -/
  closeInput : κ → κ
  /-- Sends a text to the input of the process; fails with a reason. -/
  send : κ → String → Except String Unit × κ
  /-- Waits for output, at most as long as given. -/
  receive : κ → Duration → Option Delivery × κ
  /-- Looks at the clock. -/
  clock : κ → Duration × κ
  /-- The lines that have been read from the error output so far, in order. -/
  errorLines : κ → List String
  /-- Waits for the end of the error output, at most as long as given. -/
  drainErrors : κ → Duration → κ
  /-- A bound on what can still arrive. -/
  pending : κ → Nat
  receive_pending : ∀ {k t d k'}, receive k t = (some d, k') → pending k' + d.weight ≤ pending k
  clock_pending : ∀ k, pending (clock k).2 = pending k

theorem Child.pending_lt {κ : Type} (ch : Child κ) {k k' : κ} {t : Duration} {d : Delivery}
    (h : ch.receive k t = (some d, k')) : ch.pending k' < ch.pending k := by
  have received := ch.receive_pending h
  simp only [Delivery.weight] at received
  omega

/-- A way to start children out of the states of a system. -/
structure Spawner (ω κ : Type) where
  child : Child κ
  /-- Starts a child; fails with a reason. -/
  spawn : ω → Launch → Except String κ
  /-- The system in which a child lives. -/
  system : κ → ω

end CallScript
