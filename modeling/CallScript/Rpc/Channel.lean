import CallScript.Error

/-! # Line channels

A `Channel` is a way to exchange lines with a server, as seen by the client: a line is written, a line is
read within a span of time, and a clock is looked at, each of which may change the state of the channel in
any way.  The one thing that a channel promises is that it does not hand out lines for ever: `backlog`
bounds how many lines can still be read before the next write (`read_backlog`).

A clock counts up to an end, `clockEnd`.  Channels do not stop there, but a program that asks for a point in
time beyond it crashes.

`Interrupts` says at which operations an interrupt comes first, and what it finds; such an operation does
not complete. -/

namespace CallScript.Rpc

/-- Where clocks end: they count whole seconds, in 64 bits with a sign. -/
def clockEnd : Duration := .ofSeconds 9223372036854775808

/-- Whether a clock can show a point in time. -/
def fitsClock (moment : Duration) : Bool := moment.micros < clockEnd.micros

/-- A duplex exchange of lines over states of a type. -/
structure Channel (σ : Type) where
  /-- Writes one line. -/
  write : σ → String → Except Error Unit × σ
  /-- Waits for one line, at most as long as given. -/
  read : σ → Duration → Except Error String × σ
  /-- Looks at the clock. -/
  clock : σ → Duration × σ
  /-- A bound on the lines that can be read before the next write. -/
  backlog : σ → Nat
  read_backlog : ∀ {s t line s'}, read s t = (.ok line, s') → backlog s' < backlog s
  clock_backlog : ∀ s, backlog (clock s).2 = backlog s

/-- The operations that an interrupt cuts off, with the state that it leaves. -/
structure Interrupts (σ : Type) where
  write? : σ → String → Option σ
  read? : σ → Duration → Option σ

/-- No interrupt ever comes. -/
def Interrupts.never (σ : Type) : Interrupts σ := ⟨fun _ _ => none, fun _ _ => none⟩

/-- The same interrupts, and one more where a program would have to wait for a point in time that its clock
cannot show. -/
def Interrupts.orCrash {σ : Type} (ch : Channel σ) (int : Interrupts σ) : Interrupts σ where
  write? := int.write?
  read? := fun s left =>
    if fitsClock ⟨(ch.clock s).1.micros + left.micros⟩ then int.read? s left else some s

/-- Why an exchange did not come to its end. -/
inductive Stop where
  | failed (e : Error)
  | interrupted
  deriving DecidableEq

/-- The ids of requests, handed out one after the other and never again. -/
structure Ids where
  next : Int64
  deriving DecidableEq, Repr

/-- The next id, and the ids after it. -/
def Ids.take (ids : Ids) : Int64 × Ids := (ids.next, ⟨ids.next + 1⟩)

end CallScript.Rpc
