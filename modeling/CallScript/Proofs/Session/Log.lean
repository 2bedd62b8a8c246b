import CallScript.Session.Channel

/-! # Logged sessions

What the owner of a process has done with it is not part of the state of the process.  `Child.logged` is the same
child with a log beside its state: every answer to the question how it ended, every signal, the end of its input,
and every text that is handed over for sending is noted in order.

A session is used by one `Operation` after another, and in the end it is dropped.  Over a logged child it comes to
the same as over the child itself (`Session.bare_performAll`), so the log says what a session does. -/

namespace CallScript

open Rpc Rpc.Framing

/-! ### Children with a log -/

/-- What the owner of a child does with it. -/
inductive Act where
  /-- It asked how the child ended, or waited for that. -/
  | asked (status : Option ExitStatus)
  /-- It asked the child to end. -/
  | terminated
  | killed
  /-- It closed the input of the child. -/
  | closed
  /-- It handed over a text for sending. -/
  | sent (text : String)
  deriving DecidableEq

/-- The state of a child, and what has been done with it so far. -/
structure Logged (κ : Type) where
  state : κ
  acts : List Act := []

namespace Logged

variable {κ : Type}

/-- The log with one more act, after which the child is in a state. -/
def note (l : Logged κ) (act : Act) (state : κ) : Logged κ := ⟨state, l.acts ++ [act]⟩

@[simp] theorem acts_note (l : Logged κ) (act : Act) (state : κ) : (l.note act state).acts = l.acts ++ [act] := rfl

end Logged

/-- A child for which a log is kept. -/
def Child.logged {κ : Type} (ch : Child κ) : Child (Logged κ) where
  poll := fun l => ((ch.poll l.state).1, l.note (.asked (ch.poll l.state).1) (ch.poll l.state).2)
  await := fun l span =>
    ((ch.await l.state span).1, l.note (.asked (ch.await l.state span).1) (ch.await l.state span).2)
  terminate := fun l => l.note .terminated (ch.terminate l.state)
  kill := fun l => l.note .killed (ch.kill l.state)
  closeInput := fun l => l.note .closed (ch.closeInput l.state)
  send := fun l text => ((ch.send l.state text).1, l.note (.sent text) (ch.send l.state text).2)
  receive := fun l span => ((ch.receive l.state span).1, { l with state := (ch.receive l.state span).2 })
  clock := fun l => ((ch.clock l.state).1, { l with state := (ch.clock l.state).2 })
  errorLines := fun l => ch.errorLines l.state
  drainErrors := fun l span => { l with state := ch.drainErrors l.state span }
  pending := fun l => ch.pending l.state
  receive_pending := by
    intro l span delivery l' received
    obtain ⟨found, rfl⟩ := Prod.mk.inj received
    have received : ch.receive l.state span = (some delivery, (ch.receive l.state span).2) := Prod.ext found rfl
    exact ch.receive_pending received
  clock_pending := fun l => ch.clock_pending l.state

theorem Child.logged_send {κ : Type} (ch : Child κ) (l : Logged κ) (text : String) :
    ch.logged.send l text = ((ch.send l.state text).1, l.note (.sent text) (ch.send l.state text).2) := rfl

theorem Child.logged_poll {κ : Type} (ch : Child κ) (l : Logged κ) :
    ch.logged.poll l = ((ch.poll l.state).1, l.note (.asked (ch.poll l.state).1) (ch.poll l.state).2) := rfl

theorem Child.logged_await {κ : Type} (ch : Child κ) (l : Logged κ) (span : Duration) :
    ch.logged.await l span =
      ((ch.await l.state span).1, l.note (.asked (ch.await l.state span).1) (ch.await l.state span).2) := rfl

/-- A way to start children for which logs are kept. -/
def Spawner.logged {ω κ : Type} (sp : Spawner ω κ) : Spawner ω (Logged κ) where
  child := sp.child.logged
  spawn := fun w launch => (sp.spawn w launch).map fun state => { state }
  system := fun l => sp.system l.state

/-! ### Uses of a session -/

namespace Session

/-- What is done with a session. -/
inductive Operation where
  | write (line : String)
  | read (allowed : Duration)
  | takeId
  | isAlive
  | stop (grace : Duration)

/-- Whether an operation takes an id. -/
def Operation.takesId : Operation → Bool
  | .takeId => true
  | _ => false

/-- What comes of it. -/
inductive Outcome where
  | written (result : Except Error Unit)
  | read (result : Except Error String)
  | id (number : Int64)
  | alive (isAlive : Bool)
  | stopped

/-- The id that is handed out. -/
def Outcome.id? : Outcome → Option Int64
  | .id number => some number
  | _ => none

variable {κ : Type} (ch : Child κ)

/-- Does one thing with a session. -/
def perform (s : Session κ) : Operation → Outcome × Session κ
  | .write line => ((s.writeLine ch line).map .written id)
  | .read allowed => (s.readLine ch allowed).map .read id
  | .takeId => s.takeId.map .id id
  | .isAlive => (s.isAlive ch).map .alive id
  | .stop grace => (.stopped, s.stop ch grace)

/-- Does one thing after the other. -/
def performAll (s : Session κ) : List Operation → List Outcome × Session κ
  | [] => ([], s)
  | operation :: rest =>
    let performed := s.perform ch operation
    let after := performed.2.performAll rest
    (performed.1 :: after.1, after.2)

/-- The session without the log. -/
def bare (s : Session (Logged κ)) : Session κ :=
  { child := s.child.state, status := s.status, isStopped := s.isStopped, isInputOpen := s.isInputOpen
    ids := s.ids, buffer := s.buffer, inbox := s.inbox }

theorem exitStatus_of_known {ch : Child κ} {s : Session κ} {status : ExitStatus} (known : s.status = some status) :
    s.exitStatus ch = (some status, s) := by
  unfold exitStatus
  rw [known]

theorem exitStatus_of_unknown {ch : Child κ} {s : Session κ} (unknown : s.status = none) :
    s.exitStatus ch =
      ((ch.poll s.child).1, { s with child := (ch.poll s.child).2, status := (ch.poll s.child).1 }) := by
  unfold exitStatus
  rw [unknown]

/-- What a stop comes to, once the input of the process has been closed: how it ended, if that is known, and what
has become of it. -/
def farewell (s : Session κ) (grace : Duration) : Option ExitStatus × κ :=
  match s.status with
  | some status => (some status, ch.closeInput s.child)
  | none =>
    match ch.poll (ch.closeInput s.child) with
    | (some status, child) => (some status, child)
    | (none, child) =>
      match ch.await (ch.terminate child) grace with
      | (some status, child) => (some status, child)
      | (none, child) => (none, ch.kill child)

theorem stop_of_isStopped {ch : Child κ} {s : Session κ} {grace : Duration} (stopped : s.isStopped = true) :
    s.stop ch grace = s := by
  unfold stop
  exact if_pos stopped

theorem stop_of_running {ch : Child κ} {s : Session κ} {grace : Duration} (running : s.isStopped = false) :
    s.stop ch grace =
      { s with
        child := ch.drainErrors (s.farewell ch grace).2 errorPatience
        status := (s.farewell ch grace).1
        isStopped := true
        isInputOpen := false } := by
  unfold stop farewell
  rw [running, if_neg Bool.false_ne_true]
  dsimp only
  cases known : s.status with
  | some status =>
      rw [exitStatus_of_known rfl]
  | none =>
      rw [exitStatus_of_unknown rfl]
      dsimp only
      rcases ch.poll (ch.closeInput s.child) with ⟨_ | status, child⟩
      · dsimp only
        rcases ch.await (ch.terminate child) grace with ⟨_ | status, child⟩
        · rfl
        · rfl
      · rfl

theorem start_eq_ok_iff {ω : Type} {sp : Spawner ω κ} {w w' : ω} {launch : Launch} {grace : Duration}
    {s : Session κ} : Session.start sp w launch grace = (.ok s, w') ↔
      ∃ child lived, sp.spawn w launch = .ok child ∧ sp.child.await child grace = (none, lived) ∧
        s = { child := lived } ∧ w' = sp.system lived := by
  unfold start
  cases sp.spawn w launch with
  | error reason => simp
  | ok child =>
      dsimp only
      rcases awaited : sp.child.await child grace with ⟨_ | status, lived⟩
      · constructor
        · intro started
          obtain ⟨made, rfl⟩ := Prod.mk.inj started
          exact ⟨child, lived, rfl, awaited, (Except.ok.inj made).symm, rfl⟩
        · rintro ⟨child', lived', same, awaited', rfl, rfl⟩
          cases same
          cases awaited.symm.trans awaited'
          rfl
      · constructor
        · intro started
          cases started
        · rintro ⟨child', lived', same, awaited', -, -⟩
          cases same
          cases awaited.symm.trans awaited'

/-! ### The log changes nothing -/

section

variable {ch} (s : Session (Logged κ))

theorem bare_exitStatus : (s.exitStatus ch.logged).map id bare = s.bare.exitStatus ch := by
  unfold exitStatus
  rw [show s.bare.status = s.status from rfl]
  cases s.status with
  | some status => rfl
  | none => rfl

theorem bare_isAlive : (s.isAlive ch.logged).map id bare = s.bare.isAlive ch := by
  unfold isAlive
  rw [← bare_exitStatus]
  rfl

theorem bare_writeLine (line : String) :
    (s.writeLine ch.logged line).map id bare = s.bare.writeLine ch line := by
  unfold writeLine
  rw [← bare_exitStatus]
  rcases s.exitStatus ch.logged with ⟨_ | status, s⟩
  · dsimp only [Prod.map_apply, id]
    rw [show s.bare.isInputOpen = s.isInputOpen from rfl]
    split
    · rfl
    · cases frame line with
      | error e => rfl
      | ok framed =>
          dsimp only
          rw [Child.logged_send, show s.child.state = s.bare.child from rfl]
          rcases ch.send s.bare.child framed with ⟨reason | sent, child⟩
          · rfl
          · rfl
  · rfl

theorem readUntil_received {s : Session κ} {allowed deadline : Duration} {buffer : ByteArray} {inbox : Stream}
    {delivery : Delivery} {child : κ} (read : Framing.readLine s.buffer s.inbox = (.waiting, buffer, inbox))
    (received : ch.receive (ch.clock s.child).2 ⟨deadline.micros - (ch.clock s.child).1.micros⟩ =
      (some delivery, child)) :
    readUntil ch allowed deadline s =
      readUntil ch allowed deadline { s with child, buffer, inbox := inbox ++ [delivery] } := by
  conv =>
    lhs
    rw [readUntil, read]
  dsimp only
  split
  next silent => cases received.symm.trans silent
  next arrived =>
    cases received.symm.trans arrived
    rfl

theorem readUntil_silent {s : Session κ} {allowed deadline : Duration} {buffer : ByteArray} {inbox : Stream}
    {child : κ} (read : Framing.readLine s.buffer s.inbox = (.waiting, buffer, inbox))
    (silent : ch.receive (ch.clock s.child).2 ⟨deadline.micros - (ch.clock s.child).1.micros⟩ = (none, child)) :
    readUntil ch allowed deadline s = (.error (.timeout allowed), { s with child, buffer, inbox }) := by
  rw [readUntil, read]
  dsimp only
  split
  next silent' =>
    cases silent.symm.trans silent'
    rfl
  next arrived => cases silent.symm.trans arrived

theorem bare_readUntil (allowed deadline : Duration) :
    (readUntil ch.logged allowed deadline s).map id bare = readUntil ch allowed deadline s.bare := by
  fun_induction readUntil ch.logged allowed deadline s with
  | case6 s buffer inbox read now delivery child received ih =>
      obtain ⟨found, rfl⟩ := Prod.mk.inj received
      rw [ih, readUntil_received (s := s.bare) read (Prod.ext found rfl)]
      rfl
  | case5 s buffer inbox read now child received =>
      obtain ⟨found, rfl⟩ := Prod.mk.inj received
      rw [readUntil_silent (s := s.bare) read (Prod.ext found rfl)]
      rfl
  | case4 s e buffer inbox other read =>
      rw [readUntil, show Framing.readLine s.bare.buffer s.bare.inbox = _ from read]
      cases e with
      | io reason => exact absurd rfl (other reason)
      | _ => rfl
  | case1 s text buffer inbox read | case2 s buffer inbox read | case3 s buffer inbox reason read =>
      rw [readUntil, show Framing.readLine s.bare.buffer s.bare.inbox = _ from read]
      rfl

theorem bare_readLine (allowed : Duration) :
    (s.readLine ch.logged allowed).map id bare = s.bare.readLine ch allowed :=
  bare_readUntil _ allowed _

theorem bare_farewell (grace : Duration) :
    (s.farewell ch.logged grace).map id Logged.state = s.bare.farewell ch grace := by
  unfold farewell
  rw [show s.bare.status = s.status from rfl]
  cases s.status with
  | some status => rfl
  | none =>
      dsimp only
      rw [Child.logged_poll, show (ch.logged.closeInput s.child).state = ch.closeInput s.bare.child from rfl]
      rcases ch.poll (ch.closeInput s.bare.child) with ⟨_ | status, child⟩
      · dsimp only
        rw [Child.logged_await]
        dsimp only [Child.logged, Logged.note]
        rcases ch.await (ch.terminate child) grace with ⟨_ | status, child⟩
        · rfl
        · rfl
      · rfl

theorem bare_stop (grace : Duration) : (s.stop ch.logged grace).bare = s.bare.stop ch grace := by
  cases stopped : s.isStopped with
  | true =>
      rw [stop_of_isStopped stopped, stop_of_isStopped (s := s.bare) stopped]
  | false =>
      rw [stop_of_running stopped, stop_of_running (s := s.bare) stopped, ← bare_farewell]
      rfl

theorem state_drop : (s.drop ch.logged).state = s.bare.drop ch := by
  unfold drop
  rw [show s.bare.isStopped = s.isStopped from rfl]
  split
  · rfl
  · rfl

theorem bare_perform (operation : Operation) :
    (s.perform ch.logged operation).map id bare = s.bare.perform ch operation := by
  cases operation with
  | write line => simp [perform, ← bare_writeLine, Prod.map]
  | read allowed => simp [perform, ← bare_readLine, Prod.map]
  | takeId => rfl
  | isAlive => simp [perform, ← bare_isAlive, Prod.map]
  | stop grace => simp [perform, ← bare_stop]

theorem bare_performAll (operations : List Operation) :
    (s.performAll ch.logged operations).map id bare = s.bare.performAll ch operations := by
  induction operations generalizing s with
  | nil => rfl
  | cons operation rest ih =>
      simp only [performAll, ← bare_perform, Prod.map, ← ih, id]

end

/-- A session that is started over a logged child is a session that is started. -/
theorem bare_start {ω : Type} {sp : Spawner ω κ} {w w' : ω} {launch : Launch} {grace : Duration}
    {s : Session (Logged κ)} (started : Session.start sp.logged w launch grace = (.ok s, w')) :
    Session.start sp w launch grace = (.ok s.bare, w') := by
  obtain ⟨child, lived, spawned, awaited, rfl, rfl⟩ := start_eq_ok_iff.mp started
  obtain ⟨state, spawned_bare, rfl⟩ := map_eq_ok_iff.mp spawned
  obtain ⟨silent, rfl⟩ := Prod.mk.inj awaited
  exact start_eq_ok_iff.mpr ⟨state, _, spawned_bare, Prod.ext silent rfl, rfl, rfl⟩

end Session

end CallScript
