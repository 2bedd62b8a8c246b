import CallScript.Rpc.Client

/-! # Recorded channels

What has gone over a channel is not part of its state.  `Channel.recorded` is the same channel with a
transcript beside its state: every line that is handed over for writing, every line that is read, and
every failure of either is noted in order.

A `Procedure` is something that is done with a client over any channel and that looks at the channel only
through its operations: over two channels that behave alike (`Alike`) it comes to the same.  Recording a
channel therefore changes nothing (`Procedure.run_recorded`), and what a procedure adds to the transcript
is a function of the channel that is recorded (`Procedure.transcript`). -/

namespace CallScript.Rpc

/-- One use of a channel, with what came of it. -/
inductive Exchange where
  /-- A line was written. -/
  | sent (line : String)
  /-- A line was handed over for writing, and that did not succeed. -/
  | unsent (line : String) (stop : Stop)
  /-- A line was read. -/
  | received (line : String)
  /-- No line could be read. -/
  | unread (stop : Stop)
  deriving DecidableEq

namespace Exchange

/-- The line that was handed over for writing, whether or not it was written. -/
def written? : Exchange → Option String
  | .sent line | .unsent line _ => some line
  | .received _ | .unread _ => none

/-- The line that was read. -/
def received? : Exchange → Option String
  | .received line => some line
  | .sent _ | .unsent _ _ | .unread _ => none

/-- Handing a line over for writing. -/
def ofWrite (line : String) : Except Stop Unit → Exchange
  | .ok () => .sent line
  | .error stop => .unsent line stop

end Exchange

/-- The lines that were handed over for writing, in order. -/
def writtenLines (transcript : List Exchange) : List String := transcript.filterMap Exchange.written?

/-- The lines that were read, in order. -/
def receivedLines (transcript : List Exchange) : List String := transcript.filterMap Exchange.received?

@[simp] theorem writtenLines_nil : writtenLines [] = [] := rfl

@[simp] theorem writtenLines_sent (line : String) (t : List Exchange) :
    writtenLines (.sent line :: t) = line :: writtenLines t := rfl

@[simp] theorem writtenLines_unsent (line : String) (stop : Stop) (t : List Exchange) :
    writtenLines (.unsent line stop :: t) = line :: writtenLines t := rfl

@[simp] theorem writtenLines_received (line : String) (t : List Exchange) :
    writtenLines (.received line :: t) = writtenLines t := rfl

@[simp] theorem writtenLines_unread (stop : Stop) (t : List Exchange) :
    writtenLines (.unread stop :: t) = writtenLines t := rfl

@[simp] theorem writtenLines_append (t u : List Exchange) :
    writtenLines (t ++ u) = writtenLines t ++ writtenLines u := List.filterMap_append

theorem receivedLines_append (t u : List Exchange) :
    receivedLines (t ++ u) = receivedLines t ++ receivedLines u := List.filterMap_append

/-- The state of a recorded channel. -/
structure Recorded (σ : Type) where
  state : σ
  transcript : List Exchange

variable {σ τ : Type}

/-- The same state after a transcript that came before. -/
def Recorded.after (t : List Exchange) (s : Recorded σ) : Recorded σ := ⟨s.state, t ++ s.transcript⟩

/-- A channel that notes how it is used. -/
def Channel.recorded (ch : Channel σ) : Channel (Recorded σ) where
  write := fun s line =>
    match ch.write s.state line with
    | (.ok (), state) => (.ok (), ⟨state, s.transcript ++ [.sent line]⟩)
    | (.error e, state) => (.error e, ⟨state, s.transcript ++ [.unsent line (.failed e)]⟩)
  read := fun s allowed =>
    match ch.read s.state allowed with
    | (.ok line, state) => (.ok line, ⟨state, s.transcript ++ [.received line]⟩)
    | (.error e, state) => (.error e, ⟨state, s.transcript ++ [.unread (.failed e)]⟩)
  clock := fun s => ((ch.clock s.state).1, ⟨(ch.clock s.state).2, s.transcript⟩)
  backlog := fun s => ch.backlog s.state
  read_backlog := by
    intro s allowed line s' h
    split at h
    next read =>
      simp only [Prod.mk.injEq] at h
      obtain ⟨-, rfl⟩ := h
      exact ch.read_backlog read
    · simp at h
  clock_backlog := fun s => ch.clock_backlog s.state

/-- Interrupts that are noted as well. -/
def Interrupts.recorded (int : Interrupts σ) : Interrupts (Recorded σ) where
  write? := fun s line =>
    (int.write? s.state line).map fun state => ⟨state, s.transcript ++ [.unsent line .interrupted]⟩
  read? := fun s allowed =>
    (int.read? s.state allowed).map fun state => ⟨state, s.transcript ++ [.unread .interrupted]⟩

section

variable {ch : Channel σ} {int : Interrupts σ} {s s' : Recorded σ}

theorem Channel.transcript_read_ok {allowed : Duration} {line : String}
    (h : ch.recorded.read s allowed = (.ok line, s')) :
    s'.transcript = s.transcript ++ [.received line] := by
  simp only [Channel.recorded] at h
  split at h
  · simp only [Prod.mk.injEq, Except.ok.injEq] at h
    obtain ⟨rfl, rfl⟩ := h
    rfl
  · simp at h

theorem Channel.transcript_read_error {allowed : Duration} {e : Error}
    (h : ch.recorded.read s allowed = (.error e, s')) :
    s'.transcript = s.transcript ++ [.unread (.failed e)] := by
  simp only [Channel.recorded] at h
  split at h
  · simp at h
  · simp only [Prod.mk.injEq, Except.error.injEq] at h
    obtain ⟨rfl, rfl⟩ := h
    rfl

theorem Interrupts.transcript_read {allowed : Duration}
    (h : int.recorded.read? s allowed = some s') :
    s'.transcript = s.transcript ++ [.unread .interrupted] := by
  obtain ⟨state, -, rfl⟩ := Option.map_eq_some_iff.mp h
  rfl

end

theorem Interrupts.recorded_never : (Interrupts.never σ).recorded = .never (Recorded σ) := rfl

/-- Two channels behave alike on states that a map relates. -/
structure Alike (f : σ → τ) (ch : Channel σ) (int : Interrupts σ) (ch' : Channel τ)
    (int' : Interrupts τ) : Prop where
  write : ∀ s line, ch'.write (f s) line = ((ch.write s line).1, f (ch.write s line).2)
  read : ∀ s allowed, ch'.read (f s) allowed = ((ch.read s allowed).1, f (ch.read s allowed).2)
  clock : ∀ s, ch'.clock (f s) = ((ch.clock s).1, f (ch.clock s).2)
  write? : ∀ s line, int'.write? (f s) line = (int.write? s line).map f
  read? : ∀ s allowed, int'.read? (f s) allowed = (int.read? s allowed).map f

variable (ch : Channel σ) (int : Interrupts σ)

theorem alike_state : Alike Recorded.state ch.recorded int.recorded ch int where
  write := by
    intro s line
    simp only [Channel.recorded]
    split <;> next h => rw [h]
  read := by
    intro s allowed
    simp only [Channel.recorded]
    split <;> next h => rw [h]
  clock := fun _ => rfl
  write? := by
    intro s line
    simp [Interrupts.recorded, Function.comp_def]
  read? := by
    intro s allowed
    simp [Interrupts.recorded, Function.comp_def]

theorem alike_after (t : List Exchange) :
    Alike (Recorded.after t) ch.recorded int.recorded ch.recorded int.recorded where
  write := by
    intro s line
    simp only [Channel.recorded, Recorded.after]
    split <;> simp
  read := by
    intro s allowed
    simp only [Channel.recorded, Recorded.after]
    split <;> simp
  clock := fun _ => rfl
  write? := by
    intro s line
    simp [Interrupts.recorded, Recorded.after, Function.comp_def]
  read? := by
    intro s allowed
    simp [Interrupts.recorded, Recorded.after, Function.comp_def]

/-- The client over the image of its channel's state. -/
def Client.onto (f : σ → τ) (c : Client σ) : Client τ :=
  ⟨f c.channel, c.ids, c.lastId, c.timeout, c.crashed⟩

/-- The client over a recorded channel with a transcript so far. -/
def Client.recording (c : Client σ) (t : List Exchange) : Client (Recorded σ) := c.onto (⟨·, t⟩)

/-- What is done with a client in the same way over all channels. -/
structure Procedure (α : Type) where
  run : {σ : Type} → Channel σ → Interrupts σ → Client σ → α × Client σ
  run_onto : ∀ {σ τ : Type} {f : σ → τ} {ch : Channel σ} {int : Interrupts σ} {ch' : Channel τ}
    {int' : Interrupts τ}, Alike f ch int ch' int' → ∀ c : Client σ,
      run ch' int' (c.onto f) = ((run ch int c).1, (run ch int c).2.onto f)

namespace Procedure

variable {α : Type} (p : Procedure α) (c : Client σ)

/-- What a procedure adds to the transcript. -/
def transcript : List Exchange :=
  (p.run ch.recorded int.recorded (c.recording [])).2.channel.transcript

/-- Recording changes nothing, and adds the transcript of the procedure to what was noted before. -/
theorem run_recorded (t : List Exchange) :
    p.run ch.recorded int.recorded (c.recording t) =
      ((p.run ch int c).1, (p.run ch int c).2.recording (t ++ p.transcript ch int c)) := by
  have recorded := p.run_onto (alike_after ch int t) (c.recording [])
  have erased := p.run_onto (alike_state ch int) (c.recording [])
  rw [show (c.recording []).onto (Recorded.after t) = c.recording t by
    simp [Client.recording, Client.onto, Recorded.after]] at recorded
  rw [show (c.recording []).onto Recorded.state = c from rfl] at erased
  rw [recorded, erased]
  rfl

variable {β : Type}

/-- Doing nothing. -/
def pure (a : α) : Procedure α where
  run := fun _ _ c => (a, c)
  run_onto := fun _ _ => rfl

/-- One procedure, and then another that depends on what the first came to. -/
def bind (p : Procedure α) (q : α → Procedure β) : Procedure β where
  run := fun ch int c => (q (p.run ch int c).1).run ch int (p.run ch int c).2
  run_onto := fun h c => by rw [p.run_onto h c, (q _).run_onto h]

theorem transcript_pure (a : α) : (pure a).transcript ch int c = [] := rfl

theorem transcript_bind (q : α → Procedure β) :
    (p.bind q).transcript ch int c =
      p.transcript ch int c ++ (q (p.run ch int c).1).transcript ch int (p.run ch int c).2 := by
  have first := p.run_recorded ch int c []
  have second := (q (p.run ch int c).1).run_recorded ch int (p.run ch int c).2
    (p.transcript ch int c)
  simp only [transcript, bind] at first second ⊢
  rw [first, List.nil_append, second]
  rfl

end Procedure

end CallScript.Rpc
