import CallScript.Proofs.Rpc.Cuts
import CallScript.Proofs.Run.Course

/-! # Watched hosts

What has been done to a server is not part of its state.  `Host.watched` is the same host with a list beside
its states in which every use of it is noted in order: a start, the exchanges over its channel, a stop, and
what an interrupt has cut off.  Watching a run changes nothing (`runUntil_watched`).

* `Procedure.run_watched`: what a procedure notes is its transcript.
* `runUntil_watched`: a run from the start of its server to the stop, and what is noted. -/

namespace CallScript.Run

open Rpc

/-- One use of a host. -/
inductive Use where
  /-- A server was started. -/
  | started
  /-- A server could not be started. -/
  | refused
  /-- The start of a server was cut off. -/
  | abandoned
  /-- Something went over the channel, or failed to. -/
  | exchanged (e : Exchange)
  /-- The server was told to stop within a span of time. -/
  | stopped (grace : Duration)
  deriving DecidableEq

/-- Whether an interrupt has cut the use off. -/
def Use.isCut : Use → Bool
  | .abandoned => true
  | .exchanged e => e.isCut
  | .started | .refused | .stopped _ => false

/-- A state with the uses so far. -/
structure Watched (α : Type) where
  state : α
  uses : List Use

variable {ω σ : Type} {α : Type}

/-- What was recorded after some uses. -/
def Watched.noting (before : List Use) (s : Recorded σ) : Watched σ :=
  ⟨s.state, before ++ s.transcript.map .exchanged⟩

/-- A channel whose use is noted. -/
def watchedChannel (ch : Channel σ) : Channel (Watched σ) where
  write := fun s line =>
    let done := ch.recorded.write ⟨s.state, []⟩ line
    (done.1, .noting s.uses done.2)
  read := fun s allowed =>
    let done := ch.recorded.read ⟨s.state, []⟩ allowed
    (done.1, .noting s.uses done.2)
  clock := fun s => ((ch.clock s.state).1, ⟨(ch.clock s.state).2, s.uses⟩)
  backlog := fun s => ch.backlog s.state
  read_backlog := by
    intro s allowed line s' read
    obtain ⟨result, rfl⟩ := Prod.mk.inj read
    exact ch.recorded.read_backlog (Prod.ext result rfl)
  clock_backlog := fun s => ch.clock_backlog s.state

/-- Interrupts of a channel whose use is noted. -/
def watchedInterrupts (int : Interrupts σ) : Interrupts (Watched σ) where
  write? := fun s line => (int.recorded.write? ⟨s.state, []⟩ line).map (.noting s.uses)
  read? := fun s allowed => (int.recorded.read? ⟨s.state, []⟩ allowed).map (.noting s.uses)

/-- A host whose use is noted. -/
def Host.watched (host : Host ω σ) : Host (Watched ω) (Watched σ) where
  start := fun w grace =>
    match host.start w.state grace with
    | (.ok session, left) => (.ok ⟨session, w.uses ++ [.started]⟩, ⟨left, w.uses ++ [.started]⟩)
    | (.error e, left) => (.error e, ⟨left, w.uses ++ [.refused]⟩)
  channel := watchedChannel host.channel
  ids := fun s => host.ids s.state
  stop := fun s grace => ⟨host.stop s.state grace, s.uses ++ [.stopped grace]⟩
  leave := fun s => ⟨host.leave s.state, s.uses⟩

/-- Interrupts of a host whose use is noted. -/
def HostInterrupts.watched (int : HostInterrupts ω σ) : HostInterrupts (Watched ω) (Watched σ) where
  start? := fun w grace => (int.start? w.state grace).map (⟨·, w.uses ++ [.abandoned]⟩)
  exchange := watchedInterrupts int.exchange

/-! ### Watching changes nothing -/

section

variable (ch : Channel σ) (int : Interrupts σ) (before : List Use)

theorem alike_noting :
    Alike (Watched.noting before) ch.recorded int.recorded (watchedChannel ch) (watchedInterrupts int) where
  write := by
    intro s line
    simp only [watchedChannel, Channel.recorded, Watched.noting]
    split <;> simp
  read := by
    intro s allowed
    simp only [watchedChannel, Channel.recorded, Watched.noting]
    split <;> simp
  clock := fun _ => rfl
  write? := by
    intro s line
    simp [watchedInterrupts, Interrupts.recorded, Watched.noting, Function.comp_def]
  read? := by
    intro s allowed
    simp [watchedInterrupts, Interrupts.recorded, Watched.noting, Function.comp_def]

/-- A client over a channel whose use is noted, after some uses. -/
def watching (c : Client σ) (uses : List Use) : Client (Watched σ) := c.onto (⟨·, uses⟩)

/-- Watching changes nothing, and notes the transcript. -/
theorem run_watched (p : Procedure α) (c : Client σ) :
    p.run (watchedChannel ch) (watchedInterrupts int) (watching c before) =
      ((p.run ch int c).1,
        watching (p.run ch int c).2 (before ++ (p.transcript ch int c).map .exchanged)) := by
  have recorded := p.run_recorded ch int c []
  have watched := p.run_onto (alike_noting ch int before) (c.recording [])
  rw [recorded] at watched
  have started : (c.recording []).onto (Watched.noting before) = watching c before := by
    simp [Client.recording, Client.onto, Watched.noting, watching]
  rw [started] at watched
  exact watched

end

/-! ### A run from start to stop -/

section

variable (host : Host ω σ) (int : HostInterrupts ω σ) (r : Runner) (lines : List String) (w : ω)

/-- The client of a session that has just started. -/
def Runner.clientOf (session : σ) : Client σ :=
  Client.start session (host.ids session) r.options.requestTimeout

/-- What a run has come to in the end. -/
def Runner.endOf : Execution :=
  let x := (r.fresh lines.length).fire .start
  match int.start? w r.options.startupGrace with
  | some _ => x.interrupt
  | none =>
    match host.start w r.options.startupGrace with
    | (.error e, _) => x.failSession e
    | (.ok session, _) => (r.drive host.channel int.exchange lines x (r.clientOf host session)).1

/-- How a run uses its host. -/
def Runner.usesOf : List Use :=
  match int.start? w r.options.startupGrace with
  | some _ => [.abandoned]
  | none =>
    match host.start w r.options.startupGrace with
    | (.error _, _) => [.refused]
    | (.ok session, _) =>
      let exchanges := (runProcedure r lines lines.length).transcript host.channel int.exchange
        (r.clientOf host session)
      [.started] ++ exchanges.map .exchanged ++ [.stopped r.options.shutdownGrace]

theorem report_runUntil : (r.runUntil host int lines w).1 = (r.endOf host int lines w).report := by
  unfold Runner.runUntil Runner.endOf
  cases int.start? w r.options.startupGrace with
  | some w => rfl
  | none =>
      rcases host.start w r.options.startupGrace with ⟨e | session, w⟩
      · rfl
      · rfl

/-- Watching a run changes nothing, and notes how it uses its host. -/
theorem runUntil_watched : r.runUntil host.watched int.watched lines ⟨w, []⟩ =
    ((r.runUntil host int lines w).1, ⟨(r.runUntil host int lines w).2, r.usesOf host int lines w⟩) := by
  unfold Runner.runUntil Runner.usesOf
  cases cut : int.start? w r.options.startupGrace with
  | some w => simp [HostInterrupts.watched, cut]
  | none =>
      rcases start : host.start w r.options.startupGrace with ⟨e | session, left⟩
      · simp [HostInterrupts.watched, Host.watched, cut, start]
      · have watched := run_watched host.channel int.exchange [.started]
          (runProcedure r lines lines.length) (r.clientOf host session)
        rw [← drive_eq, ← drive_eq] at watched
        have same : Client.start (⟨session, [.started]⟩ : Watched σ) (host.ids session)
            r.options.requestTimeout = watching (r.clientOf host session) [.started] := rfl
        simp only [HostInterrupts.watched, Host.watched, cut, start, Option.map_none, List.nil_append]
        rw [same, watched]
        rfl

end

end CallScript.Run
