import CallScript.Proofs.Rpc.Transcript
import CallScript.Run.Runner

/-! # Runs in which the program crashes

A request takes the program down if it has been written and the clock cannot show the end of the wait for its
answer.  Nothing else does, and nothing undoes it: whatever the operations of a client keep, a whole run keeps
(`Client.Kept`).

* `Client.crashed_call_iff`: which calls crash.
* `Runner.crash?_of_shown`: a run does not crash over a clock that can show the end of every wait.
* `Runner.crashed_drive_of_endless`, `Runner.crash?_of_endless`: a run crashes in its introduction if it is to wait
  for as long as any clock goes. -/

namespace CallScript.Rpc

variable {σ : Type} (ch : Channel σ) (int : Interrupts σ)

namespace Client

/-- A call crashes if its request is written, at a time after which the clock ends too soon. -/
theorem crashed_call_iff (c : Client σ) (method : String) (params : Option Json) :
    (c.call ch int method params).2.crashed = true ↔ c.crashed = true ∨
      ∃ s, send ch int c.channel (requestLine c.ids.next method params) = (.ok (), s) ∧
        fitsClock ⟨(ch.clock s).1.micros + c.timeout.micros⟩ = false := by
  simp only [call, Ids.take, requestLine]
  rcases send ch int c.channel _ with ⟨stop | _, s⟩
  · simp
  · simp

theorem timeout_call (c : Client σ) (method : String) (params : Option Json) :
    (c.call ch int method params).2.timeout = c.timeout := by
  rw [snd_call]

/-- What the operations of a client keep, and the use of its channel. -/
structure Kept (P : Client σ → Prop) : Prop where
  call : ∀ {c}, P c → ∀ method params, P (c.call ch int method params).2
  channel : ∀ {c}, P c → ∀ s, P { c with channel := s }

variable {ch int} {P : Client σ → Prop} (kept : Kept ch int P) {c : Client σ}

include kept

theorem Kept.notify (h : P c) (method : String) (params : Option Json) :
    P (c.notify ch int method params).2 := kept.channel h _

theorem Kept.introduce {handshake : Handshake}
    (called : P (c.call ch int introduceMethod (some handshake.toJson)).2) :
    P (c.introduce ch int handshake).2 := by
  unfold Client.introduce
  generalize c.call ch int introduceMethod (some handshake.toJson) = answered at called ⊢
  obtain ⟨stop | ⟨_, result | e⟩, c⟩ := answered
  · exact called
  · have notified := kept.notify called introducedMethod none
    simp only at notified ⊢
    generalize c.notify ch int introducedMethod none = said at notified ⊢
    obtain ⟨stop | _, c⟩ := said
    · exact notified
    · exact notified
  · exact called

end Client

end CallScript.Rpc

namespace CallScript.Run

open Rpc

variable {ω σ : Type}

namespace Runner

section

variable {ch : Channel σ} {int : Interrupts σ} {P : Client σ → Prop} (kept : Client.Kept ch int P) (r : Runner)
  {c : Client σ}

include kept

theorem execute_keeps (h : P c) (context : Context) (s : Step) : P (r.execute ch int c context s).2 := by
  unfold execute
  split
  · exact h
  next i parsed =>
    split
    · exact h
    next arguments resolved =>
      have called : P (c.callTool ch int i.tool arguments).2 := kept.call h _ _
      dsimp only
      generalize c.callTool ch int i.tool arguments = answered at called ⊢
      obtain ⟨(e | _) | response, c⟩ := answered
      · exact called
      · exact called
      · exact called

theorem runStep_keeps (h : P c) (context : Context) (index : Nat) (line : String) :
    P (r.runStep ch int c context index line).2 := by
  have executed := execute_keeps kept r (kept.channel h (ch.clock c.channel).2) context { index, line }
  unfold runStep
  dsimp only at executed ⊢
  generalize r.execute ch int _ context { index, line } = ended at executed ⊢
  obtain ⟨stop | ended, c⟩ := ended
  · exact executed
  · exact kept.channel executed _

theorem runLines_keeps (lines : List String) (fuel : Nat) (x : Execution) (h : P c) :
    P (r.runLines ch int lines fuel x c).2 := by
  induction fuel generalizing x c with
  | zero => exact h
  | succ fuel ih =>
      unfold runLines
      split
      next index executing =>
        split
        · exact h
        next line found =>
          have stepped := runStep_keeps kept r h x.context index line
          generalize r.runStep ch int c x.context index line = ended at stepped ⊢
          obtain ⟨stop | ended, c⟩ := ended
          · exact stepped
          · exact ih _ stepped
      · exact h

theorem drive_keeps_introduced (lines : List String) (x : Execution) {h : Handshake}
    (handshake : r.options.handshake = some h) (introduced : P (c.introduce ch int h).2) :
    P (r.drive ch int lines x c).2 := by
  unfold drive
  rw [handshake]
  dsimp only
  generalize c.introduce ch int h = said at introduced ⊢
  obtain ⟨(e | _) | result, c⟩ := said
  · exact introduced
  · exact introduced
  · exact runLines_keeps kept r lines _ _ introduced

theorem drive_keeps (lines : List String) (x : Execution) (h : P c) : P (r.drive ch int lines x c).2 := by
  cases handshake : r.options.handshake with
  | none =>
      unfold drive
      rw [handshake]
      exact runLines_keeps kept r lines _ _ h
  | some introduction =>
      exact drive_keeps_introduced kept r lines x handshake (kept.introduce (kept.call h _ _))

end

/-! ### Which runs crash -/

variable (host : Host ω σ) (int : HostInterrupts ω σ) (r : Runner) (lines : List String) (w : ω)

/-- A run does not crash over a clock that can show the end of every wait. -/
theorem crash?_of_shown (shown : ∀ s,
      fitsClock ⟨(host.channel.clock s).1.micros + r.options.requestTimeout.micros⟩ = true) :
    r.crash? host int lines w = none := by
  have kept : Client.Kept host.channel int.exchange
      fun c => c.timeout = r.options.requestTimeout ∧ c.crashed = false := by
    refine ⟨fun {c} h method params => ⟨(Client.timeout_call ..).trans h.1, ?_⟩, fun h _ => h⟩
    rw [Bool.eq_false_iff, Ne, Client.crashed_call_iff, h.1, h.2]
    rintro (marked | ⟨s, -, lost⟩)
    · cases marked
    · cases (shown s).symm.trans lost
  unfold crash?
  split
  next session left unharmed started =>
    have lives := drive_keeps kept r lines ((fresh r lines.length).fire .start)
      (c := .start session (host.ids session) r.options.requestTimeout) ⟨rfl, rfl⟩
    simp only [lives.2, Bool.false_eq_true, if_false]
  · rfl

theorem kept_crashed (ch : Channel σ) (int : Interrupts σ) : Client.Kept ch int fun c => c.crashed = true :=
  ⟨fun h _ _ => (Client.crashed_call_iff ..).mpr (.inl h), fun h _ => h⟩

/-- A run that introduces itself and is to wait for as long as any clock goes crashes once the introduction has
been written. -/
theorem crashed_drive_of_endless {ch : Channel σ} {int : Interrupts σ} {c : Client σ} {h : Handshake} {s : σ}
    (x : Execution) (endless : clockEnd.micros ≤ c.timeout.micros) (handshake : r.options.handshake = some h)
    (written : Client.send ch int c.channel (requestLine c.ids.next Client.introduceMethod (some h.toJson)) =
      (.ok (), s)) : (r.drive ch int lines x c).2.crashed = true := by
  have kept := kept_crashed ch int
  have called : (c.call ch int Client.introduceMethod (some h.toJson)).2.crashed = true := by
    refine (Client.crashed_call_iff ..).mpr (.inr ⟨s, written, ?_⟩)
    have too_long : clockEnd.micros ≤ (ch.clock s).1.micros + c.timeout.micros :=
      Nat.le_trans endless (Nat.le_add_left ..)
    simpa [fitsClock] using too_long
  exact drive_keeps_introduced kept r lines x handshake (kept.introduce called)

theorem crashed_runOn_of_endless {ch : Channel σ} {c : Client σ} {h : Handshake} {s : σ}
    (endless : clockEnd.micros ≤ c.timeout.micros) (handshake : r.options.handshake = some h)
    (written : Client.send ch (.never σ) c.channel
      (requestLine c.ids.next Client.introduceMethod (some h.toJson)) = (.ok (), s)) :
    (r.runOn ch lines c).2.crashed = true :=
  crashed_drive_of_endless r lines _ endless handshake written

/-- Started by the program, such a run ends in a crash. -/
theorem crash?_of_endless {session : σ} {left : ω} {h : Handshake} {s : σ}
    (endless : clockEnd.micros ≤ r.options.requestTimeout.micros)
    (unharmed : int.start? w r.options.startupGrace = none)
    (started : host.start w r.options.startupGrace = (.ok session, left))
    (handshake : r.options.handshake = some h)
    (written : Client.send host.channel int.exchange session
      (requestLine (host.ids session).next Client.introduceMethod (some h.toJson)) = (.ok (), s)) :
    (r.crash? host int lines w).isSome = true := by
  let c := Client.start session (host.ids session) r.options.requestTimeout
  have dies := crashed_drive_of_endless r lines ((fresh r lines.length).fire .start) (c := c) endless handshake written
  unfold crash?
  rw [unharmed, started]
  dsimp only
  rw [if_pos dies]
  rfl

end Runner

end CallScript.Run
