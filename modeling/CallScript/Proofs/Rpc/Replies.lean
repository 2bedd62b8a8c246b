import CallScript.Proofs.Rpc.Transcript
import CallScript.Rpc.Rehearsed

/-! # Channels that reply alike

Two servers behave in the same way if they answer the same lines in the same way.  Their clocks may say
different things: `RepliesAlike` relates the states of two channels in which the same lines have been
written, and asks only that from related states a line is taken in the same way and that the wait for an
answer comes to the same.  A client cannot tell such channels apart but for the time that passes.

* `RepliesAlike.call`, `RepliesAlike.introduce`: what the operations of related clients come to.
* `Rehearsed.repliesAlike_timed`: the clock of a rehearsed channel does not matter as long as it stands still
  while an answer is waited for. -/

namespace CallScript.Rpc

variable {σ τ : Type}

/-- What comes of the wait for the answer to a request that has just been written. -/
def Channel.answer (ch : Channel σ) (allowed : Duration) (id : Int64) (s : σ) : Except Stop Response × σ :=
  let now := ch.clock s
  Client.await ch (.never σ) allowed id ⟨now.1.micros + allowed.micros⟩ now.2

/-- Two channels reply alike: from states that a relation holds between, the same lines are taken in the same
way and the same answers come, and the relation holds again. -/
structure RepliesAlike (R : σ → τ → Prop) (ch : Channel σ) (ch' : Channel τ) : Prop where
  clock : ∀ {s t}, R s t → R (ch.clock s).2 (ch'.clock t).2
  write : ∀ {s t}, R s t → ∀ line, (ch.write s line).1 = (ch'.write t line).1 ∧
    R (ch.write s line).2 (ch'.write t line).2
  answer : ∀ {s t}, R s t → ∀ allowed id, (ch.answer allowed id s).1 = (ch'.answer allowed id t).1 ∧
    R (ch.answer allowed id s).2 (ch'.answer allowed id t).2

theorem RepliesAlike.refl (ch : Channel σ) : RepliesAlike Eq ch ch where
  clock := by
    rintro s _ rfl
    rfl
  write := by
    rintro s _ rfl line
    exact ⟨rfl, rfl⟩
  answer := by
    rintro s _ rfl allowed id
    exact ⟨rfl, rfl⟩

/-- Two clients over related states that have sent the same requests. -/
structure Client.Related (R : σ → τ → Prop) (c : Client σ) (d : Client τ) : Prop where
  channel : R c.channel d.channel
  ids_eq : c.ids = d.ids
  lastId_eq : c.lastId = d.lastId
  timeout_eq : c.timeout = d.timeout

namespace Client

theorem call_never_eq (ch : Channel σ) (c : Client σ) (method : String) (params : Option Json) :
    c.call ch (.never σ) method params =
      match ch.write c.channel (requestLine c.ids.next method params) with
      | (.error e, s) => (.error (.failed e), ⟨s, c.ids.take.2, some c.ids.next, c.timeout, c.crashed⟩)
      | (.ok (), s) => ((ch.answer c.timeout c.ids.next s).1,
          ⟨(ch.answer c.timeout c.ids.next s).2, c.ids.take.2, some c.ids.next, c.timeout,
            c.crashed || !fitsClock ⟨(ch.clock s).1.micros + c.timeout.micros⟩⟩) := by
  simp only [call, send, Interrupts.never, requestLine, Ids.take]
  rcases ch.write c.channel _ with ⟨e | _, s⟩
  · rfl
  · rfl

theorem notify_never_eq (ch : Channel σ) (c : Client σ) (method : String) (params : Option Json) :
    c.notify ch (.never σ) method params =
      ((ch.write c.channel (notificationLine method params)).1.mapError .failed,
        { c with channel := (ch.write c.channel (notificationLine method params)).2 }) := by
  simp only [notify, send, Interrupts.never, notificationLine]
  rcases ch.write c.channel _ with ⟨e | _, s⟩
  · rfl
  · rfl

end Client

section

variable {R : σ → τ → Prop} {ch : Channel σ} {ch' : Channel τ} (alike : RepliesAlike R ch ch')
  {c : Client σ} {d : Client τ} (related : c.Related R d)

include alike related

theorem RepliesAlike.call (method : String) (params : Option Json) :
    (c.call ch (.never σ) method params).1 = (d.call ch' (.never τ) method params).1 ∧
      (c.call ch (.never σ) method params).2.Related R (d.call ch' (.never τ) method params).2 := by
  obtain ⟨s, ids, lastId, timeout, crashed⟩ := c
  obtain ⟨t, _, _, _, crashed'⟩ := d
  obtain ⟨states, rfl, rfl, rfl⟩ := related
  obtain ⟨same, next⟩ := alike.write states (requestLine ids.next method params)
  rw [Client.call_never_eq, Client.call_never_eq]
  simp only at same next ⊢
  generalize ch.write s (requestLine ids.next method params) = written at same next ⊢
  generalize ch'.write t (requestLine ids.next method params) = written' at same next ⊢
  rcases written with ⟨e | _, s⟩
  · rcases written' with ⟨_ | _, t⟩ <;> cases same
    exact ⟨rfl, next, rfl, rfl, rfl⟩
  · rcases written' with ⟨_ | _, t⟩ <;> cases same
    obtain ⟨answers, waited⟩ := alike.answer next timeout ids.next
    exact ⟨answers, waited, rfl, rfl, rfl⟩

theorem RepliesAlike.notify (method : String) (params : Option Json) :
    (c.notify ch (.never σ) method params).1 = (d.notify ch' (.never τ) method params).1 ∧
      (c.notify ch (.never σ) method params).2.Related R (d.notify ch' (.never τ) method params).2 := by
  obtain ⟨same, next⟩ := alike.write related.channel (notificationLine method params)
  rw [Client.notify_never_eq, Client.notify_never_eq, same]
  exact ⟨rfl, next, related.ids_eq, related.lastId_eq, related.timeout_eq⟩

theorem RepliesAlike.introduce (h : Handshake) :
    (c.introduce ch (.never σ) h).1 = (d.introduce ch' (.never τ) h).1 ∧
      (c.introduce ch (.never σ) h).2.Related R (d.introduce ch' (.never τ) h).2 := by
  obtain ⟨same, next⟩ := alike.call related Client.introduceMethod (some h.toJson)
  unfold Client.introduce
  generalize c.call ch (.never σ) Client.introduceMethod (some h.toJson) = called at same next ⊢
  generalize d.call ch' (.never τ) Client.introduceMethod (some h.toJson) = called' at same next ⊢
  obtain ⟨answer, c⟩ := called
  obtain ⟨_, d⟩ := called'
  cases same
  rcases answer with stop | ⟨id, result | e⟩
  · exact ⟨rfl, next⟩
  · obtain ⟨same, last⟩ := alike.notify next Client.introducedMethod none
    simp only
    generalize c.notify ch (.never σ) Client.introducedMethod none = notified at same last ⊢
    generalize d.notify ch' (.never τ) Client.introducedMethod none = notified' at same last ⊢
    obtain ⟨said, c⟩ := notified
    obtain ⟨_, d⟩ := notified'
    cases same
    rcases said with stop | _
    · exact ⟨rfl, last⟩
    · exact ⟨rfl, last⟩
  · exact ⟨rfl, next⟩

end

/-! ### Rehearsed channels with different clocks -/

namespace Rehearsed

/-- A rehearsed channel whose clock shows a time that depends on the lines written so far. -/
def timed (time : List String → Duration) : Channel State :=
  { channel with
    clock := fun s => (time s.written, s)
    clock_backlog := fun _ => rfl }

theorem written_read (s : State) (allowed : Duration) : (read s allowed).2.written = s.written := by
  unfold read
  split
  · rfl
  · split <;> rfl

theorem await_timed_eq (time : List String → Duration) (allowed : Duration) (id : Int64) (s : State) :
    Client.await (timed time) (.never State) allowed id ⟨(time s.written).micros + allowed.micros⟩ s =
      if allowed.micros = 0 then (.error (.failed (.timeout allowed)), s)
      else match read s allowed with
        | (.error (.timeout _), s) => (.error (.failed (.timeout allowed)), s)
        | (.error e, s) => (.error (.failed e), s)
        | (.ok line, s) => match relevance id line with
          | .answer r => (.ok r, s)
          | .refused e => (.error (.failed e), s)
          | .passed => Client.await (timed time) (.never State) allowed id
            ⟨(time s.written).micros + allowed.micros⟩ s := by
  have now : (timed time).clock s = (time s.written, s) := rfl
  have uncut : (Interrupts.never State).read? s allowed = none := rfl
  have reads : (timed time).read s allowed = read s allowed := rfl
  rw [Client.await_eq]
  simp only [now, Nat.add_sub_cancel_left, uncut, reads]
  by_cases none_left : allowed.micros = 0
  · rw [if_pos none_left, if_pos (by omega)]
  · rw [if_neg none_left, if_neg (by omega)]
    have kept := written_read s allowed
    generalize read s allowed = found at kept ⊢
    rcases found with ⟨e | line, s'⟩
    · cases e with
      | _ => rfl
    · simp only at kept ⊢
      cases relevance id line with
      | answer r => rfl
      | refused e => rfl
      | passed => rw [kept]

theorem await_timed (time time' : List String → Duration) (allowed : Duration) (id : Int64) (s : State) :
    Client.await (timed time) (.never State) allowed id ⟨(time s.written).micros + allowed.micros⟩ s =
      Client.await (timed time') (.never State) allowed id
        ⟨(time' s.written).micros + allowed.micros⟩ s := by
  rw [await_timed_eq, await_timed_eq]
  split
  · rfl
  · rcases found : read s allowed with ⟨e | line, s'⟩
    · cases e <;> rfl
    · have shorter := length_queued_read found
      simp only
      rw [await_timed time time' allowed id s']
termination_by s.queued.length

/-- The clock of a rehearsed channel does not matter as long as it stands still during a wait. -/
theorem repliesAlike_timed (time time' : List String → Duration) :
    RepliesAlike Eq (timed time) (timed time') where
  clock := fun same => same
  write := by
    rintro s _ rfl line
    exact ⟨rfl, rfl⟩
  answer := by
    rintro s _ rfl allowed id
    have same := await_timed time time' allowed id s
    exact ⟨congrArg Prod.fst same, congrArg Prod.snd same⟩

end Rehearsed

end CallScript.Rpc
