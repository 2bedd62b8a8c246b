import CallScript.Proofs.Rpc.Queue

/-! # The time of a call

A call has one span of time, which begins when its request has been written.  `Channel.traced` notes every access
to a channel with the clock's readings and the time that each read is allowed.  In what a call does on it, rounds
follow each other: a look at the clock, and a read that is allowed the time left (`Round`).

* `Procedure.run_traced`: noting the accesses changes nothing.
* `Client.await_traced`: a wait is a list of rounds, and perhaps a look at the clock that comes too late.
* `Waited.early`, `Waited.late`, `Waited.goes_on_iff`, `Waited.timeout_iff`: what the rounds of a wait have in
  common.
* `calls_keep_to_their_budget`: the accesses of a call. -/

namespace CallScript.Rpc

/-! ### Accesses -/

/-- One access to a channel, with what came of it. -/
inductive Access where
  | write (line : String) (result : Except Stop Unit)
  /-- A look at the clock. -/
  | look (now : Duration)
  | read (allowed : Duration) (found : Except Stop String)
  deriving DecidableEq

/-- The readings of the clock, in order. -/
def readings (ops : List Access) : List Duration :=
  ops.filterMap fun
    | .look now => some now
    | _ => none

/-- The times that reads were allowed, in order. -/
def allowances (ops : List Access) : List Duration :=
  ops.filterMap fun
    | .read allowed _ => some allowed
    | _ => none

/-- The state of a channel whose accesses are noted. -/
structure Traced (σ : Type) where
  state : σ
  accesses : List Access

variable {σ : Type}

/-- The same state after accesses that came before. -/
def Traced.after (before : List Access) (s : Traced σ) : Traced σ := ⟨s.state, before ++ s.accesses⟩

/-- A channel that notes its accesses. -/
def Channel.traced (ch : Channel σ) : Channel (Traced σ) where
  write := fun s line =>
    let done := ch.write s.state line
    (done.1, ⟨done.2, s.accesses ++ [.write line (done.1.mapError .failed)]⟩)
  read := fun s allowed =>
    let done := ch.read s.state allowed
    (done.1, ⟨done.2, s.accesses ++ [.read allowed (done.1.mapError .failed)]⟩)
  clock := fun s =>
    let now := ch.clock s.state
    (now.1, ⟨now.2, s.accesses ++ [.look now.1]⟩)
  backlog := fun s => ch.backlog s.state
  read_backlog := by
    intro s allowed line s' h
    obtain ⟨found, rfl⟩ := Prod.mk.inj h
    exact ch.read_backlog (Prod.ext found rfl)
  clock_backlog := fun s => ch.clock_backlog s.state

/-- Interrupts whose accesses are noted as well. -/
def Interrupts.traced (int : Interrupts σ) : Interrupts (Traced σ) where
  write? := fun s line =>
    (int.write? s.state line).map fun state => ⟨state, s.accesses ++ [.write line (.error .interrupted)]⟩
  read? := fun s allowed =>
    (int.read? s.state allowed).map fun state => ⟨state, s.accesses ++ [.read allowed (.error .interrupted)]⟩

variable (ch : Channel σ) (int : Interrupts σ)

@[simp] theorem readings_append (ops more : List Access) :
    readings (ops ++ more) = readings ops ++ readings more := List.filterMap_append

@[simp] theorem allowances_append (ops more : List Access) :
    allowances (ops ++ more) = allowances ops ++ allowances more := List.filterMap_append

theorem alike_untraced : Alike Traced.state ch.traced int.traced ch int where
  write := fun _ _ => rfl
  read := fun _ _ => rfl
  clock := fun _ => rfl
  write? := by
    intro s line
    simp [Interrupts.traced, Function.comp_def]
  read? := by
    intro s allowed
    simp [Interrupts.traced, Function.comp_def]

theorem alike_traced_after (before : List Access) :
    Alike (Traced.after before) ch.traced int.traced ch.traced int.traced where
  write := by
    intro s line
    simp [Channel.traced, Traced.after]
  read := by
    intro s allowed
    simp [Channel.traced, Traced.after]
  clock := by
    intro s
    simp [Channel.traced, Traced.after]
  write? := by
    intro s line
    simp [Interrupts.traced, Traced.after, Function.comp_def]
  read? := by
    intro s allowed
    simp [Interrupts.traced, Traced.after, Function.comp_def]

/-- The client over a channel whose accesses are noted, after some accesses. -/
def Client.tracing (c : Client σ) (before : List Access) : Client (Traced σ) := c.onto (⟨·, before⟩)

namespace Procedure

variable {α : Type} (p : Procedure α) (c : Client σ)

/-- What a procedure does on a channel. -/
def accesses : List Access :=
  (p.run ch.traced int.traced (c.tracing [])).2.channel.accesses

/-- Noting the accesses of a procedure changes nothing. -/
theorem run_traced (before : List Access) :
    p.run ch.traced int.traced (c.tracing before) =
      ((p.run ch int c).1, (p.run ch int c).2.tracing (before ++ p.accesses ch int c)) := by
  have traced := p.run_onto (alike_traced_after ch int before) (c.tracing [])
  have erased := p.run_onto (alike_untraced ch int) (c.tracing [])
  have started : (c.tracing []).onto (Traced.after before) = c.tracing before := by
    simp [Client.tracing, Client.onto, Traced.after]
  have original : (c.tracing []).onto Traced.state = c := rfl
  rw [started] at traced
  rw [original] at erased
  rw [traced, erased]
  rfl

end Procedure

/-! ### Waits -/

/-- One round of a wait: a look at the clock, and a read. -/
structure Round where
  now : Duration
  found : Except Stop String

/-- The accesses of a round: the read is allowed the time left until the deadline. -/
def Round.accesses (deadline : Duration) (round : Round) : List Access :=
  [.look round.now, .read ⟨deadline.micros - round.now.micros⟩ round.found]

/-- The accesses of a wait: its rounds, and perhaps one look more. -/
def waitAccesses (deadline : Duration) (rounds : List Round) (final : Option Duration) : List Access :=
  rounds.flatMap (Round.accesses deadline) ++ final.toList.map .look

@[simp] theorem waitAccesses_nil (deadline : Duration) (final : Option Duration) :
    waitAccesses deadline [] final = final.toList.map .look := rfl

@[simp] theorem waitAccesses_cons (deadline : Duration) (round : Round) (rounds : List Round)
    (final : Option Duration) : waitAccesses deadline (round :: rounds) final =
      round.accesses deadline ++ waitAccesses deadline rounds final := by
  simp [waitAccesses]

/-- The rounds of a wait until a deadline for the answer to the request of an id, the look at the clock that found
the deadline reached, if there is one, and what the wait comes to; a timeout is reported with the time `full`. -/
inductive Waited (full : Duration) (id : Int64) (deadline : Duration) :
    List Round → Option Duration → Except Stop Response → Prop
  | expired {now : Duration} (late : deadline.micros ≤ now.micros) :
      Waited full id deadline [] (some now) (.error (.failed (.timeout full)))
  | interrupted {now : Duration} (early : now.micros < deadline.micros) :
      Waited full id deadline [⟨now, .error .interrupted⟩] none (.error .interrupted)
  | ended {now : Duration} {item : Except Error String} {result : Except Stop Response}
      (early : now.micros < deadline.micros) (ends : Ends full id item result) :
      Waited full id deadline [⟨now, item.mapError .failed⟩] none result
  | passed {now : Duration} {line : String} {rounds : List Round} {final : Option Duration}
      {result : Except Stop Response} (early : now.micros < deadline.micros) (passed : Passed id (.ok line))
      (more : Waited full id deadline rounds final result) :
      Waited full id deadline (⟨now, .ok line⟩ :: rounds) final result

section

variable {ch int} {s s' : Traced σ} {deadline : Duration}

theorem Channel.accesses_round {found : Except Error String}
    (h : ch.traced.read (ch.traced.clock s).2 ⟨deadline.micros - (ch.traced.clock s).1.micros⟩ = (found, s')) :
    s'.accesses = s.accesses ++
      Round.accesses deadline ⟨(ch.traced.clock s).1, found.mapError .failed⟩ := by
  obtain ⟨rfl, rfl⟩ := Prod.mk.inj h
  exact List.append_assoc ..

theorem Interrupts.accesses_round
    (h : int.traced.read? (ch.traced.clock s).2 ⟨deadline.micros - (ch.traced.clock s).1.micros⟩ = some s') :
    s'.accesses = s.accesses ++
      Round.accesses deadline ⟨(ch.traced.clock s).1, .error .interrupted⟩ := by
  obtain ⟨state, -, rfl⟩ := Option.map_eq_some_iff.mp h
  exact List.append_assoc ..

end

namespace Client

theorem send_traced (s : Traced σ) (line : String) :
    (send ch.traced int.traced s line).2.accesses =
      s.accesses ++ [.write line (send ch.traced int.traced s line).1] := by
  simp only [send, Interrupts.traced, Channel.traced]
  cases int.write? s.state line with
  | some state => rfl
  | none =>
      rcases ch.write s.state line with ⟨e | _, state⟩
      · rfl
      · rfl

/-- A wait over a channel whose accesses are noted. -/
theorem await_traced (full : Duration) (id : Int64) (deadline : Duration) (s : Traced σ) :
    ∃ rounds final, (await ch.traced int.traced full id deadline s).2.accesses =
        s.accesses ++ waitAccesses deadline rounds final ∧
      Waited full id deadline rounds final (await ch.traced int.traced full id deadline s).1 := by
  -- A read that ends the wait is its last round.
  have last {s s' : Traced σ} {item : Except Error String} {result : Except Stop Response}
      (early : ¬ deadline.micros ≤ (ch.traced.clock s).1.micros)
      (read : ch.traced.read (ch.traced.clock s).2 ⟨deadline.micros - (ch.traced.clock s).1.micros⟩ = (item, s'))
      (ends : Ends full id item result) :
      ∃ rounds final, s'.accesses = s.accesses ++ waitAccesses deadline rounds final ∧
        Waited full id deadline rounds final result := by
    have noted := Channel.accesses_round read
    exact ⟨[⟨_, item.mapError .failed⟩], none, by simpa using noted, .ended (Nat.lt_of_not_le early) ends⟩
  fun_induction await ch.traced int.traced full id deadline s with
  | case1 s now late => exact ⟨[], some now.1, rfl, .expired late⟩
  | case2 s now late left s' cut =>
      have noted := Interrupts.accesses_round cut
      exact ⟨[⟨now.1, .error .interrupted⟩], none, by simpa using noted, .interrupted (Nat.lt_of_not_le late)⟩
  | case3 s now late left uncut spent s' read => exact last late read (.timedOut spent)
  | case4 s now late left uncut e s' not_timeout read => exact last late read (.failed not_timeout)
  | case5 s now late left uncut line s' read r answer => exact last late read (.of_answer answer)
  | case6 s now late left uncut line s' read e refused => exact last late read (.of_refused refused)
  | case7 s now late left uncut line s' read passed ih =>
      obtain ⟨rounds, final, more, waited⟩ := ih
      have noted := Channel.accesses_round read
      have skipped : Passed id (.ok line) := isPassed_relevance_iff.mp (by rw [passed]; rfl)
      refine ⟨⟨now.1, .ok line⟩ :: rounds, final, ?_, .passed (Nat.lt_of_not_le late) skipped waited⟩
      rw [more, noted, waitAccesses_cons, List.append_assoc]
      rfl

end Client

/-! ### What the rounds have in common -/

section

variable {full : Duration} {id : Int64} {deadline : Duration} {rounds : List Round} {final : Option Duration}
  {result : Except Stop Response}

/-- No read is begun when the deadline has been reached. -/
theorem Waited.early (h : Waited full id deadline rounds final result) :
    ∀ round ∈ rounds, round.now.micros < deadline.micros := by
  induction h with
  | expired => simp
  | interrupted early | ended early => simpa using early
  | passed early _ _ ih => simpa using ⟨early, ih⟩

/-- A look at the clock that no read follows has found the deadline reached. -/
theorem Waited.late (h : Waited full id deadline rounds final result) :
    ∀ now ∈ final, deadline.micros ≤ now.micros := by
  induction h with
  | expired late => simpa using late
  | interrupted | ended => nofun
  | passed _ _ _ ih => exact ih

theorem Means.unique {line : String} {a b : Incoming} (means : Means line a) (means' : Means line b) : a = b :=
  Except.ok.inj ((Incoming.decode_iff_means.mpr means).symm.trans (Incoming.decode_iff_means.mpr means'))

theorem Ends.not_passed {item : Except Error String} (ends : Ends full id item result) : ¬ Passed id item := by
  intro passed
  cases passed with
  | blank means | serverMessage means =>
      cases ends with
      | answered means' | ahead means' => cases means.unique means'
      | malformed meaningless => exact meaningless _ means
  | late means earlier =>
      cases ends with
      | answered means' same =>
          cases means.unique means'
          exact absurd same (Int64.ne_of_lt earlier)
      | ahead means' later =>
          cases means.unique means'
          exact absurd later (Int64.lt_asymm earlier)
      | malformed meaningless => exact meaningless _ means

theorem Waited.nonempty (h : Waited full id deadline rounds final result) : rounds ≠ [] ∨ final.isSome := by
  cases h with
  | expired => exact .inr rfl
  | interrupted | ended | passed => exact .inl (List.cons_ne_nil _ _)

/-- A wait goes on after a line that it passes over, and after nothing else. -/
theorem Waited.goes_on_iff (h : Waited full id deadline rounds final result) {k : Nat} {round : Round}
    (found : rounds[k]? = some round) :
    (k + 1 < rounds.length ∨ final.isSome) ↔ ∃ line, round.found = .ok line ∧ Passed id (.ok line) := by
  induction h generalizing k with
  | expired => cases found
  | interrupted =>
      cases k with
      | zero =>
          cases found
          simp
      | succ k => cases found
  | @ended now item result early ends =>
      cases k with
      | zero =>
          cases found
          refine iff_of_false (by simp) ?_
          rintro ⟨line, read, passed⟩
          cases item with
          | error e => cases read
          | ok line' =>
              cases read
              exact ends.not_passed passed
      | succ k => cases found
  | passed early passed waited ih =>
      cases k with
      | zero =>
          cases found
          rw [Nat.zero_add, List.length_cons, Nat.lt_add_left_iff_pos, List.length_pos_iff]
          exact iff_of_true waited.nonempty ⟨_, rfl, passed⟩
      | succ k =>
          rw [List.length_cons, Nat.add_lt_add_iff_right]
          exact ih found

/-- What ends a wait is a timeout if the read was one, and it is reported with the whole time. -/
theorem Ends.timeout_iff {item : Except Error String} (ends : Ends full id item result) (d : Duration) :
    result = .error (.failed (.timeout d)) ↔ d = full ∧ ∃ spent, item = .error (.timeout spent) := by
  cases ends with
  | answered | ahead | malformed => simp
  | failed no_timeout => simp [no_timeout]
  | timedOut spent => simp [eq_comm]

/-- A wait that time has run out for says so with the whole time, and no other wait does. -/
theorem Waited.timeout_iff (h : Waited full id deadline rounds final result) (d : Duration) :
    result = .error (.failed (.timeout d)) ↔ d = full ∧ (final.isSome ∨
      ∃ round spent, rounds.getLast? = some round ∧ round.found = .error (.failed (.timeout spent))) := by
  induction h with
  | expired => simp [eq_comm]
  | interrupted => simp
  | @ended now item result early ends =>
      rw [ends.timeout_iff]
      cases item with
      | error e => simp [Except.mapError]
      | ok line => simp [Except.mapError]
  | @passed now line rounds final result early passed waited ih =>
      rw [ih]
      cases waited with
      | expired => simp
      | interrupted | ended | passed => simp [List.getLast?_cons_cons]

theorem readings_waitAccesses : readings (waitAccesses deadline rounds final) =
    rounds.map Round.now ++ final.toList := by
  induction rounds with
  | nil => cases final <;> rfl
  | cons round rounds ih =>
      rw [waitAccesses_cons, readings_append, ih]
      rfl

theorem allowances_waitAccesses : allowances (waitAccesses deadline rounds final) =
    rounds.map fun round => ⟨deadline.micros - round.now.micros⟩ := by
  induction rounds with
  | nil => cases final <;> rfl
  | cons round rounds ih =>
      rw [waitAccesses_cons, allowances_append, ih]
      rfl

/-- If the clock does not run backwards, no read is allowed more than the time of the call, or more than a read
before it. -/
theorem allowances_of_forward {start : Duration}
    (forward : (start :: (rounds.map Round.now ++ final.toList)).Pairwise fun a b => a.micros ≤ b.micros) :
    (∀ allowed ∈ allowances (waitAccesses ⟨start.micros + full.micros⟩ rounds final),
        allowed.micros ≤ full.micros) ∧
      (allowances (waitAccesses ⟨start.micros + full.micros⟩ rounds final)).Pairwise
        fun a b => b.micros ≤ a.micros := by
  obtain ⟨since_start, forward⟩ := List.pairwise_cons.mp forward
  have in_order := (List.pairwise_append.mp forward).1
  rw [allowances_waitAccesses]
  constructor
  · intro allowed member
    obtain ⟨round, in_wait, rfl⟩ := List.mem_map.mp member
    have since : start.micros ≤ round.now.micros :=
      since_start _ (List.mem_append_left _ (List.mem_map_of_mem in_wait))
    dsimp only
    omega
  · refine List.pairwise_map.mpr ((List.pairwise_map.mp in_order).imp ?_)
    intro round later ordered
    dsimp only
    omega

end

/-! ### Calls -/

/-- The accesses of a call: it writes its request, and if that was written it looks at the clock and waits. -/
theorem accesses_call (c : Client σ) (method : String) (params : Option Json) :
    (∃ stop, (Procedure.call method params).accesses ch int c =
        [.write (requestLine c.ids.next method params) (.error stop)] ∧
      (c.call ch int method params).1 = .error stop) ∨
    ∃ (start : Duration) (rounds : List Round) (final : Option Duration),
      (Procedure.call method params).accesses ch int c =
        [.write (requestLine c.ids.next method params) (.ok ()), .look start] ++
          waitAccesses ⟨start.micros + c.timeout.micros⟩ rounds final ∧
      Waited c.timeout c.ids.next ⟨start.micros + c.timeout.micros⟩ rounds final
        (c.call ch int method params).1 := by
  have erased := Client.call_onto (alike_untraced ch int) (c.tracing []) method params
  have original : (c.tracing []).onto Traced.state = c := rfl
  rw [original] at erased
  rw [erased]
  simp only [Procedure.accesses, Procedure.call, Client.call, Client.tracing, Client.onto, Ids.take]
  have noted := Client.send_traced ch int ⟨c.channel, []⟩ (requestLine c.ids.next method params)
  unfold requestLine at noted ⊢
  generalize Client.send ch.traced int.traced ⟨c.channel, []⟩ _ = sent at noted ⊢
  obtain ⟨stop | _, s⟩ := sent
  · exact .inl ⟨stop, noted, rfl⟩
  · obtain ⟨rounds, final, more, waited⟩ := Client.await_traced ch int c.timeout c.ids.next
      ⟨(ch.traced.clock s).1.micros + c.timeout.micros⟩ (ch.traced.clock s).2
    have looked : (ch.traced.clock s).2.accesses = s.accesses ++ [.look (ch.traced.clock s).1] := rfl
    have written : s.accesses = [.write _ (.ok ())] := noted
    rw [looked, written] at more
    exact .inr ⟨(ch.traced.clock s).1, rounds, final, more, waited⟩

/-- The budget of a call, over any channel, whatever the server sends and whatever the clock shows, and under any
interrupts; noting the accesses changes nothing.  Unless its request was not written, a call looks at the clock once
it was, and the time of the call from then on is its deadline.  What follows are rounds: a look at the clock that
finds the deadline not reached, and a read that is allowed exactly the time left until then.  The call goes on, with
the same deadline, after blank lines, messages of the server's own and answers to earlier requests, and after nothing
else.  A look that finds the deadline reached is the end of it.  If the clock does not run backwards, then no read is
allowed more than the time of the call, or more than a read before it.  A call ends with a timeout exactly if a look
found the deadline reached or its last read timed out, and reports the whole time of the call. -/
theorem calls_keep_to_their_budget (c : Client σ) (method : String) (params : Option Json) :
    let ops := (Procedure.call method params).accesses ch int c
    let result := (c.call ch int method params).1
    (c.tracing []).call ch.traced int.traced method params =
        (result, (c.call ch int method params).2.tracing ops) ∧
      ((∃ stop, ops = [.write (requestLine c.ids.next method params) (.error stop)] ∧ result = .error stop) ∨
        ∃ (start : Duration) (rounds : List Round) (final : Option Duration),
          let deadline : Duration := ⟨start.micros + c.timeout.micros⟩
          ops = [.write (requestLine c.ids.next method params) (.ok ()), .look start] ++
              (rounds.flatMap fun round =>
                [.look round.now, .read ⟨deadline.micros - round.now.micros⟩ round.found]) ++
              final.toList.map .look ∧
            (∀ round ∈ rounds, round.now.micros < deadline.micros) ∧
            (∀ now ∈ final, deadline.micros ≤ now.micros) ∧
            (rounds ≠ [] ∨ final.isSome) ∧
            (∀ k round, rounds[k]? = some round → ((k + 1 < rounds.length ∨ final.isSome) ↔
              ∃ line, round.found = .ok line ∧ Passed c.ids.next (.ok line))) ∧
            ((readings ops).Pairwise (fun a b => a.micros ≤ b.micros) →
              (∀ allowed ∈ allowances ops, allowed.micros ≤ c.timeout.micros) ∧
                (allowances ops).Pairwise fun a b => b.micros ≤ a.micros) ∧
            ∀ d, result = .error (.failed (.timeout d)) ↔ d = c.timeout ∧ (final.isSome ∨
              ∃ round spent, rounds.getLast? = some round ∧
                round.found = .error (.failed (.timeout spent)))) := by
  intro ops result
  refine ⟨(Procedure.call method params).run_traced ch int c [], ?_⟩
  rcases accesses_call ch int c method params with unsent | ⟨start, rounds, final, ops_eq, waited⟩
  · exact .inl unsent
  · refine .inr ⟨start, rounds, final, ?_, waited.early, waited.late, waited.nonempty,
      fun k round => waited.goes_on_iff, ?_, waited.timeout_iff⟩
    · rw [List.append_assoc]
      exact ops_eq
    · have ops_eq : ops = _ := ops_eq
      rw [ops_eq, readings_append, allowances_append, readings_waitAccesses]
      exact allowances_of_forward

/-- A clock that shows how much of a roundabout server's queue has been read. -/
def roundaboutClock (s : Rehearsed.State) : Duration := ⟨400 * (5 - s.queued.length)⟩

/-- A call that gets a blank line, a notification and a late answer, each after 400 microseconds, does not read on
until its own answer. -/
theorem roundabout_runs_out_of_time :
    let ch : Channel Rehearsed.State :=
      { Rehearsed.channel with
        clock := fun s => (roundaboutClock s, s)
        clock_backlog := fun _ => rfl }
    let ops := (Procedure.call "ping" none).accesses ch (.never _) roundabout
    readings ops = [⟨0⟩, ⟨0⟩, ⟨400⟩, ⟨800⟩, ⟨1200⟩] ∧ allowances ops = [⟨1000⟩, ⟨600⟩, ⟨200⟩] ∧
      (∀ allowed ∈ allowances ops, allowed.micros ≤ 1000) ∧
      (roundabout.call ch (.never _) "ping" none).1 = .error (.failed (.timeout ⟨1000⟩)) := by
  intro ch ops
  have shown : readings ops = [⟨0⟩, ⟨0⟩, ⟨400⟩, ⟨800⟩, ⟨1200⟩] := by decide +kernel
  have forward : (readings ops).Pairwise fun a b => a.micros ≤ b.micros := by
    rw [shown]
    decide
  refine ⟨shown, by decide +kernel, ?_, by decide +kernel⟩
  obtain ⟨-, ⟨stop, unsent, -⟩ | ⟨start, rounds, final, -, -, -, -, -, within, -⟩⟩ :=
    calls_keep_to_their_budget ch (.never _) roundabout "ping" none
  · have unsent : ops = _ := unsent
    rw [unsent] at shown
    cases shown
  · exact (within forward).1

end CallScript.Rpc
