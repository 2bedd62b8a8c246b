import CallScript.Proofs.Rpc.Classification
import CallScript.Proofs.Rpc.Replies

/-! # What a call takes from a queue

A channel may hold what is to be read in a queue: lines, and reads that fail.  A call that has written its
request reads from the front of it, as long as no time passes, up to the first item that it does not pass
over.  What that item is decides what the call comes to, and what is queued behind it stays.

* `Channel.Serves`: a channel gives out what its states have queued.
* `Passed`, `Ends`: the items that a call passes over, and what it comes to at the others.
* `Channel.Serves.await_of_passed`, `Channel.Serves.await_of_ends`: the steps of a wait, by what is queued
  first.
* `calls_read_up_to_their_end`: what a call takes from a queue, and what it comes to; `Channel.Serves.call_orCrash`
  is the case that the clock cannot show the end of its wait.
* `Rehearsed.serves`: a rehearsed channel gives out what it has queued. -/

namespace CallScript.Rpc

/-! ### Queues -/

/-- What a read comes to when it meets a queued item: the item itself, but a timeout may be reported with any
time. -/
inductive ReadAs : Except Error String → Except Error String → Prop
  | same (item : Except Error String) : ReadAs item item
  | timeout (queued reported : Duration) : ReadAs (.error (.timeout queued)) (.error (.timeout reported))

section

variable {σ : Type}

/-- A channel gives out what its states have queued, first the item in front, and no time passes. -/
structure Channel.Serves (ch : Channel σ) (queue : σ → List (Except Error String)) (now : Duration) : Prop where
  read : ∀ {s item rest}, queue s = item :: rest → ∀ allowed,
    ReadAs item (ch.read s allowed).1 ∧ queue (ch.read s allowed).2 = rest
  clock : ∀ s, (ch.clock s).1 = now
  queue_clock : ∀ s, queue (ch.clock s).2 = queue s

/-- The items that the request of an id passes over: blank lines, messages of the server's own, and answers to
earlier requests. -/
inductive Passed (id : Int64) : Except Error String → Prop
  | blank {line : String} (means : Means line .blank) : Passed id (.ok line)
  | serverMessage {line method : String} (means : Means line (.serverMessage method)) : Passed id (.ok line)
  | late {line : String} {r : Response} (means : Means line (.response r)) (earlier : r.id < id) :
      Passed id (.ok line)

/-- What the request of an id comes to at an item that it does not pass over; a timeout is reported with the
time `allowed`. -/
inductive Ends (allowed : Duration) (id : Int64) : Except Error String → Except Stop Response → Prop
  | answered {line : String} {r : Response} (means : Means line (.response r)) (same : r.id = id) :
      Ends allowed id (.ok line) (.ok r)
  | ahead {line : String} {r : Response} (means : Means line (.response r)) (later : id < r.id) :
      Ends allowed id (.ok line) (.error (.failed (.protocol
        s!"Response id {r.id.toInt} does not match pending request {id.toInt}")))
  | malformed {line reason : String} (meaningless : ∀ incoming, ¬ Means line incoming)
      (refused : Incoming.decode line = .error (.protocol reason)) :
      Ends allowed id (.ok line) (.error (.failed (.protocol reason)))
  | failed {e : Error} (no_timeout : ∀ spent, e ≠ .timeout spent) :
      Ends allowed id (.error e) (.error (.failed e))
  | timedOut (spent : Duration) :
      Ends allowed id (.error (.timeout spent)) (.error (.failed (.timeout allowed)))

/-! ### Lines -/

/-- Whether a line is passed over. -/
def Relevance.isPassed : Relevance → Bool
  | .passed => true
  | .answer _ | .refused _ => false

variable {allowed : Duration} {id : Int64} {line : String} {item : Except Error String}

theorem isPassed_relevance_iff : (relevance id line).isPassed = true ↔ Passed id (.ok line) := by
  constructor
  · intro passed
    unfold relevance at passed
    split at passed
    · cases passed
    next decoded => exact .blank (Incoming.decode_iff_means.mp decoded)
    next decoded => exact .serverMessage (Incoming.decode_iff_means.mp decoded)
    next r decoded =>
      split at passed
      · cases passed
      · split at passed
        next earlier => exact .late (Incoming.decode_iff_means.mp decoded) earlier
        · cases passed
  · intro passed
    unfold relevance
    cases passed with
    | blank means | serverMessage means =>
        rw [Incoming.decode_iff_means.mpr means]
        rfl
    | @late _ r means earlier =>
        rw [Incoming.decode_iff_means.mpr means]
        have other : r.id ≠ id := Int64.ne_of_lt earlier
        simp [other, earlier, Relevance.isPassed]

instance (id : Int64) : (item : Except Error String) → Decidable (Passed id item)
  | .ok _ => decidable_of_iff _ isPassed_relevance_iff
  | .error _ => .isFalse nofun

theorem Ends.of_answer {r : Response} (answer : relevance id line = .answer r) :
    Ends allowed id (.ok line) (.ok r) := by
  obtain ⟨decoded, same⟩ := relevance_eq_answer_iff.mp answer
  exact .answered (Incoming.decode_iff_means.mp decoded) same

theorem Ends.of_refused {e : Error} (refused : relevance id line = .refused e) :
    Ends allowed id (.ok line) (.error (.failed e)) := by
  unfold relevance at refused
  split at refused
  next e' failed =>
    cases refused
    obtain ⟨reason, rfl⟩ := Incoming.eq_protocol_of_decode failed
    refine .malformed (fun incoming means => ?_) failed
    rw [Incoming.decode_iff_means.mpr means] at failed
    cases failed
  · cases refused
  · cases refused
  next r decoded =>
    split at refused
    · cases refused
    next other =>
      split at refused
      · cases refused
      next not_earlier =>
        cases refused
        have later : id < r.id := by
          rw [Int64.lt_iff_toInt_lt] at not_earlier ⊢
          have toInt_ne : r.id.toInt ≠ id.toInt := fun same => other (Int64.toInt_inj.mp same)
          omega
        exact .ahead (Incoming.decode_iff_means.mp decoded) later

/-! ### Waits -/

namespace Channel.Serves

variable {ch : Channel σ} {queue : σ → List (Except Error String)} {now : Duration}
  (serves : ch.Serves queue now) (some_time : 0 < allowed.micros) {s : σ}

include serves

variable {rest : List (Except Error String)}

theorem read_clock (queued : queue s = item :: rest) (allowed : Duration) :
    ReadAs item (ch.read (ch.clock s).2 allowed).1 ∧ queue (ch.read (ch.clock s).2 allowed).2 = rest :=
  serves.read ((serves.queue_clock s).trans queued) allowed

include some_time

/-- The time left of a wait is always the whole time allowed. -/
theorem await_eq (s : σ) :
    Client.await ch (.never σ) allowed id ⟨now.micros + allowed.micros⟩ s =
      match ch.read (ch.clock s).2 allowed with
      | (.error (.timeout _), s) => (.error (.failed (.timeout allowed)), s)
      | (.error e, s) => (.error (.failed e), s)
      | (.ok line, s) => match relevance id line with
        | .answer r => (.ok r, s)
        | .refused e => (.error (.failed e), s)
        | .passed => Client.await ch (.never σ) allowed id ⟨now.micros + allowed.micros⟩ s := by
  rw [Client.await_eq]
  have in_time : ¬ now.micros + allowed.micros ≤ now.micros := by omega
  simp only [serves.clock s, Nat.add_sub_cancel_left]
  exact if_neg in_time

theorem await_of_passed (queued : queue s = item :: rest) (passed : Passed id item) :
    ∃ t, queue t = rest ∧ Client.await ch (.never σ) allowed id ⟨now.micros + allowed.micros⟩ s =
      Client.await ch (.never σ) allowed id ⟨now.micros + allowed.micros⟩ t := by
  obtain ⟨read_as, left⟩ := serves.read_clock queued allowed
  refine ⟨_, left, ?_⟩
  rw [serves.await_eq some_time s]
  generalize ch.read (ch.clock s).2 allowed = found at read_as ⊢
  obtain ⟨found, t⟩ := found
  obtain ⟨line, rfl⟩ : ∃ line, item = .ok line := by
    cases passed <;> exact ⟨_, rfl⟩
  cases read_as
  have skips := isPassed_relevance_iff.mpr passed
  simp only
  cases relevant : relevance id line with
  | passed => rfl
  | answer r => simp [relevant, Relevance.isPassed] at skips
  | refused e => simp [relevant, Relevance.isPassed] at skips

/-- A wait ends at an item that it does not pass over, and leaves what is queued behind it. -/
theorem await_of_ends (queued : queue s = item :: rest) (not_passed : ¬ Passed id item) :
    Ends allowed id item (Client.await ch (.never σ) allowed id ⟨now.micros + allowed.micros⟩ s).1 ∧
      queue (Client.await ch (.never σ) allowed id ⟨now.micros + allowed.micros⟩ s).2 = rest := by
  obtain ⟨read_as, left⟩ := serves.read_clock queued allowed
  rw [serves.await_eq some_time s]
  generalize ch.read (ch.clock s).2 allowed = found at read_as left ⊢
  obtain ⟨found, t⟩ := found
  cases read_as with
  | timeout spent reported => exact ⟨.timedOut spent, left⟩
  | same =>
      rcases found with e | line
      · cases e with
        | timeout spent => exact ⟨.timedOut spent, left⟩
        | _ => exact ⟨.failed nofun, left⟩
      · simp only
        cases relevant : relevance id line with
        | passed => exact absurd (isPassed_relevance_iff.mp (by rw [relevant]; rfl)) not_passed
        | answer r => exact ⟨.of_answer relevant, left⟩
        | refused e => exact ⟨.of_refused relevant, left⟩

theorem await_of_all_passed {passed more : List (Except Error String)} (queued : queue s = passed ++ more)
    (all_passed : ∀ item ∈ passed, Passed id item) :
    ∃ t, queue t = more ∧ Client.await ch (.never σ) allowed id ⟨now.micros + allowed.micros⟩ s =
      Client.await ch (.never σ) allowed id ⟨now.micros + allowed.micros⟩ t := by
  induction passed generalizing s with
  | nil => exact ⟨s, queued, rfl⟩
  | cons item passed ih =>
      obtain ⟨t, behind, same⟩ := serves.await_of_passed some_time queued (all_passed item List.mem_cons_self)
      obtain ⟨u, left, same'⟩ := ih behind fun item member => all_passed item (List.mem_cons_of_mem _ member)
      exact ⟨u, left, same.trans same'⟩

end Channel.Serves

/-! ### Calls -/

section

variable {ch : Channel σ} {queue : σ → List (Except Error String)} {now : Duration}
  (serves : ch.Serves queue now) {c : Client σ} (some_time : 0 < c.timeout.micros) {method : String}
  {params : Option Json} {s : σ}
  (written : ch.write c.channel (requestLine c.ids.next method params) = (.ok (), s))

include serves written

theorem Channel.Serves.call_eq : c.call ch (.never σ) method params =
    let deadline : Duration := ⟨now.micros + c.timeout.micros⟩
    let answered := Client.await ch (.never σ) c.timeout c.ids.next deadline (ch.clock s).2
    (answered.1, ⟨answered.2, c.ids.take.2, some c.ids.next, c.timeout, c.crashed || !fitsClock deadline⟩) := by
  rw [Client.call_never_eq, written]
  simp only [Channel.answer, serves.clock s]

include some_time

/-- Up to a crash, a call has written its request and read nothing. -/
theorem Channel.Serves.call_orCrash (lost : fitsClock ⟨now.micros + c.timeout.micros⟩ = false) :
    (c.call ch ((Interrupts.never σ).orCrash ch) method params).1 = .error .interrupted ∧
      queue (c.call ch ((Interrupts.never σ).orCrash ch) method params).2.channel = queue s := by
  have sent : Client.send ch ((Interrupts.never σ).orCrash ch) c.channel
      (Request.toJson ⟨c.ids.next, method, params⟩).compact = (.ok (), s) := by
    unfold requestLine at written
    simp only [Client.send, Interrupts.orCrash, Interrupts.never, written]
  have early : ¬ now.micros + c.timeout.micros ≤ now.micros := by omega
  have cut (t : σ) : ((Interrupts.never σ).orCrash ch).read? t c.timeout = some t := by
    simp only [Interrupts.orCrash, serves.clock t, lost, Bool.false_eq_true, if_false]
  simp only [Client.call, Ids.take, sent, serves.clock s]
  rw [Client.await_eq]
  simp only [serves.clock, if_neg early, Nat.add_sub_cancel_left, cut]
  exact ⟨trivial, (serves.queue_clock _).trans (serves.queue_clock s)⟩

/-- What a call comes to that has written its request.  If the clock can show the end of the wait, the call takes
what is queued up to the first item that it does not pass over, in order, and leaves the rest; it comes to what
this item decides.  If it passes over all that is queued, it waits on with nothing queued.  If the clock cannot show
the end of the wait, the program crashes, and has read nothing before.  One line is written in either case, the
request. -/
theorem calls_read_up_to_their_end :
    (fitsClock ⟨now.micros + c.timeout.micros⟩ = true →
      let called := c.call ch (.never σ) method params
      called.2.crashed = c.crashed ∧
      (∀ passed item rest, queue s = passed ++ item :: rest → (∀ p ∈ passed, Passed c.ids.next p) →
          ¬ Passed c.ids.next item →
        Ends c.timeout c.ids.next item called.1 ∧ queue called.2.channel = rest) ∧
      ((∀ p ∈ queue s, Passed c.ids.next p) →
        ∃ t, queue t = [] ∧ (called.1, called.2.channel) =
          Client.await ch (.never σ) c.timeout c.ids.next ⟨now.micros + c.timeout.micros⟩ t)) ∧
    (fitsClock ⟨now.micros + c.timeout.micros⟩ = false →
      (c.call ch (.never σ) method params).2.crashed = true ∧
      let before := c.call ch ((Interrupts.never σ).orCrash ch) method params
      before.1 = .error .interrupted ∧ queue before.2.channel = queue s) ∧
    writtenLines ((Procedure.call method params).transcript ch (.never σ) c) =
      [requestLine c.ids.next method params] := by
  have call_eq := serves.call_eq written
  refine ⟨fun shown => ?_, fun lost => ⟨?_, serves.call_orCrash some_time written lost⟩,
    (Procedure.called_transcript ch (.never σ) c method params).writtenLines⟩
  · rw [call_eq, ← serves.queue_clock s]
    simp only [shown, Bool.not_true, Bool.or_false]
    refine ⟨trivial, fun passed item rest queued all_passed not_passed => ?_, fun all_passed => ?_⟩
    · obtain ⟨t, behind, same⟩ := serves.await_of_all_passed some_time queued all_passed
      rw [same]
      exact serves.await_of_ends some_time behind not_passed
    · exact serves.await_of_all_passed some_time (List.append_nil _).symm all_passed
  · rw [call_eq]
    simp only [lost, Bool.not_false, Bool.or_true]

end

end

/-! ### Rehearsed channels -/

namespace Rehearsed

/-- What reads come to, one after the other; nothing can be read once the server has closed its end. -/
def readings : List Item → List (Except Error String)
  | [] => []
  | .line text :: rest => .ok text :: readings rest
  | .failure e :: rest => .error e :: readings rest
  | .close :: _ => [.error .connectionClosed]

/-- What is to be read from a state. -/
def State.toRead (s : State) : List (Except Error String) :=
  if s.isClosed then [] else readings s.queued

/-- A rehearsed channel gives out what it has queued. -/
theorem serves : channel.Serves State.toRead ⟨0⟩ where
  read := by
    intro s item rest queued allowed
    obtain ⟨reactions, items, closed, lines⟩ := s
    cases closed with
    | true => cases queued
    | false =>
        cases items with
        | nil => cases queued
        | cons first others =>
            cases first with
            | line text =>
                cases queued
                exact ⟨.same _, rfl⟩
            | close =>
                cases queued
                exact ⟨.same _, rfl⟩
            | failure e =>
                cases queued
                cases e with
                | timeout spent => exact ⟨.timeout spent allowed, rfl⟩
                | _ => exact ⟨.same _, rfl⟩
  clock _ := rfl
  queue_clock _ := rfl

end Rehearsed

/-- What a server says of its own while request 7 is waited for. -/
def progressLine : String := "\x7b\"jsonrpc\":\"2.0\",\"method\":\"progress\",\"id\":7\x7d"

/-- The answer to the request before. -/
def lateLine : String := "\x7b\"jsonrpc\":\"2.0\",\"id\":6,\"result\":1\x7d"

/-- The answer to request 7. -/
def answerLine : String := "\x7b\"jsonrpc\":\"2.0\",\"id\":7,\"result\":null\x7d"

/-- A client whose next request is number 7, with a server that goes round about before it answers. -/
def roundaboutWithin (timeout : Duration) : Client Rehearsed.State :=
  .start { reactions := [.queue ([" \t", progressLine, lateLine, answerLine, "later"].map .line)] } ⟨7⟩ timeout

/-- Such a client that waits for a thousand microseconds. -/
def roundabout : Client Rehearsed.State := roundaboutWithin ⟨1000⟩

theorem roundabout_written (timeout : Duration) :
    ∃ s, Rehearsed.channel.write (roundaboutWithin timeout).channel (requestLine 7 "ping" none) = (.ok (), s) ∧
      s.toRead = [.ok " \t", .ok progressLine, .ok lateLine] ++ .ok answerLine :: [.ok "later"] := ⟨_, rfl, rfl⟩

/-- A call reads past a blank line, a notification and a late answer, and leaves what follows its own. -/
theorem roundabout_is_answered :
    0 < roundabout.timeout.micros ∧ fitsClock ⟨0 + roundabout.timeout.micros⟩ = true ∧
    (∃ s, Rehearsed.channel.write roundabout.channel (requestLine roundabout.ids.next "ping" none) = (.ok (), s) ∧
      s.toRead = [.ok " \t", .ok progressLine, .ok lateLine] ++ .ok answerLine :: [.ok "later"]) ∧
    (∀ p ∈ [.ok " \t", .ok progressLine, .ok lateLine], Passed 7 p) ∧ ¬ Passed 7 (.ok answerLine) ∧
    Ends ⟨1000⟩ 7 (.ok answerLine) (roundabout.call Rehearsed.channel (.never _) "ping" none).1 ∧
    (roundabout.call Rehearsed.channel (.never _) "ping" none).2.channel.toRead = [.ok "later"] ∧
    (roundabout.call Rehearsed.channel (.never _) "ping" none).2.crashed = false := by
  have some_time : 0 < roundabout.timeout.micros := by decide
  have shown : fitsClock ⟨0 + roundabout.timeout.micros⟩ = true := by decide
  have all_passed : ∀ p ∈ [.ok " \t", .ok progressLine, .ok lateLine], Passed 7 p := by decide +kernel
  have not_passed : ¬ Passed 7 (.ok answerLine) := by decide +kernel
  obtain ⟨s, taken, queued⟩ := roundabout_written ⟨1000⟩
  obtain ⟨lives, reads, -⟩ := (calls_read_up_to_their_end Rehearsed.serves some_time taken).1 shown
  obtain ⟨ends, left⟩ := reads _ _ _ queued all_passed not_passed
  exact ⟨some_time, shown, ⟨s, taken, queued⟩, all_passed, not_passed, ends, left, lives⟩

/-- If it is to wait for as long as the clock goes, the same call is not answered, although it has some time, has
written its request, and only items that it passes over are queued before its answer: the program crashes, and
nothing has been read. -/
theorem endless_call_is_lost :
    let c := roundaboutWithin clockEnd
    let before := c.call Rehearsed.channel ((Interrupts.never _).orCrash Rehearsed.channel) "ping" none
    0 < c.timeout.micros ∧
    (∃ s, Rehearsed.channel.write c.channel (requestLine 7 "ping" none) = (.ok (), s) ∧
      s.toRead = [.ok " \t", .ok progressLine, .ok lateLine] ++ .ok answerLine :: [.ok "later"]) ∧
    (∀ p ∈ [.ok " \t", .ok progressLine, .ok lateLine], Passed 7 p) ∧ ¬ Passed 7 (.ok answerLine) ∧
    (c.call Rehearsed.channel (.never _) "ping" none).2.crashed = true ∧
    before.2.channel.toRead = [.ok " \t", .ok progressLine, .ok lateLine, .ok answerLine, .ok "later"] ∧
    ¬ Ends c.timeout 7 (.ok answerLine) before.1 := by
  intro c before
  have some_time : 0 < c.timeout.micros := by decide
  obtain ⟨s, taken, queued⟩ := roundabout_written clockEnd
  obtain ⟨cut, unread⟩ : before.1 = .error .interrupted ∧ before.2.channel.toRead = s.toRead :=
    Rehearsed.serves.call_orCrash some_time taken (by decide)
  refine ⟨some_time, ⟨s, taken, queued⟩, by decide +kernel, by decide +kernel, by decide +kernel,
    unread.trans queued, ?_⟩
  rw [cut]
  nofun

end CallScript.Rpc
