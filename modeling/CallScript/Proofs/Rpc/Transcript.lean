import Mathlib.Logic.Basic
import CallScript.Number.Bounds
import CallScript.Proofs.Rpc.Recording

/-! # What a client writes and reads

Each operation of the client as a procedure, and the transcripts that it can have.  A wait for an answer
passes over lines that mean nothing to the request, and stops at the first exchange that ends it (`Wait`).
A call hands one line over for writing and waits only if that line was written (`Called`); a notification
hands over one line and reads nothing.

* `Ids.toInt_first`: the ids that a client hands out are consecutive integers.
* `relevance_eq_answer_iff`: the answer to a request is a response that carries its id.
* `called_transcript`: the transcript of a call and what it comes to.
* `transcript_introduce`: an introduction is a call, and a notification exactly if it was answered by a
  success. -/

namespace CallScript.Rpc

namespace Ids

/-- The ids that are handed out first. -/
def first (ids : Ids) : Nat → List Int64
  | 0 => []
  | n + 1 => ids.take.1 :: ids.take.2.first n

/-- The ids that are left when some have been handed out. -/
def skip (ids : Ids) : Nat → Ids
  | 0 => ids
  | n + 1 => ids.take.2.skip n

theorem first_succ (ids : Ids) (n : Nat) : ids.first (n + 1) = ids.first n ++ [(ids.skip n).next] := by
  induction n generalizing ids with
  | zero => rfl
  | succ n ih => rw [first, ih, first, skip, List.cons_append]

theorem skip_succ (ids : Ids) (n : Nat) : ids.skip (n + 1) = (ids.skip n).take.2 := by
  induction n generalizing ids with
  | zero => rfl
  | succ n ih => rw [skip, ih, skip]

/-- The id after an id is another one, also where the signed range ends. -/
theorem take_ne (ids : Ids) : ids.take.2.next ≠ ids.next := by
  simp [take]

theorem toInt_take {ids : Ids} (h : ids.next.toInt + 1 < (Bounds.signed : Int)) :
    ids.take.2.next.toInt = ids.next.toInt + 1 := by
  have low := ids.next.le_toInt
  have bound : (Bounds.signed : Int) = 9223372036854775808 := rfl
  simp only [take, Int64.toInt_add, Int64.toInt_one]
  exact Int.bmod_eq_of_le (by omega) (by omega)

/-- As long as the signed range lasts, ids are consecutive integers. -/
theorem toInt_first {ids : Ids} {n : Nat} (h : ids.next.toInt + n < (Bounds.signed : Int)) :
    (ids.first n).map Int64.toInt = (List.range n).map fun k : Nat => ids.next.toInt + k := by
  induction n generalizing ids with
  | zero => rfl
  | succ n ih =>
      have step : ids.take.2.next.toInt = ids.next.toInt + 1 := toInt_take (by omega)
      have bound : ids.take.2.next.toInt + n < (Bounds.signed : Int) := by
        rw [step]
        omega
      have rest := ih bound
      rw [first, List.map_cons, rest, List.range_succ_eq_map, List.map_cons, List.map_map, step]
      refine congrArg₂ List.cons ?_ (List.map_congr_left fun k _ => ?_)
      · simp [take]
      · simp only [Function.comp_apply]
        omega

end Ids

/-- The line that a request is written as. -/
def requestLine (id : Int64) (method : String) (params : Option Json) : String :=
  (Request.toJson ⟨id, method, params⟩).compact

/-- The line that a notification is written as. -/
def notificationLine (method : String) (params : Option Json) : String :=
  (Notification.toJson ⟨method, params⟩).compact

/-- The line by which the client says that it has been introduced. -/
def introducedLine : String := notificationLine Client.introducedMethod none

theorem Request.field?_id (r : Request) : r.toJson.field? "id" = some (.int r.id) := rfl

theorem Notification.field?_id (n : Notification) : n.toJson.field? "id" = none := by
  rcases n with ⟨method, _ | params⟩ <;> rfl

/-- The answer to the request of an id is a response that carries this id. -/
theorem relevance_eq_answer_iff {id : Int64} {line : String} {r : Response} :
    relevance id line = .answer r ↔ Incoming.decode line = .ok (.response r) ∧ r.id = id := by
  unfold relevance
  constructor
  · intro h
    split at h
    · cases h
    · cases h
    · cases h
    next found =>
      split at h
      next same =>
        cases h
        exact ⟨found, same⟩
      · split at h <;> cases h
  · rintro ⟨found, same⟩
    rw [found]
    simp [same]

/-- The transcripts of a wait for the answer to the request of an id, and what the wait comes to; a timeout
is reported with the time `allowed`. -/
inductive Wait (allowed : Duration) (id : Int64) : List Exchange → Except Stop Response → Prop
  | expired : Wait allowed id [] (.error (.failed (.timeout allowed)))
  | interrupted : Wait allowed id [.unread .interrupted] (.error .interrupted)
  | timedOut (spent : Duration) :
      Wait allowed id [.unread (.failed (.timeout spent))] (.error (.failed (.timeout allowed)))
  | failed {e : Error} (h : ∀ spent, e ≠ .timeout spent) :
      Wait allowed id [.unread (.failed e)] (.error (.failed e))
  | answered {line : String} {r : Response} (h : relevance id line = .answer r) :
      Wait allowed id [.received line] (.ok r)
  | refused {line : String} {e : Error} (h : relevance id line = .refused e) :
      Wait allowed id [.received line] (.error (.failed e))
  | passed {line : String} {t : List Exchange} {result : Except Stop Response}
      (h : relevance id line = .passed) :
      Wait allowed id t result → Wait allowed id (.received line :: t) result

/-- The transcripts of a call that is written as a given line, and what it comes to. -/
inductive Called (allowed : Duration) (id : Int64) (line : String) :
    List Exchange → Except Stop Response → Prop
  | unsent (stop : Stop) : Called allowed id line [.unsent line stop] (.error stop)
  | sent {t : List Exchange} {result : Except Stop Response} :
      Wait allowed id t result → Called allowed id line (.sent line :: t) result

section

variable {allowed : Duration} {id : Int64} {t : List Exchange} {result : Except Stop Response}

theorem Wait.writtenLines (h : Wait allowed id t result) : writtenLines t = [] := by
  induction h with
  | passed _ _ ih => exact ih
  | _ => rfl

theorem Wait.ok {r : Response} (h : Wait allowed id t (.ok r)) :
    ∃ (passed : List String) (line : String), t = passed.map .received ++ [.received line] ∧
      (∀ l ∈ passed, relevance id l = .passed) ∧ relevance id line = .answer r := by
  generalize e : Except.ok r = result at h
  induction h with
  | answered h =>
      cases e
      exact ⟨[], _, rfl, by simp, h⟩
  | passed h _ ih =>
      obtain ⟨passed, line, rfl, all, answer⟩ := ih e
      exact ⟨_ :: passed, line, rfl, by simpa using ⟨h, all⟩, answer⟩
  | _ => cases e

theorem Wait.eq_ok_of_mem {line : String} {r : Response} (h : Wait allowed id t result)
    (mem : Exchange.received line ∈ t) (answer : relevance id line = .answer r) : result = .ok r := by
  induction h with
  | expired | interrupted | timedOut | failed => simp at mem
  | answered h =>
      obtain rfl : line = _ := by simpa using mem
      rw [answer] at h
      cases h
      rfl
  | refused h =>
      obtain rfl : line = _ := by simpa using mem
      rw [answer] at h
      cases h
  | passed h _ ih =>
      rcases List.mem_cons.mp mem with e | mem
      · cases e
        rw [answer] at h
        cases h
      · exact ih mem

variable {line : String}

/-- A call comes to the response to its request that it has read, if it has read one. -/
theorem Called.eq_ok_iff {r : Response} (h : Called allowed id line t result) :
    result = .ok r ↔ ∃ read, Exchange.received read ∈ t ∧ relevance id read = .answer r := by
  cases h with
  | unsent stop => simp
  | sent wait =>
      constructor
      · rintro rfl
        obtain ⟨passed, read, rfl, -, answer⟩ := wait.ok
        exact ⟨read, by simp, answer⟩
      · rintro ⟨read, mem, answer⟩
        have mem := (List.mem_cons.mp mem).resolve_left (by nofun)
        exact wait.eq_ok_of_mem mem answer

theorem Called.getLast?_receivedLines {allowed : Duration} {id : Int64} {line : String}
    {t : List Exchange} {r : Response} (h : Called allowed id line t (.ok r)) :
    ∃ read, (receivedLines t).getLast? = some read ∧ relevance id read = .answer r := by
  cases h with
  | sent wait =>
      obtain ⟨passed, read, rfl, -, answer⟩ := wait.ok
      refine ⟨read, ?_, answer⟩
      rw [← List.cons_append, receivedLines_append]
      exact List.getLast?_concat

theorem Called.writtenLines (h : Called allowed id line t result) : writtenLines t = [line] := by
  cases h with
  | unsent stop => rfl
  | sent wait => simp [wait.writtenLines]

end

namespace Client

variable {σ τ : Type}

theorem await_eq (ch : Channel σ) (int : Interrupts σ) (allowed : Duration) (id : Int64)
    (deadline : Duration) (s : σ) :
    await ch int allowed id deadline s =
      let now := ch.clock s
      let left : Duration := ⟨deadline.micros - now.1.micros⟩
      if deadline.micros ≤ now.1.micros then (.error (.failed (.timeout allowed)), now.2)
      else match int.read? now.2 left with
        | some s => (.error .interrupted, s)
        | none => match ch.read now.2 left with
          | (.error (.timeout _), s) => (.error (.failed (.timeout allowed)), s)
          | (.error e, s) => (.error (.failed e), s)
          | (.ok line, s) => match relevance id line with
            | .answer r => (.ok r, s)
            | .refused e => (.error (.failed e), s)
            | .passed => await ch int allowed id deadline s := by
  rw [await]
  simp only
  split
  · rfl
  · cases int.read? (ch.clock s).2 ⟨deadline.micros - (ch.clock s).1.micros⟩ with
    | some s => rfl
    | none =>
        rcases ch.read (ch.clock s).2 ⟨deadline.micros - (ch.clock s).1.micros⟩ with ⟨e | line, s⟩
        · cases e <;> rfl
        · rfl

/-! ### The operations as procedures -/

section

variable {f : σ → τ} {ch : Channel σ} {int : Interrupts σ} {ch' : Channel τ} {int' : Interrupts τ}

theorem send_onto (h : Alike f ch int ch' int') (s : σ) (line : String) :
    send ch' int' (f s) line = ((send ch int s line).1, f (send ch int s line).2) := by
  unfold send
  rw [h.write?, h.write]
  cases int.write? s line with
  | some s => rfl
  | none =>
      rcases ch.write s line with ⟨e | _, s⟩
      · rfl
      · rfl

theorem await_onto (h : Alike f ch int ch' int') (allowed : Duration) (id : Int64)
    (deadline : Duration) (s : σ) :
    await ch' int' allowed id deadline (f s) =
      ((await ch int allowed id deadline s).1, f (await ch int allowed id deadline s).2) := by
  fun_induction await ch int allowed id deadline s with
  | case1 s now late =>
      rw [await_eq]
      simp only [h.clock]
      rw [if_pos late]
  | case2 s now late left s' cut =>
      rw [await_eq]
      simp only [h.clock, h.read?]
      rw [if_neg late, cut]
      rfl
  | case3 s now late left uncut spent s' read =>
      rw [await_eq]
      simp only [h.clock, h.read?, h.read]
      rw [if_neg late, uncut, read]
      rfl
  | case4 s now late left uncut e s' notTimeout read =>
      rw [await_eq]
      simp only [h.clock, h.read?, h.read]
      rw [if_neg late, uncut, read]
      cases e <;> first | rfl | exact absurd rfl (notTimeout _)
  | case5 s now late left uncut line s' read r answer =>
      rw [await_eq]
      simp only [h.clock, h.read?, h.read]
      rw [if_neg late, uncut, read]
      simp only [Option.map_none, answer]
  | case6 s now late left uncut line s' read e refused =>
      rw [await_eq]
      simp only [h.clock, h.read?, h.read]
      rw [if_neg late, uncut, read]
      simp only [Option.map_none, refused]
  | case7 s now late left uncut line s' read passed ih =>
      rw [await_eq]
      simp only [h.clock, h.read?, h.read]
      rw [if_neg late, uncut, read]
      simp only [Option.map_none, passed]
      exact ih

theorem call_onto (h : Alike f ch int ch' int') (c : Client σ) (method : String)
    (params : Option Json) :
    call ch' int' (c.onto f) method params =
      ((call ch int c method params).1, (call ch int c method params).2.onto f) := by
  simp only [call, onto, send_onto h]
  rcases send ch int c.channel _ with ⟨stop | _, s⟩
  · rfl
  · simp only [h.clock, await_onto h]

theorem notify_onto (h : Alike f ch int ch' int') (c : Client σ) (method : String)
    (params : Option Json) :
    notify ch' int' (c.onto f) method params =
      ((notify ch int c method params).1, (notify ch int c method params).2.onto f) := by
  simp only [notify, onto, send_onto h]

end

/-! ### Without interrupts -/

section

variable (ch : Channel σ)

theorem await_never (allowed : Duration) (id : Int64) (deadline : Duration) (s : σ) :
    (await ch (.never σ) allowed id deadline s).1 ≠ .error .interrupted := by
  fun_induction await ch (.never σ) allowed id deadline s with
  | case2 s now late left s' cut => cases cut
  | case7 s now late left uncut line s' read passed ih => exact ih
  | _ => nofun

theorem call_never (c : Client σ) (method : String) (params : Option Json) :
    (call ch (.never σ) c method params).1 ≠ .error .interrupted := by
  simp only [call, send, Interrupts.never]
  rcases ch.write c.channel _ with ⟨e | _, s⟩
  · nofun
  · exact await_never ch _ _ _ _

end

/-! ### What is left of the client -/

section

variable (ch : Channel σ) (int : Interrupts σ) (c : Client σ) (method : String)
  (params : Option Json)

/-- A call takes one id and leaves the rest of the client as it is, whatever comes of it; but for the mark of
a crash. -/
theorem snd_call : (call ch int c method params).2 =
    ⟨(call ch int c method params).2.channel, c.ids.take.2, some c.ids.next, c.timeout,
      (call ch int c method params).2.crashed⟩ := by
  simp only [call, Ids.take]
  rcases send ch int c.channel _ with ⟨stop | _, s⟩
  · rfl
  · rfl

@[simp] theorem ids_call : (call ch int c method params).2.ids = c.ids.take.2 := by
  rw [snd_call]

@[simp] theorem lastId_call : (call ch int c method params).2.lastId = some c.ids.next := by
  rw [snd_call]

@[simp] theorem ids_notify : (notify ch int c method params).2.ids = c.ids := rfl

@[simp] theorem lastId_notify : (notify ch int c method params).2.lastId = c.lastId := rfl

end

/-! ### Their transcripts -/

variable (ch : Channel σ) (int : Interrupts σ)

theorem await_recorded (allowed : Duration) (id : Int64) (deadline : Duration) (s : Recorded σ) :
    ∃ t, (await ch.recorded int.recorded allowed id deadline s).2.transcript = s.transcript ++ t ∧
      Wait allowed id t (await ch.recorded int.recorded allowed id deadline s).1 := by
  fun_induction await ch.recorded int.recorded allowed id deadline s with
  | case1 s now late => exact ⟨[], by simp [now, Channel.recorded], .expired⟩
  | case2 s now late left s' cut =>
      have noted := Interrupts.transcript_read cut
      exact ⟨_, noted, .interrupted⟩
  | case3 s now late left uncut spent s' read =>
      have noted := Channel.transcript_read_error read
      exact ⟨_, noted, .timedOut spent⟩
  | case4 s now late left uncut e s' notTimeout read =>
      have noted := Channel.transcript_read_error read
      exact ⟨_, noted, .failed notTimeout⟩
  | case5 s now late left uncut line s' read r answer =>
      have noted := Channel.transcript_read_ok read
      exact ⟨_, noted, .answered answer⟩
  | case6 s now late left uncut line s' read e refused =>
      have noted := Channel.transcript_read_ok read
      exact ⟨_, noted, .refused refused⟩
  | case7 s now late left uncut line s' read passed ih =>
      obtain ⟨t, noted, wait⟩ := ih
      have before := Channel.transcript_read_ok read
      refine ⟨.received line :: t, ?_, .passed passed wait⟩
      rw [noted, before]
      simp [now, Channel.recorded]

theorem send_recorded (s : Recorded σ) (line : String) :
    (send ch.recorded int.recorded s line).2.transcript =
      s.transcript ++ [.ofWrite line (send ch.recorded int.recorded s line).1] := by
  simp only [send, Interrupts.recorded, Channel.recorded]
  cases int.write? s.state line with
  | some state => rfl
  | none =>
      rcases ch.write s.state line with ⟨e | _, state⟩
      · rfl
      · rfl

end Client

namespace Procedure

/-- Sending a request and waiting for its answer. -/
def call (method : String) (params : Option Json) : Procedure (Except Stop Response) where
  run := fun ch int c => c.call ch int method params
  run_onto := fun h c => Client.call_onto h c method params

/-- Sending a notification. -/
def notify (method : String) (params : Option Json) : Procedure (Except Stop Unit) where
  run := fun ch int c => c.notify ch int method params
  run_onto := fun h c => Client.notify_onto h c method params

/-- What follows the call of an introduction. -/
def afterIntroduction : Except Stop Response → Procedure (Except Stop Json)
  | .ok ⟨_, .success result⟩ =>
    (notify Client.introducedMethod none).bind fun notified => pure (notified.map fun _ => result)
  | .ok ⟨_, .failure e⟩ =>
    pure (.error (.failed (.connection
      s!"Server rejected initialize ({e.code.toInt}): {e.message}")))
  | .error stop => pure (.error stop)

/-- Introducing the client. -/
def introduce (hs : Handshake) : Procedure (Except Stop Json) :=
  (call Client.introduceMethod (some hs.toJson)).bind afterIntroduction

/-- Asking for the tools of the server. -/
def listTools : Procedure (Except Stop Json) :=
  (call Client.listMethod none).bind fun called =>
    pure (called.bind fun r => (r.outcome.toResult Client.listMethod).mapError .failed)

variable {σ : Type} (ch : Channel σ) (int : Interrupts σ) (c : Client σ)

theorem run_introduce (hs : Handshake) :
    (introduce hs).run ch int c = c.introduce ch int hs := by
  simp only [introduce, bind, call, Client.introduce]
  rcases c.call ch int Client.introduceMethod (some hs.toJson) with
    ⟨stop | ⟨id, result | e⟩, d⟩
  · rfl
  · simp only [afterIntroduction, bind, notify, pure]
    rcases d.notify ch int Client.introducedMethod none with ⟨stop | _, d⟩
    · rfl
    · rfl
  · rfl

theorem run_listTools : listTools.run ch int c = c.listTools ch int := by
  simp only [listTools, bind, call, pure, Client.listTools]
  rcases c.call ch int Client.listMethod none with ⟨stop | r, d⟩
  · rfl
  · simp only [Except.bind]
    cases r.outcome.toResult Client.listMethod with
    | ok result => rfl
    | error e => rfl

/-- A call writes its request under the next id of the client and waits for the answer to that id. -/
theorem called_transcript (method : String) (params : Option Json) :
    Called c.timeout c.ids.next (requestLine c.ids.next method params)
      ((call method params).transcript ch int c) (c.call ch int method params).1 := by
  have erased := Client.call_onto (alike_state ch int) (c.recording []) method params
  rw [show (c.recording []).onto Recorded.state = c from rfl] at erased
  rw [erased]
  simp only [transcript, call, Client.call, Client.recording, Client.onto, Ids.take, requestLine]
  have noted := Client.send_recorded ch int ⟨c.channel, []⟩ (requestLine c.ids.next method params)
  unfold requestLine at noted
  rcases sent : Client.send ch.recorded int.recorded ⟨c.channel, []⟩ _ with ⟨stop | _, s⟩
  · rw [sent] at noted
    have noted : s.transcript = [.unsent _ stop] := noted
    simp only [noted]
    exact .unsent stop
  · rw [sent] at noted
    have noted : (ch.recorded.clock s).2.transcript = [.sent _] := noted
    obtain ⟨t, more, wait⟩ := Client.await_recorded ch int c.timeout c.ids.next
      ⟨(ch.recorded.clock s).1.micros + c.timeout.micros⟩ (ch.recorded.clock s).2
    simp only [more, noted]
    exact .sent wait

theorem transcript_notify (method : String) (params : Option Json) :
    (notify method params).transcript ch int c =
      [.ofWrite (notificationLine method params) (c.notify ch int method params).1] := by
  have erased := Client.notify_onto (alike_state ch int) (c.recording []) method params
  rw [show (c.recording []).onto Recorded.state = c from rfl] at erased
  rw [erased]
  exact Client.send_recorded ch int ⟨c.channel, []⟩ (notificationLine method params)

/-- An introduction is a call, and a notification if the call was answered by a success. -/
theorem transcript_introduce (hs : Handshake) :
    (introduce hs).transcript ch int c =
      (call Client.introduceMethod (some hs.toJson)).transcript ch int c ++
        match c.call ch int Client.introduceMethod (some hs.toJson) with
        | (.ok ⟨_, .success _⟩, d) =>
          [.ofWrite (notificationLine Client.introducedMethod none)
            (d.notify ch int Client.introducedMethod none).1]
        | _ => [] := by
  rw [introduce, transcript_bind]
  congr 1
  simp only [call]
  rcases c.call ch int Client.introduceMethod (some hs.toJson) with
    ⟨stop | ⟨id, result | e⟩, d⟩
  · rfl
  · simp only [afterIntroduction]
    rw [transcript_bind, transcript_notify]
    rfl
  · rfl

end Procedure

end CallScript.Rpc
