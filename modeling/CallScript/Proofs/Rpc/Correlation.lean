import Mathlib.Data.List.Nodup
import CallScript.Proofs.Rpc.Transcript
import CallScript.Rpc.Rehearsed

/-! # Requests and their answers

A client that is used for any sequence of operations, over a channel that does what it likes.  Each
operation takes its turn (`Turn`): a request takes the next id and hands over its line under this id, and
what it comes to is read off the last line that is read during the turn, a response that carries the same
id.

* `ids_turns`: the turns of requests take the ids one after the other, whatever comes of them.
* `Turn.Sound`: what holds of every turn (`sound_turns`).
* `runs_recorded`: the turns lie one after the other in the transcript of the run.
* `answers_are_correlated`: the three together, and that an answer belongs to one turn only. -/

namespace CallScript.Rpc

open Procedure

/-- What a client is used for. -/
inductive Operation where
  | call (method : String) (params : Option Json)
  | callTool (name : String) (arguments : Json)
  | introduce (h : Handshake)
  | listTools
  | notify (method : String) (params : Option Json)

/-- What an operation hands back. -/
inductive Handed where
  | response (r : Response)
  | result (j : Json)
  | nothing
  deriving DecidableEq

/-- Whether a response is what was handed back, or holds it as its result. -/
def Handed.IsFrom : Handed → Response → Prop
  | .response r, r' => r = r'
  | .result j, r => r.outcome = .success j
  | .nothing, _ => False

namespace Operation

/-- Whether the operation waits for an answer. -/
def isRequest : Operation → Bool
  | .notify _ _ => false
  | _ => true

/-- The method that the operation names. -/
def method : Operation → String
  | .call method _ | .notify method _ => method
  | .callTool _ _ => Client.callMethod
  | .introduce _ => Client.introduceMethod
  | .listTools => Client.listMethod

/-- The parameters that the operation sends. -/
def params : Operation → Option Json
  | .call _ params | .notify _ params => params
  | .callTool name arguments => some (toolCallParams name arguments)
  | .introduce h => some h.toJson
  | .listTools => none

variable {σ : Type} (ch : Channel σ) (int : Interrupts σ)

/-- The operation, done by a client. -/
def perform (c : Client σ) : Operation → Except Stop Handed × Client σ
  | .call method params =>
    let done := c.call ch int method params
    (done.1.map .response, done.2)
  | .callTool name arguments =>
    let done := c.callTool ch int name arguments
    (done.1.map .response, done.2)
  | .introduce h =>
    let done := c.introduce ch int h
    (done.1.map .result, done.2)
  | .listTools =>
    let done := c.listTools ch int
    (done.1.map .result, done.2)
  | .notify method params =>
    let done := c.notify ch int method params
    (done.1.map fun _ => .nothing, done.2)

/-- The operations one after the other; none of them ends the run. -/
def performAll (c : Client σ) : List Operation → List (Except Stop Handed) × Client σ
  | [] => ([], c)
  | op :: ops =>
    let done := op.perform ch int c
    let rest := performAll done.2 ops
    (done.1 :: rest.1, rest.2)

/-- What a request does once its call has come to an end. -/
def conclude : Operation → Except Stop Response → Procedure (Except Stop Handed)
  | .introduce _, called =>
    (afterIntroduction called).bind fun result => pure (result.map .result)
  | .listTools, called =>
    pure ((called.bind fun r => (r.outcome.toResult Client.listMethod).mapError .failed).map .result)
  | _, called => pure (called.map .response)

/-- The operation as a procedure: a call and its conclusion, or a notification. -/
def procedure (op : Operation) : Procedure (Except Stop Handed) :=
  if op.isRequest then (Procedure.call op.method op.params).bind op.conclude
  else (Procedure.notify op.method op.params).bind fun sent => pure (sent.map fun _ => .nothing)

end Operation

/-- A line that is the text of an object with an id, or of one without. -/
def Carries (line : String) (id : Option Int64) : Prop :=
  ∃ j : Json, line = j.compact ∧ j.field? "id" = id.map .int

theorem carries_requestLine (id : Int64) (method : String) (params : Option Json) :
    Carries (requestLine id method params) (some id) :=
  ⟨_, rfl, Request.field?_id _⟩

theorem carries_notificationLine (method : String) (params : Option Json) :
    Carries (notificationLine method params) none :=
  ⟨_, rfl, Notification.field?_id _⟩

namespace Operation

variable {σ : Type} (ch : Channel σ) (int : Interrupts σ) (c : Client σ)

theorem run_procedure (op : Operation) : op.procedure.run ch int c = op.perform ch int c := by
  cases op with
  | call method params => rfl
  | callTool name arguments => rfl
  | notify method params => rfl
  | introduce h =>
      have introduced := Procedure.run_introduce ch int c h
      simp only [perform]
      rw [← introduced]
      rfl
  | listTools =>
      have listed := Procedure.run_listTools ch int c
      simp only [perform]
      rw [← listed]
      rfl

theorem ids_conclude (op : Operation) (called : Except Stop Response) :
    ((op.conclude called).run ch int c).2.ids = c.ids ∧
      ((op.conclude called).run ch int c).2.lastId = c.lastId := by
  cases op with
  | introduce h =>
      rcases called with stop | ⟨id, result | e⟩
      · exact ⟨rfl, rfl⟩
      · exact ⟨rfl, rfl⟩
      · exact ⟨rfl, rfl⟩
  | _ => exact ⟨rfl, rfl⟩

theorem isFrom_conclude {op : Operation} {called : Except Stop Response} {handed : Handed}
    (h : ((op.conclude called).run ch int c).1 = .ok handed) :
    ∃ r, called = .ok r ∧ handed.IsFrom r := by
  rcases called with stop | r
  · cases op <;> cases h
  refine ⟨r, rfl, ?_⟩
  cases op with
  | introduce hs =>
      rcases r with ⟨id, result | e⟩
      · simp only [conclude, afterIntroduction, Procedure.bind, Procedure.pure] at h
        generalize ((Procedure.notify Client.introducedMethod none).run ch int c).1 = sent at h
        cases sent with
        | error stop => cases h
        | ok _ =>
            cases h
            rfl
      · cases h
  | listTools =>
      rcases r with ⟨id, result | e⟩
      · cases h
        rfl
      · cases h
  | call method params | callTool name arguments | notify method params =>
      cases h
      rfl

/-- Beyond its call a request reads nothing, and writes nothing unless it is an introduction that was
answered by a success. -/
theorem transcript_conclude (op : Operation) (called : Except Stop Response) :
    (op.conclude called).transcript ch int c = [] ∨
      (∃ h, op = .introduce h) ∧ ∃ sent,
        (op.conclude called).transcript ch int c = [.ofWrite introducedLine sent] := by
  cases op with
  | introduce h =>
      rcases called with stop | ⟨id, result | e⟩
      · exact .inl rfl
      · refine .inr ⟨⟨h, rfl⟩, (c.notify ch int Client.introducedMethod none).1, ?_⟩
        simp only [conclude, afterIntroduction]
        rw [transcript_bind, transcript_bind, transcript_notify]
        rfl
      · exact .inl rfl
  | _ => exact .inl rfl

end Operation

/-- What was done in the course of one operation of a run. -/
structure Turn where
  operation : Operation
  /-- The id that the operation took. -/
  id : Option Int64
  outcome : Except Stop Handed
  transcript : List Exchange

/-- The turn hands back what the last line that was read in it says, which is a given response. -/
def Turn.Delivers (turn : Turn) (r : Response) : Prop :=
  ∃ handed line, turn.outcome = .ok handed ∧ handed.IsFrom r ∧
    (receivedLines turn.transcript).getLast? = some line ∧ Incoming.decode line = .ok (.response r)

/-- What holds of a turn, whatever the channel does. -/
structure Turn.Sound (turn : Turn) : Prop where
  isSome_id : turn.id.isSome = turn.operation.isRequest
  /-- A request hands over its line under its own id first, and then at most the notification that ends an
  introduction. -/
  request : ∀ id, turn.id = some id → ∃ line more, writtenLines turn.transcript = line :: more ∧
    line = requestLine id turn.operation.method turn.operation.params ∧ Carries line (some id) ∧
    (more = [] ∨ (∃ h, turn.operation = .introduce h) ∧ more = [introducedLine]) ∧
    ∀ line ∈ more, Carries line none
  /-- A notification hands over its line, and reads nothing. -/
  notification : turn.id = none → ∃ line, writtenLines turn.transcript = [line] ∧
    line = notificationLine turn.operation.method turn.operation.params ∧ Carries line none ∧
    receivedLines turn.transcript = []
  /-- Whatever a request hands back is the response that it read last, and the response carries its id. -/
  answer : ∀ id handed, turn.id = some id → turn.outcome = .ok handed →
    ∃ r, turn.Delivers r ∧ r.id = id

namespace Client

variable {σ : Type} (ch : Channel σ) (int : Interrupts σ)

/-- The turn of one operation. -/
def turn (c : Client σ) (op : Operation) : Turn where
  operation := op
  id := if op.isRequest then (op.perform ch int c).2.lastId else none
  outcome := (op.perform ch int c).1
  transcript := op.procedure.transcript ch int c

/-- The turns of operations that are performed one after the other. -/
def turns (c : Client σ) : List Operation → List Turn
  | [] => []
  | op :: ops => c.turn ch int op :: turns (op.perform ch int c).2 ops

end Client

section

variable {σ : Type} (ch : Channel σ) (int : Interrupts σ) (c : Client σ)

theorem Operation.perform_request {op : Operation} (h : op.isRequest) :
    op.perform ch int c =
      (op.conclude (c.call ch int op.method op.params).1).run ch int
        (c.call ch int op.method op.params).2 := by
  rw [← run_procedure, procedure, if_pos h]
  rfl

theorem Operation.perform_notification {op : Operation} (h : ¬ op.isRequest) :
    op.perform ch int c =
      ((c.notify ch int op.method op.params).1.map fun _ => .nothing,
        (c.notify ch int op.method op.params).2) := by
  rw [← run_procedure, procedure, if_neg h]
  rfl

theorem Operation.ids_request {op : Operation} (h : op.isRequest) :
    (op.perform ch int c).2.ids = c.ids.take.2 ∧
      (op.perform ch int c).2.lastId = some c.ids.next := by
  obtain ⟨ids, lastId⟩ := op.ids_conclude ch int (c.call ch int op.method op.params).2
    (c.call ch int op.method op.params).1
  rw [perform_request ch int c h, ids, lastId]
  exact ⟨Client.ids_call .., Client.lastId_call ..⟩

theorem Operation.ids_notification {op : Operation} (h : ¬ op.isRequest) :
    (op.perform ch int c).2.ids = c.ids := by
  rw [perform_notification ch int c h]
  rfl

theorem sound_turn_of_isRequest {op : Operation} (h : op.isRequest) : (c.turn ch int op).Sound := by
  have id_turn : (c.turn ch int op).id = some c.ids.next := by
    simp only [Client.turn, if_pos h]
    exact (op.ids_request ch int c h).2
  have called := called_transcript ch int c op.method op.params
  -- the transcript of the call, and what the conclusion adds to it
  obtain ⟨more, added, more_cases⟩ : ∃ more, (c.turn ch int op).transcript =
      (Procedure.call op.method op.params).transcript ch int c ++ more ∧
        (more = [] ∨ (∃ hs, op = .introduce hs) ∧ ∃ sent, more = [.ofWrite introducedLine sent]) := by
    refine ⟨_, ?_, op.transcript_conclude ch int (c.call ch int op.method op.params).2
      (c.call ch int op.method op.params).1⟩
    simp only [Client.turn, Operation.procedure, if_pos h]
    exact transcript_bind ..
  have written_more : writtenLines more = [] ∨
      (∃ hs, op = .introduce hs) ∧ writtenLines more = [introducedLine] := by
    rcases more_cases with rfl | ⟨introduction, sent | _, rfl⟩
    · exact .inl rfl
    · exact .inr ⟨introduction, rfl⟩
    · exact .inr ⟨introduction, rfl⟩
  have received_more : receivedLines more = [] := by
    rcases more_cases with rfl | ⟨-, sent | _, rfl⟩ <;> rfl
  refine ⟨by rw [id_turn]; exact h.symm, ?_, ?_, ?_⟩
  · intro id same
    obtain rfl : c.ids.next = id := by simpa [id_turn] using same
    refine ⟨_, writtenLines more, ?_, rfl, carries_requestLine .., written_more, ?_⟩
    · rw [added, writtenLines_append, called.writtenLines]
      rfl
    · intro line mem
      rcases written_more with none_more | ⟨-, one_more⟩
      · simp [none_more] at mem
      · obtain rfl : line = introducedLine := by simpa [one_more] using mem
        exact carries_notificationLine ..
  · intro none_id
    simp [id_turn] at none_id
  · intro id handed same ok
    obtain rfl : c.ids.next = id := by simpa [id_turn] using same
    have ok : (op.perform ch int c).1 = .ok handed := ok
    rw [Operation.perform_request ch int c h] at ok
    obtain ⟨r, came, isFrom⟩ := Operation.isFrom_conclude ch int _ ok
    rw [came] at called
    obtain ⟨line, last, answer⟩ := called.getLast?_receivedLines
    obtain ⟨decoded, same_id⟩ := relevance_eq_answer_iff.mp answer
    refine ⟨r, ⟨handed, line, ?_, isFrom, ?_, decoded⟩, same_id⟩
    · rw [← ok, ← Operation.perform_request ch int c h]
      rfl
    · rw [added, receivedLines_append, received_more, List.append_nil]
      exact last

theorem sound_turn_of_not_isRequest {op : Operation} (h : ¬ op.isRequest) :
    (c.turn ch int op).Sound := by
  have id_turn : (c.turn ch int op).id = none := by simp [Client.turn, if_neg h]
  have noted : (c.turn ch int op).transcript =
      [.ofWrite (notificationLine op.method op.params) (c.notify ch int op.method op.params).1] := by
    simp only [Client.turn, Operation.procedure, if_neg h]
    rw [transcript_bind, transcript_notify]
    rfl
  refine ⟨by rw [id_turn]; simpa [Client.turn] using h, ?_, ?_, ?_⟩
  · intro id same
    simp [id_turn] at same
  · intro _
    rw [noted]
    rcases (c.notify ch int op.method op.params).1 with stop | _
    · exact ⟨_, rfl, rfl, carries_notificationLine .., rfl⟩
    · exact ⟨_, rfl, rfl, carries_notificationLine .., rfl⟩
  · intro id handed same
    simp [id_turn] at same

theorem sound_turn (op : Operation) : (c.turn ch int op).Sound := by
  by_cases h : op.isRequest
  · exact sound_turn_of_isRequest ch int c h
  · exact sound_turn_of_not_isRequest ch int c h

/-- Every turn of a run is sound. -/
theorem sound_turns (ops : List Operation) : ∀ turn ∈ c.turns ch int ops, turn.Sound := by
  induction ops generalizing c with
  | nil => simp [Client.turns]
  | cons op ops ih =>
      intro turn mem
      rcases List.mem_cons.mp mem with rfl | mem
      · exact sound_turn ch int c op
      · exact ih _ turn mem

/-- The turns of requests take the ids of the client one after the other, whatever comes of them. -/
theorem ids_turns (ops : List Operation) :
    (c.turns ch int ops).filterMap Turn.id = c.ids.first (ops.countP Operation.isRequest) := by
  induction ops generalizing c with
  | nil => rfl
  | cons op ops ih =>
      rw [Client.turns]
      by_cases h : op.isRequest
      · obtain ⟨ids, lastId⟩ := op.ids_request ch int c h
        have id_turn : (c.turn ch int op).id = some c.ids.next := by
          simpa only [Client.turn, if_pos h] using lastId
        rw [List.filterMap_cons_some id_turn, ih, List.countP_cons_of_pos h, ids]
        rfl
      · have ids := op.ids_notification ch int c h
        have id_turn : (c.turn ch int op).id = none := by simp only [Client.turn, if_neg h]
        rw [List.filterMap_cons_none id_turn, ih, List.countP_cons_of_neg h, ids]

theorem operation_turns (ops : List Operation) : (c.turns ch int ops).map Turn.operation = ops := by
  induction ops generalizing c with
  | nil => rfl
  | cons op ops ih => rw [Client.turns, List.map_cons, ih, Client.turn]

theorem outcome_turns (ops : List Operation) :
    (c.turns ch int ops).map Turn.outcome = (Operation.performAll ch int c ops).1 := by
  induction ops generalizing c with
  | nil => rfl
  | cons op ops ih => rw [Client.turns, List.map_cons, ih, Operation.performAll, Client.turn]

/-- A recorded run is the run, and its transcript is that of the turns, one after the other. -/
theorem runs_recorded (ops : List Operation) (t : List Exchange) :
    Operation.performAll ch.recorded int.recorded (c.recording t) ops =
      ((c.turns ch int ops).map Turn.outcome,
        (Operation.performAll ch int c ops).2.recording
          (t ++ (c.turns ch int ops).flatMap Turn.transcript)) := by
  induction ops generalizing c t with
  | nil => simp [Operation.performAll, Client.turns]
  | cons op ops ih =>
      have first := op.procedure.run_recorded ch int c t
      rw [Operation.run_procedure, Operation.run_procedure] at first
      rw [Operation.performAll, first]
      simp only [ih, Operation.performAll, Client.turns, Client.turn, List.map_cons,
        List.flatMap_cons, List.append_assoc]

theorem Turn.Delivers.unique {turn : Turn} {r r' : Response} (h : turn.Delivers r)
    (h' : turn.Delivers r') : r = r' := by
  obtain ⟨_, line, -, -, last, decoded⟩ := h
  obtain ⟨_, line', -, -, last', decoded'⟩ := h'
  obtain rfl : line = line' := by simpa [last] using last'
  rw [decoded] at decoded'
  cases decoded'
  rfl

theorem Turn.Sound.id_of_delivers {turn : Turn} {r : Response} (sound : turn.Sound)
    (h : turn.Delivers r) : turn.id = some r.id := by
  cases id_turn : turn.id with
  | none =>
      obtain ⟨_, line, -, -, last, -⟩ := h
      obtain ⟨_, -, -, -, unread⟩ := sound.notification id_turn
      rw [unread] at last
      cases last
  | some id =>
      have delivers := h
      obtain ⟨handed, _, ok, -⟩ := delivers
      obtain ⟨r', delivers, rfl⟩ := sound.answer id handed id_turn ok
      rw [h.unique delivers]

theorem pairwise_id_turns {ops : List Operation}
    (h : c.ids.next.toInt + ops.countP Operation.isRequest < (Bounds.signed : Int)) :
    (c.turns ch int ops).Pairwise fun t u =>
      ∀ id, t.id = some id → ∀ id', u.id = some id' → id ≠ id' := by
  have ints := Ids.toInt_first h
  rw [← ids_turns ch int c ops] at ints
  have nodup : (((c.turns ch int ops).filterMap Turn.id).map Int64.toInt).Nodup := by
    rw [ints]
    refine List.nodup_range.map fun (k l : Nat) same => ?_
    have same : c.ids.next.toInt + k = c.ids.next.toInt + l := same
    omega
  have ids_nodup : ((c.turns ch int ops).filterMap Turn.id).Nodup := nodup.of_map
  exact List.pairwise_filterMap.mp ids_nodup

end

/-- A client whose ids do not run out is used for any operations, over a channel that does what it likes.
Every operation takes a turn, and the transcript of the run is that of the turns, one after the other, so
that each line that is read belongs to one turn only.  The requests take the ids from the first one on in
the order of the operations, whatever came of those before, and every turn is sound: what a request hands
back is a response under its own id, which was read in its own turn.  What carries the id of one turn is
therefore never delivered by another. -/
theorem answers_are_correlated {σ : Type} (ch : Channel σ) (int : Interrupts σ) (s : σ)
    (first : Int64) (allowed : Duration) (ops : List Operation)
    (h : first.toInt + ops.countP Operation.isRequest < (Bounds.signed : Int)) :
    let c := Client.start s ⟨first⟩ allowed
    let turns := c.turns ch int ops
    turns.map Turn.operation = ops ∧
      turns.map Turn.outcome = (Operation.performAll ch int c ops).1 ∧
      Operation.performAll ch.recorded int.recorded (c.recording []) ops =
        (turns.map Turn.outcome,
          (Operation.performAll ch int c ops).2.recording (turns.flatMap Turn.transcript)) ∧
      (turns.filterMap Turn.id).map Int64.toInt =
        (List.range (ops.countP Operation.isRequest)).map (fun k : Nat => first.toInt + k) ∧
      (∀ turn ∈ turns, turn.Sound) ∧
      ∀ (i j : Nat) (t u : Turn) (id : Int64) (r : Response), turns[i]? = some t →
        turns[j]? = some u → i ≠ j → t.id = some id → u.Delivers r → r.id ≠ id := by
  intro c turns
  have bound : c.ids.next.toInt + ops.countP Operation.isRequest < (Bounds.signed : Int) := h
  refine ⟨operation_turns ch int c ops, outcome_turns ch int c ops, runs_recorded ch int c ops [], ?_,
    sound_turns ch int c ops, ?_⟩
  · have ids := ids_turns ch int c ops
    have ints := Ids.toInt_first bound
    rw [ids]
    exact ints
  · intro i j t u id r atI atJ ne id_t delivers
    have sound := sound_turns ch int c ops u (List.mem_of_getElem? atJ)
    have id_u := sound.id_of_delivers delivers
    have distinct := List.pairwise_iff_getElem.mp (pairwise_id_turns ch int c bound)
    obtain ⟨hi, rfl⟩ := List.getElem?_eq_some_iff.mp atI
    obtain ⟨hj, rfl⟩ := List.getElem?_eq_some_iff.mp atJ
    rcases Nat.lt_or_gt_of_ne ne with before | after
    · exact (distinct i j hi hj before id id_t r.id id_u).symm
    · exact distinct j i hj hi after r.id id_u id id_t

/-- The answer to a call that has timed out arrives together with the answer to the next one. -/
theorem late_answer_is_passed_over :
    let late := "\x7b\"jsonrpc\":\"2.0\",\"id\":1,\"result\":\"late\"\x7d"
    let due := "\x7b\"jsonrpc\":\"2.0\",\"id\":2,\"result\":\"due\"\x7d"
    let c := Client.start (⟨[.queue [], .queue [], .queue [.line late, .line due, .line late]], [],
      false, []⟩ : Rehearsed.State) ⟨1⟩ ⟨10⟩
    let ops : List Operation := [.call "m" none, .notify "n" none, .call "m" none]
    let turns := c.turns Rehearsed.channel (.never _) ops
    (1 : Int64).toInt + ops.countP Operation.isRequest < (Bounds.signed : Int) ∧
      turns.map (fun turn => turn.outcome.toOption) =
        [none, some .nothing, some (.response ⟨2, .success (.str "due")⟩)] ∧
      (turns.filterMap Turn.id).map Int64.toInt = [1, 2] ∧
      ∀ turn ∈ turns, turn.Sound := by
  intro late due c ops turns
  have bound : (1 : Int64).toInt + ops.countP Operation.isRequest < (Bounds.signed : Int) := by decide
  obtain ⟨-, -, -, ids, sound, -⟩ :=
    answers_are_correlated Rehearsed.channel (.never _) c.channel 1 ⟨10⟩ ops bound
  exact ⟨bound, by decide +kernel, ids, sound⟩

end CallScript.Rpc
