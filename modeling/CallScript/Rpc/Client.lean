import CallScript.Rpc.Channel
import CallScript.Rpc.Message

/-! # The client

A `Client` sends one request at a time and waits for its answer.  While it waits, blank lines, messages
of the server's own and late answers to earlier requests are passed over, all within one span of time that
starts when the request has been written.  Each request takes a new id, whether or not it succeeds.

The end of that span of time has to be a point in time that the clock can show.  If it is not, the program
crashes before it reads anything, and the client is marked (`Client.crashed`).  What a marked client comes to
is what it would come to on a clock without end; nobody gets to see it. -/

namespace CallScript.Rpc

/-- A client: the state of its channel, the ids it has left, the id it used last, and how long it waits
for an answer. -/
structure Client (σ : Type) where
  channel : σ
  ids : Ids
  lastId : Option Int64
  timeout : Duration
  /-- Whether the program has crashed in a request of the client. -/
  crashed : Bool

/-- What a line means to the request that waits for an answer. -/
inductive Relevance where
  /-- The answer. -/
  | answer (r : Response)
  /-- Nothing; the wait goes on. -/
  | passed
  /-- The exchange is out of step. -/
  | refused (e : Error)

/-- What a line means to the request of an id. -/
def relevance (id : Int64) (line : String) : Relevance :=
  match Incoming.decode line with
  | .error e => .refused e
  | .ok .blank | .ok (.serverMessage _) => .passed
  | .ok (.response r) =>
    if r.id = id then .answer r
    else if r.id < id then .passed
    else .refused (.protocol
      s!"Response id {r.id.toInt} does not match pending request {id.toInt}")

namespace Client

variable {σ : Type} (ch : Channel σ) (int : Interrupts σ)

/-- A client that has sent nothing yet. -/
def start (channel : σ) (ids : Ids) (timeout : Duration) : Client σ :=
  ⟨channel, ids, none, timeout, false⟩

/-- Writes one line to the channel. -/
def send (s : σ) (line : String) : Except Stop Unit × σ :=
  match int.write? s line with
  | some s => (.error .interrupted, s)
  | none =>
    match ch.write s line with
    | (.ok (), s) => (.ok (), s)
    | (.error e, s) => (.error (.failed e), s)

/-- Waits for the answer to the request of an id until a point in time; `allowed` is the time that a
timeout is reported with. -/
def await (allowed : Duration) (id : Int64) (deadline : Duration) (s : σ) : Except Stop Response × σ :=
  let now := ch.clock s
  if deadline.micros ≤ now.1.micros then (.error (.failed (.timeout allowed)), now.2)
  else
    let left : Duration := ⟨deadline.micros - now.1.micros⟩
    match int.read? now.2 left with
    | some s => (.error .interrupted, s)
    | none =>
      match _h : ch.read now.2 left with
      | (.error (.timeout _), s) => (.error (.failed (.timeout allowed)), s)
      | (.error e, s) => (.error (.failed e), s)
      | (.ok line, s) =>
        match relevance id line with
        | .answer r => (.ok r, s)
        | .refused e => (.error (.failed e), s)
        | .passed => await allowed id deadline s
termination_by ch.backlog s
decreasing_by exact Nat.lt_of_lt_of_eq (ch.read_backlog _h) (ch.clock_backlog _)

/-- Sends a request and waits for its answer.  The program crashes between the two if the clock cannot show
the end of the wait. -/
def call (c : Client σ) (method : String) (params : Option Json) : Except Stop Response × Client σ :=
  let (id, ids) := c.ids.take
  let c := { c with ids, lastId := some id }
  match send ch int c.channel (Request.toJson ⟨id, method, params⟩).compact with
  | (.error stop, s) => (.error stop, { c with channel := s })
  | (.ok (), s) =>
    let now := ch.clock s
    let deadline : Duration := ⟨now.1.micros + c.timeout.micros⟩
    let answered := await ch int c.timeout id deadline now.2
    (answered.1, { c with channel := answered.2, crashed := c.crashed || !fitsClock deadline })

/-- Sends a notification; nothing is read. -/
def notify (c : Client σ) (method : String) (params : Option Json) : Except Stop Unit × Client σ :=
  let sent := send ch int c.channel (Notification.toJson ⟨method, params⟩).compact
  (sent.1, { c with channel := sent.2 })

/-- The method that introduces the client. -/
def introduceMethod : String := "initialize"

/-- The method by which the client says that it has been introduced. -/
def introducedMethod : String := "notifications/initialized"

/-- The method that calls a tool. -/
def callMethod : String := "tools/call"

/-- The method that asks for the tools of a server. -/
def listMethod : String := "tools/list"

/-- Introduces the client.  A server that refuses is of no use, so its refusal is a connection error. -/
def introduce (c : Client σ) (h : Handshake) : Except Stop Json × Client σ :=
  match call ch int c introduceMethod (some h.toJson) with
  | (.error stop, c) => (.error stop, c)
  | (.ok ⟨_, .failure e⟩, c) =>
    (.error (.failed (.connection s!"Server rejected initialize ({e.code.toInt}): {e.message}")), c)
  | (.ok ⟨_, .success result⟩, c) =>
    match notify ch int c introducedMethod none with
    | (.error stop, c) => (.error stop, c)
    | (.ok (), c) => (.ok result, c)

/-- Calls a tool. -/
def callTool (c : Client σ) (name : String) (arguments : Json) : Except Stop Response × Client σ :=
  call ch int c callMethod (some (toolCallParams name arguments))

/-- Asks for the tools of the server. -/
def listTools (c : Client σ) : Except Stop Json × Client σ :=
  match call ch int c listMethod none with
  | (.error stop, c) => (.error stop, c)
  | (.ok r, c) =>
    match r.outcome.toResult listMethod with
    | .ok result => (.ok result, c)
    | .error e => (.error (.failed e), c)

end Client

end CallScript.Rpc
