import CallScript.Demo.Server
import CallScript.Proofs.Json.RoundTrip
import CallScript.Proofs.Rpc.Replies

/-! # A client and the demonstration server, in memory

A `Link` is a channel whose other end is the demonstration server: a line that is written is handed to the
server, and what the server puts out is queued.  Whatever the clock of the link shows, it shows the same for as
long as nothing is written or read.

* `Server.react_request`, `Server.react_introduced`: the server reads what the client writes.
* `decode_success`: the client reads what the server sends.
* `Link.call_success`: a call that the server answers with a success takes that answer and leaves nothing
  behind; so do `Link.introduce_eq` and `Link.callTool_echo`. -/

namespace CallScript.Demo

open Rpc

/-! ### The link -/

/-- The demonstration server at the other end of a channel. -/
structure Link where
  server : Server
  /-- The lines that are to be read. -/
  queued : List String := []
  /-- The messages that the server has sent so far, in order. -/
  sent : List Json := []
  /-- How many milliseconds the server has rested so far. -/
  rested : Nat := 0
  /-- Whether the server has ended. -/
  hasLeft : Bool := false

namespace Link

/-- What the acts of the server do to the link. -/
def perform : List Act → Link → Link
  | [], l => l
  | .send message :: rest, l =>
    perform rest { l with queued := l.queued ++ [message.compact], sent := l.sent ++ [message] }
  | .babble line :: rest, l => perform rest { l with queued := l.queued ++ [line] }
  | .rest millis :: rest, l => perform rest { l with rested := l.rested + millis }
  | .leave _ :: _, l => { l with hasLeft := true }

/-- Hands a line to the server, unless it has ended. -/
def write (l : Link) (line : String) : Except Error Unit × Link :=
  if l.hasLeft then (.error (.connection "Server has exited"), l)
  else (.ok (), perform (l.server.react line).1 { l with server := (l.server.react line).2 })

/-- Takes the line that was queued first. -/
def read (l : Link) (allowed : Duration) : Except Error String × Link :=
  match l.queued with
  | line :: rest => (.ok line, { l with queued := rest })
  | [] => (.error (if l.hasLeft then .connectionClosed else .timeout allowed), l)

theorem length_queued_read {l l' : Link} {allowed : Duration} {line : String}
    (h : read l allowed = (.ok line, l')) : l'.queued.length < l.queued.length := by
  unfold read at h
  split at h
  next queued =>
    cases h
    rw [queued]
    exact Nat.lt_succ_self _
  · cases h

/-- The link as a channel, whose clock shows a time that depends on the state of the link alone. -/
def channel (time : Link → Duration) : Channel Link where
  write := write
  read := read
  clock := fun l => (time l, l)
  backlog := fun l => l.queued.length
  read_backlog := length_queued_read
  clock_backlog := fun _ => rfl

end Link

/-! ### Both ends read what the other one writes -/

theorem field?_ordered (key : String) (fields : List (String × Json)) :
    (Json.obj fields).ordered.field? key =
      ((Json.orderedFields fields).filter (·.1 = key)).getLast?.map Prod.snd := by
  rw [Json.ordered]
  exact Fields.find?_ofList key _

theorem depth_request (id : Int64) (method : String) (params : Json) :
    (Request.toJson ⟨id, method, some params⟩).depth = params.depth + 1 := by
  simp [Request.toJson, paramsField, Json.depth, Json.fieldsDepth, Json.int]

theorem depth_toolCallParams (name : String) (arguments : Json) :
    (toolCallParams name arguments).depth = arguments.depth + 1 := by
  simp [toolCallParams, Json.depth, Json.fieldsDepth]

theorem depth_success (id : Int64) (result : Json) : (success (.int id) result).depth = result.depth + 1 := by
  simp [success, Json.depth, Json.fieldsDepth, Json.int]

variable {params result : Json}

/-- The server answers a request by its method, its id and its parameters. -/
theorem Server.react_request (s : Server) (id : Int64) (method : String) (sorted : params.Sorted)
    (no_double : params.NoDouble) (shallow : params.depth + 1 ≤ Json.maxDepth) :
    s.react (requestLine id method (some params)) = (s.answer method (.int id) params, s) := by
  have request_no_double : (Request.toJson ⟨id, method, some params⟩).NoDouble :=
    ⟨trivial, trivial, trivial, no_double, trivial⟩
  have read := Json.read?_compact request_no_double (depth_request id method params ▸ shallow)
  have method_found : (Request.toJson ⟨id, method, some params⟩).ordered.field? "method" =
      some (.str method) := field?_ordered "method" _
  have id_found : (Request.toJson ⟨id, method, some params⟩).ordered.field? "id" = some (.int id) :=
    field?_ordered "id" _
  have params_found : (Request.toJson ⟨id, method, some params⟩).ordered.field? "params" = some params :=
    (field?_ordered "params" _).trans (congrArg some (Json.ordered_eq_self params sorted))
  simp only [react, requestLine, read, part, method_found, id_found, params_found, textOf, Json.str?,
    Option.getD_some]

/-- The server does not answer the notification, but from then on the client is introduced. -/
theorem Server.react_introduced (s : Server) :
    s.react introducedLine = ([], { s with isIntroduced := true }) := by
  have read : Json.read? introducedLine = some (Notification.toJson ⟨Client.introducedMethod, none⟩).ordered :=
    Json.read?_compact ⟨trivial, trivial, trivial⟩ (by decide)
  have method_found : (Notification.toJson ⟨Client.introducedMethod, none⟩).ordered.field? "method" =
      some (.str Client.introducedMethod) := field?_ordered "method" _
  have id_found : (Notification.toJson ⟨Client.introducedMethod, none⟩).ordered.field? "id" = none :=
    field?_ordered "id" _
  simp only [react, read, part, method_found, id_found, textOf, Json.str?, Option.getD_some]
  rfl

theorem sorted_success (id : Int64) (sorted : result.Sorted) : (success (.int id) result).Sorted :=
  ⟨.of_keys ["id", "jsonrpc", "result"] rfl (by decide), trivial, trivial, sorted, trivial⟩

/-- The client reads a success as the answer to the request of its id. -/
theorem decode_success (id : Int64) (sorted : result.Sorted) (no_double : result.NoDouble)
    (shallow : result.depth + 1 ≤ Json.maxDepth) :
    Incoming.decode (success (.int id) result).compact = .ok (.response ⟨id, .success result⟩) := by
  have success_no_double : (success (.int id) result).NoDouble := ⟨trivial, trivial, no_double, trivial⟩
  have read : Json.readAll? (success (.int id) result).compact.toList = some (success (.int id) result) :=
    (Json.read?_compact success_no_double (depth_success id result ▸ shallow)).trans
      (congrArg some (Json.ordered_eq_self _ (sorted_success id sorted)))
  have no_blank : (success (.int id) result).compact.toList.all Text.isBlank = false := by
    rw [Json.compact, String.toList_ofList]
    rfl
  unfold Incoming.decode Incoming.read
  rw [no_blank, if_neg Bool.false_ne_true, read]
  rfl

/-! ### Calls over the link -/

namespace Link

/-- The link once the server has sent a message and the client has read it. -/
def after (l : Link) (server : Server) (message : Json) : Link :=
  { l with server, sent := l.sent ++ [message] }

/-- A link over which a call can be made: no line is left to be read, and the server is there. -/
structure IsOpen (l : Link) : Prop where
  queued_eq : l.queued = []
  stays : l.hasLeft = false

theorem IsOpen.after {l : Link} (h : l.IsOpen) (server : Server) (message : Json) :
    (l.after server message).IsOpen := ⟨h.queued_eq, h.stays⟩

theorem write_eq {l : Link} (stays : l.hasLeft = false) (line : String) :
    write l line = (.ok (), perform (l.server.react line).1 { l with server := (l.server.react line).2 }) := by
  rw [write, if_neg (Bool.eq_false_iff.mp stays)]

variable (time : Link → Duration) {c : Client Link}

theorem exists_send {l : Link} (stays : l.hasLeft = false) (line : String) :
    ∃ s, Client.send (channel time) (.never Link) l line = (.ok (), s) := by
  simp only [Client.send, Interrupts.never, channel, write_eq stays]
  exact ⟨_, rfl⟩

/-- The clock of the link can show the end of every wait. -/
def ShowsEnds (time : Link → Duration) (allowed : Duration) : Prop :=
  ∀ l, fitsClock ⟨(time l).micros + allowed.micros⟩ = true

theorem answer_queued (l : Link) {allowed : Duration} {line : String} {response : Response}
    (patient : 0 < allowed.micros) (queued : l.queued = [line])
    (decoded : Incoming.decode line = .ok (.response response)) :
    (channel time).answer allowed response.id l = (.ok response, { l with queued := [] }) := by
  have relevant : relevance response.id line = .answer response :=
    relevance_eq_answer_iff.mpr ⟨decoded, rfl⟩
  have looked (l : Link) : (channel time).clock l = (time l, l) := rfl
  have uncut (allowed : Duration) : (Interrupts.never Link).read? l allowed = none := rfl
  have taken (allowed : Duration) : (channel time).read l allowed = (.ok line, { l with queued := [] }) := by
    simp only [channel, read, queued]
  unfold Channel.answer
  rw [Client.await_eq]
  simp only [looked, uncut, taken, relevant]
  -- The clock shows what it showed when the deadline was set.
  rw [if_neg (by omega)]

/-- A call that the server answers with a success takes this answer and leaves nothing in the queue. -/
theorem call_success {method : String} {params : Option Json} {server : Server}
    (patient : 0 < c.timeout.micros) (shown : ShowsEnds time c.timeout) (is_open : c.channel.IsOpen)
    (reacts : c.channel.server.react (requestLine c.ids.next method params) =
      ([.send (success (.int c.ids.next) result)], server))
    (sorted : result.Sorted) (no_double : result.NoDouble) (shallow : result.depth + 1 ≤ Json.maxDepth) :
    c.call (channel time) (.never Link) method params = (.ok ⟨c.ids.next, .success result⟩,
      ⟨c.channel.after server (success (.int c.ids.next) result), c.ids.take.2, some c.ids.next,
        c.timeout, c.crashed⟩) := by
  let replied : Link :=
    { c.channel.after server (success (.int c.ids.next) result) with
      queued := [(success (.int c.ids.next) result).compact] }
  have written : (channel time).write c.channel (requestLine c.ids.next method params) = (.ok (), replied) := by
    refine (write_eq is_open.stays _).trans ?_
    rw [reacts]
    simp only [perform, is_open.queued_eq]
    rfl
  have answered := answer_queued time replied patient rfl
    (decode_success c.ids.next sorted no_double shallow)
  have taken : { replied with queued := [] } = c.channel.after server (success (.int c.ids.next) result) := by
    simp only [replied, Link.after, is_open.queued_eq]
  have fits : fitsClock ⟨((channel time).clock replied).1.micros + c.timeout.micros⟩ = true := shown replied
  rw [Client.call_never_eq, written]
  rw [taken] at answered
  simp only [fits, Bool.not_true, Bool.or_false] at answered ⊢
  rw [answered]

/-! ### The introduction and the calls of the echoing tool -/

theorem sorted_handshake (h : Handshake) : h.toJson.Sorted :=
  ⟨.of_keys ["capabilities", "clientInfo", "protocolVersion"] rfl (by decide),
    ⟨.of_keys ["tools"] rfl (by decide), ⟨.nil, trivial⟩, trivial⟩,
    ⟨.of_keys ["name", "version"] rfl (by decide), trivial, trivial, trivial⟩, trivial, trivial⟩

theorem noDouble_handshake (h : Handshake) : h.toJson.NoDouble :=
  ⟨⟨trivial, trivial⟩, ⟨trivial, trivial, trivial⟩, trivial, trivial⟩

theorem sorted_introduction (h : Handshake) : (introduction h.toJson).Sorted :=
  ⟨.of_keys ["capabilities", "protocolVersion", "serverInfo"] rfl (by decide),
    ⟨.of_keys ["tools"] rfl (by decide), ⟨.nil, trivial⟩, trivial⟩, trivial,
    ⟨.of_keys ["name", "version"] rfl (by decide), trivial, trivial, trivial⟩, trivial⟩

theorem noDouble_introduction (h : Handshake) : (introduction h.toJson).NoDouble :=
  ⟨⟨trivial, trivial⟩, trivial, ⟨trivial, trivial, trivial⟩, trivial⟩

/-- An introduction over the link. -/
theorem introduce_eq (c : Client Link) (h : Handshake) (patient : 0 < c.timeout.micros)
    (shown : ShowsEnds time c.timeout) (is_open : c.channel.IsOpen) :
    c.introduce (channel time) (.never Link) h = (.ok (introduction h.toJson),
      ⟨c.channel.after { c.channel.server with isIntroduced := true }
        (success (.int c.ids.next) (introduction h.toJson)), c.ids.take.2, some c.ids.next, c.timeout,
        c.crashed⟩) := by
  have reacts := c.channel.server.react_request c.ids.next Client.introduceMethod (sorted_handshake h)
    (noDouble_handshake h) (Nat.le_of_ble_eq_true rfl)
  have called : c.call (channel time) (.never Link) Client.introduceMethod (some h.toJson) = _ :=
    call_success time patient shown is_open reacts (sorted_introduction h) (noDouble_introduction h)
      (Nat.le_of_ble_eq_true rfl)
  have notified : (channel time).write (c.channel.after c.channel.server
      (success (.int c.ids.next) (introduction h.toJson))) introducedLine = (.ok (),
        c.channel.after { c.channel.server with isIntroduced := true }
          (success (.int c.ids.next) (introduction h.toJson))) := by
    refine (write_eq (is_open.after _ _).stays _).trans ?_
    rw [Server.react_introduced]
    rfl
  unfold Client.introduce
  rw [called]
  simp only
  rw [Client.notify_never_eq, ← introducedLine, notified]
  rfl

theorem sorted_toolCallParams (name : String) {arguments : Json} (sorted : arguments.Sorted) :
    (toolCallParams name arguments).Sorted :=
  ⟨.of_keys ["arguments", "name"] rfl (by decide), sorted, trivial, trivial⟩

/-- Once the client is introduced, the echoing tool answers with its arguments, whether or not the server asks
for an introduction. -/
theorem answer_echo (s : Server) (id arguments : Json) (introduced : s.isIntroduced = true) :
    s.answer Client.callMethod id (toolCallParams "echo" arguments) = [.send (success id arguments)] := by
  have calls : s.answer Client.callMethod id (toolCallParams "echo" arguments) =
      if s.requiresIntroduction && !s.isIntroduced then
        [.send (failure id (-32002) "tools/call before notifications/initialized")]
      else callTool id (toolCallParams "echo" arguments) := rfl
  rw [calls, introduced, Bool.not_true, Bool.and_false, if_neg Bool.false_ne_true]
  rfl

/-- A call of the echoing tool over the link. -/
theorem callTool_echo {arguments : Json} (patient : 0 < c.timeout.micros)
    (shown : ShowsEnds time c.timeout) (is_open : c.channel.IsOpen)
    (introduced : c.channel.server.isIntroduced = true) (sorted : arguments.Sorted)
    (no_double : arguments.NoDouble)
    (shallow : (Request.toJson ⟨c.ids.next, Client.callMethod,
      some (toolCallParams "echo" arguments)⟩).depth ≤ Json.maxDepth) :
    c.callTool (channel time) (.never Link) "echo" arguments = (.ok ⟨c.ids.next, .success arguments⟩,
      ⟨c.channel.after c.channel.server (success (.int c.ids.next) arguments), c.ids.take.2,
        some c.ids.next, c.timeout, c.crashed⟩) := by
  rw [depth_request, depth_toolCallParams] at shallow
  have reacts := c.channel.server.react_request c.ids.next Client.callMethod
    (sorted_toolCallParams "echo" sorted) ⟨no_double, trivial, trivial⟩
    (depth_toolCallParams "echo" arguments ▸ shallow)
  rw [answer_echo _ _ _ introduced] at reacts
  exact call_success time patient shown is_open reacts sorted no_double (Nat.le_of_succ_le shallow)

end Link

end CallScript.Demo
