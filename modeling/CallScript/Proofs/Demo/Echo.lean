import CallScript.Proofs.Demo.Link
import CallScript.Proofs.Run.Crashes
import CallScript.Proofs.Run.Tally
import CallScript.Proofs.Script.KeyOrder
import CallScript.Proofs.Script.Variables

/-! # Scripts that call the echoing tool

The client, the runner and the demonstration server together.  A script whose lines all call the echoing tool
gets back what it sends, line by line: the arguments of a line are its parameters with their references
replaced, they travel to the server and back as text, and they are the latest result for the next line.

* `Conversation`: such a script, and the arguments that its lines come to.
* `Echoed`: where a run of it stands after so many lines; `echoed_opened` and `Echoed.step` lead from each
  standing to the next.
* `echo_comes_back`: the whole run; `not_everything_comes_back` says what its limits are for. -/

namespace CallScript.Demo

open Rpc Run

/-- A line calls the echoing tool in a context with these arguments: they are what its parameters come to when
their references are replaced.  No number in them is a double, and the request does not nest too deep. -/
structure Echoes (r : Runner) (context : Context) (line : String) (arguments : Json) : Prop where
  sends : ∃ parameters resolved, Invocation.parse r.schema line = .ok ⟨"echo", parameters⟩ ∧
    context.interpolate parameters = .ok resolved ∧ resolved.toJson = .ok arguments
  no_double : arguments.NoDouble
  shallow : ∀ id : Int64, (Request.toJson ⟨id, Client.callMethod,
    some (toolCallParams "echo" arguments)⟩).depth ≤ Json.maxDepth

/-- Lines that call the echoing tool one after the other, and their arguments: those of each line are the
latest result for the next one. -/
inductive Conversation (r : Runner) : Context → List String → List Json → Prop
  | nil {context : Context} : Conversation r context [] []
  | cons {context : Context} {line : String} {lines : List String} {arguments : Json} {results : List Json}
      (first : Echoes r context line arguments)
      (more : Conversation r (context.record arguments) lines results) :
      Conversation r context (line :: lines) (arguments :: results)

/-- The code of the error that a message of the server carries. -/
def errorCode? (message : Json) : Option Int64 :=
  ((message.field? "error").bind (Json.field? "code")).bind Json.int?

/-- The id of the request for a line, by the position of the line; the first id is for the introduction. -/
def lineId (index : Nat) : Int64 := Int64.ofNat (index + 2)

/-- What the server sends for the introduction and for lines with these arguments. -/
def replies (h : Handshake) (results : List Json) : List Json :=
  success (.int 1) (introduction h.toJson) ::
    results.mapIdx fun index arguments => success (.int (lineId index)) arguments

variable {r : Runner} {context : Context} {lines : List String} {results : List Json}

namespace Conversation

theorem length_eq (h : Conversation r context lines results) : results.length = lines.length := by
  induction h with
  | nil => rfl
  | cons _ _ ih => exact congrArg Nat.succ ih

theorem line (h : Conversation r context lines results) {k : Nat} {line : String}
    (found : lines[k]? = some line) : ∃ arguments, results[k]? = some arguments ∧
      Echoes r ((results.take k).foldl Context.record context) line arguments := by
  induction h generalizing k with
  | nil => cases found
  | cons first more ih =>
      cases k with
      | zero =>
          cases found
          exact ⟨_, rfl, first⟩
      | succ k => exact ih found

end Conversation

theorem Echoes.toSend {line : String} {arguments : Json} (h : Echoes r context line arguments) :
    ∃ parameters, r.toSend context line = some (⟨"echo", parameters⟩, arguments) := by
  obtain ⟨parameters, resolved, parsed, interpolated, written⟩ := h.sends
  refine ⟨parameters, Runner.toSend_eq_some_iff.mpr ⟨parsed, ?_⟩⟩
  simp only [Runner.arguments, interpolated, written]

theorem Echoes.sorted {line : String} {arguments : Json} (h : Echoes r context line arguments)
    (sorted : context.Sorted) : arguments.Sorted := by
  obtain ⟨parameters, sent⟩ := h.toSend
  obtain ⟨parsed, resolved⟩ := Runner.toSend_eq_some_iff.mp sent
  exact Runner.sorted_arguments sorted parsed resolved

/-! ### One line -/

theorem lineId_succ (index : Nat) : lineId (index + 1) = lineId index + 1 :=
  Int64.ofNat_add (index + 2) 1

section

variable (time : Link → Duration)

theorem runStep_echo {c : Client Link} {line : String} {arguments : Json} (index : Nat)
    (lenient : r.options.failOnReportedError = false) (patient : 0 < c.timeout.micros)
    (shown : Link.ShowsEnds time c.timeout) (is_open : c.channel.IsOpen)
    (introduced : c.channel.server.isIntroduced = true) (new_id : some c.ids.next ≠ c.lastId) (sorted : context.Sorted)
    (echoes : Echoes r context line arguments) :
    ∃ s : Step, s.success = true ∧ s.payload = some arguments ∧ s.requestId = some c.ids.next ∧
      r.runStep (Link.channel time) (.never Link) c context index line =
        (.ok ⟨s, context.record arguments, false⟩,
          ⟨c.channel.after c.channel.server (success (.int c.ids.next) arguments), c.ids.take.2,
            some c.ids.next, c.timeout, c.crashed⟩) := by
  obtain ⟨parameters, sent⟩ := echoes.toSend
  have called := Link.callTool_echo time patient shown is_open introduced (echoes.sorted sorted) echoes.no_double
    (echoes.shallow _)
  obtain ⟨⟨millis, stepped⟩, -⟩ := run_step_sent (Link.channel time) (.never Link) c r sent
  have looked (c : Client Link) : look (Link.channel time) c = c := rfl
  let s : Step :=
    { index, line, invocation := some ⟨"echo", parameters⟩, requestId := some c.ids.next,
      success := true, payload := some arguments, millis }
  refine ⟨s, rfl, rfl, rfl, stepped.trans ?_⟩
  simp only [looked, called, Runner.conclude, Runner.answered, lenient, Runner.sent, if_neg new_id]
  rfl

/-! ### A run -/

variable (r) (h : Handshake) (lines results) (allowed : Duration)

/-- A run that has got back the arguments of so many lines, and its client. -/
structure Echoed (k : Nat) (x : Execution) (c : Client Link) : Prop where
  plan_eq : x.plan = ⟨lines.length, r.options.policy⟩
  state_eq : x.state = if k < lines.length then .executing k else .completed
  context_eq : x.context = Context.recorded r.bindings (results.take k)
  sorted : x.context.Sorted
  no_error : x.sessionError = none
  uninterrupted : x.interrupted = false
  successes : x.steps.map Step.success = List.replicate k true
  payloads : x.steps.map Step.payload = (results.take k).map some
  requestIds : x.steps.map Step.requestId = (List.range k).map fun index => some (lineId index)
  is_open : c.channel.IsOpen
  introduced : c.channel.server.isIntroduced = true
  sent_eq : c.channel.sent = replies h (results.take k)
  next_eq : c.ids.next = lineId k
  new_id : some c.ids.next ≠ c.lastId
  timeout_eq : c.timeout = allowed
  lives : c.crashed = false

/-- A client that has said nothing to the server yet. -/
def newClient (requiresIntroduction : Bool) : Client Link :=
  Client.start { server := { requiresIntroduction } } ⟨1⟩ allowed

variable {r h lines results allowed}

/-- A run that is introduced begins with its first line, if it has one. -/
theorem echoed_opened (requiresIntroduction : Bool) (handshake : r.options.handshake = some h)
    (patient : 0 < allowed.micros) (shown : Link.ShowsEnds time allowed)
    (sorted : Value.SortedFields r.bindings) :
    let opened := r.opened (Link.channel time) (newClient allowed requiresIntroduction) lines
    Echoed r lines results h allowed 0 opened.1 opened.2 := by
  have introduced :=
    Link.introduce_eq time (newClient allowed requiresIntroduction) h patient shown ⟨rfl, rfl⟩
  intro opened
  have opened_eq : opened = _ := opened_eq_of_some (Link.channel time) _ r lines handshake
  rw [opened_eq, introduced]
  exact {
    plan_eq := rfl
    state_eq := by
      simp only [Runner.introduced]
      by_cases empty : lines.length = 0
      · rw [if_pos empty, if_neg (by omega)]
      · rw [if_neg empty, if_pos (by omega)]
    context_eq := rfl
    sorted := ⟨nofun, sorted⟩
    no_error := rfl
    uninterrupted := rfl
    successes := rfl
    payloads := rfl
    requestIds := rfl
    is_open := ⟨rfl, rfl⟩
    introduced := rfl
    sent_eq := rfl
    next_eq := rfl
    new_id := fun same => Ids.take_ne ⟨1⟩ (Option.some.inj same)
    timeout_eq := rfl
    lives := rfl }

theorem replies_concat (h : Handshake) (results : List Json) (arguments : Json) :
    replies h (results ++ [arguments]) =
      replies h results ++ [success (.int (lineId results.length)) arguments] := by
  rw [replies, replies, List.mapIdx_concat, List.cons_append]

/-- One more line. -/
theorem Echoed.step {c : Client Link} {k : Nat} (lenient : r.options.failOnReportedError = false)
    (patient : 0 < allowed.micros) (shown : Link.ShowsEnds time allowed)
    (conversation : Conversation r { bindings := r.bindings } lines results)
    (more : k < lines.length)
    (before : Echoed r lines results h allowed k (r.reached (Link.channel time) c lines k).1
      (r.reached (Link.channel time) c lines k).2) :
    Echoed r lines results h allowed (k + 1) (r.reached (Link.channel time) c lines (k + 1)).1
      (r.reached (Link.channel time) c lines (k + 1)).2 := by
  have executing := before.state_eq
  rw [if_pos more] at executing
  have found : lines[k]? = some lines[k] := List.getElem?_eq_getElem more
  obtain ⟨arguments, result, echoes⟩ := conversation.line found
  have taken : results.take (k + 1) = results.take k ++ [arguments] := by
    rw [List.take_add_one, result]
    rfl
  have long_enough : k < results.length := (List.getElem?_eq_some_iff.mp result).1
  have length_eq : (results.take k).length = k := List.length_take_of_le (Nat.le_of_lt long_enough)
  have in_context : Echoes r (r.reached (Link.channel time) c lines k).1.context lines[k] arguments := by
    rw [before.context_eq]
    exact echoes
  obtain ⟨s, passed, payload, requestId, stepped⟩ := runStep_echo time k lenient
    (before.timeout_eq ▸ patient) (before.timeout_eq ▸ shown) before.is_open before.introduced before.new_id
    before.sorted in_context
  obtain ⟨_, _, same, ran, -⟩ :=
    line_executing (Link.channel time) (r.reached (Link.channel time) c lines k).2 r lines executing found
  -- The step that the run takes is the one that has been computed.
  cases stepped.symm.trans same
  have next_eq : (r.reached (Link.channel time) c lines k).2.ids.take.2.next = lineId (k + 1) := by
    rw [lineId_succ, ← before.next_eq]
    rfl
  rw [reached_succ, ran, Execution.afterStep_eq executing]
  exact {
    plan_eq := before.plan_eq
    state_eq := by
      simp only [passed, before.plan_eq, Plan.afterStep]
      rfl
    context_eq := by
      rw [taken, Context.recorded_concat, ← before.context_eq]
    sorted := before.sorted.record (in_context.sorted before.sorted)
    no_error := before.no_error
    uninterrupted := before.uninterrupted
    successes := by
      rw [List.map_append, before.successes, List.replicate_succ']
      simp [passed]
    payloads := by
      rw [List.map_append, before.payloads, taken, List.map_append]
      simp [payload]
    requestIds := by
      rw [List.map_append, before.requestIds, List.range_succ, List.map_append]
      simp [requestId, before.next_eq]
    is_open := before.is_open.after _ _
    introduced := before.introduced
    sent_eq := by
      rw [taken, replies_concat, length_eq, ← before.sent_eq, ← before.next_eq]
      rfl
    next_eq := next_eq
    new_id := fun same => Ids.take_ne _ (Option.some.inj same)
    timeout_eq := before.timeout_eq
    lives := before.lives }

/-- A run has got back the arguments of its first lines, for any number of them. -/
theorem echoed (requiresIntroduction : Bool) (handshake : r.options.handshake = some h)
    (lenient : r.options.failOnReportedError = false) (patient : 0 < allowed.micros)
    (shown : Link.ShowsEnds time allowed) (sorted : Value.SortedFields r.bindings)
    (conversation : Conversation r { bindings := r.bindings } lines results) :
    ∀ k ≤ lines.length, Echoed r lines results h allowed k
      (r.reached (Link.channel time) (newClient allowed requiresIntroduction) lines k).1
      (r.reached (Link.channel time) (newClient allowed requiresIntroduction) lines k).2
  | 0, _ => echoed_opened time requiresIntroduction handshake patient shown sorted
  | k + 1, more => (echoed requiresIntroduction handshake lenient patient shown sorted conversation k
      (Nat.le_of_succ_le more)).step time lenient patient shown conversation more

theorem Echoed.report_success {x : Execution} {c : Client Link}
    (ended : Echoed r lines results h allowed lines.length x c) :
    x.report.success = true ∧ x.report.steps = x.steps := by
  have report_eq : x.report = Report.ofSteps lines.length x.steps none := by
    rw [Execution.report, ended.uninterrupted, if_neg Bool.false_ne_true, ended.plan_eq, ended.no_error]
  have count : x.steps.length = lines.length := by
    rw [← List.length_map Step.success, ended.successes, List.length_replicate]
  have passed : x.steps.all Step.success = true := by
    have all_passed : (x.steps.map Step.success).all id = true := by simp [ended.successes]
    rw [List.all_map] at all_passed
    exact all_passed
  rw [report_eq]
  exact ⟨by simp [Report.ofSteps, count, passed], rfl⟩

theorem errorCode?_of_mem_replies {message : Json} (member : message ∈ replies h results) :
    errorCode? message = none := by
  rcases List.mem_cons.mp member with rfl | answer
  · rfl
  · obtain ⟨index, _, rfl⟩ := List.mem_mapIdx.mp answer
    rfl

/-- A script whose lines call the echoing tool, run over a link to the demonstration server, whether or not
the server requires an introduction: every line passes, the arguments of each line come back as its payload,
the ids count up from two, the server has sent the answers and nothing else, all of which have been read, and
the program has not crashed. -/
theorem echo_comes_back (time : Link → Duration) (requiresIntroduction : Bool) (allowed : Duration) (r : Runner)
    (h : Handshake) (lines : List String) (results : List Json) (patient : 0 < allowed.micros)
    (shown : Link.ShowsEnds time allowed)
    (handshake : r.options.handshake = some h) (lenient : r.options.failOnReportedError = false)
    (sorted : Value.SortedFields r.bindings)
    (conversation : Conversation r { bindings := r.bindings } lines results) :
    let run := r.runOn (Link.channel time) lines (newClient allowed requiresIntroduction)
    run.1.success = true ∧ run.1.steps.map Step.success = List.replicate lines.length true ∧
      run.1.steps.map Step.payload = results.map some ∧
      run.1.steps.map Step.requestId = (List.range lines.length).map (fun index => some (lineId index)) ∧
      run.2.channel.sent = replies h results ∧
      (∀ message ∈ run.2.channel.sent, errorCode? message ≠ some (-32002)) ∧
      run.2.channel.queued = [] ∧ run.2.crashed = false := by
  intro run
  have ended := echoed time requiresIntroduction handshake lenient patient shown sorted conversation
    lines.length (Nat.le_refl _)
  have all_taken : results.take lines.length = results := by
    rw [← conversation.length_eq, List.take_length]
  have run_eq : run = _ := runOn_eq (Link.channel time) (newClient allowed requiresIntroduction) r lines
  generalize r.reached (Link.channel time) (newClient allowed requiresIntroduction) lines lines.length =
    reached at ended run_eq
  obtain ⟨succeeded, steps_eq⟩ := ended.report_success
  have sent_eq : run.2.channel.sent = replies h results := by
    rw [run_eq, ended.sent_eq, all_taken]
  refine ⟨run_eq ▸ succeeded, ?_, ?_, ?_, sent_eq, ?_, ?_, ?_⟩
  · rw [run_eq, steps_eq]
    exact ended.successes
  · rw [run_eq, steps_eq, ← all_taken]
    exact ended.payloads
  · rw [run_eq, steps_eq]
    exact ended.requestIds
  · intro message member
    rw [sent_eq] at member
    rw [errorCode?_of_mem_replies member]
    exact (Option.some_ne_none _).symm
  · rw [run_eq]
    exact ended.is_open.queued_eq
  · rw [run_eq]
    exact ended.lives

end

/-- A server that requires an introduction, and a script whose second line refers to the result of the first. -/
theorem nested_echo_comes_back :
    let h : Handshake := ⟨"2024-11-05", "client", "1"⟩
    let r : Runner :=
      { options :=
          { requestTimeout := ⟨10⟩, startupGrace := ⟨0⟩, shutdownGrace := ⟨0⟩, handshake := some h } }
    let lines := ["echo(b=7, a=it's)", "echo(c=$\x7blast_result\x7d)"]
    let first : Json := .obj [("a", .str "it's"), ("b", .int 7)]
    let second : Json := .obj [("c", first)]
    let run := r.runOn (Link.channel fun _ => ⟨0⟩) lines (newClient ⟨10⟩ true)
    Conversation r { bindings := r.bindings } lines [first, second] ∧ run.1.success = true ∧
      run.1.steps.map Step.payload = [some first, some second] ∧
      run.2.channel.sent = [success (.int 1) (introduction h.toJson), success (.int 2) first,
        success (.int 3) second] ∧
      run.2.channel.queued = [] ∧ run.2.crashed = false := by
  intro h r lines first second run
  have parsed_first : Invocation.parse r.schema "echo(b=7, a=it's)" =
      .ok ⟨"echo", [("a", .text "it's"), ("b", .integer 7)]⟩ := rfl
  have parsed_second : Invocation.parse r.schema "echo(c=$\x7blast_result\x7d)" =
      .ok ⟨"echo", [("c", .reference "last_result")]⟩ := rfl
  have no_double : first.NoDouble := ⟨trivial, trivial, trivial⟩
  have conversation : Conversation r { bindings := r.bindings } lines [first, second] :=
    .cons ⟨⟨_, _, parsed_first, rfl, rfl⟩, no_double, fun _ => Nat.le_of_ble_eq_true rfl⟩
      (.cons ⟨⟨_, _, parsed_second, rfl, rfl⟩, ⟨no_double, trivial⟩, fun _ => Nat.le_of_ble_eq_true rfl⟩ .nil)
  have fits : fitsClock ⟨0 + 10⟩ = true := by decide
  have shown : Link.ShowsEnds (fun _ => ⟨0⟩) ⟨10⟩ := fun _ => fits
  obtain ⟨passed, -, payloads, -, sent_eq, -, queued_eq, lives⟩ :=
    echo_comes_back (fun _ => ⟨0⟩) true ⟨10⟩ r h lines [first, second] (by decide) shown rfl rfl trivial
      conversation
  exact ⟨conversation, passed, payloads, sent_eq, queued_eq, lives⟩

/-- What the limits are for.  A client that is given no time does not even read the answer to its introduction;
one that is given more time than its clock goes on takes the program down; and of a double that a variable holds
its neighbour comes back, since the reader rounds the power of ten before it divides. -/
theorem not_everything_comes_back :
    let h : Handshake := ⟨"2024-11-05", "client", "1"⟩
    let options (allowed : Duration) : Options :=
      { requestTimeout := allowed, startupGrace := ⟨0⟩, shutdownGrace := ⟨0⟩, handshake := some h }
    let impatient : Runner := { options := options ⟨0⟩ }
    let unheard := impatient.runOn (Link.channel fun _ => ⟨0⟩) ["echo(a=1)"] (newClient ⟨0⟩ false)
    let endless : Runner := { options := options clockEnd }
    let lost := endless.runOn (Link.channel fun _ => ⟨0⟩) ["echo(a=1)"] (newClient clockEnd false)
    let x : Binary64 := ⟨false, 947, 2302047711048273⟩
    let y : Binary64 := ⟨false, 947, 2302047711048274⟩
    let r : Runner := { options := options ⟨10⟩, bindings := [("x", .double x)] }
    let altered := r.runOn (Link.channel fun _ => ⟨0⟩) ["echo(a=$\x7bx\x7d)"] (newClient ⟨10⟩ false)
    (Conversation impatient { bindings := impatient.bindings } ["echo(a=1)"] [.obj [("a", .int 1)]] ∧
      unheard.1.success = false ∧ unheard.1.steps.isEmpty = true ∧ unheard.2.channel.queued.length = 1) ∧
    (Conversation endless { bindings := endless.bindings } ["echo(a=1)"] [.obj [("a", .int 1)]] ∧
      lost.2.crashed = true) ∧
    (r.toSend { bindings := r.bindings } "echo(a=$\x7bx\x7d)" =
        some (⟨"echo", [("a", .reference "x")]⟩, .obj [("a", .number (.double x (by decide)))]) ∧
      altered.1.steps.map Step.payload = [some (.obj [("a", .number (.double y (by decide)))])]) := by
  intro h options impatient unheard endless lost x y r altered
  have parsed_one : Invocation.parse Schema.empty "echo(a=1)" = .ok ⟨"echo", [("a", .integer 1)]⟩ := rfl
  have one_line (allowed : Duration) :
      Conversation { options := options allowed } {} ["echo(a=1)"] [.obj [("a", .int 1)]] :=
    .cons ⟨⟨_, _, parsed_one, rfl, rfl⟩, ⟨trivial, trivial⟩, fun _ => Nat.le_of_ble_eq_true rfl⟩ .nil
  have parsed_variable : Invocation.parse r.schema "echo(a=$\x7bx\x7d)" =
      .ok ⟨"echo", [("a", .reference "x")]⟩ := rfl
  have dies : lost.2.crashed = true := by
    obtain ⟨s, written⟩ := Link.exists_send (fun _ => ⟨0⟩) (l := (newClient clockEnd false).channel) rfl
      (requestLine 1 Client.introduceMethod (some h.toJson))
    exact Runner.crashed_runOn_of_endless endless ["echo(a=1)"] (Nat.le_refl clockEnd.micros) rfl written
  exact ⟨⟨one_line ⟨0⟩, by decide +kernel⟩, ⟨one_line clockEnd, dies⟩,
    Runner.toSend_eq_some_iff.mpr ⟨parsed_variable, rfl⟩, by decide +kernel⟩

end CallScript.Demo
