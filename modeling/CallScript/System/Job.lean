import CallScript.Session.Child
import CallScript.System.Program

/-! # Jobs

A `Job` is a process that runs a program on a machine: it has an input, from which the program takes what its owner has
sent, an output of bounded capacity, and an error output, which is read as it comes.  Time passes only
while the owner of the process waits; meanwhile the process makes one turn after the other
(`Job.run`).  The number of turns of a process is limited, and so is what can still arrive of its
output (`pending_run_le`).  `Job.spawner` starts processes as an operating system does. -/

namespace CallScript

/-- The state of a machine on which no process runs. -/
structure Machine where
  files : Files
  now : Duration := ⟨0⟩
  /-- The directory in which processes are started. -/
  directory : String := "/"
  environment : List (String × String) := []

/-- A process on a machine. -/
structure Job where
  machine : Machine
  /-- What the process is still going to do. -/
  program : Program
  /-- The turns that it has left. -/
  turns : Nat
  /-- When it makes its next turn, unless it has to wait longer. -/
  wakes : Duration
  /-- Whether a process of its own would outlive it. -/
  lingers : Bool := false
  /-- The bytes that were sent to it and not taken yet. -/
  input : ByteArray := .empty
  /-- Whether no more will be sent. -/
  isInputEnded : Bool := false
  /-- Whether it still takes input. -/
  takesInput : Bool := true
  /-- The bytes that it has put out and that have not been received. -/
  output : ByteArray := .empty
  isOutputOpen : Bool := true
  /-- The complete lines of its error output. -/
  errorLines : Array String := #[]
  /-- The bytes after them. -/
  errorRest : ByteArray := .empty
  isErrorOpen : Bool := true
  disposition : Disposition := .ends
  /-- Whether it has been asked to end and has not noticed yet. -/
  isDisturbed : Bool := false
  status : Option ExitStatus := none
  /-- The end of a process of its own that has outlived it. -/
  survivor : Option Duration := none
  /-- Whether the end of its output has been received. -/
  isEndKnown : Bool := false

namespace Job

/-- The number of bytes that the output holds at most. -/
def capacity : Nat := 65536

/-- The time from the start of a process to its first turn. -/
def startupTime : Nat := 1000

/-- The time that a process takes to react. -/
def reactionTime : Nat := 200

/-- The time between two turns. -/
def turnTime : Nat := 2

/-- The least time that a rest takes. -/
def restTime : Nat := 10

/-- The turns that a process has. -/
def lifetime : Nat := 1000000000000

/-- The later one of two points in time. -/
def later (a b : Duration) : Duration := if a.micros ≤ b.micros then b else a

/-- The bytes of a line as text, without the line feeds and carriage returns at its end. -/
def lineText (bytes : ByteArray) : String :=
  let backwards := (Text.Utf8.lossy bytes).toList.reverse
  String.ofList (backwards.dropWhile fun c => c = '\r' || c = '\n').reverse

/-- The lines of a text, and the bytes after the last line feed. -/
def cutLines (lines : Array String) : (rest : ByteArray) → List UInt8 → Array String × ByteArray
  | rest, [] => (lines, rest)
  | rest, b :: bytes =>
    if b = Rpc.Framing.lineFeed then cutLines (lines.push (lineText rest)) .empty bytes
    else cutLines lines (rest.push b) bytes

/-- Whether nothing more will come of the error output. -/
def isErrorEnded (p : Job) : Bool :=
  !p.isErrorOpen || (p.status.isSome && p.survivor.isNone)

/-- Whether nothing more will come of the output. -/
def isOutputEnded (p : Job) : Bool :=
  !p.isOutputOpen || (p.status.isSome && p.survivor.isNone)

/-- The lines of the error output so far.  The last one may lack its line feed once there is no more. -/
def errorsSoFar (p : Job) : List String :=
  if p.isErrorEnded && p.errorRest.size ≠ 0 then (p.errorLines.push (lineText p.errorRest)).toList
  else p.errorLines.toList

/-- The process after its end. -/
def ended (p : Job) (status : ExitStatus) : Job :=
  { p with
    status := some status
    survivor := if p.lingers && p.machine.now.micros < p.wakes.micros then some p.wakes else none }

/-- Whether the process cannot make a turn before something else happens. -/
def isBlocked (p : Job) : Bool :=
  match p.program with
  | .put .output content _ =>
    p.isOutputOpen && content.size ≠ 0 && capacity ≤ p.output.size
  | .take _ _ _ => p.takesInput && p.input.size = 0 && !p.isInputEnded && !p.isDisturbed
  | _ => false

/-- When something happens next without anything from outside. -/
def nextTime? (p : Job) : Option Duration :=
  match p.status with
  | some _ => p.survivor
  | none => if p.isBlocked then none else some (later p.machine.now p.wakes)

/-- The process after it has gone on to what it does next. -/
def goOn (p : Job) (next : Program) : Job := { p with program := next }

/-- Puts out as many bytes as the output takes. -/
def putOut (p : Job) (content : ByteArray) (next : Unit → Program) : Job :=
  if p.isOutputOpen then
    let room := capacity - p.output.size
    let p := { p with output := p.output ++ content.extract 0 (min room content.size) }
    if content.size ≤ room then p.goOn (next ())
    else p.goOn (.put .output (content.extract room content.size) next)
  else p.goOn (next ())

/-- One turn. -/
def turn (p : Job) : Job :=
  if p.status.isSome then { p with survivor := none }
  else
    let p := { p with lingers := false, wakes := ⟨p.machine.now.micros + turnTime⟩ }
    match p.program with
    | .finish status => p.ended status
    | .put .output content next => p.putOut content next
    | .put .error content next =>
      if p.isErrorOpen then
        let lines := cutLines p.errorLines p.errorRest content.toList
        { p with errorLines := lines.1, errorRest := lines.2 }.goOn (next ())
      else p.goOn (next ())
    | .take limit isLine next =>
      if p.takesInput && p.input.size ≠ 0 then
        let all := min (max 1 limit) p.input.size
        let n := if isLine then (Rpc.Framing.afterFeed p.input 0 all).getD all else all
        { p with input := p.input.extract n p.input.size }.goOn (next (.bytes (p.input.extract 0 n)))
      else if p.takesInput && p.isDisturbed && !p.isInputEnded then p.goOn (next .disturbed)
      else p.goOn (next .ended)
    | .rest span lingers next =>
      { p with wakes := ⟨p.machine.now.micros + max restTime span.micros⟩, lingers }.goOn (next ())
    | .close .output next => { p with isOutputOpen := false }.goOn (next ())
    | .close .error next => { p with isErrorOpen := false }.goOn (next ())
    | .refuse next => { p with takesInput := false }.goOn (next ())
    | .heed disposition next => { p with disposition }.goOn (next ())
    | .notice next => { p with isDisturbed := false }.goOn (next p.isDisturbed)
    | .look next => p.goOn (next p.machine.files)
    | .change f next =>
      { p with machine := { p.machine with files := f p.machine.files } }.goOn (next ())

/-- The process at a point in time. -/
def asOf (p : Job) (time : Duration) : Job :=
  { p with machine := { p.machine with now := later p.machine.now time } }

/-- Lets time pass up to a point in time, or until the process is in a state that is waited for. -/
def run (limit : Duration) (wanted : Job → Bool) (p : Job) : Job :=
  if wanted p then p
  else match p.nextTime? with
    | none => p.asOf limit
    | some time =>
      if limit.micros < time.micros then p.asOf limit
      else match _h : p.turns with
        | 0 => p.asOf limit
        | turns + 1 => run limit wanted { (p.asOf time).turn with turns }
termination_by p.turns

/-- Lets a span of time pass, or less if the process gets into a state that is waited for. -/
def wait (p : Job) (span : Duration) (wanted : Job → Bool) : Job :=
  run ⟨p.machine.now.micros + span.micros⟩ wanted p

/-- A bound on what can still arrive of the output. -/
def pending (p : Job) : Nat :=
  p.output.size + p.turns * capacity + (!p.isEndKnown).toNat

theorem size_output_putOut_le (p : Job) (content : ByteArray) (next : Unit → Program) :
    (p.putOut content next).output.size ≤ p.output.size + capacity := by
  simp only [putOut, goOn]
  split
  · split <;> simp only [ByteArray.size_append, ByteArray.size_extract] <;> omega
  · simp

theorem isEndKnown_putOut (p : Job) (content : ByteArray) (next : Unit → Program) :
    (p.putOut content next).isEndKnown = p.isEndKnown := by
  simp only [putOut, goOn]
  split <;> (try split) <;> rfl

/-- A turn puts out no more than the output holds. -/
theorem size_output_turn_le (p : Job) : p.turn.output.size ≤ p.output.size + capacity := by
  unfold turn
  split
  · simp
  · simp only
    split
    case h_2 => exact size_output_putOut_le _ _ _
    all_goals simp only [goOn, ended]
    case h_3 => split <;> simp
    case h_4 => split <;> (try split) <;> simp
    all_goals simp

theorem isEndKnown_turn (p : Job) : p.turn.isEndKnown = p.isEndKnown := by
  unfold turn
  split
  · rfl
  · simp only
    split
    case h_2 => exact isEndKnown_putOut _ _ _
    case h_3 => simp only [goOn]; split <;> rfl
    case h_4 => simp only [goOn]; split <;> (try split) <;> rfl
    all_goals rfl

theorem pending_turn_le {p : Job} {turns : Nat} (h : p.turns = turns + 1) (time : Duration) :
    ({ (p.asOf time).turn with turns } : Job).pending ≤ p.pending := by
  have made := size_output_turn_le (p.asOf time)
  have known := isEndKnown_turn (p.asOf time)
  have more : (turns + 1) * capacity = turns * capacity + capacity := by
    rw [Nat.add_mul, Nat.one_mul]
  simp only [pending, known, h, more]
  simp only [asOf] at *
  omega

/-- Time only takes away from what can still arrive. -/
theorem pending_run_le (limit : Duration) (wanted : Job → Bool) (p : Job) :
    (run limit wanted p).pending ≤ p.pending := by
  fun_induction run limit wanted p with
  | case1 => exact Nat.le_refl _
  | case2 => exact Nat.le_refl _
  | case3 => exact Nat.le_refl _
  | case4 => exact Nat.le_refl _
  | case5 p _ time _ _ turns h ih => exact Nat.le_trans ih (pending_turn_le h time)

/-- Waits for output. -/
def receive (p : Job) (allowed : Duration) : Option Rpc.Framing.Delivery × Job :=
  let p := p.wait allowed fun p => p.output.size ≠ 0 || p.isOutputEnded
  if p.output.size ≠ 0 then (some (.bytes p.output), { p with output := .empty })
  else if p.isOutputEnded && !p.isEndKnown then (some .finish, { p with isEndKnown := true })
  else (none, p)

theorem receive_pending {p p' : Job} {allowed : Duration} {d : Rpc.Framing.Delivery}
    (h : p.receive allowed = (some d, p')) : p'.pending + d.weight ≤ p.pending := by
  have spent := pending_run_le ⟨p.machine.now.micros + allowed.micros⟩
    (fun p => p.output.size ≠ 0 || p.isOutputEnded) p
  unfold receive wait at h
  simp only at h
  split at h
  next some_ =>
    simp only [Prod.mk.injEq, Option.some.injEq] at h
    obtain ⟨rfl, rfl⟩ := h
    simp only [pending, Rpc.Framing.Delivery.weight, Rpc.Framing.Delivery.size,
      ByteArray.size_empty] at *
    omega
  · split at h
    next some_ =>
      simp only [Prod.mk.injEq, Option.some.injEq] at h
      obtain ⟨rfl, rfl⟩ := h
      simp only [Bool.and_eq_true, Bool.not_eq_true'] at some_
      simp only [pending, Rpc.Framing.Delivery.weight, Rpc.Framing.Delivery.size, some_.2] at *
      simp only [Bool.not_false, Bool.not_true, Bool.toNat_true, Bool.toNat_false] at *
      omega
    · simp at h

/-- Sends a text to the input. -/
def send (p : Job) (text : String) : Except String Unit × Job :=
  if p.takesInput && (p.status.isNone || p.survivor.isSome) then
    (.ok (), { p with
      input := p.input ++ text.toUTF8
      wakes := later p.wakes ⟨p.machine.now.micros + reactionTime⟩ })
  else (.error "Broken pipe (os error 32)", p)

/-- Closes the input. -/
def closeInput (p : Job) : Job :=
  { p with
    isInputEnded := true
    wakes := later p.wakes ⟨p.machine.now.micros + reactionTime⟩ }

/-- Asks the process to end. -/
def terminate (p : Job) : Job :=
  if p.status.isSome then p
  else match p.disposition with
    | .ends => p.ended (.signal ExitStatus.terminate)
    | .ignores => p
    | .notes => { p with isDisturbed := true }

/-- Ends the process. -/
def kill (p : Job) : Job :=
  if p.status.isSome then p else p.ended (.signal ExitStatus.kill)

/-- Processes as children. -/
def child : Child Job where
  poll := fun p => (p.status, p)
  await := fun p span =>
    let p := p.wait span fun p => p.status.isSome
    (p.status, p)
  terminate := terminate
  kill := kill
  closeInput := closeInput
  send := send
  receive := receive
  clock := fun p => (p.machine.now, p)
  errorLines := errorsSoFar
  drainErrors := fun p span => p.wait span isErrorEnded
  pending := pending
  receive_pending := receive_pending
  clock_pending := fun _ => rfl

/-- The number of the one process of a machine. -/
def number : Nat := 1000

/-- A new process that runs a program. -/
def ofProgram (machine : Machine) (program : Program) : Job :=
  { machine, program, turns := lifetime, wakes := ⟨machine.now.micros + startupTime⟩ }

/-- Whether a text can be handed to a new process. -/
def isPassable (text : String) : Bool := !text.toList.contains '\x00'

/-- The texts that are handed to a new process. -/
def handedTexts (launch : Launch) : List String :=
  launch.program :: launch.arguments ++ launch.directory.toList ++
    launch.environment.flatMap fun (name, value) => [name, value]

/-- The directory that a new process goes to first; an empty path leads nowhere. -/
def goal (caller : String) (launch : Launch) : String :=
  if launch.directory = some "" then "" else launch.workingDirectory caller

/-- What a program that is launched gets to know, at the place where it works. -/
def startAt (machine : Machine) (launch : Launch) (place : Place) : Start where
  name := launch.program
  arguments := launch.arguments
  directory := place.text
  environment := Fields.merge machine.environment launch.environment
  number := number

/-- Starts a process.  It goes to its directory first, and its program is found from there. -/
def spawn (library : Library) (machine : Machine) (launch : Launch) : Except String Job :=
  if !(handedTexts launch).all isPassable then .error "nul byte found in provided data"
  else
    match machine.files.enter "/" (goal machine.directory launch) with
    | .error flaw => .error flaw.message
    | .ok place =>
      let start := startAt machine launch place
      match machine.files.program start.directory start.environment launch.program with
      | .error flaw => .error flaw.message
      | .ok name => .ok (ofProgram machine (library name start))

/-- Processes as an operating system starts them. -/
def spawner (library : Library) : Spawner Machine Job where
  child := child
  spawn := spawn library
  system := fun p => p.machine

end Job

end CallScript
