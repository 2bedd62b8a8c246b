import CallScript.Error

/-! # The course of a run

A run is a state machine.  `State.advance` is its only transition function: it says what follows a state
when an event is reported, and refuses events that do not fit the state.

    idle → starting → ready → executing 0
    executing i → succeeded i → executing (i + 1) or completed
    executing i → failed i    → aborted, executing (i + 1) or completed
    starting → aborted
    any state that is not final → aborted, when interrupted -/

namespace CallScript.Run

/-- What follows a failed step. -/
inductive Policy where
  /-- The lines after it are skipped. -/
  | abort
  /-- The next line, unless the session is gone. -/
  | proceed
  deriving DecidableEq, Repr

/-- How far a run has come. -/
inductive State where
  | idle
  | starting
  | ready
  | executing (index : Nat)
  | succeeded (index : Nat)
  | failed (index : Nat) (isFatal : Bool)
  | aborted
  | completed
  deriving DecidableEq, Repr

/-- What happened in a state. -/
inductive Event where
  | start
  | sessionReady
  | sessionFailed
  | stepPassed
  /-- The step failed; fatally if the session cannot serve another. -/
  | stepFailed (isFatal : Bool)
  | next
  | interrupted
  deriving DecidableEq, Repr

/-- What is fixed for a run: the number of its lines and the policy. -/
structure Plan where
  total : Nat
  policy : Policy
  deriving DecidableEq, Repr

namespace State

/-- Whether the run has come to its end. -/
def isTerminal : State → Bool
  | .aborted | .completed => true
  | _ => false

/-- A state as messages name it. -/
def name : State → String
  | .idle => "Idle"
  | .starting => "SessionStarting"
  | .ready => "Ready"
  | .executing index => s!"Executing({index})"
  | .succeeded index => s!"StepSucceeded({index})"
  | .failed index isFatal => s!"StepFailed \x7b index: {index}, fatal: {isFatal} \x7d"
  | .aborted => "Aborted"
  | .completed => "Completed"

end State

/-- An event as messages name it. -/
def Event.name : Event → String
  | .start => "Start"
  | .sessionReady => "SessionReady"
  | .sessionFailed => "SessionFailed"
  | .stepPassed => "StepPassed"
  | .stepFailed isFatal => s!"StepFailed \x7b fatal: {isFatal} \x7d"
  | .next => "Next"
  | .interrupted => "Interrupted"

/-- The state after a step that lets the run go on. -/
def Plan.afterStep (plan : Plan) (index : Nat) : State :=
  if index + 1 < plan.total then .executing (index + 1) else .completed

namespace State

/-- The state that follows when an event fits a state. -/
def next? (plan : Plan) : State → Event → Option State
  | .idle, .start => some .starting
  | .starting, .sessionReady => some .ready
  | .starting, .sessionFailed => some .aborted
  | .ready, .next => some (if plan.total = 0 then .completed else .executing 0)
  | .executing index, .stepPassed => some (.succeeded index)
  | .executing index, .stepFailed isFatal => some (.failed index isFatal)
  | .succeeded index, .next => some (plan.afterStep index)
  | .failed index isFatal, .next =>
    some (if isFatal || plan.policy = .abort then .aborted else plan.afterStep index)
  | state, .interrupted => if state.isTerminal then none else some .aborted
  | _, _ => none

/-- The state that follows; an event that does not fit is an internal error. -/
def advance (plan : Plan) (state : State) (event : Event) : Except Error State :=
  match state.next? plan event with
  | some next => .ok next
  | none => .error (.internal s!"Invalid runner transition: {state.name} on {event.name}")

end State

end CallScript.Run
