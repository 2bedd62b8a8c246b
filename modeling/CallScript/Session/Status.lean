/-! # Exit statuses

How a process ended: by itself, with a code, or by a signal. -/

namespace CallScript

/-- How a process ended. -/
inductive ExitStatus where
  | code (code : Nat)
  /-- A signal ended it, given by its number. -/
  | signal (number : Nat)
  deriving DecidableEq, Repr

namespace ExitStatus

/-- The signal that asks a process to end. -/
def terminate : Nat := 15

/-- The signal that a process gets when nobody reads what it puts out. -/
def pipe : Nat := 13

/-- The signal that ends a process. -/
def kill : Nat := 9

/-- The names of the signals, the one of number 1 first. -/
def signalNames : List String :=
  ["HUP", "INT", "QUIT", "ILL", "TRAP", "ABRT", "BUS", "FPE", "KILL", "USR1", "SEGV", "USR2", "PIPE",
   "ALRM", "TERM", "STKFLT", "CHLD", "CONT", "STOP", "TSTP", "TTIN", "TTOU", "URG", "XCPU", "XFSZ",
   "VTALRM", "PROF", "WINCH", "IO", "PWR", "SYS"]

/-- The name of a signal, if it has one. -/
def signalName? (number : Nat) : Option String :=
  if number = 0 then none else signalNames[number - 1]?

/-- The wording of a status. -/
def message : ExitStatus → String
  | .code n => s!"exit status: {n}"
  | .signal n =>
    match signalName? n with
    | some name => s!"signal: {n} (SIG{name})"
    | none => s!"signal: {n}"

end ExitStatus

end CallScript
