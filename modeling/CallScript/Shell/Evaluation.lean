import CallScript.Shell.Builtin
import CallScript.Shell.Redirection
import CallScript.System.Tools

/-! # Executing shell scripts

What the process of a shell does to execute a script.  Commands are executed one after the other; each
one goes on, breaks out of a loop, returns from a function, or ends the shell (`Outcome`).  The bound on
the steps is far beyond the turns of any process. -/

namespace CallScript.Shell

/-- What follows a command. -/
inductive Outcome where
  | done
  /-- So many loops are left. -/
  | broken (levels : Nat)
  /-- All but the last of so many loops are left, and that one goes on with its next round. -/
  | continued (levels : Nat)
  | returned
  | exited
  deriving DecidableEq, Repr

/-- How a command is executed. -/
structure Mode where
  /-- Whether nothing comes after it. -/
  isLast : Bool := false
  /-- Whether its status is a condition, so that a failure does not end the shell. -/
  isTested : Bool := false
  /-- The number of loops around it. -/
  loops : Nat := 0
  /-- Whether a function executes it. -/
  isInFunction : Bool := false

/-- What goes on after a command. -/
abbrev Resume := Outcome → Next

/-- The commands whose failure ends the shell, and whose variables stay set. -/
def specialCommands : List String :=
  [":", ".", "break", "continue", "eval", "exec", "exit", "export", "readonly", "return", "set",
   "shift", "trap", "unset"]

/-- The mode of a condition. -/
def Mode.tested (mode : Mode) : Mode := { mode with isLast := false, isTested := true }

/-- The mode of a command that others follow. -/
def Mode.inner (mode : Mode) : Mode := { mode with isLast := false }

/-- The mode of the body of a loop. -/
def Mode.inLoop (mode : Mode) : Mode := { mode with isLast := false, loops := mode.loops + 1 }

/-- The mode of the body of a function. -/
def Mode.inFunction (mode : Mode) : Mode :=
  { mode with isLast := false, loops := 0, isInFunction := true }

/-- The commands that do nothing here. -/
def idleCommands : List String :=
  [":", "true", "wait", "ulimit", "hash", "alias", "unalias", "times"]

/-- The state of a shell that another one begins within itself. -/
def State.isolated (sh : State) : State :=
  { sh with
    onExit := none
    onTerminate := if sh.onTerminate = some [] then some [] else none
    saved := [] }

/-- The state of a shell after one within it has ended. -/
def State.rejoin (outer inner : State) : State :=
  { outer with status := inner.status, texts := inner.texts, gathered := inner.gathered }

/-- The script of a shell. -/
inductive Source where
  | text (text : Octets)
  | file (path : String)
  | input
  deriving DecidableEq, Repr

/-- How a shell begins. -/
structure Beginning where
  source : Source := .input
  name : Octets
  arguments : List Octets := []
  stopsOnError : Bool := false
  stopsOnUnset : Bool := false

/-- What the arguments of a shell say. -/
def Beginning.read (b : Beginning) (isText isInput : Bool) : List String → Except String Beginning
  | [] => if isText then .error "-c requires an argument" else .ok b
  | argument :: rest =>
    match argument.toList with
    | ['-', '-'] | ['-'] => finish b isText isInput rest
    | '-' :: options =>
      match options.find? fun c => !"ceusxvfahilmnbIEV".toList.contains c with
      | some bad => .error s!"Illegal option -{bad}"
      | none =>
        Beginning.read { b with
          stopsOnError := b.stopsOnError || options.contains 'e'
          stopsOnUnset := b.stopsOnUnset || options.contains 'u' }
          (isText || options.contains 'c') (isInput || options.contains 's') rest
    | _ => finish b isText isInput (argument :: rest)
where
  /-- What the arguments after the options say. -/
  finish (b : Beginning) (isText isInput : Bool) (arguments : List String) : Except String Beginning :=
    match isText, isInput, arguments with
    | true, _, [] => .error "-c requires an argument"
    | true, _, text :: [] => .ok { b with source := .text (Octets.ofText text) }
    | true, _, text :: name :: rest => .ok { b with
        source := .text (Octets.ofText text)
        name := Octets.ofText name
        arguments := rest.map Octets.ofText }
    | false, true, arguments => .ok { b with arguments := arguments.map Octets.ofText }
    | false, false, [] => .ok b
    | false, false, path :: rest => .ok { b with
        source := .file path
        name := Octets.ofText path
        arguments := rest.map Octets.ofText }

/-- What goes on after a command within a loop: the loop itself, or what follows the loop. -/
def Outcome.inLoop (next : Resume) (again : Next) : Resume := fun outcome sh =>
  match outcome with
  | .done | .continued 0 | .continued 1 => again sh
  | .continued (n + 2) => next (.continued (n + 1)) sh
  | .broken 0 | .broken 1 => next .done sh
  | .broken (n + 2) => next (.broken (n + 1)) sh
  | .returned => next .returned sh
  | .exited => next .exited sh

/-- The wording of a status of a program. -/
def codeOf : ExitStatus → Nat
  | .code n => n % 256
  | .signal n => 128 + n

/-- Sets variables that are given as `name=value`, or names alone. -/
def declare (isExported : Bool) (sh : State) (argument : Octets) : State :=
  let name := argument.takeWhile (· ≠ '=')
  let sh := match argument.drop name.length with
    | _ :: value => sh.assign name value
    | [] => sh
  if isExported && !sh.exported.contains name then { sh with exported := name :: sh.exported } else sh

/-- The name and the value of a setting. -/
def readSetting (argument : Octets) : Octets × Octets :=
  let name := argument.takeWhile (· ≠ '=')
  (name, argument.drop (name.length + 1))

/-- What the options and arguments of `set` do. -/
def performSet (sh : State) : List Octets → State
  | [] => sh
  | ['-', '-'] :: arguments => { sh with arguments }
  | ('-' :: options) :: rest =>
    performSet { sh with
      stopsOnError := sh.stopsOnError || options.contains 'e'
      stopsOnUnset := sh.stopsOnUnset || options.contains 'u' } rest
  | ('+' :: options) :: rest =>
    performSet { sh with
      stopsOnError := sh.stopsOnError && !options.contains 'e'
      stopsOnUnset := sh.stopsOnUnset && !options.contains 'u' } rest
  | arguments => { sh with arguments }

/-- Sets what is done at a signal. -/
def setTrap (sh : State) (action : Option Octets) (signal : Octets) : Option State :=
  match signalNumber? signal with
  | some 0 => some { sh with onExit := action }
  | some n => if n = ExitStatus.terminate then some { sh with onTerminate := action } else some sh
  | none => none

/-- What the process does when it is asked to end. -/
def dispositionOf (sh : State) : Disposition :=
  match sh.onTerminate with
  | none => .ends
  | some [] => .ignores
  | some _ => .notes

/-- What `trap` does. -/
def performTrap (arguments : List Octets) (sh : State) (next : Next) : Program :=
  let arguments := if arguments.head? = some ['-', '-'] then arguments.tail else arguments
  match arguments with
  | [] => next { sh with status := 0 }
  | action :: signals =>
    let (action, signals) := if signals.isEmpty then (none, [action])
      else (if action = ['-'] then none else some action, signals)
    match signals.find? fun s => (signalNumber? s).isNone with
    | some bad =>
      sh.put 2 (Octets.ofText s!"trap: {bad.text}: bad trap\n").bytes fun _ sh =>
        next { sh with status := 1 }
    | none =>
      let changed := signals.foldl (fun sh signal => (setTrap sh action signal).getD sh) sh
      .heed (dispositionOf changed) fun _ => next { changed with status := 0 }

/-- The signal and the targets of `kill`. -/
def killTargets : List Octets → Option (Nat × List Octets)
  | ['-', 's'] :: signal :: targets => (signalNumber? signal).map fun n => (n, targets)
  | ['-', '-'] :: targets => some (ExitStatus.terminate, targets)
  | ('-' :: signal) :: targets => (signalNumber? signal).map fun n => (n, targets)
  | targets => some (ExitStatus.terminate, targets)

/-- The signals that do nothing to a process that does not care for them. -/
def harmlessSignals : List Nat := [0, 17, 18, 23, 28]

/-- Whether a flaw may go away when the script goes on. -/
def ReadFlaw.isOpenEnded : ReadFlaw → Bool
  | .unexpected token _ => token.isEmpty
  | .unterminatedQuote | .unterminatedBackquote | .missingBrace | .missingParentheses => true
  | _ => false

mutual

/-- What an expansion within a command needs. -/
def expander : (fuel : Nat) → Resume → Expander
  | 0, next => ⟨fun _ sh go => go [] sh, next .exited⟩
  | fuel + 1, next =>
    { abort := next .exited
      gather := fun command sh go =>
        let inner := { sh.isolated with gathered := .empty }.redirect 1 (some .gathered)
        execute fuel {} command inner fun _ inner =>
          depart fuel inner fun inner =>
            go (Octets.ofBytes inner.gathered) { sh with
              status := inner.status
              outputStatus := inner.status
              texts := inner.texts } }
termination_by structural fuel => fuel

/-- Executes what is to be done when a shell ends. -/
def depart : (fuel : Nat) → State → Next → Program
  | 0, sh, next => next sh
  | fuel + 1, sh, next =>
    match sh.onExit with
    | none | some [] => next sh
    | some text =>
      script fuel {} (countLines text) text { sh with onExit := none } fun outcome after =>
        next (if outcome = .exited then after else { after with status := sh.status })
termination_by structural fuel => fuel

/-- Executes the lines of a script. -/
def script : (fuel : Nat) → Mode → (total : Nat) → Octets → State → Resume → Program
  | 0, _, _, _, sh, next => next .exited sh
  | fuel + 1, mode, total, text, sh, next =>
    match readScriptLine total text with
    | .error flaw =>
      let line := if flaw.isOpenEnded then total + 1 else total + 1 - countLines text
      { sh with line }.complain flaw.message fun sh => next .exited { sh with status := 2 }
    | .ok none => next .done sh
    | .ok (some (command, rest)) =>
      let isLast := mode.isLast && (skipLines rest.length rest).isEmpty
      execute fuel { mode with isLast } command sh fun outcome sh =>
        match outcome with
        | .returned | .exited => next outcome sh
        | _ => script fuel mode total rest sh next
termination_by structural fuel => fuel

/-- Goes on after a simple command: a request to end is attended to, and a failure may end the shell. -/
def settle : (fuel : Nat) → Mode → State → Resume → Program
  | 0, _, sh, next => next .exited sh
  | fuel + 1, mode, sh, next =>
    let go := fun (sh : State) =>
      if sh.stopsOnError && sh.status ≠ 0 && !mode.isTested then next .exited sh else next .done sh
    match sh.onTerminate with
    | none | some [] => go sh
    | some text =>
      .notice fun isAsked =>
        if isAsked then attend fuel text sh next go else go sh
termination_by structural fuel => fuel

/-- Executes what is to be done when the shell is asked to end. -/
def attend : (fuel : Nat) → Octets → State → Resume → Next → Program
  | 0, _, sh, next, _ => next .exited sh
  | fuel + 1, text, sh, next, go =>
    script fuel {} (countLines text) text sh fun outcome after =>
      if outcome = .exited then next .exited after else go { after with status := sh.status }
termination_by structural fuel => fuel

/-- Replaces the values of variables that are set before a command.  Each one sees those before it. -/
def values : (fuel : Nat) → List (Octets × List Part) → (done : List (Octets × Octets)) → State → Resume →
    (List (Octets × Octets) → Next) → Program
  | 0, _, done, sh, _, go => go done.reverse sh
  | _ + 1, [], done, sh, _, go => go done.reverse sh
  | fuel + 1, (name, word) :: rest, done, sh, next, go =>
    (expander fuel next).text word sh fun value sh =>
      values fuel rest ((name, value) :: done) (sh.assign name value) next go
termination_by structural fuel => fuel

/-- Executes a command word with its arguments; `own` are the variables set for it alone. -/
def invoke : (fuel : Nat) → Mode → (own : List (Octets × Octets)) → (name : Octets) → List Octets →
    State → Resume → Program
  | 0, _, _, _, _, sh, next => next .exited sh
  | fuel + 1, mode, own, name, arguments, sh, next =>
    let finish := fun (sh : State) => settle fuel mode sh next
    let ended := fun (status : Nat) (sh : State) => finish { sh with status }
    let set := fun (sh : State) => own.foldl (fun sh (name, value) => sh.assign name value) sh
    let before := own.map fun (name, _) => (name, sh.valueOf? name)
    let back := fun (sh : State) => before.foldl (fun sh (name, value) => sh.restore name value) sh
    let command := name.text
    let count := fun (usual : Nat) =>
      match arguments with
      | [] => some usual
      | a :: _ => if !a.isEmpty && a.all Text.isDigit then some (Text.digitsToNat a) else none
    let illegal := fun (sh : State) =>
      sh.blame command s!"Illegal number: {((arguments.head?).getD []).text}" fun sh =>
        next .exited { sh with status := 2 }
    let own? := sh.functions.find? fun f => f.1 = name
    if specialCommands.contains command then
      let sh := set sh
      match command with
      | "exit" =>
        match count sh.status with
        | some n => next .exited { sh with status := n % 256 }
        | none => illegal sh
      | "return" =>
        match count sh.status with
        | some n => next .returned { sh with status := n % 256 }
        | none => illegal sh
      | "break" =>
        match count 1 with
        | some n =>
          if mode.loops = 0 then ended 0 sh
          else next (.broken (min n mode.loops)) { sh with status := 0 }
        | none => illegal sh
      | "continue" =>
        match count 1 with
        | some n =>
          if mode.loops = 0 then ended 0 sh
          else next (.continued (min n mode.loops)) { sh with status := 0 }
        | none => illegal sh
      | "shift" =>
        match count 1 with
        | some n =>
          if n ≤ sh.arguments.length then
            ended 0 { sh with arguments := sh.arguments.drop n }
          else sh.blame command "can't shift that many" fun sh => next .exited { sh with status := 2 }
        | none => illegal sh
      | "eval" =>
        let text := [' '].intercalate arguments
        script fuel mode (countLines text) text { sh with status := 0 } next
      | "." =>
        match arguments with
        | [] => ended 0 sh
        | path :: _ =>
          .look fun files =>
            match files.read "/" (sh.path path) with
            | .error _ =>
              sh.blame command s!"cannot open {path.text}: No such file" fun sh =>
                next .exited { sh with status := 2 }
            | .ok content =>
              let text := Octets.ofBytes content
              script fuel mode.inner (countLines text) text sh fun outcome sh =>
                next (if outcome = .returned then .done else outcome) sh
      | "set" => ended 0 (performSet sh arguments)
      | "export" | "readonly" =>
        ended 0 (arguments.foldl (declare (command = "export")) sh)
      | "unset" =>
        match arguments with
        | ['-', 'f'] :: names =>
          ended 0 { sh with functions := sh.functions.filter fun f => !names.contains f.1 }
        | ['-', 'v'] :: names => ended 0 (names.foldl State.unset sh)
        | names => ended 0 (names.foldl State.unset sh)
      | "trap" => performTrap arguments sh finish
      | _ => ended 0 sh
    else match own? with
    | some (_, body) =>
      let inner := { set sh with arguments, saved := [] }
      execute fuel mode.inFunction body inner fun outcome after =>
        let restored := after.saved.foldl (fun sh (name, value) => sh.restore name value) after
        let after := back { restored with arguments := sh.arguments, saved := sh.saved }
        match outcome with
        | .exited => next .exited after
        | _ => settle fuel mode after next
    | none =>
      let perform := fun (p : Performed) =>
        (set sh).put 1 p.output.bytes fun isFine sh =>
          let complaints := p.complaints ++
            if isFine || p.output.isEmpty then [] else [s!"{command}: {command}: I/O error"]
          let status := if isFine || p.output.isEmpty then p.status else 1
          complaints.foldr (fun message (go : Next) (sh : State) => sh.complain message go)
            (fun sh => ended status (back sh)) sh
      match command with
      | "echo" => perform { output := echoed arguments }
      | "printf" => perform (performPrintf arguments)
      | "pwd" => perform { output := Octets.ofText (sh.directory.push '\n') }
      | "false" => ended 1 sh
      | "test" | "[" => .look fun files => perform (performTest files sh.directory command arguments)
      | "read" => performRead arguments (set sh) fun sh => finish (back sh)
      | "cd" => performCd arguments sh finish
      | "umask" => perform { output := "0022\n".toList }
      | "local" =>
        if !mode.isInFunction then
          sh.blame command "not in a function" fun sh => next .exited { sh with status := 2 }
        else ended 0 (arguments.foldl (fun sh argument =>
          let name := argument.takeWhile (· ≠ '=')
          declare false { sh with saved := (name, sh.valueOf? name) :: sh.saved } argument) sh)
      | "command" =>
        match arguments with
        | [] => ended 0 sh
        | ['-', 'v'] :: wanted :: _ =>
          .look fun files =>
            let isKnown := (files.program sh.directory (sh.environment []) wanted.text).isOk ||
              specialCommands.contains wanted.text || idleCommands.contains wanted.text ||
              (sh.functions.any fun f => f.1 = wanted)
            if isKnown then perform { output := wanted ++ ['\n'] } else ended 127 sh
        | name :: arguments =>
          invoke fuel mode own name arguments
            { sh with functions := sh.functions.filter fun f => f.1 ≠ name } fun outcome after =>
              next outcome { after with functions := sh.functions }
      | "kill" =>
        match killTargets arguments with
        | none =>
          let letter : Octets := (((arguments.head?).getD []).drop 1).take 1
          sh.blame command s!"Illegal option -{letter.text}" (ended 2)
        | some (signal, targets) =>
          if targets.isEmpty then
            sh.blame command
              "Usage: kill [-s sigspec | -signum | -sigspec] [pid | job]... or\nkill -l [exitstatus]"
              (ended 2)
          else if targets.all (· = State.natText sh.number) then
            if harmlessSignals.contains signal then ended 0 sh
            else match decide (signal = ExitStatus.terminate), sh.onTerminate with
              | true, some [] => ended 0 sh
              | true, some text => attend fuel text { sh with status := 0 } next finish
              | _, _ => .finish (.signal signal)
          else sh.blame command "No such process\n" (ended 1)
      | _ =>
        if idleCommands.contains command then ended 0 sh
        else
          let isReplacing := mode.isLast && sh.onExit.isNone && dispositionOf sh ≠ .notes
          external fuel false isReplacing own name arguments sh ended
termination_by structural fuel => fuel

/-- Executes a program of the system.  `isReplacing` says whether the program takes the place of the
shell. -/
def external : (fuel : Nat) → (isExec isReplacing : Bool) → (own : List (Octets × Octets)) → (name : Octets) →
    List Octets → State → (Nat → Next) → Program
  | 0, _, _, _, _, _, sh, go => go 127 sh
  | fuel + 1, isExec, isReplacing, own, name, arguments, sh, go =>
    let environment := sh.environment own
    let label := if isExec then "exec: " else ""
    .look fun files =>
      match files.program sh.directory environment name.text with
      | .error flaw =>
        let (reason, status) := if flaw = .denied then ("Permission denied", 126) else ("not found", 127)
        sh.complain s!"{label}{name.text}: {reason}" (go status)
      | .ok program =>
        let start : Start := {
          name := name.text
          arguments := arguments.map Octets.text
          directory := sh.directory
          environment
          number := sh.number }
        let settings := if program = "env" then arguments.takeWhile (·.contains '=') else []
        let wanted := if program = "env" then arguments.drop settings.length else []
        match wanted, Tools.named? program with
        | name :: arguments, _ =>
          external fuel false isReplacing (own ++ settings.map readSetting) name arguments sh go
        | [], some tool =>
          let streams := State.streams (!isReplacing) fun sh =>
            go (codeOf (.signal ExitStatus.pipe)) sh
          tool streams start sh fun status sh => go (codeOf status) sh
        | [], none =>
          shell fuel start (fun fresh => { fresh with
            descriptors := sh.descriptors
            texts := sh.texts
            gathered := sh.gathered
            onTerminate := sh.isolated.onTerminate })
            fun inner => go inner.status (sh.rejoin inner)
termination_by structural fuel => fuel

/-- Executes a shell from its beginning to its end; `prepare` is what it takes over. -/
def shell : (fuel : Nat) → Start → (prepare : State → State) → Next → Program
  | 0, start, prepare, next => next (prepare (State.fresh start [] []))
  | fuel + 1, start, prepare, next =>
    let name := Octets.ofText start.name
    match Beginning.read { name } false false start.arguments with
    | .error message =>
      { prepare (State.fresh start name []) with line := 0 }.complain message fun sh =>
        next { sh with status := 2 }
    | .ok b =>
      let sh := { prepare (State.fresh start b.name b.arguments) with
        stopsOnError := b.stopsOnError
        stopsOnUnset := b.stopsOnUnset }
      let leave : Resume := fun _ sh => depart fuel sh next
      match b.source with
      | .text text => script fuel { isLast := true } (countLines text) text sh leave
      | .input => dialogue fuel [] 0 sh leave
      | .file path =>
        .look fun files =>
          match files.read start.directory path with
          | .error _ =>
            { sh with line := 0, name }.complain s!"cannot open {path}: No such file" fun sh =>
              next { sh with status := 2 }
          | .ok content =>
            let text := Octets.ofBytes content
            script fuel {} (countLines text) text sh leave
termination_by structural fuel => fuel

/-- Executes the lines of the input; `given` is what has been read of a command that is not complete. -/
def dialogue : (fuel : Nat) → (given : Octets) → (lines : Nat) → State → Resume → Program
  | 0, _, _, sh, next => next .exited sh
  | fuel + 1, given, lines, sh, next =>
    sh.take 65536 true fun
      | .disturbed, sh => settle fuel {} sh fun outcome sh =>
          if outcome = .exited then next .exited sh else dialogue fuel given lines sh next
      | .ended, sh =>
        if given.isEmpty then next .done sh
        else script fuel {} (lines + countLines given) given sh next
      | .bytes piece, sh =>
        let given := given ++ Octets.ofBytes piece
        let total := lines + countLines given
        if given.getLast? ≠ some '\n' then dialogue fuel given lines sh next
        else match readScriptLine total given with
          | .error flaw =>
            if flaw.isOpenEnded then dialogue fuel given lines sh next
            else script fuel {} total given sh next
          | .ok _ =>
            script fuel {} total given sh fun outcome sh =>
              if outcome = .exited then next .exited sh else dialogue fuel [] total sh next
termination_by structural fuel => fuel

/-- Executes the rounds of a loop; `status` is that of the last round. -/
def rounds : (fuel : Nat) → (isUntil : Bool) → (condition body : Command) → (status : Nat) → Mode →
    State → Resume → Program
  | 0, _, _, _, _, _, sh, next => next .exited sh
  | fuel + 1, isUntil, condition, body, status, mode, sh, next =>
    .rest ⟨0⟩ false fun _ =>
      execute fuel mode.inLoop.tested condition sh <| Outcome.inLoop next fun sh =>
        if (sh.status = 0) = isUntil then next .done { sh with status }
        else
          execute fuel mode.inLoop body sh <| Outcome.inLoop next fun sh =>
            rounds fuel isUntil condition body sh.status mode sh next
termination_by structural fuel => fuel

/-- Executes a loop over texts. -/
def overAll : (fuel : Nat) → (name : Octets) → List Octets → Command → Mode → State → Resume → Program
  | 0, _, _, _, _, sh, next => next .exited sh
  | _ + 1, _, [], _, _, sh, next => next .done sh
  | fuel + 1, name, value :: rest, body, mode, sh, next =>
    .rest ⟨0⟩ false fun _ =>
      execute fuel mode.inLoop body (sh.assign name value) <|
        Outcome.inLoop next fun sh => overAll fuel name rest body mode sh next
termination_by structural fuel => fuel

/-- Executes the first case that a text fits. -/
def fitting : (fuel : Nat) → Octets → List (List (List Part) × Command) → Mode → State → Resume → Program
  | 0, _, _, _, sh, next => next .exited sh
  | _ + 1, _, [], _, sh, next => next .done { sh with status := 0 }
  | fuel + 1, text, ([], _) :: cases, mode, sh, next => fitting fuel text cases mode sh next
  | fuel + 1, text, (pattern :: others, body) :: cases, mode, sh, next =>
    (expander fuel next).pattern pattern sh fun pattern sh =>
      if PatternItem.matchesAll pattern text then
        match body with
        | .nothing => next .done { sh with status := 0 }
        | body => execute fuel mode body sh next
      else fitting fuel text ((others, body) :: cases) mode sh next
termination_by structural fuel => fuel

/-- Executes a command. -/
def execute : (fuel : Nat) → Mode → Command → State → Resume → Program
  | 0, _, _, sh, next => next .exited sh
  | fuel + 1, mode, command, sh, next =>
    let tested := mode.tested
    let inner := mode.inner
    match command with
    | .nothing => next .done sh
    | .sequence first second =>
      execute fuel inner first sh fun outcome sh =>
        if outcome = .done then execute fuel mode second sh next else next outcome sh
    | .both first second =>
      execute fuel tested first sh fun outcome sh =>
        if outcome = .done && sh.status = 0 then execute fuel mode second sh next else next outcome sh
    | .either first second =>
      execute fuel tested first sh fun outcome sh =>
        if outcome = .done && sh.status ≠ 0 then execute fuel mode second sh next else next outcome sh
    | .negation command =>
      execute fuel tested command sh fun outcome sh =>
        next outcome { sh with status := if sh.status = 0 then 1 else 0 }
    | .conditional condition yes no =>
      execute fuel tested condition sh fun outcome sh =>
        if outcome ≠ .done then next outcome sh
        else if sh.status = 0 then execute fuel mode yes sh next
        else match no with
          | .nothing => next .done { sh with status := 0 }
          | no => execute fuel mode no sh next
    | .loop isUntil condition body => rounds fuel isUntil condition body 0 mode sh next
    | .each name words body =>
      match words with
      | none => overAll fuel name sh.arguments body mode { sh with status := 0 } next
      | some words =>
        (expander fuel next).words words [] sh fun values sh =>
          overAll fuel name values body mode { sh with status := 0 } next
    | .select word cases =>
      (expander fuel next).text word sh fun text sh => fitting fuel text cases mode sh next
    | .define name body =>
      next .done { sh with
        status := 0
        functions := (name, body) :: sh.functions.filter fun f => f.1 ≠ name }
    | .subshell command =>
      execute fuel inner command sh.isolated fun _ inner =>
        depart fuel inner fun inner => settle fuel mode (sh.rejoin inner) next
    | .background command =>
      let isRest := match command with
        | .simple _ _ (word :: _) _ => decide (plainText word = "sleep".toList)
        | _ => false
      if isRest then next .done { sh with status := 0 }
      else execute fuel inner command (sh.isolated.redirect 0 (some .nowhere)) fun _ inner =>
        next .done { sh.rejoin inner with status := 0 }
    | .pipeline first second =>
      let gathering := { sh.isolated with gathered := .empty }.redirect 1 (some .gathered)
      execute fuel inner first gathering fun _ gathered =>
        let reading := { sh.isolated with texts := gathered.texts }.openText 0
          (Octets.ofBytes gathered.gathered)
        execute fuel inner second reading fun _ inner => settle fuel mode (sh.rejoin inner) next
    | .redirected line command redirections =>
      performRedirections (expander fuel next) redirections { sh with line } fun isFine opened =>
        if !isFine then next .done { opened with descriptors := sh.descriptors, status := 2 }
        else execute fuel inner command opened fun outcome after =>
          next outcome { after with descriptors := sh.descriptors }
    | .simple line assignments words redirections =>
      let e := expander fuel next
      e.words words [] { sh with line, outputStatus := 0 } fun fields expanded =>
        performRedirections e redirections expanded fun isFine opened =>
          let closed := { opened with descriptors := expanded.descriptors }
          match fields with
          | [] =>
            if !isFine then settle fuel mode { closed with status := 2 } next
            else values fuel assignments [] closed next fun _ sh =>
              settle fuel mode { sh with status := sh.outputStatus } next
          | name :: arguments =>
            if !isFine then
              if specialCommands.contains name.text then next .exited { closed with status := 2 }
              else settle fuel mode { closed with status := 2 } next
            else values fuel assignments [] opened next fun own set =>
              let opened := assignments.foldl
                (fun sh (name, _) => sh.restore name (opened.valueOf? name)) set
              if name = "exec".toList then
                match arguments with
                | [] =>
                  releaseUnused expanded opened fun sh => settle fuel mode { sh with status := 0 } next
                | name :: arguments =>
                  let go := fun (_ : Unit) =>
                    external fuel true true own name arguments
                      { opened with onExit := none, onTerminate := opened.isolated.onTerminate }
                      fun status _ => .finish (.code status)
                  if dispositionOf opened = .notes then .heed .ends go else go ()
              else invoke fuel mode own name arguments opened fun outcome after =>
                next outcome { after with descriptors := expanded.descriptors }
termination_by structural fuel => fuel

end

/-- A bound on the steps of a shell. -/
def patience : Nat := 1000000000000

/-- The shell as a program. -/
def program (start : Start) : Program :=
  shell patience start id fun sh => .finish (.code sh.status)

/-- The program that executes a command in an environment with more settings. -/
def env (start : Start) : Program :=
  external patience false true [] ("/usr/bin/env".toList) (start.arguments.map Octets.ofText)
    (State.fresh start (Octets.ofText start.name) []) fun status _ => .finish (.code status)

end CallScript.Shell
