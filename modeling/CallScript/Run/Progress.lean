import CallScript.Run.Report

/-! # Progress

What a run shows while it goes on: a line for each step, what went wrong, and a summary.  In colour, the
parts of a line stand between escape sequences. -/

namespace CallScript.Run

/-- Whether to use colour. -/
inductive Palette where
  | plain
  | colored
  deriving DecidableEq, Repr

namespace Palette

/-- The escape sequence that ends all styles. -/
def reset : List Char := ['\x1b', '[', '0', 'm']

/-- A text in which every end of all styles is followed by the start of the given one. -/
def restyled (start : List Char) : (fuel : Nat) → List Char → List Char
  | 0, s => s
  | _ + 1, [] => []
  | fuel + 1, c :: s =>
    if (c :: s).take reset.length = reset then
      reset ++ start ++ restyled start fuel ((c :: s).drop reset.length)
    else c :: restyled start fuel s

/-- A text in a style, which is given by the code of its escape sequence.  The style lasts beyond the
styles of its parts. -/
def paint (p : Palette) (code text : String) : String :=
  match p with
  | .plain => text
  | .colored =>
    let start := ['\x1b', '['] ++ code.toList ++ ['m']
    let s := text.toList
    String.ofList (start ++ restyled start s.length s ++ reset)

/-- Green, for what passed. -/
def green : String := "32"
/-- Red, for what failed. -/
def red : String := "31"
/-- Faint, for what matters less. -/
def faint : String := "2"
/-- Bold and green. -/
def boldGreen : String := "1;32"
/-- Bold and red. -/
def boldRed : String := "1;31"
/-- Bold and blue. -/
def boldBlue : String := "1;34"
/-- Bold and white. -/
def boldWhite : String := "1;37"

end Palette

/-- The mark of what passed and of what failed. -/
def mark (p : Palette) (passed : Bool) : String :=
  if passed then p.paint Palette.green "✓" else p.paint Palette.red "✗"

/-- The lines that a step shows. -/
def Step.progress (p : Palette) (s : Step) : String :=
  let time := p.paint Palette.faint ("(" ++ toString s.millis ++ "ms)")
  let first := s!"  {mark p s.success} Step {s.index + 1}: {s.line} {time}\n"
  match s.success, s.error with
  | false, some e => first ++ "      " ++ p.paint Palette.red e.message ++ "\n"
  | _, _ => first

/-- The line that an error of the session shows. -/
def sessionErrorLine (p : Palette) (message : String) : String :=
  "  " ++ mark p false ++ " " ++ p.paint Palette.red message ++ "\n"

/-- What the end of a run says. -/
def Report.verdict (r : Report) : String :=
  if r.interrupted then s!"Interrupted after {r.steps.length} of {r.total} steps"
  else if r.success then s!"All {r.total} steps passed"
  else s!"{r.passed} passed, {r.failed} failed, {r.skipped} skipped"

/-- The summary at the end of a run. -/
def Report.summaryLine (p : Palette) (r : Report) : String :=
  let style := if r.success then Palette.boldGreen else Palette.boldRed
  let sign := if r.success then "✓" else "✗"
  "\n" ++ p.paint style sign ++ " " ++ p.paint style r.verdict ++ "\n"

/-- All that a run shows. -/
def Report.progress (p : Palette) (r : Report) : String :=
  let session := match r.sessionError with
    | some e => sessionErrorLine p e.message
    | none => ""
  session ++ String.join (r.steps.map (Step.progress p)) ++ r.summaryLine p

end CallScript.Run
