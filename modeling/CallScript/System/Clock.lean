import CallScript.Error

/-! # Time stamps

A point in time, counted from the beginning of 1970, as a date and a time of day in universal time. -/

namespace CallScript.Clock

/-- The number of a year, month and day from the number of days since the beginning of 1970.  Years begin
in March here, so that a leap day is the last day of its year; 400 years have 146097 days. -/
def dateOfDays (days : Nat) : Nat × Nat × Nat :=
  let shifted := days + 719468
  let era := shifted / 146097
  let day := shifted % 146097
  let year := (day - day / 1460 + day / 36524 - day / 146096) / 365
  let dayOfYear := day - (365 * year + year / 4 - year / 100)
  let month := (5 * dayOfYear + 2) / 153
  let dayOfMonth := dayOfYear - (153 * month + 2) / 5 + 1
  let number := if month < 10 then month + 3 else month - 9
  (year + era * 400 + (if number ≤ 2 then 1 else 0), number, dayOfMonth)

/-- A number with zeros in front. -/
def padded (width n : Nat) : String :=
  let digits := Nat.toDigits 10 n
  String.ofList (List.replicate (width - digits.length) '0' ++ digits)

/-- The fraction of a second: none, milliseconds, or microseconds. -/
def fraction (micros : Nat) : String :=
  if micros = 0 then ""
  else if micros % 1000 = 0 then "." ++ padded 3 (micros / 1000)
  else "." ++ padded 6 micros

/-- The time stamp of a point in time. -/
def timestamp (d : Duration) : String :=
  let seconds := d.micros / 1000000
  let (year, month, day) := dateOfDays (seconds / 86400)
  let rest := seconds % 86400
  padded 4 year ++ "-" ++ padded 2 month ++ "-" ++ padded 2 day ++ "T" ++ padded 2 (rest / 3600) ++ ":" ++
    padded 2 (rest / 60 % 60) ++ ":" ++ padded 2 (rest % 60) ++ fraction (d.micros % 1000000) ++ "+00:00"

end CallScript.Clock
