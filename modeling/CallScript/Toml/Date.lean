import CallScript.Text.Word

/-! # TOML dates

A date, a time, or both with an offset from universal time.  Each is read into its normalised text: `T`
between date and time, `Z` or hours and minutes as the offset, and no zeros at the end of a fraction. -/

namespace CallScript.Toml

/-- A number of exactly `count` digits. -/
def readFixed (count : Nat) (s : List Char) : Option (Nat × List Char) :=
  let digits := s.take count
  if digits.length = count && digits.all Text.isDigit then
    some (Text.digitsToNat digits, s.drop count)
  else none

/-- A number of two digits between bounds. -/
def readPair (low high : Nat) (s : List Char) : Option (Nat × List Char) :=
  (readFixed 2 s).filter fun (n, _) => low ≤ n && n ≤ high

/-- The text after a given character. -/
def afterChar (c : Char) : List Char → Option (List Char)
  | d :: rest => if d = c then some rest else none
  | [] => none

/-- Whether a year has a 29th of February. -/
def isLeapYear (year : Nat) : Bool := year % 4 = 0 && (year % 100 ≠ 0 || year % 400 = 0)

/-- How many days a month has. -/
def daysOfMonth (year month : Nat) : Nat :=
  if month = 2 then if isLeapYear year then 29 else 28
  else if month = 4 || month = 6 || month = 9 || month = 11 then 30
  else 31

/-- A number in at least `width` decimal digits. -/
def padded (width n : Nat) : List Char :=
  let digits := Nat.toDigits 10 n
  List.replicate (width - digits.length) '0' ++ digits

/-- Whether a text can only be a date: a year and a hyphen. -/
def startsDate (s : List Char) : Bool := ((readFixed 4 s).bind fun (_, rest) => afterChar '-' rest).isSome

/-- Whether a text can only be a time: an hour and a colon. -/
def startsTime (s : List Char) : Bool :=
  ((readPair 0 23 s).bind fun (_, rest) => afterChar ':' rest).isSome

/-- A date. -/
def readDay (s : List Char) : Option (List Char × List Char) := do
  let (year, s) ← readFixed 4 s
  let s ← afterChar '-' s
  let (month, s) ← readPair 1 12 s
  let s ← afterChar '-' s
  let (day, s) ← readPair 1 (daysOfMonth year month) s
  some (padded 4 year ++ '-' :: padded 2 month ++ '-' :: padded 2 day, s)

/-- The fraction of a second, to nine digits and without zeros at its end. -/
def readSecondFraction (s : List Char) : List Char × List Char :=
  match s with
  | '.' :: rest =>
    match Text.spanOf Text.isDigit rest with
    | ([], _) => ([], s)
    | (digits, rest) =>
      let kept := ((digits.take 9).reverse.dropWhile (· = '0')).reverse
      (if kept.isEmpty then [] else '.' :: kept, rest)
  | _ => ([], s)

/-- A time of day. -/
def readTime (s : List Char) : Option (List Char × List Char) := do
  let (hour, s) ← readPair 0 23 s
  let s ← afterChar ':' s
  let (minute, s) ← readPair 0 59 s
  let s ← afterChar ':' s
  let (second, s) ← readPair 0 60 s
  let (fraction, s) := readSecondFraction s
  some (padded 2 hour ++ ':' :: padded 2 minute ++ ':' :: padded 2 second ++ fraction, s)

/-- An offset from universal time, if there is one. -/
def readOffset : List Char → Option (List Char × List Char)
  | c :: rest =>
    if c = 'Z' || c = 'z' then some (['Z'], rest)
    else if c = '+' || c = '-' then do
      let (hour, rest) ← readPair 0 23 rest
      let rest ← afterChar ':' rest
      let (minute, rest) ← readPair 0 59 rest
      let sign := if hour = 0 && minute = 0 then '+' else c
      some (sign :: padded 2 hour ++ ':' :: padded 2 minute, rest)
    else some ([], c :: rest)
  | [] => some ([], [])

/-- Whether a character may stand between a date and a time. -/
def isDateSeparator (c : Char) : Bool := c = 'T' || c = 't' || c = ' '

/-- A date, a time, or both. -/
def readDate (s : List Char) : Option (List Char × List Char) :=
  if startsDate s then do
    let (day, s) ← readDay s
    match s with
    | c :: rest =>
      if isDateSeparator c && startsTime rest then do
        let (time, rest) ← readTime rest
        let (offset, rest) ← readOffset rest
        some (day ++ 'T' :: time ++ offset, rest)
      else some (day, s)
    | [] => some (day, s)
  else readTime s

end CallScript.Toml
