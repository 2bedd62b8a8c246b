import CallScript.Json.Reader

/-! # TOML texts

Texts stand between quotes or apostrophes, single or in threes.  Between quotes a backslash starts an
escape; between apostrophes all characters stand for themselves.  Texts between three marks may go over
several lines; the line break after the opening marks does not count, and every line break reads as a
line feed. -/

namespace CallScript.Toml

/-- Whether a character may stand in a text or comment. -/
def isPrintable (c : Char) : Bool := c = '\t' || (32 ≤ c.toNat && c.toNat ≠ 127)

/-- Whether a character is a space or tab. -/
def isSpace (c : Char) : Bool := c = ' ' || c = '\t'

/-- The text after spaces and tabs. -/
def skipSpaces (s : List Char) : List Char := s.dropWhile isSpace

/-- The text after a line break. -/
def afterBreak : List Char → Option (List Char)
  | '\n' :: rest => some rest
  | '\r' :: '\n' :: rest => some rest
  | _ => none

/-- A character given by a fixed count of hexadecimal digits. -/
def readCode (count : Nat) (s : List Char) : Option (Char × List Char) := do
  let digits ← (s.take count).mapM Json.hexValue
  let n := digits.foldl (fun n d => n * 16 + d) 0
  if digits.length = count && n.isValidChar then some (Char.ofNat n, s.drop count) else none

/-- What a backslash and the characters after it stand for. -/
def readEscape : List Char → Option (Char × List Char)
  | 'b' :: rest => some ('\x08', rest)
  | 't' :: rest => some ('\t', rest)
  | 'n' :: rest => some ('\n', rest)
  | 'f' :: rest => some ('\x0c', rest)
  | 'r' :: rest => some ('\r', rest)
  | '"' :: rest => some ('"', rest)
  | '\\' :: rest => some ('\\', rest)
  | 'u' :: rest => readCode 4 rest
  | 'U' :: rest => readCode 8 rest
  | _ => none

/-- A text on one line up to its closing mark, last character first, and what follows. -/
def readLine (mark : Char) : (fuel : Nat) → (acc : List Char) → List Char →
    Option (List Char × List Char)
  | 0, _, _ => none
  | fuel + 1, acc, s =>
    match s with
    | [] => none
    | c :: rest =>
      if c = mark then some (acc, rest)
      else if c = '\\' && mark = '"' then
        match readEscape rest with
        | some (c, rest) => readLine mark fuel (c :: acc) rest
        | none => none
      else if isPrintable c then readLine mark fuel (c :: acc) rest
      else none

/-- The text after spaces, tabs and line breaks.  A carriage return with no line feed after it stays. -/
def skipBlankLines : List Char → List Char
  | [] => []
  | '\r' :: '\n' :: rest => skipBlankLines rest
  | c :: rest => if isSpace c || c = '\n' then skipBlankLines rest else c :: rest

/-- The text after a backslash that joins lines: a line break, with spaces before it, and all spaces and
line breaks that follow. -/
def afterJoin (s : List Char) : Option (List Char) :=
  (afterBreak (skipSpaces s)).map skipBlankLines

/-- The marks at the end of a text that belong to it, from a run of three marks or more. -/
def closingMarks (run : Nat) : Nat := min (run - 3) 2

/-- A text over several lines up to its closing marks, last character first, and what follows. -/
def readLines (mark : Char) : (fuel : Nat) → (acc : List Char) → List Char →
    Option (List Char × List Char)
  | 0, _, _ => none
  | fuel + 1, acc, s =>
    match s with
    | [] => none
    | c :: rest =>
      if c = mark then
        let run := (s.takeWhile (· = mark)).length
        if run < 3 then readLines mark fuel (List.replicate run mark ++ acc) (s.drop run)
        else
          let kept := closingMarks run
          some (List.replicate kept mark ++ acc, s.drop (kept + 3))
      else if c = '\\' && mark = '"' then
        match readEscape rest with
        | some (c, rest) => readLines mark fuel (c :: acc) rest
        | none =>
          match afterJoin rest with
          | some rest => readLines mark fuel acc rest
          | none => none
      else
        match afterBreak s with
        | some rest => readLines mark fuel ('\n' :: acc) rest
        | none => if isPrintable c then readLines mark fuel (c :: acc) rest else none

/-- A text on one line, with its marks. -/
def readLineText (s : List Char) : Option (String × List Char) :=
  match s with
  | [] => none
  | mark :: rest =>
    if mark = '"' || mark = '\'' then
      (readLine mark (rest.length + 1) [] rest).map fun (chars, rest) =>
        (String.ofList chars.reverse, rest)
    else none

/-- A text, with its marks. -/
def readText (s : List Char) : Option (String × List Char) :=
  match s with
  | a :: b :: c :: rest =>
    if (a = '"' || a = '\'') && a = b && b = c then
      let body := (afterBreak rest).getD rest
      (readLines a (body.length + 1) [] body).map fun (chars, rest) =>
        (String.ofList chars.reverse, rest)
    else readLineText s
  | _ => readLineText s

end CallScript.Toml
