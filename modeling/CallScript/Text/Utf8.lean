/-! # UTF-8

Bytes as text.  `decode` reads a byte sequence that is UTF-8 throughout and otherwise says where and how
it stops being so; `lossy` reads any byte sequence, writing one replacement character for each longest
piece that begins no character. -/

namespace CallScript.Text.Utf8

/-- What stands at the head of a non-empty byte sequence. -/
inductive Head where
  /-- A whole character of `extra + 1` bytes. -/
  | char (extra : Nat)
  /-- `extra + 1` bytes that no character continues. -/
  | broken (extra : Nat)
  /-- The sequence ends inside a character. -/
  | cut
  deriving DecidableEq, Repr

/-- A byte that may only follow another one within a character. -/
def isTail (b : UInt8) : Bool := 0x80 ≤ b && b ≤ 0xBF

/-- The bytes that may come second after a given first byte of a character of three or four bytes. -/
def allowsSecond (first second : UInt8) : Bool :=
  if first = 0xE0 then 0xA0 ≤ second && second ≤ 0xBF
  else if first = 0xED then 0x80 ≤ second && second ≤ 0x9F
  else if first = 0xF0 then 0x90 ≤ second && second ≤ 0xBF
  else if first = 0xF4 then 0x80 ≤ second && second ≤ 0x8F
  else isTail second

/-- Classifies the first bytes of a sequence; at most four of them matter. -/
def head : List UInt8 → Head
  | [] => .cut
  | a :: rest =>
    if a < 0x80 then .char 0
    else if 0xC2 ≤ a && a ≤ 0xDF then
      match rest with
      | [] => .cut
      | b :: _ => if isTail b then .char 1 else .broken 0
    else if 0xE0 ≤ a && a ≤ 0xEF then
      match rest with
      | [] => .cut
      | b :: rest =>
        if !allowsSecond a b then .broken 0 else
        match rest with
        | [] => .cut
        | c :: _ => if isTail c then .char 2 else .broken 1
    else if 0xF0 ≤ a && a ≤ 0xF4 then
      match rest with
      | [] => .cut
      | b :: rest =>
        if !allowsSecond a b then .broken 0 else
        match rest with
        | [] => .cut
        | c :: rest =>
          if !isTail c then .broken 1 else
          match rest with
          | [] => .cut
          | d :: _ => if isTail d then .char 3 else .broken 2
    else .broken 0

/-- The character that the bytes of one character encode. -/
def scalar : List UInt8 → Char
  | [a] => Char.ofNat a.toNat
  | [a, b] => Char.ofNat ((a.toNat % 32) * 64 + b.toNat % 64)
  | [a, b, c] => Char.ofNat ((a.toNat % 16) * 4096 + (b.toNat % 64) * 64 + c.toNat % 64)
  | [a, b, c, d] =>
    Char.ofNat ((a.toNat % 8) * 262144 + (b.toNat % 64) * 4096 + (c.toNat % 64) * 64 + d.toNat % 64)
  | _ => '\uFFFD'

/-- Why a byte sequence is not UTF-8. -/
inductive Flaw where
  /-- `length` bytes from `index` on belong to no character. -/
  | invalid (length index : Nat)
  /-- The sequence ends inside the character that starts at `index`. -/
  | incomplete (index : Nat)
  deriving DecidableEq, Repr

/-- The wording of a flaw. -/
def Flaw.message : Flaw → String
  | .invalid length index => s!"invalid utf-8 sequence of {length} bytes from index {index}"
  | .incomplete index => s!"incomplete utf-8 byte sequence from index {index}"

/-- The at most four bytes from an index on. -/
def window (bytes : ByteArray) (index : Nat) : List UInt8 :=
  (bytes.extract index (index + 4)).toList

/-- The first flaw at or after an index. -/
def flawFrom (bytes : ByteArray) (index : Nat) : Option Flaw :=
  if index < bytes.size then
    match head (window bytes index) with
    | .char extra => flawFrom bytes (index + (extra + 1))
    | .broken extra => some (.invalid (extra + 1) index)
    | .cut => some (.incomplete index)
  else none
termination_by bytes.size - index

/-- Reads bytes that are UTF-8 throughout. -/
def decode (bytes : ByteArray) : Except Flaw String :=
  match String.fromUTF8? bytes with
  | some text => .ok text
  | none => .error ((flawFrom bytes 0).getD (.incomplete bytes.size))

/-- The characters from an index on, with a replacement character for each piece that is none. -/
def lossyFrom (bytes : ByteArray) (index : Nat) : List Char :=
  if index < bytes.size then
    match head (window bytes index) with
    | .char extra =>
      scalar ((window bytes index).take (extra + 1)) :: lossyFrom bytes (index + (extra + 1))
    | .broken extra => '\uFFFD' :: lossyFrom bytes (index + (extra + 1))
    | .cut => ['\uFFFD']
  else []
termination_by bytes.size - index

/-- Reads any bytes as text. -/
def lossy (bytes : ByteArray) : String :=
  match String.fromUTF8? bytes with
  | some text => text
  | none => String.ofList (lossyFrom bytes 0)

end CallScript.Text.Utf8
