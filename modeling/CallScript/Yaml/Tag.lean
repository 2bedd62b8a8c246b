import CallScript.Json.Reader
import CallScript.Text.Utf8
import CallScript.Yaml.Cursor

/-! # Names in YAML

Anchors, tags and directives.  A tag is a name of bytes.  It is written as a handle, which stands for its
start, and the rest of it; a directive says what a handle stands for.  Nothing after a zero byte counts, in
the start and in the rest. -/

namespace CallScript.Yaml

/-- What a tag says about a node. -/
inductive Tag where
  /-- One of the tags that YAML itself defines for simple values. -/
  | bool
  | int
  | float
  | null
  /-- A tag of the document's own making, which starts with an exclamation mark. -/
  | own
  /-- Such a tag whose name is no text. -/
  | garbled
  | other
  deriving DecidableEq, Repr

/-- The start of the tags that YAML itself defines. -/
def standardPrefix : String := "tag:yaml.org,2002:"

/-- The tag of a name. -/
def Tag.ofName (name : List UInt8) : Tag :=
  let isStandard := fun (s : String) => name = (standardPrefix ++ s).toUTF8.toList
  match name with
  | 0x21 :: rest =>
    match Text.Utf8.decode ⟨rest.toArray⟩ with
    | .ok _ => .own
    | .error _ => .garbled
  | _ =>
    if isStandard "bool" then .bool
    else if isStandard "int" then .int
    else if isStandard "float" then .float
    else if isStandard "null" then .null
    else .other

/-- A tag as it is written. -/
structure WrittenTag where
  handle : List Char
  suffix : List UInt8

/-- The bytes before a zero. -/
def beforeZero (bytes : List UInt8) : List UInt8 := bytes.takeWhile (· ≠ 0)

/-- Whether a character may stand in a tag as it is. -/
def isTagChar (verbatim : Bool) (c : Char) : Bool :=
  isNameChar c || (";/?:@&=+$.!~*'()".toList.contains c) || (verbatim && (c = ',' || c = '[' || c = ']'))

/-- Reads a byte that is given in hexadecimal. -/
def readHexByte : List Char → Option (UInt8 × List Char)
  | '%' :: a :: b :: rest => do
    let a ← Json.hexValue a
    let b ← Json.hexValue b
    some (UInt8.ofNat (a * 16 + b), rest)
  | _ => none

/-- How many bytes a character has, by its first one. -/
def encodedLength (first : UInt8) : Nat :=
  if first < 0x80 then 1
  else if first &&& 0xE0 = 0xC0 then 2
  else if first &&& 0xF0 = 0xE0 then 3
  else if first &&& 0xF8 = 0xF0 then 4
  else 0

/-- Reads the bytes of a character after its first one, given in hexadecimal. -/
def readHexTail : (count : Nat) → List Char → Option (List UInt8 × List Char)
  | 0, s => some ([], s)
  | count + 1, s => do
    let (byte, rest) ← readHexByte s
    if byte &&& 0xC0 ≠ 0x80 then none
    let (bytes, rest) ← readHexTail count rest
    some (byte :: bytes, rest)

/-- Reads the bytes of a character that is given in hexadecimal.  Their form counts, not whether there is
such a character. -/
def readHexChar (s : List Char) : Option (List UInt8 × List Char) := do
  let (first, rest) ← readHexByte s
  match encodedLength first with
  | 0 => none
  | count + 1 => (readHexTail count rest).map fun (bytes, rest) => (first :: bytes, rest)

/-- The byte of a character that has only one. -/
def asciiByte (c : Char) : UInt8 := UInt8.ofNat c.toNat

/-- Reads the bytes of a tag. -/
def readTagChars (verbatim : Bool) : (fuel : Nat) → List Char → Option (List UInt8 × List Char)
  | 0, s => some ([], s)
  | fuel + 1, s =>
    match s with
    | [] => some ([], [])
    | c :: rest =>
      if c = '%' then do
        let (bytes, rest) ← readHexChar s
        let (more, rest) ← readTagChars verbatim fuel rest
        some (bytes ++ more, rest)
      else if isTagChar verbatim c then
        (readTagChars verbatim fuel rest).map fun (more, rest) => (asciiByte c :: more, rest)
      else some ([], s)

/-- Reads one character of a tag or more. -/
def readTagChars1 (verbatim : Bool) (s : List Char) : Option (List UInt8 × List Char) :=
  ((readTagChars verbatim (s.length + 1) s).filter fun (bytes, _) => !bytes.isEmpty).map
    fun (bytes, rest) => (beforeZero bytes, rest)

/-- Reads a handle: an exclamation mark, and a name that another one may end. -/
def readHandle : List Char → Option (List Char × List Char)
  | '!' :: rest =>
    let name := rest.takeWhile isNameChar
    match rest.dropWhile isNameChar with
    | '!' :: rest => some ('!' :: name ++ ['!'], rest)
    | rest => some ('!' :: name, rest)
  | _ => none

/-- Whether a handle is closed by a second exclamation mark. -/
def isClosedHandle (handle : List Char) : Bool := 1 < handle.length && handle.getLast? = some '!'

/-- Reads a tag. -/
def readTag (inFlow : Bool) (s : List Char) : Option (WrittenTag × List Char) := do
  let (tag, rest) ← readBody
  if atBlank rest || (inFlow && rest.head? = some ',') then some (tag, rest) else none
where
  /-- Reads a tag, whatever follows it. -/
  readBody : Option (WrittenTag × List Char) :=
    match s with
    | '!' :: '<' :: rest =>
      match readTagChars1 true rest with
      | some (suffix, '>' :: rest) => some (⟨[], suffix⟩, rest)
      | _ => none
    | _ =>
      match readHandle s with
      | none => none
      | some (handle, rest) =>
        if isClosedHandle handle then
          (readTagChars1 false rest).map fun (suffix, rest) => (⟨handle, suffix⟩, rest)
        else
          (readTagChars false (rest.length + 1) rest).map fun (more, rest) =>
            let suffix := beforeZero ((handle.drop 1).map asciiByte ++ more)
            (if suffix.isEmpty then ⟨[], [asciiByte '!']⟩ else ⟨['!'], suffix⟩, rest)

/-- Reads the name of an anchor. -/
def readAnchor (s : List Char) : Option (List Char × List Char) :=
  let name := s.takeWhile isNameChar
  let rest := s.dropWhile isNameChar
  if !name.isEmpty && (atBlank rest || rest.head?.any fun c => "?:,]\x7d%@\x60".toList.contains c) then
    some (name, rest)
  else none

/-- A directive. -/
inductive Directive where
  | version (major minor : Nat)
  /-- What a handle stands for. -/
  | handle (handle : List Char) (start : List UInt8)

/-- Reads a part of a version number. -/
def readVersionPart (s : List Char) : Option (Nat × List Char) :=
  let digits := s.takeWhile Char.isDigit
  if digits.isEmpty || 9 < digits.length then none
  else some (Text.digitsToNat digits, s.drop digits.length)

/-- Reads a directive, after its percent sign, up to the end of its line. -/
def readDirective (s : List Char) : Option (Directive × List Char) := do
  let name := s.takeWhile isNameChar
  let rest := s.dropWhile isNameChar
  if !atBlank rest then none
  let rest := rest.dropWhile isBlank
  let (directive, rest) ←
    if name = "YAML".toList then do
      let (major, rest) ← readVersionPart rest
      match rest with
      | '.' :: rest =>
        let (minor, rest) ← readVersionPart rest
        some (Directive.version major minor, rest)
      | _ => none
    else if name = "TAG".toList then do
      let (handle, rest) ← readHandle rest
      if handle ≠ ['!'] && !isClosedHandle handle then none
      if !(rest.head?.any isBlank) then none
      let (start, rest) ← readTagChars1 true (rest.dropWhile isBlank)
      if !atBlank rest then none
      some (Directive.handle handle start, rest)
    else none
  let rest := rest.dropWhile isBlank
  let rest := if rest.head? = some '#' then rest.dropWhile fun c => !isBreak c else rest
  if atBreak rest then some (directive, rest) else none

end CallScript.Yaml
