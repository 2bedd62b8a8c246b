import CallScript.Script.Value
import CallScript.Text.Blank
import CallScript.Text.Word

/-! # Bracketed literals

The values that can be written inside brackets and braces:

* a value is a list, a mapping, a quoted text, a reference, a number or a keyword;
* a list is `[`, values separated by commas, `]`, and a mapping is `{`, entries separated by commas,
  `}`; one more comma may stand before the closing character;
* an entry is a key, a colon and a value, where a key is a quoted text or a name; of entries with the
  same key the last one counts;
* a number without fraction and exponent is a 64-bit integer, any other a double;
* the keywords are `true` and `false` in any case, and `null` and `None` as they stand.

Spacing may stand between all of these.  A reader takes the text to be read and returns what it read with
the rest of the text; if it does not read, it is refused (`Refusal`), either so that another kind of value
may be tried in its place, or for good.  Readers that call each other take fuel; the length of the text is
always enough, since every call takes a character first. -/

namespace CallScript.Literal

/-- Why a reader did not read, with the text from where on it did not. -/
inductive Refusal where
  /-- The text is of another kind. -/
  | mismatch (rest : List Char)
  /-- A quote that is never closed. -/
  | unterminated (rest : List Char)
  /-- An integer beyond the signed 64-bit range. -/
  | outOfRange (rest : List Char)
  deriving DecidableEq, Repr

/-- What a reader returns. -/
abbrev Reading (α : Type) := Except Refusal (α × List Char)

/-! ### Wording -/

/-- How many characters of the rest a message shows. -/
def excerptLength : Nat := 24

/-- The head of the rest, as a message shows it. -/
def excerpt (rest : List Char) : String :=
  String.ofList (rest.take excerptLength ++ if excerptLength < rest.length then ['.', '.', '.'] else [])

/-- The wording of a refusal. -/
def Refusal.message : Refusal → String
  | .unterminated rest => s!"unterminated string literal at '{excerpt rest}'"
  | .mismatch rest | .outOfRange rest =>
    if rest.isEmpty then "unexpected end of literal" else s!"unexpected input at '{excerpt rest}'"

/-! ### Quoted texts -/

/-- What a character after a backslash stands for. -/
def unescape (c : Char) : Char :=
  if c = 'n' then '\n' else if c = 't' then '\t' else if c = 'r' then '\r'
  else if c = '0' then '\x00' else c

/-- Whether a character opens a quoted text. -/
def isQuote (c : Char) : Bool := c = '"' || c = '\''

/-- The characters up to the closing quote, unescaped, and what follows it. -/
def quotedTail (quote : Char) : List Char → Option (List Char × List Char)
  | [] => none
  | ['\\'] => none
  | '\\' :: c :: rest => (quotedTail quote rest).map fun (text, rest) => (unescape c :: text, rest)
  | c :: rest =>
    if c = quote then some ([], rest)
    else (quotedTail quote rest).map fun (text, rest) => (c :: text, rest)

/-- A text in single or double quotes. -/
def quotedText : List Char → Reading String
  | [] => .error (.mismatch [])
  | c :: rest =>
    if isQuote c then
      match quotedTail c rest with
      | some (text, after) => .ok (String.ofList text, after)
      | none => .error (.unterminated (c :: rest))
    else .error (.mismatch (c :: rest))

/-- The text that a token consisting of one quoted text stands for. -/
def unquote (token : List Char) : Option String :=
  match quotedText token with
  | .ok (text, []) => some text
  | _ => none

/-! ### Names, references, numbers, keywords -/

/-- The characters of a name. -/
def isNameChar (c : Char) : Bool := Text.isAlphanumeric c || c = '_'

/-- A non-empty name. -/
def name? (s : List Char) : Option (String × List Char) :=
  match Text.spanOf isNameChar s with
  | ([], _) => none
  | (name, rest) => some (String.ofList name, rest)

/-- A reference: a name in braces after a dollar sign. -/
def reference? : List Char → Option (String × List Char)
  | '$' :: '\x7b' :: s =>
    match name? s with
    | some (name, '\x7d' :: rest) => some (name, rest)
    | _ => none
  | _ => none

/-- A sign, if there is one; whether it is a minus. -/
def sign : List Char → Bool × List Char
  | '+' :: rest => (false, rest)
  | '-' :: rest => (true, rest)
  | s => (false, s)

/-- The fraction of a number, if a point with a digit after it stands here. -/
def fraction : List Char → List Char × List Char
  | '.' :: s =>
    match Text.spanOf Text.isDigit s with
    | ([], _) => ([], '.' :: s)
    | (digits, rest) => (digits, rest)
  | s => ([], s)

/-- The exponent of a number, if one stands here. -/
def exponent : List Char → Option (Bool × List Char) × List Char
  | [] => (none, [])
  | c :: s =>
    if c = 'e' || c = 'E' then
      let (negative, digits) := sign s
      match Text.spanOf Text.isDigit digits with
      | ([], _) => (none, c :: s)
      | (digits, rest) => (some (negative, digits), rest)
    else (none, c :: s)

/-- The signed 64-bit integer of a sign and digits. -/
def integer? (negative : Bool) (digits : List Char) : Option Int64 :=
  let n : Int := Text.digitsToNat digits
  Bounds.signed? (if negative then -n else n)

/-- A number. -/
def number (s : List Char) : Reading Value :=
  let (negative, unsigned) := sign s
  match Text.spanOf Text.isDigit unsigned with
  | ([], _) => .error (.mismatch s)
  | (whole, rest) =>
    let (fraction, rest) := fraction rest
    let (exponent, rest) := exponent rest
    if fraction.isEmpty && exponent.isNone then
      match integer? negative whole with
      | some i => .ok (.integer i, rest)
      | none => .error (.outOfRange s)
    else
      let (down, digits) := exponent.getD (false, [])
      .ok (.double (Decimal.ofParts ⟨negative, whole, fraction, down, digits⟩).toBinary64, rest)

/-- The text after a given word, compared as it stands or up to case. -/
def afterWord (ignoringCase : Bool) (word s : List Char) : Option (List Char) :=
  let head := s.take word.length
  if if ignoringCase then Text.eqIgnoringCase head word else head = word then some (s.drop word.length)
  else none

/-- A keyword. -/
def keyword (s : List Char) : Reading Value :=
  match afterWord true ['t', 'r', 'u', 'e'] s with
  | some rest => .ok (.boolean true, rest)
  | none =>
    match afterWord true ['f', 'a', 'l', 's', 'e'] s with
    | some rest => .ok (.boolean false, rest)
    | none =>
      match (afterWord false ['n', 'u', 'l', 'l'] s).or (afterWord false ['N', 'o', 'n', 'e'] s) with
      | some rest => .ok (.null, rest)
      | none => .error (.mismatch s)

/-- A value that holds no other value. -/
def scalar (s : List Char) : Reading Value :=
  match quotedText s with
  | .ok (text, rest) => .ok (.text text, rest)
  | .error (.mismatch _) =>
    match reference? s with
    | some (name, rest) => .ok (.reference name, rest)
    | none =>
      match number s with
      | .error (.mismatch _) => keyword s
      | reading => reading
  | .error refusal => .error refusal

/-! ### Lists and mappings -/

/-- The key of an entry. -/
def key (s : List Char) : Reading String :=
  match quotedText s with
  | .error (.mismatch _) =>
    match name? s with
    | some (name, rest) => .ok (name, rest)
    | none => .error (.mismatch s)
  | reading => reading

/-- The text after one comma with spacing around it, if there is one. -/
def afterComma (s : List Char) : Option (List Char) :=
  match Text.skipSpacing s with
  | ',' :: rest => some (Text.skipSpacing rest)
  | _ => none

/-- The text after the end of a list or mapping: a comma if there is one, then the closing character. -/
def afterClose (close : Char) (s : List Char) : Option (List Char) :=
  let rest := (afterComma s).getD s
  match Text.skipSpacing rest with
  | c :: rest => if c = close then some rest else none
  | [] => none

mutual

/-- A value. -/
def value : (fuel : Nat) → List Char → Reading Value
  | 0, s => .error (.mismatch s)
  | fuel + 1, s =>
    match s with
    | '[' :: rest =>
      match items fuel (Text.skipSpacing rest) with
      | .error refusal => .error refusal
      | .ok (items, rest) =>
        match afterClose ']' rest with
        | some rest => .ok (.list items, rest)
        | none => .error (.mismatch s)
    | '\x7b' :: rest =>
      match entries fuel (Text.skipSpacing rest) with
      | .error refusal => .error refusal
      | .ok (entries, rest) =>
        match afterClose '\x7d' rest with
        | some rest => .ok (.mapping (Fields.ofList entries), rest)
        | none => .error (.mismatch s)
    | _ => scalar s

/-- As many values as stand here, separated by commas; maybe none. -/
def items : (fuel : Nat) → List Char → Reading (List Value)
  | 0, s => .ok ([], s)
  | fuel + 1, s =>
    match value fuel s with
    | .error (.mismatch _) => .ok ([], s)
    | .error refusal => .error refusal
    | .ok (first, rest) => moreItems fuel [first] rest

/-- The values after the first, each after a comma, added to those read before, last first. -/
def moreItems : (fuel : Nat) → List Value → List Char → Reading (List Value)
  | 0, before, s => .ok (before.reverse, s)
  | fuel + 1, before, s =>
    match afterComma s with
    | none => .ok (before.reverse, s)
    | some next =>
      match value fuel next with
      | .error (.mismatch _) => .ok (before.reverse, s)
      | .error refusal => .error refusal
      | .ok (item, rest) => moreItems fuel (item :: before) rest

/-- As many entries as stand here, separated by commas; maybe none. -/
def entries : (fuel : Nat) → List Char → Reading (List (String × Value))
  | 0, s => .ok ([], s)
  | fuel + 1, s =>
    match entry fuel s with
    | .error (.mismatch _) => .ok ([], s)
    | .error refusal => .error refusal
    | .ok (first, rest) => moreEntries fuel [first] rest

/-- The entries after the first, each after a comma, added to those read before, last first. -/
def moreEntries : (fuel : Nat) → List (String × Value) → List Char → Reading (List (String × Value))
  | 0, before, s => .ok (before.reverse, s)
  | fuel + 1, before, s =>
    match afterComma s with
    | none => .ok (before.reverse, s)
    | some next =>
      match entry fuel next with
      | .error (.mismatch _) => .ok (before.reverse, s)
      | .error refusal => .error refusal
      | .ok (next, rest) => moreEntries fuel (next :: before) rest

/-- A key, a colon and a value. -/
def entry : (fuel : Nat) → List Char → Reading (String × Value)
  | 0, s => .error (.mismatch s)
  | fuel + 1, s =>
    match key s with
    | .error refusal => .error refusal
    | .ok (key, rest) =>
      match Text.skipSpacing rest with
      | ':' :: rest =>
        match value fuel (Text.skipSpacing rest) with
        | .error refusal => .error refusal
        | .ok (value, rest) => .ok ((key, value), rest)
      | _ => .error (.mismatch s)

end

/-- Fuel that is enough for a text: two calls stand between one character taken and the next. -/
def fuelFor (s : List Char) : Nat := 2 * s.length + 2

/-- The value that a text is, with spacing around it. -/
def decode (s : List Char) : Except Refusal Value :=
  let s := Text.skipSpacing s
  match value (fuelFor s) s with
  | .error refusal => .error refusal
  | .ok (value, rest) =>
    let rest := Text.skipSpacing rest
    if rest.isEmpty then .ok value else .error (.mismatch rest)

/-- The value that a text is; a text that is none is a parse error. -/
def parse (text : String) : Except Error Value :=
  match decode text.toList with
  | .ok value => .ok value
  | .error refusal => .error (.parse text refusal.message)

end CallScript.Literal
