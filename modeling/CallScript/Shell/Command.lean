import CallScript.Text.Utf8

/-! # Commands of the shell

What the text of a shell script means before it is executed: commands, the words that they are made of,
and the parts of words that are replaced when the command is executed.

The shell and the tools around it work on bytes.  `Octets` are bytes held as characters, each byte as the
character of its number, so that they can be matched and compared like text. -/

namespace CallScript

/-- A sequence of bytes, each held as the character of its number. -/
abbrev Octets := List Char

namespace Octets

/-- The octets of bytes. -/
def ofBytes (bytes : ByteArray) : Octets := bytes.toList.map fun b => Char.ofNat b.toNat

/-- The octets of a text. -/
def ofText (s : String) : Octets := ofBytes s.toUTF8

/-- The bytes that octets hold. -/
def bytes (o : Octets) : ByteArray := ⟨(o.map fun c => UInt8.ofNat c.toNat).toArray⟩

/-- The text that octets hold; what is no text is replaced. -/
def text (o : Octets) : String := Text.Utf8.lossy o.bytes

end Octets

end CallScript

namespace CallScript.Shell

/-- What a redirection does with a descriptor. -/
inductive RedirectionKind where
  /-- It reads from a file. -/
  | source
  /-- It writes a file anew. -/
  | target
  /-- It adds to a file. -/
  | append
  /-- It does what another descriptor does, or is closed. -/
  | copy
  /-- It reads the word itself. -/
  | document
  deriving DecidableEq, Repr

/-- When a parameter is replaced by something else. -/
inductive Fallback where
  /-- The word, if there is no value. -/
  | value
  /-- The word, which also becomes the value, if there is none. -/
  | assign
  /-- An error, if there is no value. -/
  | complain
  /-- The word, if there is a value. -/
  | replace
  deriving DecidableEq, Repr

mutual

/-- A part of a word. -/
inductive Part where
  | literal (text : Octets) (isQuoted : Bool)
  /-- The value of a parameter. -/
  | parameter (name : Octets) (use : Use) (isQuoted : Bool)
  /-- The output of a command. -/
  | output (command : Command) (isQuoted : Bool)
  /-- The value of an expression. -/
  | arithmetic (expression : List Part) (isQuoted : Bool)

/-- How the value of a parameter is used. -/
inductive Use where
  | plain
  | length
  /-- With another word in its place; `countsEmpty` says whether an empty value counts as none. -/
  | fallback (kind : Fallback) (countsEmpty : Bool) (word : List Part)
  /-- Without a piece that a pattern matches. -/
  | trim (atEnd : Bool) (isLongest : Bool) (pattern : List Part)

/-- A redirection of a descriptor. -/
inductive Redirection where
  | mk (descriptor : Nat) (kind : RedirectionKind) (word : List Part)

/-- A command. -/
inductive Command where
  | nothing
  /-- A command word with its arguments, variables set for it, and redirections. -/
  | simple (line : Nat) (assignments : List (Octets × List Part)) (words : List (List Part))
      (redirections : List Redirection)
  | sequence (first second : Command)
  | pipeline (first second : Command)
  | negation (command : Command)
  | both (first second : Command)
  | either (first second : Command)
  | conditional (condition yes no : Command)
  | loop (isUntil : Bool) (condition body : Command)
  | each (name : Octets) (words : Option (List (List Part))) (body : Command)
  | select (word : List Part) (cases : List (List (List Part) × Command))
  | redirected (line : Nat) (command : Command) (redirections : List Redirection)
  | subshell (command : Command)
  | define (name : Octets) (body : Command)
  | background (command : Command)

end

instance : Inhabited Command := ⟨.nothing⟩

end CallScript.Shell
