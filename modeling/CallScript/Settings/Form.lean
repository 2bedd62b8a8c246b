import CallScript.Fields
import CallScript.Json.Basic

/-! # Reading records off documents

Settings are written in documents of several formats.  A `Form` says what a document of one format is
taken for where a text, a list, a mapping or a record is wanted; records are then read off in the same way
from all of them.  Reading fails as a whole, without a reason. -/

namespace CallScript

/-- The parts of a record: under their names, or in their order. -/
inductive Parts (δ : Type) where
  | named (fields : List (String × δ))
  | ordered (items : List δ)

/-- What documents of a format are taken for. -/
structure Form (δ : Type) where
  text? : δ → Option String
  flag? : δ → Option Bool
  /-- An integer from zero up that fits into 64 bits. -/
  count? : δ → Option Nat
  json? : δ → Option Json
  items? : δ → Option (List δ)
  /-- The fields of a mapping, as written. -/
  fields? : δ → Option (List (String × δ))
  parts? : δ → Option (Parts δ)
  /-- Whether a document stands for nothing, where something optional is wanted. -/
  isAbsent? : δ → Option Bool

namespace Form

variable {δ α β : Type} (form : Form δ)

/-- Whether no name of a record's parts occurs twice. -/
def fits (names : List String) : Parts δ → Bool
  | .named fields => names.all fun name => (fields.filter fun field => field.1 = name).length ≤ 1
  | .ordered _ => true

/-- The parts of a record whose parts have the given names, in that order. -/
def record? (names : List String) (d : δ) : Option (Parts δ) :=
  (form.parts? d).filter (fits names)

/-- A list of documents that are read alike. -/
def list? (read : δ → Option α) (d : δ) : Option (List α) :=
  match form.items? d with
  | some items => items.mapM read
  | none => none

/-- A mapping to documents that are read alike; of two under the same key the later one stays. -/
def mapping? (read : δ → Option α) (d : δ) : Option (List (String × α)) :=
  match form.fields? d with
  | some fields => (fields.mapM fun field => (read field.2).map (field.1, ·)).map Fields.ofList
  | none => none

end Form

namespace Parts

variable {δ α : Type}

/-- The part of a name, which is also the one at a position. -/
def find? (position : Nat) (name : String) : Parts δ → Option δ
  | .named fields => Fields.find? name fields
  | .ordered items => items[position]?

/-- A part that has to be there. -/
def required (parts : Parts δ) (position : Nat) (name : String) (read : δ → Option α) : Option α :=
  (parts.find? position name).bind read

/-- A part that is taken for a default when it is missing. -/
def defaulted (parts : Parts δ) (position : Nat) (name : String) (read : δ → Option α) (default : α) :
    Option α :=
  match parts.find? position name with
  | some d => read d
  | none => some default

/-- A part that may be missing or stand for nothing; in an ordered record it has to be there. -/
def optional (form : Form δ) (parts : Parts δ) (position : Nat) (name : String)
    (read : δ → Option α) : Option (Option α) :=
  match parts, parts.find? position name with
  | _, some d =>
    match form.isAbsent? d with
    | none => none
    | some true => some none
    | some false => (read d).map some
  | .named _, none => some none
  | .ordered _, none => none

end Parts

end CallScript
