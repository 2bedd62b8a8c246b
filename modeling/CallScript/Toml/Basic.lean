import CallScript.Json.Basic
import CallScript.Settings.Form

/-! # TOML values

The values of a TOML document.  Keys of a table are in order, each once.  A date or time is kept as its
normalised text; where a table or a JSON value is wanted, it is a table with that text under
`Toml.dateKey`. -/

namespace CallScript

/-- A value of a TOML document. -/
inductive Toml where
  | text (s : String)
  | integer (i : Int64)
  | double (x : Binary64)
  | boolean (b : Bool)
  | date (s : String)
  | array (items : List Toml)
  | table (fields : List (String × Toml))

namespace Toml

/-- The key under which the text of a date is found where a table is wanted. -/
def dateKey : String := "$__toml_private_datetime"

mutual

/-- The JSON form of a value. -/
def toJson : Toml → Json
  | .text s => .str s
  | .integer i => .int i
  | .double x => .ofBinary64 x
  | .boolean b => .bool b
  | .date s => .obj [(dateKey, .str s)]
  | .array items => .arr (itemsToJson items)
  | .table fields => .obj (fieldsToJson fields)

/-- The JSON forms of items. -/
def itemsToJson : List Toml → List Json
  | [] => []
  | item :: rest => item.toJson :: itemsToJson rest

/-- The JSON forms of fields. -/
def fieldsToJson : List (String × Toml) → List (String × Json)
  | [] => []
  | (key, value) :: rest => (key, value.toJson) :: fieldsToJson rest

end

/-- The fields of a value that counts as a table. -/
def fields? : Toml → Option (List (String × Toml))
  | .table fields => some fields
  | .date s => some [(dateKey, .text s)]
  | _ => none

/-- What TOML values are taken for in records.  An array may stand for a record; its items after the
last part do not count. -/
def form : Form Toml where
  text?
    | .text s => some s
    | _ => none
  flag?
    | .boolean b => some b
    | _ => none
  count?
    | .integer i => if 0 ≤ i.toInt then some i.toInt.toNat else none
    | _ => none
  json? value := some value.toJson
  items?
    | .array items => some items
    | _ => none
  fields? := fields?
  parts?
    | .array items => some (.ordered items)
    | value => (fields? value).map .named
  isAbsent? _ := some false

end Toml

end CallScript
