import CallScript.Error

/-! # Parameter values

A `Value` is what a parameter of a scripted call holds.  References stand for values that are only known
when the call is made; `Value.toJson` refuses them, so that none can reach the wire.  Mappings are fields
in order of their keys (`Value.Sorted`). -/

namespace CallScript

/-- The value of a parameter. -/
inductive Value where
  | text (s : String)
  | integer (i : Int64)
  /-- Written in a bracketed literal, or received. -/
  | double (x : Binary64)
  | boolean (b : Bool)
  /-- Written in a bracketed literal, or received. -/
  | null
  | list (items : List Value)
  | mapping (fields : List (String × Value))
  /-- The value that a name will have when the call is made. -/
  | reference (name : String)

/-- Parameters, or the fields of a mapping, in order of their keys. -/
abbrev Mapping := List (String × Value)

namespace Value

instance : Inhabited Value := ⟨.null⟩

/-- A reference as it is written in a script. -/
def referenceText (name : String) : String := "$\x7b" ++ name ++ "\x7d"

mutual

/-- Whether no reference is left anywhere in the value. -/
def isResolved : Value → Bool
  | .reference _ => false
  | .list items => allResolved items
  | .mapping fields => allFieldsResolved fields
  | _ => true

/-- Whether no reference is left in the items. -/
def allResolved : List Value → Bool
  | [] => true
  | item :: rest => item.isResolved && allResolved rest

/-- Whether no reference is left in the values of the fields. -/
def allFieldsResolved : List (String × Value) → Bool
  | [] => true
  | (_, value) :: rest => value.isResolved && allFieldsResolved rest

end

mutual

/-- The JSON form of a value; fails with the first reference left in it. -/
def toJson : Value → Except Error Json
  | .text s => .ok (.str s)
  | .integer i => .ok (.int i)
  | .double x => .ok (.ofBinary64 x)
  | .boolean b => .ok (.bool b)
  | .null => .ok .null
  | .list items => (itemsToJson items).map .arr
  | .mapping fields => (fieldsToJson fields).map .obj
  | .reference name => .error (.undefinedVariable name)

/-- The JSON forms of items, in order. -/
def itemsToJson : List Value → Except Error (List Json)
  | [] => .ok []
  | item :: rest =>
    match item.toJson with
    | .error e => .error e
    | .ok j => (itemsToJson rest).map (j :: ·)

/-- The JSON forms of fields, in order. -/
def fieldsToJson : List (String × Value) → Except Error (List (String × Json))
  | [] => .ok []
  | (key, value) :: rest =>
    match value.toJson with
    | .error e => .error e
    | .ok j => (fieldsToJson rest).map ((key, j) :: ·)

end

/-- A received number; an integer beyond the signed range becomes the double nearest to it. -/
def ofNumber : Json.Number → Value
  | .int i => .integer i
  | .large n _ => .double (Binary64.ofNat n.toNat)
  | .double x _ => .double x

mutual

/-- The value of received JSON.  Texts stay texts, whatever they look like. -/
def ofJson : Json → Value
  | .null => .null
  | .bool b => .boolean b
  | .number n => ofNumber n
  | .str s => .text s
  | .arr items => .list (itemsOfJson items)
  | .obj fields => .mapping (fieldsOfJson fields)

/-- The values of received items. -/
def itemsOfJson : List Json → List Value
  | [] => []
  | item :: rest => ofJson item :: itemsOfJson rest

/-- The values of received fields. -/
def fieldsOfJson : List (String × Json) → List (String × Value)
  | [] => []
  | (key, value) :: rest => (key, ofJson value) :: fieldsOfJson rest

end

mutual

/-- The value as it is shown: its JSON form, with references as they are written. -/
def display : Value → Json
  | .text s => .str s
  | .integer i => .int i
  | .double x => .ofBinary64 x
  | .boolean b => .bool b
  | .null => .null
  | .list items => .arr (displayItems items)
  | .mapping fields => .obj (displayFields fields)
  | .reference name => .str (referenceText name)

/-- The items as they are shown. -/
def displayItems : List Value → List Json
  | [] => []
  | item :: rest => item.display :: displayItems rest

/-- The fields as they are shown. -/
def displayFields : List (String × Value) → List (String × Json)
  | [] => []
  | (key, value) :: rest => (key, value.display) :: displayFields rest

end

mutual

/-- Every mapping in the value, at any depth, is in order of its keys. -/
def Sorted : Value → Prop
  | .list items => SortedItems items
  | .mapping fields => Fields.Sorted fields ∧ SortedFields fields
  | _ => True

/-- Every mapping in the items is in order. -/
def SortedItems : List Value → Prop
  | [] => True
  | item :: rest => item.Sorted ∧ SortedItems rest

/-- Every mapping in the values of the fields is in order. -/
def SortedFields : List (String × Value) → Prop
  | [] => True
  | (_, value) :: rest => value.Sorted ∧ SortedFields rest

end

end Value

namespace Mapping

/-- Parameters as the arguments of a request. -/
def toJson (m : Mapping) : Except Error Json := (Value.fieldsToJson m).map .obj

/-- The mapping of a received object's fields. -/
def ofFields (fields : List (String × Json)) : Mapping := Value.fieldsOfJson fields

/-- Parameters as they are shown. -/
def display (m : Mapping) : Json := .obj (Value.displayFields m)

end Mapping

end CallScript
