import CallScript.Fields
import CallScript.Number.Binary64
import CallScript.Number.Bounds

/-! # JSON values

The values that travel between the two ends of a session.  A number is an integer of 64 bits, signed or
beyond the signed range, or a finite double; each number has one representation.  An object is a list of
fields; `Json.Sorted` says that all objects in a value, at any depth, are in order of their keys. -/

namespace CallScript

/-- A number of a JSON document. -/
inductive Json.Number where
  /-- An integer in the signed 64-bit range. -/
  | int (i : Int64)
  /-- A larger integer in the unsigned 64-bit range. -/
  | large (n : UInt64) (beyond : Bounds.signed ≤ n.toNat)
  /-- A finite double. -/
  | double (x : Binary64) (finite : x.IsFinite)
  deriving DecidableEq

/-- A JSON value. -/
inductive Json where
  | null
  | bool (b : Bool)
  | number (n : Json.Number)
  | str (s : String)
  | arr (items : List Json)
  | obj (fields : List (String × Json))

namespace Json

instance : Inhabited Json := ⟨.null⟩

/-- The JSON number of a 64-bit integer. -/
def int (i : Int64) : Json := .number (.int i)

/-- The JSON form of a double: the number itself, or `null` where there is none. -/
def ofBinary64 (x : Binary64) : Json :=
  if h : x.IsFinite then .number (.double x h) else .null

/-- The JSON number of an integer between the least signed and the largest unsigned 64-bit one. -/
def ofInt? (i : Int) : Option Json :=
  match Bounds.signed? i with
  | some i => some (.int i)
  | none =>
    if h : (Bounds.signed : Int) ≤ i ∧ i < (Bounds.unsigned : Int) then
      some (.number (.large (UInt64.ofNat i.toNat) (by
        rw [UInt64.toNat_ofNat']
        simp only [Bounds.signed, Bounds.unsigned] at *
        omega)))
    else none

/-- The JSON number of a natural number, which is taken to fit into 64 bits. -/
def ofNat (n : Nat) : Json := (ofInt? n).getD .null

/-- The field of an object under a key; other values have none. -/
def field? (key : String) : Json → Option Json
  | .obj fields => Fields.find? key fields
  | _ => none

/-- The text that a value is. -/
def str? : Json → Option String
  | .str s => some s
  | _ => none

/-- The signed 64-bit integer that a value is. -/
def int? : Json → Option Int64
  | .number (.int i) => some i
  | _ => none

/-- Decides equality, field by field and item by item. -/
def decEq : (a b : Json) → Decidable (a = b)
  | .null, .null => isTrue rfl
  | .bool a, .bool b => if h : a = b then isTrue (h ▸ rfl) else isFalse fun e => h (Json.bool.inj e)
  | .number a, .number b =>
    if h : a = b then isTrue (h ▸ rfl) else isFalse fun e => h (Json.number.inj e)
  | .str a, .str b => if h : a = b then isTrue (h ▸ rfl) else isFalse fun e => h (Json.str.inj e)
  | .arr a, .arr b =>
    match decEqItems a b with
    | isTrue h => isTrue (h ▸ rfl)
    | isFalse h => isFalse fun e => h (Json.arr.inj e)
  | .obj a, .obj b =>
    match decEqFields a b with
    | isTrue h => isTrue (h ▸ rfl)
    | isFalse h => isFalse fun e => h (Json.obj.inj e)
  | .null, .bool _ | .null, .number _ | .null, .str _ | .null, .arr _ | .null, .obj _
  | .bool _, .null | .bool _, .number _ | .bool _, .str _ | .bool _, .arr _ | .bool _, .obj _
  | .number _, .null | .number _, .bool _ | .number _, .str _ | .number _, .arr _
  | .number _, .obj _
  | .str _, .null | .str _, .bool _ | .str _, .number _ | .str _, .arr _ | .str _, .obj _
  | .arr _, .null | .arr _, .bool _ | .arr _, .number _ | .arr _, .str _ | .arr _, .obj _
  | .obj _, .null | .obj _, .bool _ | .obj _, .number _ | .obj _, .str _ | .obj _, .arr _ =>
    isFalse (by intro h; cases h)
where
  /-- Decides equality of the items of two arrays. -/
  decEqItems : (a b : List Json) → Decidable (a = b)
    | [], [] => isTrue rfl
    | [], _ :: _ => isFalse (by intro h; cases h)
    | _ :: _, [] => isFalse (by intro h; cases h)
    | a :: as, b :: bs =>
      match decEq a b, decEqItems as bs with
      | isTrue h, isTrue hs => isTrue (h ▸ hs ▸ rfl)
      | isFalse h, _ => isFalse fun e => h (List.cons.inj e).1
      | _, isFalse hs => isFalse fun e => hs (List.cons.inj e).2
  /-- Decides equality of the fields of two objects. -/
  decEqFields : (a b : List (String × Json)) → Decidable (a = b)
    | [], [] => isTrue rfl
    | [], _ :: _ => isFalse (by intro h; cases h)
    | _ :: _, [] => isFalse (by intro h; cases h)
    | (k, a) :: as, (l, b) :: bs =>
      if hk : k = l then
        match decEq a b, decEqFields as bs with
        | isTrue h, isTrue hs => isTrue (hk ▸ h ▸ hs ▸ rfl)
        | isFalse h, _ => isFalse fun e => h (Prod.mk.inj (List.cons.inj e).1).2
        | _, isFalse hs => isFalse fun e => hs (List.cons.inj e).2
      else isFalse fun e => hk (Prod.mk.inj (List.cons.inj e).1).1

instance : DecidableEq Json := decEq

mutual

/-- Every object in the value, at any depth, is in order of its keys. -/
def Sorted : Json → Prop
  | .arr items => SortedItems items
  | .obj fields => Fields.Sorted fields ∧ SortedFields fields
  | _ => True

/-- Every object in the items is in order. -/
def SortedItems : List Json → Prop
  | [] => True
  | item :: rest => item.Sorted ∧ SortedItems rest

/-- Every object in the values of the fields is in order. -/
def SortedFields : List (String × Json) → Prop
  | [] => True
  | (_, value) :: rest => value.Sorted ∧ SortedFields rest

end

end Json

end CallScript
