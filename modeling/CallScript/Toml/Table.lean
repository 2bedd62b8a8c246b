import CallScript.Toml.Basic

/-! # Defining tables

A document defines its tables bit by bit: under headers, by dotted keys, and within values.  A `Draft` is
a table while it is being defined.  It remembers how it came about, since a table is defined in one way
and once: a header may not name a table that has been defined, dotted keys may only reach tables that
dotted keys made, and what stands in a value is closed. -/

namespace CallScript.Toml

/-- What is defined under a key so far. -/
inductive Slot where
  | value (v : Toml)
  /-- A table.  It is implicit if only its subtables or dotted keys have been named, and dotted in the
  latter case. -/
  | table (isImplicit isDotted : Bool) (slots : List (String × Slot))
  /-- The tables of an array, the last one open. -/
  | tables (elements : List (List (String × Slot)))

/-- A table while it is being defined. -/
structure Draft where
  isImplicit : Bool
  isDotted : Bool
  slots : List (String × Slot)

namespace Draft

/-- A table without fields that is defined as such. -/
def empty : Draft := ⟨false, false, []⟩

/-- The table as a slot. -/
def slot (d : Draft) : Slot := .table d.isImplicit d.isDotted d.slots

/-- Stores a slot under a key. -/
def put (key : String) (slot : Slot) (d : Draft) : Draft :=
  { d with slots := Fields.insert key slot d.slots }

/-- Changes the table that a path of keys leads to, making those that are missing.  Along dotted keys,
only tables may be entered that are implicit. -/
def change (dotted : Bool) (f : Draft → Option Draft) : List String → Draft → Option Draft
  | [], d => f d
  | key :: path, d =>
    match Fields.find? key d.slots with
    | none => (change dotted f path ⟨true, dotted, []⟩).map fun inner => d.put key inner.slot
    | some (.value _) => none
    | some (.table isImplicit isDotted slots) =>
      if dotted && !isImplicit then none
      else (change dotted f path ⟨isImplicit, isDotted, slots⟩).map fun inner => d.put key inner.slot
    | some (.tables elements) =>
      match elements.getLast? with
      | none => none
      | some last =>
        (change dotted f path { empty with slots := last }).map fun inner =>
          d.put key (.tables (elements.dropLast ++ [inner.slots]))

/-- Defines the value of a dotted key: the keys before the last one, and the last one. -/
def define (d : Draft) (path : List String) (key : String) (value : Toml) : Option Draft :=
  d.change true (fun inner =>
    if inner.isDotted = path.isEmpty then none
    else if Fields.contains key inner.slots then none
    else some (inner.put key (.value value))) path

/-- The table that a header opens: what was defined of it implicitly. -/
def opened (path : List String) (key : String) (d : Draft) : Option Draft :=
  match path with
  | [] =>
    match Fields.find? key d.slots with
    | none => some empty
    | some (.table true false slots) => some { empty with slots }
    | some _ => none
  | first :: rest =>
    match Fields.find? first d.slots with
    | none => some empty
    | some (.value _) => none
    | some (.table isImplicit isDotted slots) => opened rest key ⟨isImplicit, isDotted, slots⟩
    | some (.tables elements) => opened rest key { empty with slots := elements.getLast?.getD [] }

/-- Stores the table of a header. -/
def close (d : Draft) (path : List String) (key : String) (table : Draft) : Option Draft :=
  d.change false (fun inner => some (inner.put key table.slot)) path

/-- Stores one more table of an array. -/
def closeElement (d : Draft) (path : List String) (key : String) (table : Draft) : Option Draft :=
  d.change false (fun inner =>
    match Fields.find? key inner.slots with
    | none => some (inner.put key (.tables [table.slots]))
    | some (.tables elements) => some (inner.put key (.tables (elements ++ [table.slots])))
    | some _ => none) path

/-- Whether a header may open one more table of an array. -/
def opensElement (d : Draft) (path : List String) (key : String) : Bool :=
  (d.closeElement path key empty).isSome

end Draft

mutual

/-- The value that has been defined under a key. -/
def Slot.toToml : Slot → Toml
  | .value v => v
  | .table _ _ slots => .table (slotsToToml slots)
  | .tables elements => .array (elementsToToml elements)

/-- The fields that have been defined. -/
def slotsToToml : List (String × Slot) → List (String × Toml)
  | [] => []
  | (key, slot) :: rest => (key, slot.toToml) :: slotsToToml rest

/-- The tables of an array that have been defined. -/
def elementsToToml : List (List (String × Slot)) → List Toml
  | [] => []
  | slots :: rest => .table (slotsToToml slots) :: elementsToToml rest

end

/-- The table that has been defined. -/
def Draft.toToml (d : Draft) : Toml := .table (slotsToToml d.slots)

end CallScript.Toml
