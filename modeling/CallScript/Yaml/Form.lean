import CallScript.Settings.Form
import CallScript.Yaml.Core
import CallScript.Yaml.Node

/-! # Reading records off YAML

Where a text is wanted, any scalar gives its own; where a list, a mapping or a record is wanted, a plain
scalar without a character gives an empty one.  Aliases are followed. -/

namespace CallScript.Yaml

/-- A node in its document, with how deep the nodes in it may still nest. -/
structure View where
  anchors : Anchors
  depth : Nat
  node : Node

/-- How deep the nodes of a document may nest. -/
def maxDepth : Nat := 128

namespace View

/-- The node itself, or the one that it stands for. -/
def target? (v : View) : Option Node :=
  match v.node with
  | .alias number => v.anchors.find? number
  | node => some node

/-- A node within this one. -/
def inner (v : View) (node : Node) : View := { v with depth := v.depth - 1, node }

/-- The text of a scalar. -/
def text? (v : View) : Option String :=
  match v.target? with
  | some (.scalar _ text _) => some text
  | _ => none

/-- Whether a node is a plain scalar without a character. -/
def isVoid : Node → Bool
  | .scalar _ text isPlain => text.isEmpty && isPlain
  | _ => false

/-- The items of a sequence. -/
def items? (v : View) : Option (List View) :=
  match v.target? with
  | some (.sequence _ items) => if v.depth = 0 then none else some (items.map v.inner)
  | some node => if isVoid node then some [] else none
  | none => none

/-- The entries of a mapping, by the texts of their keys. -/
def fields? (v : View) : Option (List (String × View)) :=
  match v.target? with
  | some (.mapping _ entries) =>
    if v.depth = 0 then none
    else entries.mapM fun (key, value) => (v.inner key).text?.map (·, v.inner value)
  | some node => if isVoid node then some [] else none
  | none => none

/-- What a scalar means; fails for a tag of the document's own making. -/
def meaning? (tag : Option Tag) (text : String) (isPlain : Bool) : Option Json :=
  match tag with
  | none | some .garbled => if isPlain then plainMeaning? text else some (.str text)
  | some .bool => (boolWord? text).map .bool
  | some .int => ((integer? text.toList).filter isWide).bind Json.ofInt?
  | some .float => (double? text).map .ofBinary64
  | some .null => if isNullWord text then some .null else none
  | some .other => some (.str text)
  | some .own => none

/-- The JSON form of a node; `depth` bounds how deep nodes may nest. -/
def toJson? (anchors : Anchors) : (depth : Nat) → Node → Option Json
  | depth, node =>
    let v : View := ⟨anchors, depth, node⟩
    match v.target? with
    | some (.scalar tag text isPlain) => meaning? tag text isPlain
    | some (.sequence tag items) =>
      match depth with
      | 0 => none
      | depth + 1 =>
        if tag = some .own then none else (items.mapM (toJson? anchors depth)).map .arr
    | some (.mapping tag entries) =>
      match depth with
      | 0 => none
      | depth + 1 =>
        if tag = some .own then none
        else (entries.mapM fun (key, value) =>
          match (View.mk anchors depth key).text?, toJson? anchors depth value with
          | some key, some value => some (key, value)
          | _, _ => none).map fun fields => .obj (Fields.ofList fields)
    | _ => none
termination_by depth => depth

/-- Whether a node stands for nothing; fails for one that is tagged as nothing and is not. -/
def isAbsent? (v : View) : Option Bool :=
  match v.target? with
  | some (.scalar tag text true) =>
    match tag with
    | none => some (text.isEmpty || isNullWord text)
    | some .null => if isNullWord text then some true else none
    | some _ => some false
  | some _ => some false
  | none => none

/-- What YAML nodes are taken for in records. -/
def form : Form View where
  text? := text?
  flag? v := v.text?.bind boolWord?
  count? v := do
    let i ← integer? (← v.text?).toList
    if 0 ≤ i && i < (Bounds.unsigned : Int) then some i.toNat else none
  json? v := toJson? v.anchors v.depth v.node
  items? := items?
  fields? := fields?
  parts? v := v.fields?.map .named
  isAbsent? := isAbsent?

end View

mutual

/-- How many parts a node has in its document. -/
def Node.size : Node → Nat
  | .scalar _ _ _ | .alias _ => 1
  | .sequence _ items => 2 + itemsSize items
  | .mapping _ entries => 2 + entriesSize entries

/-- How many parts items have. -/
def itemsSize : List Node → Nat
  | [] => 0
  | item :: rest => item.size + itemsSize rest

/-- How many parts entries have. -/
def entriesSize : List (Node × Node) → Nat
  | [] => 0
  | (key, value) :: rest => key.size + value.size + entriesSize rest

end

/-- What of a node is looked at. -/
inductive Extent where
  | whole
  /-- The fields of given names, and these only as far as given. -/
  | fields (extents : List (String × Extent))

/-- How far the value of a key is looked at, if it is. -/
def Extent.within (anchors : Anchors) (key : Node) : Extent → Option Extent
  | .whole => some .whole
  | .fields extents => (View.mk anchors 1 key).text?.bind fun name => Fields.find? name extents

/-- Follows the aliases in a node as far as it is looked at, for which a budget is given; returns what is
left of it.  Fails when it is used up. -/
def followAliases (anchors : Anchors) : (depth : Nat) → (budget : Nat) → Extent → Node → Option Nat
  | 0, budget, _, _ => some budget
  | depth + 1, budget, extent, node =>
    match node with
    | .scalar _ _ _ => some budget
    | .alias number =>
      match budget, anchors.find? number with
      | 0, _ => none
      | budget + 1, some target => followAliases anchors depth budget extent target
      | budget + 1, none => some budget
    | .sequence _ items =>
      items.foldlM (fun budget item => followAliases anchors depth budget .whole item) budget
    | .mapping _ entries =>
      entries.foldlM (fun budget (key, value) => do
        let budget ← followAliases anchors depth budget .whole key
        match extent.within anchors key with
        | some extent => followAliases anchors depth budget extent value
        | none => some budget) budget

/-- How many aliases may be followed for each part of a document. -/
def aliasFactor : Nat := 100

namespace Document

/-- Whether the aliases in what is looked at of a document can be followed, all together. -/
def isBounded (extent : Extent) (d : Document) : Bool :=
  (followAliases d.anchors (2 * maxDepth) (aliasFactor * d.root.size) extent d.root).isSome

/-- The root of a document. -/
def view (d : Document) : View := ⟨d.anchors, maxDepth, d.root⟩

end Document

end CallScript.Yaml
