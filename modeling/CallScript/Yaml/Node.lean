import CallScript.Fields
import CallScript.Yaml.Token

/-! # Nodes of YAML

A document as a tree of scalars, sequences and mappings.  A node may have an anchor; an alias stands for
the node of an anchor.  Anchors are told apart by numbers: a new one takes the count of different names
before it, so that a name that is used again takes a number that a later name may take too; the node that
begins last has it. -/

namespace CallScript.Yaml

/-- A node of a document. -/
inductive Node where
  | scalar (tag : Option Tag) (text : String) (isPlain : Bool)
  | sequence (tag : Option Tag) (items : List Node)
  | mapping (tag : Option Tag) (entries : List (Node × Node))
  /-- The node of an anchor, by its number. -/
  | alias (number : Nat)

/-- The anchors of a document. -/
structure Anchors where
  /-- The number that each name has last taken. -/
  numbers : List (String × Nat) := []
  /-- How many anchored nodes have begun. -/
  begun : Nat := 0
  /-- Which node a number means: the latest to begin, by its position among the anchored nodes. -/
  holders : List (Nat × Nat) := []
  /-- The anchored nodes that are complete, by their positions. -/
  nodes : List (Nat × Node) := []

namespace Anchors

/-- Notes that an anchored node begins; gives its position. -/
def start (name : String) (a : Anchors) : Nat × Anchors :=
  let number := a.numbers.length
  (a.begun, { a with
    numbers := Fields.insert name number a.numbers
    begun := a.begun + 1
    holders := (number, a.begun) :: a.holders })

/-- Notes that an anchored node is complete. -/
def complete (position : Option Nat) (node : Node) (a : Anchors) : Anchors :=
  match position with
  | some position => { a with nodes := (position, node) :: a.nodes }
  | none => a

/-- The node that a number means. -/
def find? (number : Nat) (a : Anchors) : Option Node :=
  (a.holders.lookup number).bind fun position => a.nodes.lookup position

end Anchors

/-- What is known while nodes are read: the anchors, and what tag handles stand for. -/
structure Reading where
  anchors : Anchors := {}
  handles : List (List Char × List UInt8) := []

namespace Reading

/-- The tag that a written tag means; fails for a handle that is not defined. -/
def resolve (r : Reading) (t : WrittenTag) : Option Tag :=
  if t.handle.isEmpty then some (Tag.ofName t.suffix)
  else
    let usual := [(['!'], [asciiByte '!']), (['!', '!'], standardPrefix.toUTF8.toList)]
    ((r.handles ++ usual).lookup t.handle).map fun start => Tag.ofName (start ++ t.suffix)

end Reading

/-- What may stand before a node. -/
structure Properties where
  anchor : Option String := none
  tag : Option Tag := none

/-- Whether there is nothing before a node. -/
def Properties.isEmpty (p : Properties) : Bool := p.anchor.isNone && p.tag.isNone

/-- Reads an anchor and a tag, in either order. -/
def readProperties (r : Reading) : List Token → Option (Properties × List Token)
  | .anchor name :: .tag t :: rest | .tag t :: .anchor name :: rest => do
    some (⟨some name, ← r.resolve t⟩, rest)
  | .anchor name :: rest => some (⟨some name, none⟩, rest)
  | .tag t :: rest => do some (⟨none, ← r.resolve t⟩, rest)
  | tokens => some ({}, tokens)

/-- A scalar that is not written. -/
def emptyNode : Node := .scalar none "" true

/-- Where a node is expected. -/
structure Place where
  /-- Whether block collections may stand here. -/
  allowsBlock : Bool
  /-- Whether a sequence may stand here that is not indented. -/
  allowsUnindented : Bool := false

/-- What reading a part of a document gives: the part, what is known then, and the tokens left. -/
abbrev Parsed (α : Type) := Option (α × Reading × List Token)

/-- Whether nothing is written for an item of a block sequence. -/
def endsItem : List Token → Bool
  | .blockEntry :: _ | .blockEnd :: _ => true
  | _ => false

/-- Whether nothing is written for an item of a sequence that is not indented. -/
def endsUnindentedItem : List Token → Bool
  | .blockEntry :: _ | .key :: _ | .value :: _ | .blockEnd :: _ => true
  | _ => false

/-- Whether nothing is written for a key or value of a block mapping. -/
def endsBlockEntry : List Token → Bool
  | .key :: _ | .value :: _ | .blockEnd :: _ => true
  | _ => false

/-- Whether nothing is written for a key between brackets. -/
def endsPairKey : List Token → Bool
  | .value :: _ | .flowEntry :: _ | .flowSequenceEnd :: _ => true
  | _ => false

/-- Whether nothing is written for a value between brackets. -/
def endsPairValue : List Token → Bool
  | .flowEntry :: _ | .flowSequenceEnd :: _ => true
  | _ => false

/-- Whether nothing is written for a key between braces. -/
def endsFieldKey : List Token → Bool
  | .value :: _ | .flowEntry :: _ | .flowMappingEnd :: _ => true
  | _ => false

/-- Whether nothing is written for a value between braces. -/
def endsFieldValue : List Token → Bool
  | .flowEntry :: _ | .flowMappingEnd :: _ => true
  | _ => false

/-- The tokens after the comma before an item, unless it is the first one. -/
def afterComma (isFirst : Bool) (tokens : List Token) : Option (List Token) :=
  if isFirst then some tokens
  else match tokens with
    | .flowEntry :: rest => some rest
    | _ => none

/-- The node that has properties only; without any there is none. -/
def readAbsent (p : Properties) (r : Reading) (tokens : List Token) : Parsed Node :=
  if p.isEmpty then none else some (.scalar p.tag "" true, r, tokens)

/-- A sequence of items that have been read, the last one first. -/
def asSequence (p : Properties) : List Node × Reading × List Token → Node × Reading × List Token
  | (items, r, rest) => (.sequence p.tag items.reverse, r, rest)

/-- A mapping of entries that have been read, the last one first. -/
def asMapping (p : Properties) : List (Node × Node) × Reading × List Token → Node × Reading × List Token
  | (entries, r, rest) => (.mapping p.tag entries.reverse, r, rest)

mutual

/-- Reads a node. -/
def readNode (fuel : Nat) (place : Place) (r : Reading) (tokens : List Token) : Parsed Node :=
  match fuel with
  | 0 => none
  | fuel + 1 =>
    match tokens with
    | .alias name :: rest =>
      (Fields.find? name r.anchors.numbers).map fun number => (.alias number, r, rest)
    | _ =>
      match readProperties r tokens with
      | none => none
      | some (properties, rest) =>
        let (position, r) := match properties.anchor with
          | none => (none, r)
          | some name =>
            let (position, anchors) := r.anchors.start name
            (some position, { r with anchors })
        match readContent fuel place properties r rest with
        | none => none
        | some (node, r, rest) =>
          some (node, { r with anchors := r.anchors.complete position node }, rest)

/-- Reads a node after its properties. -/
def readContent (fuel : Nat) (place : Place) (p : Properties) (r : Reading) (tokens : List Token) :
    Parsed Node :=
  match fuel with
  | 0 => none
  | fuel + 1 =>
    match tokens with
    | .scalar text isPlain :: rest =>
      some (.scalar p.tag text isPlain, r, rest)
    | .flowSequenceStart :: rest => (readFlowItems fuel true [] r rest).map (asSequence p)
    | .flowMappingStart :: rest => (readFlowFields fuel true [] r rest).map (asMapping p)
    | .blockEntry :: _ =>
      if place.allowsUnindented then (readUnindented fuel [] r tokens).map (asSequence p)
      else readAbsent p r tokens
    | .blockSequenceStart :: rest =>
      if place.allowsBlock then (readBlockItems fuel [] r rest).map (asSequence p)
      else readAbsent p r tokens
    | .blockMappingStart :: rest =>
      if place.allowsBlock then (readBlockFields fuel [] r rest).map (asMapping p)
      else readAbsent p r tokens
    | _ => readAbsent p r tokens

/-- Reads the items of a block sequence, the last one first. -/
def readBlockItems (fuel : Nat) (items : List Node) (r : Reading) (tokens : List Token) :
    Parsed (List Node) :=
  match fuel with
  | 0 => none
  | fuel + 1 =>
    match tokens with
    | .blockEnd :: rest => some (items, r, rest)
    | .blockEntry :: rest =>
      if endsItem rest then readBlockItems fuel (emptyNode :: items) r rest
      else match readNode fuel ⟨true, false⟩ r rest with
        | some (item, r, rest) => readBlockItems fuel (item :: items) r rest
        | none => none
    | _ => none

/-- Reads the items of a sequence that is not indented, the last one first. -/
def readUnindented (fuel : Nat) (items : List Node) (r : Reading) (tokens : List Token) :
    Parsed (List Node) :=
  match fuel with
  | 0 => none
  | fuel + 1 =>
    match tokens with
    | .blockEntry :: rest =>
      if endsUnindentedItem rest then readUnindented fuel (emptyNode :: items) r rest
      else match readNode fuel ⟨true, false⟩ r rest with
        | some (item, r, rest) => readUnindented fuel (item :: items) r rest
        | none => none
    | _ => some (items, r, tokens)

/-- Reads the entries of a block mapping, the last one first. -/
def readBlockFields (fuel : Nat) (entries : List (Node × Node)) (r : Reading) (tokens : List Token) :
    Parsed (List (Node × Node)) :=
  match fuel with
  | 0 => none
  | fuel + 1 =>
    match tokens with
    | .blockEnd :: rest => some (entries, r, rest)
    | .key :: rest =>
      let key := if endsBlockEntry rest then some (emptyNode, r, rest)
        else readNode fuel ⟨true, true⟩ r rest
      match key with
      | none => none
      | some (key, r, .value :: rest) =>
        let value := if endsBlockEntry rest then some (emptyNode, r, rest)
          else readNode fuel ⟨true, true⟩ r rest
        match value with
        | none => none
        | some (value, r, rest) => readBlockFields fuel ((key, value) :: entries) r rest
      | some (key, r, rest) => readBlockFields fuel ((key, emptyNode) :: entries) r rest
    | _ => none

/-- Reads the items between brackets, the last one first.  An item may be a single pair. -/
def readFlowItems (fuel : Nat) (isFirst : Bool) (items : List Node) (r : Reading)
    (tokens : List Token) : Parsed (List Node) :=
  match fuel with
  | 0 => none
  | fuel + 1 =>
    match tokens with
    | .flowSequenceEnd :: rest => some (items, r, rest)
    | _ =>
      match afterComma isFirst tokens with
      | none => none
      | some (.flowSequenceEnd :: rest) => some (items, r, rest)
      | some (.key :: rest) =>
        match readPair fuel r rest with
        | some (pair, r, rest) => readFlowItems fuel false (pair :: items) r rest
        | none => none
      | some rest =>
        match readNode fuel ⟨false, false⟩ r rest with
        | some (item, r, rest) => readFlowItems fuel false (item :: items) r rest
        | none => none

/-- Reads a single pair between brackets, which is a mapping.  Where nothing is written for its key, the
next token is passed over. -/
def readPair (fuel : Nat) (r : Reading) (tokens : List Token) : Parsed Node :=
  match fuel with
  | 0 => none
  | fuel + 1 =>
    let key := if endsPairKey tokens then some (emptyNode, r, tokens.drop 1)
      else readNode fuel ⟨false, false⟩ r tokens
    match key with
    | none => none
    | some (key, r, .value :: rest) =>
      if endsPairValue rest then some (.mapping none [(key, emptyNode)], r, rest)
      else match readNode fuel ⟨false, false⟩ r rest with
        | some (value, r, rest) => some (.mapping none [(key, value)], r, rest)
        | none => none
    | some (key, r, rest) => some (.mapping none [(key, emptyNode)], r, rest)

/-- Reads the entries between braces, the last one first. -/
def readFlowFields (fuel : Nat) (isFirst : Bool) (entries : List (Node × Node)) (r : Reading)
    (tokens : List Token) : Parsed (List (Node × Node)) :=
  match fuel with
  | 0 => none
  | fuel + 1 =>
    match tokens with
    | .flowMappingEnd :: rest => some (entries, r, rest)
    | _ =>
      match afterComma isFirst tokens with
      | none => none
      | some (.flowMappingEnd :: rest) => some (entries, r, rest)
      | some (.key :: rest) =>
        let key := if endsFieldKey rest then some (emptyNode, r, rest)
          else readNode fuel ⟨false, false⟩ r rest
        match key with
        | none => none
        | some (key, r, .value :: rest) =>
          let value := if endsFieldValue rest then some (emptyNode, r, rest)
            else readNode fuel ⟨false, false⟩ r rest
          match value with
          | none => none
          | some (value, r, rest) => readFlowFields fuel false ((key, value) :: entries) r rest
        | some (key, r, rest) => readFlowFields fuel false ((key, emptyNode) :: entries) r rest
      | some rest =>
        match readNode fuel ⟨false, false⟩ r rest with
        | some (key, r, rest) => readFlowFields fuel false ((key, emptyNode) :: entries) r rest
        | none => none

end

/-- The directives before a document, and the tokens after them.  There may be one version, of those that
are known, and one meaning for each handle. -/
def readDirectives (hasVersion : Bool) (handles : List (List Char × List UInt8)) :
    List Token → Option (List (List Char × List UInt8) × List Token)
  | .directive (.version major minor) :: rest =>
    if hasVersion || major ≠ 1 || (minor ≠ 1 && minor ≠ 2) then none
    else readDirectives true handles rest
  | .directive (.handle handle start) :: rest =>
    if (handles.lookup handle).isSome then none
    else readDirectives hasVersion ((handle, start) :: handles) rest
  | tokens => some (handles, tokens)

/-- Whether nothing is written for a document. -/
def endsDocument : List Token → Bool
  | [] | .directive _ :: _ | .documentStart :: _ | .documentEnd :: _ => true
  | _ => false

/-- Whether the marks that may follow a document are all that is left. -/
def isFinished (tokens : List Token) : Bool :=
  tokens.all fun
    | .documentEnd => true
    | _ => false

/-- A document: its root, and the anchors in it. -/
structure Document where
  root : Node
  anchors : Anchors

/-- The document that tokens make, if they make one and no more. -/
def Document.ofTokens? (tokens : List Token) : Option Document :=
  let fuel := 3 * tokens.length + 3
  let read : Parsed Node := match tokens with
    | .directive _ :: _ | .documentStart :: _ =>
      match readDirectives false [] tokens with
      | some (handles, .documentStart :: rest) =>
        if endsDocument rest then some (emptyNode, { handles }, rest)
        else readNode fuel ⟨true, false⟩ { handles } rest
      | _ => none
    | _ => readNode fuel ⟨true, false⟩ {} tokens
  match read with
  | some (root, r, rest) => if isFinished rest then some ⟨root, r.anchors⟩ else none
  | none => none

/-- The document of a text. -/
def Document.read? (content : String) : Option Document :=
  (tokens? content.toList).bind Document.ofTokens?

end CallScript.Yaml
