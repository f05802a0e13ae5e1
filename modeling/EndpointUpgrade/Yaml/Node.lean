import EndpointUpgrade.Yaml.Lexer
import EndpointUpgrade.Yaml.Tag

/-!
# From YAML tokens to nodes

A node is a scalar, a sequence of nodes, or a mapping of nodes to nodes, with a tag. An alias stands
for the node that its anchor marks in the same document; within that node itself it stands for a
collection of an empty scalar, which no record is read from either. A key or a value that is left
out is an empty scalar.
-/

namespace EndpointUpgrade.Yaml

/-- A part of a document. -/
inductive Node where
  | scalar (tag : Tag) (text : String)
  | sequence (tag : Tag) (items : List Node)
  | mapping (tag : Tag) (entries : List (Node × Node))
deriving Repr

instance : Inhabited Node := ⟨.scalar .null ""⟩

def Node.tag : Node → Tag
  | .scalar t _ => t
  | .sequence t _ => t
  | .mapping t _ => t

/-- What holds throughout a document: its version and the texts that handles of tags stand for. -/
structure Setting where
  version : Version
  handles : List (String × String)
deriving Repr

def defaultHandles : List (String × String) := [("!", "!"), ("!!", commonTag)]

/-- What changes while a document is read. -/
structure Reader where
  tokens : List Token
  /-- The nodes that are marked so far, the last one first. -/
  anchors : List (String × Node)

abbrev Read (α : Type) := StateT Reader (Except Fault) α

def peekToken : Read Token := do
  match (← get).tokens with
  | [] => throw .illFormed
  | t :: _ =>
    match t.kind with
    | .fault fault => throw fault
    | _ => return t

def peekKind : Read TokenKind := do return (← peekToken).kind

def dropToken : Read Unit := modify fun r => { r with tokens := r.tokens.tail }

/-- Takes the next token, which has to be a given one. -/
def expect (kind : TokenKind) : Read Unit := do
  if (← peekKind) = kind then dropToken else throw .illFormed

/-- The scalar that stands where nothing is written. -/
def emptyNode : Node := .scalar .null ""

def mark (anchor : Option String) (node : Node) : Read Unit :=
  match anchor with
  | some name => modify fun r => { r with anchors := (name, node) :: r.anchors }
  | none => pure ()

/-- The text of a tag whose handle is spelled out. -/
def fullTag (setting : Setting) (handle : Option String) (suffix : String) : Read String :=
  match handle with
  | none => pure suffix
  | some h =>
    match setting.handles.lookup h with
    | some expansion => pure (expansion ++ suffix)
    | none => throw .illFormed

/-- What stands in front of a node: an anchor and a tag, in either order. -/
structure Properties where
  anchor : Option String
  tag : Option String

def readAnchor? : Read (Option String) := do
  match ← peekKind with
  | .anchor name => dropToken; return some name
  | _ => return none

def readTag? (setting : Setting) : Read (Option String) := do
  match ← peekKind with
  | .tag handle suffix => dropToken; return some (← fullTag setting handle suffix)
  | _ => return none

/-- Reads what stands in front of a node. -/
def properties (setting : Setting) : Read Properties := do
  match ← readAnchor? with
  | some anchor => return ⟨some anchor, ← readTag? setting⟩
  | none =>
    match ← readTag? setting with
    | some tag => return ⟨← readAnchor?, some tag⟩
    | none => return ⟨none, none⟩

/-- The tag of a scalar. Without one, and with the tag `!`, a plain scalar has the tag of its form;
without one, any other scalar is a text. -/
def Properties.scalarTag (p : Properties) (version : Version) (plain : Bool) (text : String) : Tag :=
  match p.tag with
  | none => if plain then .ofPlain version text else .text
  | some "!" => .ofPlain version text
  | some tag => .ofText tag

/-- The tag of a collection, which is `usual` if none is given. -/
def Properties.collectionTag (p : Properties) (usual : Tag) : Tag :=
  match p.tag with
  | none => usual
  | some "!" => usual
  | some tag => .ofText tag

/-- Where a node stands. -/
inductive Place where
  /-- Within brackets. -/
  | flow
  /-- In a block collection. -/
  | block
  /-- In a block mapping, where the items of a sequence need not be indented further. -/
  | entry
deriving DecidableEq, Repr

def endsEntry : TokenKind → Bool
  | .key => true
  | .value => true
  | .blockEnd => true
  | _ => false

def endsItem : TokenKind → Bool
  | .blockEntry => true
  | .blockEnd => true
  | _ => false

/-- Tokens that end an item of a block sequence in an entry of a mapping. -/
def endsEntryItem (kind : TokenKind) : Bool := endsEntry kind || endsItem kind

/-- Tokens that end a part within brackets of the given closing one. -/
def endsFlowPart (closing kind : TokenKind) : Bool := kind = .flowEntry || kind = closing

mutual

def readNode (fuel : Nat) (setting : Setting) (place : Place) : Read Node :=
  match fuel with
  | 0 => throw .illFormed
  | fuel + 1 => do
    match ← peekKind with
    | .alias name =>
      dropToken
      match (← get).anchors.lookup name with
      | some node => return node
      | none => throw .illFormed
    | _ =>
      let p ← properties setting
      match ← peekKind, place with
      | .blockEntry, .entry =>
        let tag := p.collectionTag .list
        mark p.anchor (.sequence tag [emptyNode])
        finish p (.sequence tag (← readEntryItems fuel setting))
      | .scalar text plain, _ =>
        dropToken
        finish p (.scalar (p.scalarTag setting.version plain text) text)
      | .flowSequenceStart, _ =>
        dropToken
        let tag := p.collectionTag .list
        mark p.anchor (.sequence tag [emptyNode])
        finish p (.sequence tag (← readFlowItems fuel setting true))
      | .flowMappingStart, _ =>
        dropToken
        let tag := p.collectionTag .map
        mark p.anchor (.mapping tag [(emptyNode, emptyNode)])
        finish p (.mapping tag (← readFlowEntries fuel setting true))
      | .blockSequenceStart, .flow => throw .illFormed
      | .blockSequenceStart, _ =>
        dropToken
        let tag := p.collectionTag .list
        mark p.anchor (.sequence tag [emptyNode])
        finish p (.sequence tag (← readItems fuel setting))
      | .blockMappingStart, .flow => throw .illFormed
      | .blockMappingStart, _ =>
        dropToken
        let tag := p.collectionTag .map
        mark p.anchor (.mapping tag [(emptyNode, emptyNode)])
        finish p (.mapping tag (← readEntries fuel setting))
      | _, _ =>
        if p.anchor.isSome || p.tag.isSome then
          finish p (.scalar (p.scalarTag setting.version true "") "")
        else throw .illFormed
where
  /-- Marks a node that has been read. -/
  finish (p : Properties) (node : Node) : Read Node := do
    mark p.anchor node
    return node

/-- Reads a node, or nothing where a token that ends it follows. -/
def readPart (fuel : Nat) (setting : Setting) (place : Place) (ends : TokenKind → Bool) :
    Read Node :=
  match fuel with
  | 0 => throw .illFormed
  | fuel + 1 => do
    if ends (← peekKind) then return emptyNode else readNode fuel setting place

/-- Reads the sign of a value and a value, either of which may be left out. -/
def readValue (fuel : Nat) (setting : Setting) (place : Place) (ends : TokenKind → Bool) :
    Read Node :=
  match fuel with
  | 0 => throw .illFormed
  | fuel + 1 => do
    if (← peekKind) = .value then
      dropToken
      readPart fuel setting place ends
    else return emptyNode

def readItems (fuel : Nat) (setting : Setting) : Read (List Node) :=
  match fuel with
  | 0 => throw .illFormed
  | fuel + 1 => do
    match ← peekKind with
    | .blockEntry =>
      dropToken
      let item ← readPart fuel setting .block endsItem
      return item :: (← readItems fuel setting)
    | .blockEnd => dropToken; return []
    | _ => throw .illFormed

/-- Reads the items of a block sequence in an entry of a mapping. It has no end token. -/
def readEntryItems (fuel : Nat) (setting : Setting) : Read (List Node) :=
  match fuel with
  | 0 => throw .illFormed
  | fuel + 1 => do
    match ← peekKind with
    | .blockEntry =>
      dropToken
      let item ← readPart fuel setting .block endsEntryItem
      return item :: (← readEntryItems fuel setting)
    | _ => return []

def readEntries (fuel : Nat) (setting : Setting) : Read (List (Node × Node)) :=
  match fuel with
  | 0 => throw .illFormed
  | fuel + 1 => do
    match ← peekKind with
    | .key =>
      dropToken
      let key ← readPart fuel setting .entry endsEntry
      let value ← readValue fuel setting .entry endsEntry
      return (key, value) :: (← readEntries fuel setting)
    | .value =>
      if setting.version = .v1_1 then throw .illFormed
      else
        let value ← readValue fuel setting .entry endsEntry
        return (emptyNode, value) :: (← readEntries fuel setting)
    | .blockEnd => dropToken; return []
    | _ => throw .illFormed

/-- Reads the items of a flow sequence and its end. An item with the sign of a key is a mapping of
one entry. -/
def readFlowItems (fuel : Nat) (setting : Setting) (first : Bool) : Read (List Node) :=
  match fuel with
  | 0 => throw .illFormed
  | fuel + 1 => do
    if (← peekKind) = .flowSequenceEnd then
      dropToken
      return []
    else
      if !first then expect .flowEntry
      match ← peekKind with
      | .flowSequenceEnd => dropToken; return []
      | .key =>
        dropToken
        let key ← readPart fuel setting .flow fun k =>
          k = .value || endsFlowPart .flowSequenceEnd k
        let value ← readValue fuel setting .flow (endsFlowPart .flowSequenceEnd)
        return .mapping .map [(key, value)] :: (← readFlowItems fuel setting false)
      | _ =>
        let item ← readNode fuel setting .flow
        return item :: (← readFlowItems fuel setting false)

/-- Reads the entries of a flow mapping and its end. A node without the sign of a key is a key
without a value. -/
def readFlowEntries (fuel : Nat) (setting : Setting) (first : Bool) : Read (List (Node × Node)) :=
  match fuel with
  | 0 => throw .illFormed
  | fuel + 1 => do
    if (← peekKind) = .flowMappingEnd then
      dropToken
      return []
    else
      if !first then expect .flowEntry
      match ← peekKind with
      | .flowMappingEnd => dropToken; return []
      | .key =>
        dropToken
        let key ← readPart fuel setting .flow fun k =>
          k = .value || endsFlowPart .flowMappingEnd k
        let value ← readValue fuel setting .flow (endsFlowPart .flowMappingEnd)
        return (key, value) :: (← readFlowEntries fuel setting false)
      | .value =>
        if setting.version = .v1_1 then throw .illFormed
        else
          let value ← readValue fuel setting .flow (endsFlowPart .flowMappingEnd)
          return (emptyNode, value) :: (← readFlowEntries fuel setting false)
      | _ =>
        let key ← readNode fuel setting .flow
        return (key, emptyNode) :: (← readFlowEntries fuel setting false)

end

end EndpointUpgrade.Yaml
