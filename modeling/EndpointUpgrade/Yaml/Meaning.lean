import EndpointUpgrade.Yaml.Node
import EndpointUpgrade.Yaml.ScalarValue

/-!
# From YAML nodes to values

A node becomes the value that its tag asks for. Entries under a merge key stand in front of the
entries of their mapping, which override them; a mapping without them has every key once.

Collections are filled level by level: the collection around first, and then those in it, from left
to right. Of several faults the one at the lowest level counts, and on one level the leftmost. Keys
are filled at the level of their mapping.
-/

namespace EndpointUpgrade.Yaml

open Value

/-- A fault and the level at which it was met. -/
structure Failed where
  level : Nat
  fault : Fault
deriving DecidableEq, Repr

/-- Of two faults the one that counts, the left one on one level. -/
def Failed.orElse (left right : Failed) : Failed := if right.level < left.level then right else left

/-- A value, or the fault that counts. -/
abbrev Meant (α : Type) := Except Failed α

def atLevel {α : Type} (level : Nat) (x : Except Fault α) : Meant α := x.mapError (Failed.mk level)

/-- Combines two results; the fault that counts is that of either. -/
def both {α β γ : Type} (f : α → β → γ) (left : Meant α) (right : Meant β) : Meant γ :=
  match left, right with
  | .ok a, .ok b => .ok (f a b)
  | .ok _, .error e => .error e
  | .error e, .ok _ => .error e
  | .error e, .error e' => .error (e.orElse e')

namespace Node

mutual

/-- The number of nodes on the longest way down. -/
def height : Node → Nat
  | .scalar _ _ => 1
  | .sequence _ items => heights items + 1
  | .mapping _ entries => entryHeights entries + 1

/-- The greatest height of several nodes. -/
def heights : List Node → Nat
  | [] => 0
  | n :: rest => max (height n) (heights rest)

def entryHeights : List (Node × Node) → Nat
  | [] => 0
  | (k, v) :: rest => max (max (height k) (height v)) (entryHeights rest)

end

mutual

/-- The text of a scalar, or of the default value of a mapping. -/
def scalarText? : Node → Option String
  | .scalar _ s => some s
  | .sequence _ _ => none
  | .mapping _ entries => defaultText? entries

/-- The text of the first entry with the key of a default value. -/
def defaultText? : List (Node × Node) → Option String
  | [] => none
  | (k, v) :: rest => if k.tag = .defaultValue then scalarText? v else defaultText? rest

end

/-- The same node with another tag. -/
def withTag (tag : Tag) : Node → Node
  | .scalar _ s => .scalar tag s
  | .sequence _ items => .sequence tag items
  | .mapping _ entries => .mapping tag entries

/-- Entries taken apart: those from other mappings, and a mapping's own. -/
structure Merged where
  others : List (Node × Node)
  own : List (Node × Node)

/-- All entries, those from other mappings first. -/
def Merged.all (m : Merged) : List (Node × Node) := m.others ++ m.own

mutual

/-- The entries that a merge key adds: those of a mapping, or of the mappings in a sequence, the
last one first. -/
def mergeSource : Node → Except Fault (List (Node × Node))
  | .scalar _ _ => .error .illFormed
  | .mapping _ entries => do return (← merged [] entries).all
  | .sequence _ items => mergeSources items

/-- The entries of several mappings, those of the last one first. -/
def mergeSources : List Node → Except Fault (List (Node × Node))
  | [] => .ok []
  | .mapping _ entries :: rest => do
    let first ← merged [] entries
    return (← mergeSources rest) ++ first.all
  | _ => .error .illFormed

/-- Takes the entries of a mapping apart. A second merge key is a fault, unless the ones before
added nothing. The key of a default value is a text here. -/
def merged (others : List (Node × Node)) : List (Node × Node) → Except Fault Merged
  | [] => .ok ⟨others, []⟩
  | (k, v) :: rest =>
    if k.tag = .merge then
      if others.isEmpty then do
        let more ← mergeSource v
        merged more rest
      else .error .illFormed
    else do
      let m ← merged others rest
      let k := if k.tag = .defaultValue then k.withTag .text else k
      return { m with own := (k, v) :: m.own }

end

/-- The key that a value makes: a list makes a tuple. Mappings and sets are refused. -/
def keyOf : Value → Except Fault Value
  | .list items => .ok (.tuple items)
  | .map _ => .error .illFormed
  | .set _ => .error .illFormed
  | v => .ok v

/-- A key whose parts are keys as well, and that is not among entries in which keys are unique. -/
def checkKey (unique : Bool) (before : List (Value × Value)) (key : Value) : Except Fault Unit :=
  match unkeyable? key with
  | some part => .error (.unkeyable part)
  | none => if unique && hasKey key before then .error .illFormed else .ok ()

def scalarValue (version : Version) (tag : Tag) (s : String) : Except Fault Value :=
  match tag with
  | .null => .ok .null
  | .bool => return .bool (← boolValue s)
  | .int => return .int (← intValue version s)
  | .float => return .float (← floatValue version s)
  | .text => .ok (.text s)
  | .bytes => return .bytes (← bytesValue s)
  | .timestamp => timestampValue s
  | _ => .error .illFormed

/-! ## Collections -/

def fillItems (part : Node → Meant Value) : List Node → Meant (List Value)
  | [] => .ok []
  | n :: rest => both List.cons (part n) (fillItems part rest)

/-- Puts entries to those before them. In a mapping with merged entries a key may occur again. -/
def fillEntries (level : Nat) (unique : Bool) (key part : Node → Meant Value)
    (before : List (Value × Value)) : List (Node × Node) → Meant (List (Value × Value))
  | [] => .ok before
  | (k, v) :: rest =>
    match key k >>= fun k => atLevel level (keyOf k) with
    | .error e => .error e
    | .ok k =>
      let v := both (fun v _ => v) (part v) (atLevel level (checkKey unique before k))
      let shown := match v with
        | .ok v => v
        | .error _ => .null
      both (fun _ es => es) v (fillEntries level unique key part (put k shown before) rest)

/-- Puts single entries to those before them. A key does not occur again. -/
def fillOrdered (level : Nat) (part : Node → Meant Value) (before : List (Value × Value)) :
    List Node → Meant (List (Value × Value))
  | [] => .ok before
  | .mapping _ [(k, v)] :: rest =>
    match part k with
    | .error e => .error e
    | .ok k =>
      match unkeyable? k with
      | some kind => .error ⟨level, .unkeyable kind⟩
      | none =>
        if hasKey k before then .error ⟨level, .repeatedKey⟩
        else
          let v := part v
          let shown := match v with
            | .ok v => v
            | .error _ => .null
          both (fun _ es => es) v (fillOrdered level part (put k shown before) rest)
  | _ => .error ⟨level, .illFormed⟩

/-- The pair that a single entry makes. -/
def fillPair (level : Nat) (part : Node → Meant Value) : Node → Meant Value
  | .mapping _ [(k, v)] => both (fun k v => .tuple [k, v]) (part k) (part v)
  | _ => .error ⟨level, .illFormed⟩

def items? : Node → Option (List Node)
  | .sequence _ items => some items
  | _ => none

/-- The entries of a mapping and those merged into it. -/
def entries? : Node → Except Fault Merged
  | .mapping _ entries => merged [] entries
  | _ => .error .illFormed

/-- The value of a node that stands at a level. What is in a key is filled at the level of the key.
The fuel is the height of the node. -/
def meaning (fuel : Nat) (version : Version) (inKey : Bool) (level : Nat) (n : Node) :
    Meant Value :=
  match fuel with
  | 0 => .error ⟨level, .illFormed⟩
  | fuel + 1 =>
    let inside := if inKey then level else level + 1
    let part := meaning fuel version inKey inside
    let filled :=
      match entries? n with
      | .ok m =>
        fillEntries inside m.others.isEmpty (meaning fuel version true inside) part [] m.all
      | .error fault => .error ⟨inside, fault⟩
    match n.tag with
    | .list =>
      match items? n with
      | some items => .list <$> fillItems part items
      | none => .error ⟨inside, .illFormed⟩
    | .map => .map <$> filled
    | .set => (fun es => .set (es.map (·.1))) <$> filled
    | .orderedMap =>
      match items? n with
      | some items => .map <$> fillOrdered inside part [] items
      | none => .error ⟨inside, .illFormed⟩
    | .pairs =>
      match items? n with
      | some items => .list <$> fillItems (fillPair inside part) items
      | none => .error ⟨inside, .illFormed⟩
    | tag =>
      match n, scalarText? n with
      | .scalar _ s, _ => atLevel level (scalarValue version tag s)
      | _, some s =>
        if tag = .timestamp then .error ⟨level, .illFormed⟩
        else atLevel level (scalarValue version tag s)
      | _, none => .error ⟨level, .illFormed⟩

def toValue (version : Version) (n : Node) : Except Fault Value :=
  (n.meaning n.height version false 0).mapError Failed.fault

end Node

end EndpointUpgrade.Yaml
