import EndpointUpgrade.Calendar
import EndpointUpgrade.Decimal.Binary64
import EndpointUpgrade.Text.Halves

/-!
# Values of documents

What a document holds once its notation has been read: scalars with their kinds kept apart,
sequences, and mappings whose entries stay in order. Keys may be any value that can be told apart
from others for good, so sequences and mappings are refused as keys.
-/

namespace EndpointUpgrade

open Decimal Text

/-- A value read from a document. Tuples arise as keys and as members of lists of pairs. The members
of a set stand in the order in which a process goes through them. -/
inductive Value where
  | null
  | bool (b : Bool)
  | int (n : Int)
  | float (x : Binary64)
  | text (s : String)
  /-- A text with halves of characters that stand alone, by its code points. -/
  | tornText (points : List Nat)
  | bytes (bs : List UInt8)
  | date (d : Date)
  | timestamp (t : Timestamp)
  | list (items : List Value)
  | tuple (items : List Value)
  | set (members : List Value)
  | map (entries : List (Value × Value))
deriving Repr, Inhabited

namespace Value

def ofPoints (points : List Nat) : Value :=
  match pointText? points with
  | some s => .text s
  | none => .tornText points

/-- The kinds of value that cannot serve as keys. -/
inductive Unkeyable where
  | list
  | map
  | set
deriving DecidableEq, Repr

/-- The name of a kind of value that cannot serve as a key. -/
def Unkeyable.name : Unkeyable → String
  | .list => "list"
  | .map => "dict"
  | .set => "set"

/-- A use of a value that its kind does not offer. -/
inductive Misuse where
  | key (part : Unkeyable)
  /-- A property of texts asked of a value whose kind has the given name. -/
  | property (kind : String)
  /-- Bytes split at a text. -/
  | bytesAsText
  /-- The first item of an empty tuple. -/
  | noItem
deriving DecidableEq, Repr

def Misuse.message : Misuse → String
  | .key part => "unhashable type: '" ++ part.name ++ "'"
  | .property kind => "'" ++ kind ++ "' object has no attribute 'isascii'"
  | .bytesAsText => "a bytes-like object is required, not 'str'"
  | .noItem => "tuple index out of range"

mutual

/-- What keeps a value from being a key: it, or the first such part of a tuple. -/
def unkeyable? : Value → Option Unkeyable
  | .list _ => some .list
  | .map _ => some .map
  | .set _ => some .set
  | .tuple items => firstUnkeyable? items
  | _ => none

def firstUnkeyable? : List Value → Option Unkeyable
  | [] => none
  | v :: rest =>
    match unkeyable? v with
    | some k => some k
    | none => firstUnkeyable? rest

end

def typeName : Value → String
  | .null => "NoneType"
  | .bool _ => "bool"
  | .int _ => "int"
  | .float _ => "float"
  | .text _ | .tornText _ => "str"
  | .bytes _ => "bytes"
  | .date _ => "datetime.date"
  | .timestamp _ => "datetime.datetime"
  | .list _ => "list"
  | .tuple _ => "tuple"
  | .set _ => "set"
  | .map _ => "dict"

/-- The integer that a numeric value is equal to. Truth values count as one and zero. -/
def toInt? : Value → Option Int
  | .bool b => some (if b then 1 else 0)
  | .int n => some n
  | .float x => x.toInt?
  | _ => none

mutual

/-- Equality of keys: numbers of different kinds are the same key when they are equal. -/
def sameKey : Value → Value → Bool
  | .tuple xs, .tuple ys => sameKeys xs ys
  | .null, .null => true
  | .text s, .text t => s == t
  | .tornText s, .tornText t => s == t
  | .bytes s, .bytes t => s == t
  | .date s, .date t => s == t
  | .timestamp s, .timestamp t => s == t
  | .float x, .float y => x == y || (toInt? (.float x)).any (some · == toInt? (.float y))
  | v, w =>
    match v.toInt?, w.toInt? with
    | some m, some n => m == n
    | _, _ => false

/-- Equality of lists of keys. -/
def sameKeys : List Value → List Value → Bool
  | [], [] => true
  | x :: xs, y :: ys => sameKey x y && sameKeys xs ys
  | _, _ => false

end

/-- The value of the first entry under a text key. -/
def lookup? (key : String) : List (Value × Value) → Option Value
  | [] => none
  | (.text k, v) :: rest => if k = key then some v else lookup? key rest
  | _ :: rest => lookup? key rest

/-- The entries other than those under a text key. -/
def without (key : String) (entries : List (Value × Value)) : List (Value × Value) :=
  entries.filter fun e =>
    match e.1 with
    | .text k => k ≠ key
    | _ => true

/-- Puts a value under a key: in the place of the entry that has the key, or at the end. -/
def put (key value : Value) : List (Value × Value) → List (Value × Value)
  | [] => [(key, value)]
  | (k, v) :: rest => if sameKey k key then (k, value) :: rest else (k, v) :: put key value rest

def hasKey (key : Value) (entries : List (Value × Value)) : Bool :=
  entries.any fun e => sameKey e.1 key

mutual

/-- A value whose sets have their members in a given order. Keys and members hold no sets. -/
def arranged (order : List Value → List Value) : Value → Value
  | .list items => .list (allArranged order items)
  | .tuple items => .tuple (allArranged order items)
  | .set members => .set (order members)
  | .map entries => .map (entriesArranged order entries)
  | v => v

def allArranged (order : List Value → List Value) : List Value → List Value
  | [] => []
  | v :: rest => arranged order v :: allArranged order rest

def entriesArranged (order : List Value → List Value) :
    List (Value × Value) → List (Value × Value)
  | [] => []
  | (k, v) :: rest => (k, arranged order v) :: entriesArranged order rest

end

end Value

end EndpointUpgrade
