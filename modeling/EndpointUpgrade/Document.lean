import EndpointUpgrade.Value.Basic

/-!
# Documents

What a record is written as: texts, numbers, lists, and mappings from field names or label keys.
A field without a value is left out, an empty text, list or mapping is kept.
-/

namespace EndpointUpgrade

/-- A document or a part of one. -/
inductive Document where
  | text (s : String)
  | number (n : Int)
  | list (items : List Document)
  | mapping (entries : List (String × Document))
deriving Repr, Inhabited

namespace Document

mutual

/-- The value that reading the written document gives. -/
def toValue : Document → Value
  | .text s => .text s
  | .number n => .int n
  | .list items => .list (toValues items)
  | .mapping entries => .map (toEntries entries)

def toValues : List Document → List Value
  | [] => []
  | d :: rest => toValue d :: toValues rest

def toEntries : List (String × Document) → List (Value × Value)
  | [] => []
  | (k, d) :: rest => (.text k, toValue d) :: toEntries rest

end

mutual

/-- A document can be written if no integer in it is too long. -/
def isWritable : Document → Bool
  | .text _ => true
  | .number n => Text.isWritable n
  | .list items => areWritable items
  | .mapping entries => haveWritable entries

def areWritable : List Document → Bool
  | [] => true
  | d :: rest => isWritable d && areWritable rest

def haveWritable : List (String × Document) → Bool
  | [] => true
  | (_, d) :: rest => isWritable d && haveWritable rest

end

def texts (ss : List String) : Document := .list (ss.map .text)

def pairs (es : List (String × String)) : Document :=
  .mapping (es.map fun e => (e.1, .text e.2))

/-- A field of a mapping, left out if it has no value. -/
abbrev Field := String × Option Document

def ofFields (fields : List Field) : Document :=
  .mapping (fields.filterMap fun f => f.2.map fun d => (f.1, d))

end Document

end EndpointUpgrade
