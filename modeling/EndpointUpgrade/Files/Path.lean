import EndpointUpgrade.Text.Fields

/-!
# Paths

The path of a file: its root, if it is absolute, and its parts. Empty parts and parts that are a
single point say nothing and are left out; two points are kept.
-/

namespace EndpointUpgrade.Files

open Text

/-- A path by its root and its parts. -/
structure Path where
  root : String
  parts : List String
deriving DecidableEq, Repr

namespace Path

/-- The root that a text begins with: nothing, one slash, or exactly two. -/
def rootOf (cs : List Char) : String :=
  match cs with
  | '/' :: '/' :: '/' :: _ => "/"
  | '/' :: '/' :: _ => "//"
  | '/' :: _ => "/"
  | _ => ""

/-- A part that says something. -/
def isPart (s : String) : Bool := s ≠ "" && s ≠ "."

def ofText (s : String) : Path :=
  ⟨rootOf s.toList, ((fields '/' s.toList).map String.ofList).filter isPart⟩

/-- The text of a path. The path without root and parts is a point. -/
def text (p : Path) : String :=
  if p.root = "" ∧ p.parts = [] then "." else p.root ++ "/".intercalate p.parts

def name (p : Path) : String := p.parts.getLast?.getD ""

/-- The end of a name from its last point on, unless that is the first or the last character. -/
def suffixOf (name : String) : String :=
  let after := name.toList.reverse.takeWhile (· ≠ '.')
  let before := name.toList.reverse.drop (after.length + 1)
  if after.length < name.length ∧ !after.isEmpty ∧ !before.isEmpty then
    String.ofList ('.' :: after.reverse)
  else ""

def suffix (p : Path) : String := suffixOf p.name

def parent (p : Path) : Path := ⟨p.root, p.parts.dropLast⟩

end Path

end EndpointUpgrade.Files
