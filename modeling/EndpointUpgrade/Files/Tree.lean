import EndpointUpgrade.Files.Path
import EndpointUpgrade.Text.Quoted

/-!
# File trees

The files and directories that a run sees, by their locations, with the directory that it works in.
A path is followed part by part: every part but the last has to be a directory.
-/

namespace EndpointUpgrade.Files

open Text

/-- Where a file or directory lies: the names on the way to it from the root. -/
abbrev Location := List String

/-- What lies at a location. -/
inductive Entry where
  | file (content : List UInt8)
  | directory
deriving DecidableEq, Repr

/-- Files and directories by location, and the location of the working directory. -/
structure Tree where
  here : Location
  entries : List (Location × Entry)
deriving DecidableEq, Repr

/-- Reasons why the file system refuses an operation. -/
inductive Trouble where
  | missing
  | exists
  | notDirectory
  | isDirectory
  | nameTooLong
deriving DecidableEq, Repr

namespace Trouble

def number : Trouble → Nat
  | missing => 2
  | .exists => 17
  | notDirectory => 20
  | isDirectory => 21
  | nameTooLong => 36

def wording : Trouble → String
  | missing => "No such file or directory"
  | .exists => "File exists"
  | notDirectory => "Not a directory"
  | isDirectory => "Is a directory"
  | nameTooLong => "File name too long"

end Trouble

/-- A refused operation: the reason and the path that was asked for. -/
structure SystemFault where
  trouble : Trouble
  path : Path
deriving DecidableEq, Repr

def SystemFault.message (f : SystemFault) : String :=
  "[Errno " ++ decimalText f.trouble.number ++ "] " ++ f.trouble.wording ++ ": " ++
    quoted f.path.text

def longestName : Nat := 255

def longestPath : Nat := 4095

namespace Tree

/-- What lies at a location. The root is a directory. -/
def find? (t : Tree) (l : Location) : Option Entry :=
  if l = [] then some .directory else t.entries.lookup l

def put (t : Tree) (l : Location) (e : Entry) : Tree :=
  { t with entries := (l, e) :: t.entries.filter fun x => x.1 ≠ l }

/-- Follows parts from a location. The location reached need not hold anything. -/
def follow (t : Tree) (l : Location) : List String → Except Trouble Location
  | [] => .ok l
  | part :: rest =>
    match t.find? l with
    | none => .error .missing
    | some (.file _) => .error .notDirectory
    | some .directory =>
      if part = ".." then follow t l.dropLast rest
      else if longestName < part.utf8ByteSize then .error .nameTooLong
      else follow t (l ++ [part]) rest

def locate (t : Tree) (p : Path) : Except Trouble Location :=
  if longestPath < p.text.utf8ByteSize then .error .nameTooLong
  else t.follow (if p.root = "" then t.here else []) p.parts

/-- What lies at a path. Nothing lies at a path that leads nowhere; other obstacles are faults. -/
def entry? (t : Tree) (p : Path) : Except SystemFault (Option Entry) :=
  match t.locate p with
  | .ok l => .ok (t.find? l)
  | .error .nameTooLong => .error ⟨.nameTooLong, p⟩
  | .error _ => .ok none

def contentAt (t : Tree) (p : Path) : Except SystemFault (List UInt8) :=
  match t.locate p with
  | .error trouble => .error ⟨trouble, p⟩
  | .ok l =>
    match t.find? l with
    | none => .error ⟨.missing, p⟩
    | some .directory => .error ⟨.isDirectory, p⟩
    | some (.file content) => .ok content

def putFile (t : Tree) (p : Path) (content : List UInt8) : Except SystemFault Tree :=
  match t.locate p with
  | .error trouble => .error ⟨trouble, p⟩
  | .ok l =>
    if t.find? l = some .directory then .error ⟨.isDirectory, p⟩
    else .ok (t.put l (.file content))

def makeDirectory (t : Tree) (p : Path) : Except Trouble Tree :=
  match t.locate p with
  | .error trouble => .error trouble
  | .ok l =>
    if (t.find? l).isSome then .error .exists
    else .ok (t.put l .directory)

/-- Accepts a refusal to make a directory if there is one already. -/
def acceptDirectory (t : Tree) (p : Path) (trouble : Trouble) : Except SystemFault Unit :=
  match t.entry? p with
  | .ok (some .directory) => .ok ()
  | .ok _ => .error ⟨trouble, p⟩
  | .error fault => .error fault

/-- Makes a directory and those on the way to it, given the parts of its path from the last to the
first. Directories made before a refusal stay. -/
def makeDirectoriesFrom (root : String) (t : Tree) :
    List String → Tree × Except SystemFault Unit
  | [] =>
    let p : Path := ⟨root, []⟩
    match t.makeDirectory p with
    | .ok t => (t, .ok ())
    | .error trouble => (t, t.acceptDirectory p trouble)
  | part :: before =>
    let p : Path := ⟨root, (part :: before).reverse⟩
    match t.makeDirectory p with
    | .ok t => (t, .ok ())
    | .error .missing =>
      match makeDirectoriesFrom root t before with
      | (t, .error fault) => (t, .error fault)
      | (t, .ok ()) =>
        match t.makeDirectory p with
        | .ok t => (t, .ok ())
        | .error trouble => (t, t.acceptDirectory p trouble)
    | .error trouble => (t, t.acceptDirectory p trouble)

def makeDirectories (t : Tree) (p : Path) : Tree × Except SystemFault Unit :=
  makeDirectoriesFrom p.root t p.parts.reverse

/-- Writes a file and makes the directories on the way to it. -/
def saveFile (t : Tree) (p : Path) (content : List UInt8) : Tree × Except SystemFault Unit :=
  match t.makeDirectories p.parent with
  | (t, .error fault) => (t, .error fault)
  | (t, .ok ()) =>
    match t.putFile p content with
    | .ok t => (t, .ok ())
    | .error fault => (t, .error fault)

end Tree

end EndpointUpgrade.Files
