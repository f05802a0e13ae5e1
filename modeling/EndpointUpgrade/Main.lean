import EndpointUpgrade.CommandLine.Run
import Std.Time.Format

/-!
# The program

The file tree of a run is read from the disk as far as the paths on the command line lead through
it. What the run puts into the tree is written back before the program ends.
-/

namespace EndpointUpgrade.Main

open CommandLine Files

/-- The locations that parts lead through, from a location on, with the location itself. -/
def stations (l : Location) : List String → List Location
  | [] => [l]
  | part :: rest =>
    l :: stations (if part = ".." then l.dropLast else l ++ [part]) rest

/-- The locations that a run may look at. -/
def watched (here : Location) (a : Arguments) : List Location :=
  stations [] here ++ (a.source :: a.output.toList).flatMap fun p =>
    stations (if p.root = "" then here else []) p.parts

def locationText (l : Location) : String := (⟨"/", l⟩ : Path).text

def entryAt (l : Location) : IO (Option Entry) := do
  let place := (← IO.currentDir) / locationText l
  if ← place.isDir then
    return some .directory
  else if ← place.pathExists then
    return some (.file (← IO.FS.readBinFile place).toList)
  else
    return none

def readTree (here : Location) (locations : List Location) : IO Tree := do
  let found ← locations.eraseDups.filterMapM fun l => do
    return (← entryAt l).map fun entry => (l, entry)
  return ⟨here, found⟩

/-- Writes the entries of a tree that differ from those of an earlier one, oldest first. -/
def writeChanges (before after : Tree) : IO Unit := do
  for (l, entry) in after.entries.reverse do
    if before.find? l ≠ some entry then
      match entry with
      | .directory => IO.FS.createDirAll (locationText l)
      | .file content => IO.FS.writeBinFile (locationText l) ⟨content.toArray⟩

def timeText : IO String := do
  let now ← Std.Time.PlainDateTime.now
  return now.format "uuuu-MM-dd HH:mm:ss,SSS"

def runOnDisk (argv : List String) : IO UInt32 := do
  let here := (Path.ofText (← IO.currentDir).toString).parts
  let tree ←
    match parse argv with
    | .ok (some a) => readTree here (watched here a)
    | _ => pure ⟨here, []⟩
  let effect := run .fresh (← timeText) argv tree
  writeChanges tree effect.tree
  IO.print effect.stdout
  IO.eprint effect.stderr
  return effect.exitCode.toUInt32

end EndpointUpgrade.Main

/-- Upgrades the documents named on the command line. -/
def main (argv : List String) : IO UInt32 := EndpointUpgrade.Main.runOnDisk argv
