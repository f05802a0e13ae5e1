import EndpointUpgrade.Documents.Loader
import EndpointUpgrade.Endpoint.AnyRecord
import EndpointUpgrade.Upgrade.Conversion

/-!
# Upgrading the documents of a file

Every document of a file is read and taken to the backend form, and from there to a v3 resource if
that is the target. The first failure ends the run.
-/

namespace EndpointUpgrade.Documents

open Endpoint Files Text

/-- What documents are converted to. -/
inductive Target where
  | v3
  | backend
deriving DecidableEq, Repr

/-- A converted record. -/
inductive Upgraded where
  | stored (e : Stored)
  | v3 (r : V3)

def Upgraded.document : Upgraded → Document
  | .stored e => e.document
  | .v3 r => r.document

/-- A converted record as a record of any kind. -/
def Upgraded.toAny : Upgraded → AnyRecord
  | .stored e => .stored e
  | .v3 r => .v3 r

/-- Takes a record to the backend form. -/
def toStored : Record → Logged Stored
  | .v1 e => Upgrade.toStored e
  | .stored e => .silent e

/-- Takes a stored endpoint to the target. -/
def toTarget (target : Target) (e : Stored) : Logged (Except Failure Upgraded) :=
  match target with
  | .backend => .silent (.ok (.stored e))
  | .v3 =>
    ((Upgrade.toResource e).mapError .malformed).andThen fun r => .silent (.ok (.v3 r))

/-- Converts one document, where some masks are known. -/
def upgradeDocument (target : Target) (known : Net.Masks) (entries : Entries) :
    Logged (Except Failure Upgraded) :=
  (readRecord known entries).andThen fun r =>
    let s := toStored r
    let u := toTarget target s.result
    ⟨u.result, s.log ++ u.log⟩

/-- Converts documents, first to last. Each one may make further masks known to the next ones. -/
def upgradeAll (target : Target) (known : Net.Masks) (documents : List Entries) :
    Logged (Except Failure (List Upgraded)) :=
  Logged.forEach (fun p => upgradeDocument target p.1 p.2) (threaded masksAfter known documents)

/-- Converts the documents of a file, and notes how many they were. -/
def upgradeFile (process : Process) (tree : Tree) (path : Path) (target : Target) :
    Logged (Except Failure (List Upgraded)) :=
  (load process tree path).andThen fun documents =>
    (upgradeAll target process.masks documents).andThen fun upgraded =>
      Logged.noted
        ⟨.info, .commandLine,
          "Converted " ++ decimalText upgraded.length ++ " WorkloadEndpoint(s) from " ++ path.text⟩
        upgraded

end EndpointUpgrade.Documents
