import EndpointUpgrade.Text.LowerCase
import EndpointUpgrade.Text.Fields

/-!
# Identities and names of endpoints

A workload endpoint is identified by its host, its orchestrator, its workload id and its endpoint
id. Its name writes the four fields with hyphens between them, the host in lower case and every
hyphen of the workload doubled. For the orchestrator `k8s` the workload id is a namespace and a
pod with a point between them, and only the pod enters the name.

A name is read back by splitting it at its single hyphens. Hosts, orchestrators and endpoint ids
are written as they stand, so some names can be split in more than one way; reading accepts a name
only when writing the fields gives the same name again.
-/

namespace EndpointUpgrade.Identity

open Text

/-- The orchestrator whose workload ids carry a namespace. -/
def k8s : String := "k8s"

/-- The four fields that identify a workload endpoint. -/
structure Identifiers where
  host : String
  orchestrator : String
  workloadId : String
  endpointId : String
deriving DecidableEq, Repr

/-- A workload id taken apart: the namespace, for `k8s` only, and the name of the workload. -/
structure Workload where
  ns : Option String
  name : String
deriving DecidableEq, Repr

/-- Reasons why a workload id or a name cannot be decoded. -/
inductive Malformed where
  /-- A workload id of `k8s` without a point. -/
  | workloadId (id : String)
  /-- A name that does not split into four non-empty fields. -/
  | shape (name : String)
  /-- A name of `k8s` without a namespace to go with it. -/
  | needsNamespace (name : String)
  /-- A name that writing its fields does not give back. -/
  | ambiguous (name : String)
deriving DecidableEq, Repr

def Malformed.identifier : Malformed → String
  | .workloadId s => s
  | .shape s => s
  | .needsNamespace s => s
  | .ambiguous s => s

def Malformed.message : Malformed → String
  | .workloadId s =>
    "malformed k8s workload ID '" ++ s ++ "': workload was not added through the Calico CNI " ++
      "plugin and cannot be converted"
  | .shape s =>
    "malformed workload endpoint name '" ++ s ++
      "': expected '<node>-<orchestrator>-<workload>-<endpoint>'"
  | .needsNamespace s =>
    "k8s workload endpoint name '" ++ s ++ "' needs a namespace to recover its workload ID"
  | .ambiguous s =>
    "workload endpoint name '" ++ s ++ "' cannot be decoded unambiguously"

/-- Takes a workload id apart. The namespace ends at the first point. -/
def decodeWorkloadId (orchestrator workloadId : String) : Except Malformed Workload :=
  if orchestrator ≠ k8s then .ok ⟨none, workloadId⟩
  else
    match cutAt '.' workloadId.toList with
    | (ns, some pod) => .ok ⟨some (String.ofList ns), String.ofList pod⟩
    | (_, none) => .error (.workloadId workloadId)

/-- Doubles every hyphen. -/
def escapeChars : List Char → List Char
  | [] => []
  | c :: rest => if c = '-' then '-' :: '-' :: escapeChars rest else c :: escapeChars rest

def escape (s : String) : String := String.ofList (escapeChars s.toList)

def extendFirst (c : Char) : List (List Char) → List (List Char)
  | [] => [[c]]
  | f :: fs => (c :: f) :: fs

/-- Splits a text at its single hyphens, pairing hyphens from the left: a pair is one hyphen of
the current field, and a hyphen without a partner ends the field. -/
def splitFields : List Char → List (List Char)
  | [] => [[]]
  | [c] => if c = '-' then [[], []] else [[c]]
  | c :: d :: rest =>
    if c = '-' then
      if d = '-' then extendFirst '-' (splitFields rest) else [] :: splitFields (d :: rest)
    else extendFirst c (splitFields (d :: rest))

/-- The name of fields whose workload has been taken apart already. -/
def nameOf (host orchestrator workload endpointId : String) : String :=
  String.ofList (joined '-'
    [(lower host).toList, orchestrator.toList, escapeChars workload.toList, endpointId.toList])

/-- The name of a workload endpoint. -/
def encode (i : Identifiers) : Except Malformed String := do
  let workload ← decodeWorkloadId i.orchestrator i.workloadId
  return nameOf i.host i.orchestrator workload.name i.endpointId

/-- Accepts identifiers if writing them gives the name again. -/
def accept (name : String) (i : Identifiers) : Except Malformed Identifiers := do
  let again ← encode i
  if again = name then return i else throw (.ambiguous name)

/-- The identifiers that a name and the namespace beside it denote. -/
def parse (name : String) (ns : Option String) : Except Malformed Identifiers :=
  match splitFields name.toList with
  | [host, orchestrator, workload, endpointId] =>
    if host.isEmpty || orchestrator.isEmpty || workload.isEmpty || endpointId.isEmpty then
      .error (.shape name)
    else
      let host := String.ofList host
      let orchestrator := String.ofList orchestrator
      let workload := String.ofList workload
      let endpointId := String.ofList endpointId
      if orchestrator = k8s then
        match ns with
        | none => .error (.needsNamespace name)
        | some ns =>
          if ns = "" then .error (.needsNamespace name)
          else accept name ⟨host, orchestrator, ns ++ "." ++ workload, endpointId⟩
      else accept name ⟨host, orchestrator, workload, endpointId⟩
  | _ => .error (.shape name)

end EndpointUpgrade.Identity
