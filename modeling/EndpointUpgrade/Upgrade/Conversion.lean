import EndpointUpgrade.Endpoint.Stored
import EndpointUpgrade.Endpoint.V1
import EndpointUpgrade.Endpoint.V3
import EndpointUpgrade.Log
import EndpointUpgrade.Upgrade.Renaming

/-!
# From v1 to the backend and on to v3

A v1 endpoint becomes a stored one by splitting its networks and mappings by address family. A
stored endpoint becomes a v3 resource by joining them again, encoding its key as a name, and
renaming labels and profile ids. The first step always succeeds; the second fails exactly on keys
whose workload id cannot be decoded. Every success leaves one log record.
-/

namespace EndpointUpgrade.Upgrade

open Endpoint Net Identity Text

/-- The state of every endpoint that comes from the v1 API. -/
def activeState : String := "active"

/-- The stored form of a v1 endpoint. Networks are handed on as their plain texts, which show every
prefix length as a number. -/
def stored (e : V1) : Stored where
  key := e.metadata.identity
  value :=
    { state := activeState
      interfaceName := e.spec.interfaceName
      activeInstanceId := e.metadata.activeInstanceId
      mac := e.spec.mac
      profiles := e.spec.profiles
      networks := .ofList Interface.family (e.spec.networks.map Interface.plain)
      mappings := .ofList AddressPair.family e.spec.mappings
      labels := e.metadata.labels
      gateway4 := e.spec.gateway4
      gateway6 := e.spec.gateway6
      ports := e.spec.ports }

/-- The CIDR texts of networks, those of IPv4 first. -/
def networkTexts (v4 v6 : List Interface) : List String := (v4 ++ v6).map Interface.cidr

/-- The texts of address mappings, those of IPv4 first. -/
def mappingTexts (v4 v6 : List Mapping) : List TextMapping :=
  (v4 ++ v6).map AddressPair.toText

/-- The v3 resource of a stored endpoint whose workload id has been taken apart. -/
def resourceOf (e : Stored) (workload : Workload) : V3 where
  metadata :=
    { name := nameOf e.key.host e.key.orchestrator workload.name e.key.endpointId
      ns := workload.ns
      labels := labels e.value.labels }
  spec :=
    { orchestrator := e.key.orchestrator
      workload := if e.key.orchestrator = k8s then none else some workload.name
      node := lower e.key.host
      containerId := e.value.activeInstanceId
      pod := if e.key.orchestrator = k8s then some workload.name else none
      endpoint := e.key.endpointId
      networks := networkTexts e.value.networks.v4 e.value.networks.v6
      mappings := mappingTexts e.value.mappings.v4 e.value.mappings.v6
      gateway4 := e.value.gateway4.map V4.text
      gateway6 := e.value.gateway6.map V6.text
      profiles := e.value.profiles.map profileId
      interfaceName := e.value.interfaceName
      mac := e.value.mac.map Mac.text
      ports := e.value.ports }

def resource (e : Stored) : Except Malformed V3 :=
  match decodeWorkloadId e.key.orchestrator e.key.workloadId with
  | .ok workload => .ok (resourceOf e workload)
  | .error reason => .error reason

/-- The four fields of an identity as log records show them. -/
def identityText (i : Identifiers) : String :=
  "/".intercalate [i.host, i.orchestrator, i.workloadId, i.endpointId]

def conversionRecord (direction source target : String) : LogRecord :=
  ⟨.debug, .converter,
    "Converted WorkloadEndpoint (" ++ direction ++ "): " ++ source ++ " -> " ++ target⟩

/-- Converts a v1 endpoint into its stored form. -/
def toStored (e : V1) : Logged Stored :=
  ⟨stored e,
    [conversionRecord "v1 API -> backend" (identityText e.metadata.identity)
      (identityText (stored e).key)]⟩

/-- Converts a stored endpoint into a v3 resource. -/
def toResource (e : Stored) : Logged (Except Malformed V3) :=
  match resource e with
  | .ok r =>
    Logged.noted (conversionRecord "backend -> v3 API" (identityText e.key) r.metadata.name) r
  | .error reason => Logged.failure reason

end EndpointUpgrade.Upgrade
