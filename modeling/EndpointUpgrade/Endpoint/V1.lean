import EndpointUpgrade.Endpoint.Port
import EndpointUpgrade.Endpoint.Rules
import EndpointUpgrade.Identity.Name
import EndpointUpgrade.Labels

/-!
# Endpoints of the v1 API

The record that clients of the v1 API declare: an identity of four fields with labels, and a
payload in which networks and mappings of both address families are mixed.
-/

namespace EndpointUpgrade.Endpoint

open Reading Net Identity

/-- Who an endpoint of the v1 API is. -/
structure V1.Metadata where
  identity : Identifiers
  activeInstanceId : String
  labels : Labels
deriving DecidableEq

structure V1.Spec where
  networks : List Interface
  mappings : List Mapping
  gateway4 : Option V4
  gateway6 : Option V6
  profiles : List String
  interfaceName : String
  mac : Option Mac
  ports : List Port
deriving DecidableEq

/-- An endpoint of the v1 API. -/
structure V1 where
  metadata : V1.Metadata
  spec : V1.Spec
deriving DecidableEq

namespace V1

def apiVersion : String := "v1"

def kind : String := "workloadEndpoint"

namespace Metadata

def recordName : String := "WorkloadEndpointMetadataV1"

def endpointIdField : FieldName := .only "name"

def workloadField : FieldName := .only "workload"

def orchestratorField : FieldName := .only "orchestrator"

def hostField : FieldName := .only "node"

def activeInstanceIdField : FieldName := ⟨"activeInstanceID", "active_instance_id"⟩

def labelsField : FieldName := .only "labels"

def read : Value → Checked Metadata :=
  record recordName
      [endpointIdField, workloadField, orchestratorField, hostField, activeInstanceIdField,
        labelsField] fun es =>
    (fun endpointId workloadId orchestrator host activeInstanceId labels =>
        ⟨⟨host, orchestrator, workloadId, endpointId⟩, activeInstanceId, labels⟩)
      <$> required endpointIdField text es
      <*> required workloadField text es
      <*> required orchestratorField text es
      <*> required hostField text es
      <*> optional activeInstanceIdField "" text es
      <*> optional labelsField ∅ Labels.read es

def document (m : Metadata) : Document :=
  .mapping
    [(endpointIdField.wire, .text m.identity.endpointId),
      (workloadField.wire, .text m.identity.workloadId),
      (orchestratorField.wire, .text m.identity.orchestrator),
      (hostField.wire, .text m.identity.host),
      (activeInstanceIdField.wire, .text m.activeInstanceId),
      (labelsField.wire, .pairs m.labels.pairs)]

/-- Equality that looks at labels as a map. -/
def Same (a b : Metadata) : Prop :=
  a.identity = b.identity ∧ a.activeInstanceId = b.activeInstanceId ∧ a.labels.Same b.labels

instance (a b : Metadata) : Decidable (a.Same b) := by unfold Same; infer_instance

end Metadata

namespace Spec

def recordName : String := "WorkloadEndpointSpecV1"

/-- A payload in which nothing is given. -/
def empty : Spec := ⟨[], [], none, none, [], "", none, []⟩

def networksField : FieldName := ⟨"ipNetworks", "ip_networks"⟩

def mappingsField : FieldName := ⟨"ipNATs", "ip_nats"⟩

def gateway4Field : FieldName := ⟨"ipv4Gateway", "ipv4_gateway"⟩

def gateway6Field : FieldName := ⟨"ipv6Gateway", "ipv6_gateway"⟩

def profilesField : FieldName := .only "profiles"

def interfaceNameField : FieldName := ⟨"interfaceName", "interface_name"⟩

def macField : FieldName := .only "mac"

def portsField : FieldName := .only "ports"

/-- Reads the payload where some masks are known. -/
def read (known : Masks) : Value → Checked Spec :=
  record recordName
      [networksField, mappingsField, gateway4Field, gateway6Field, profilesField,
        interfaceNameField, macField, portsField] fun es =>
    Spec.mk
      <$> optional networksField [] (networkList known) es
      <*> optional mappingsField [] (listOf (AddressPair.read .v1 address)) es
      <*> optional gateway4Field none (readGateway4 gateway4Field.wire) es
      <*> optional gateway6Field none (readGateway6 gateway6Field.wire) es
      <*> optional profilesField [] (listOf text) es
      <*> optional interfaceNameField "" text es
      <*> optional macField none readMac es
      <*> optional portsField [] (listOf Port.read) es

/-- The masks that are known after the payload was read. -/
def masksAfter (known : Masks) : Value → Masks
  | .map es => networksField.after masksAfterList known es
  | _ => known

def document (s : Spec) : Document :=
  .ofFields
    [(networksField.wire, some (.texts (s.networks.map Interface.text))),
      (mappingsField.wire, some (.list (s.mappings.map (AddressPair.document .v1 Address.text)))),
      (gateway4Field.wire, s.gateway4.map fun a => .text a.text),
      (gateway6Field.wire, s.gateway6.map fun a => .text a.text),
      (profilesField.wire, some (.texts s.profiles)),
      (interfaceNameField.wire, some (.text s.interfaceName)),
      (macField.wire, s.mac.map fun m => .text m.text),
      (portsField.wire, some (.list (s.ports.map Port.document)))]

/-- The payload with prefix lengths as numbers. -/
def plain (s : Spec) : Spec := { s with networks := s.networks.map Interface.plain }

end Spec

def recordName : String := "WorkloadEndpointV1"

def metadataField : FieldName := .only "metadata"

def specField : FieldName := .only "spec"

/-- Reads an endpoint of the v1 API from the body of its document, where some masks are known. -/
def read (known : Masks) : Value → Checked V1 :=
  record recordName [metadataField, specField] fun es =>
    V1.mk <$> required metadataField Metadata.read es
      <*> optional specField .empty (Spec.read known) es

def masksAfter (known : Masks) : Value → Masks
  | .map es => specField.after Spec.masksAfter known es
  | _ => known

def document (e : V1) : Document :=
  .mapping
    [("apiVersion", .text apiVersion), ("kind", .text kind),
      (metadataField.wire, e.metadata.document), (specField.wire, e.spec.document)]

/-- The endpoint with prefix lengths as numbers, which it is equal to. -/
def plain (e : V1) : V1 := { e with spec := e.spec.plain }

/-- Equality that looks at labels as a map. -/
def Same (a b : V1) : Prop := a.metadata.Same b.metadata ∧ a.spec = b.spec

instance (a b : V1) : Decidable (a.Same b) := by unfold Same; infer_instance

end V1

end EndpointUpgrade.Endpoint
