import EndpointUpgrade.Endpoint.AddressPair
import EndpointUpgrade.Endpoint.Port
import EndpointUpgrade.Labels

/-!
# Resources of the v3 API

The record that clients of the v3 API see: a generated name, the namespace for workloads that have
one, and a payload in which addresses and networks are plain texts.
-/

namespace EndpointUpgrade.Endpoint

open Reading

structure V3.Metadata where
  name : String
  ns : Option String
  labels : Labels
deriving DecidableEq

structure V3.Spec where
  orchestrator : String
  workload : Option String
  node : String
  containerId : String
  pod : Option String
  endpoint : String
  networks : List String
  mappings : List TextMapping
  gateway4 : Option String
  gateway6 : Option String
  profiles : List String
  interfaceName : String
  mac : Option String
  ports : List Port
deriving DecidableEq

structure V3 where
  metadata : V3.Metadata
  spec : V3.Spec
deriving DecidableEq

namespace V3

def apiVersion : String := "projectcalico.org/v3"

def kind : String := "WorkloadEndpoint"

namespace Metadata

def recordName : String := "ObjectMeta"

def nameField : FieldName := .only "name"

def nsField : FieldName := .only "namespace"

def labelsField : FieldName := .only "labels"

def read : Value → Checked Metadata :=
  record recordName [nameField, nsField, labelsField] fun es =>
    Metadata.mk
      <$> required nameField text es
      <*> optional nsField none optionalText es
      <*> optional labelsField ∅ Labels.read es

def document (m : Metadata) : Document :=
  .ofFields
    [(nameField.wire, some (.text m.name)),
      (nsField.wire, m.ns.map .text),
      (labelsField.wire, some (.pairs m.labels.pairs))]

/-- Equality that looks at labels as a map. -/
def Same (a b : Metadata) : Prop :=
  a.name = b.name ∧ a.ns = b.ns ∧ a.labels.Same b.labels

instance (a b : Metadata) : Decidable (a.Same b) := by unfold Same; infer_instance

end Metadata

namespace Spec

def recordName : String := "WorkloadEndpointSpecV3"

def orchestratorField : FieldName := .only "orchestrator"

def workloadField : FieldName := .only "workload"

def nodeField : FieldName := .only "node"

def containerIdField : FieldName := ⟨"containerID", "container_id"⟩

def podField : FieldName := .only "pod"

def endpointField : FieldName := .only "endpoint"

def networksField : FieldName := ⟨"ipNetworks", "ip_networks"⟩

def mappingsField : FieldName := ⟨"ipNATs", "ip_nats"⟩

def gateway4Field : FieldName := ⟨"ipv4Gateway", "ipv4_gateway"⟩

def gateway6Field : FieldName := ⟨"ipv6Gateway", "ipv6_gateway"⟩

def profilesField : FieldName := .only "profiles"

def interfaceNameField : FieldName := ⟨"interfaceName", "interface_name"⟩

def macField : FieldName := .only "mac"

def portsField : FieldName := .only "ports"

/-- All fields, in the order of documents. -/
def fieldNames : List FieldName :=
  [orchestratorField, workloadField, nodeField, containerIdField, podField, endpointField,
    networksField, mappingsField, gateway4Field, gateway6Field, profilesField, interfaceNameField,
    macField, portsField]

def read : Value → Checked Spec :=
  record recordName fieldNames fun es =>
    Spec.mk
      <$> required orchestratorField text es
      <*> optional workloadField none optionalText es
      <*> required nodeField text es
      <*> optional containerIdField "" text es
      <*> optional podField none optionalText es
      <*> required endpointField text es
      <*> optional networksField [] (listOf text) es
      <*> optional mappingsField [] (listOf (AddressPair.read .v3 text)) es
      <*> optional gateway4Field none optionalText es
      <*> optional gateway6Field none optionalText es
      <*> optional profilesField [] (listOf text) es
      <*> optional interfaceNameField "" text es
      <*> optional macField none optionalText es
      <*> optional portsField [] (listOf Port.read) es

def document (s : Spec) : Document :=
  .ofFields
    [(orchestratorField.wire, some (.text s.orchestrator)),
      (workloadField.wire, s.workload.map .text),
      (nodeField.wire, some (.text s.node)),
      (containerIdField.wire, some (.text s.containerId)),
      (podField.wire, s.pod.map .text),
      (endpointField.wire, some (.text s.endpoint)),
      (networksField.wire, some (.texts s.networks)),
      (mappingsField.wire, some (.list (s.mappings.map (AddressPair.document .v3 id)))),
      (gateway4Field.wire, s.gateway4.map .text),
      (gateway6Field.wire, s.gateway6.map .text),
      (profilesField.wire, some (.texts s.profiles)),
      (interfaceNameField.wire, some (.text s.interfaceName)),
      (macField.wire, s.mac.map .text),
      (portsField.wire, some (.list (s.ports.map Port.document)))]

end Spec

def recordName : String := "WorkloadEndpointV3"

def metadataField : FieldName := .only "metadata"

def specField : FieldName := .only "spec"

def read : Value → Checked V3 :=
  record recordName [metadataField, specField] fun es =>
    V3.mk <$> required metadataField Metadata.read es <*> required specField Spec.read es

def document (r : V3) : Document :=
  .mapping
    [("apiVersion", .text apiVersion), ("kind", .text kind),
      (metadataField.wire, r.metadata.document), (specField.wire, r.spec.document)]

/-- Equality that looks at labels as a map. -/
def Same (a b : V3) : Prop := a.metadata.Same b.metadata ∧ a.spec = b.spec

instance (a b : V3) : Decidable (a.Same b) := by unfold Same; infer_instance

end V3

end EndpointUpgrade.Endpoint
