import EndpointUpgrade.Endpoint.ByFamily
import EndpointUpgrade.Endpoint.Port
import EndpointUpgrade.Endpoint.Rules
import EndpointUpgrade.Identity.Name
import EndpointUpgrade.Labels

/-!
# Stored endpoints

The record that the backend keeps: a key of four fields and a value in which networks and mappings
are split by address family.
-/

namespace EndpointUpgrade.Endpoint

open Reading Net Identity

/-- What the backend keeps about an endpoint. -/
structure Stored.Value where
  state : String
  interfaceName : String
  activeInstanceId : String
  mac : Option Mac
  profiles : List String
  networks : ByFamily Interface.family
  mappings : ByFamily AddressPair.family
  labels : Labels
  gateway4 : Option V4
  gateway6 : Option V6
  ports : List Port
deriving DecidableEq

/-- An endpoint as the backend keeps it. -/
structure Stored where
  key : Identifiers
  value : Stored.Value
deriving DecidableEq

namespace Stored

def kind : String := "WorkloadEndpointKVPair"

namespace Key

def recordName : String := "WorkloadEndpointKey"

def hostField : FieldName := .only "hostname"

def orchestratorField : FieldName := .only "orchestrator_id"

def workloadField : FieldName := .only "workload_id"

def endpointIdField : FieldName := .only "endpoint_id"

def read : EndpointUpgrade.Value → Checked Identifiers :=
  record recordName [hostField, orchestratorField, workloadField, endpointIdField] fun es =>
    Identifiers.mk
      <$> required hostField text es
      <*> required orchestratorField text es
      <*> required workloadField text es
      <*> required endpointIdField text es

def document (i : Identifiers) : Document :=
  .mapping
    [(hostField.wire, .text i.host), (orchestratorField.wire, .text i.orchestrator),
      (workloadField.wire, .text i.workloadId), (endpointIdField.wire, .text i.endpointId)]

end Key

namespace Value

def recordName : String := "WorkloadEndpointValue"

def stateField : FieldName := .only "state"

def interfaceNameField : FieldName := .only "name"

def activeInstanceIdField : FieldName := .only "active_instance_id"

def macField : FieldName := .only "mac"

def profilesField : FieldName := .only "profile_ids"

def networks4Field : FieldName := .only "ipv4_nets"

def networks6Field : FieldName := .only "ipv6_nets"

def mappings4Field : FieldName := .only "ipv4_nat"

def mappings6Field : FieldName := .only "ipv6_nat"

def labelsField : FieldName := .only "labels"

def gateway4Field : FieldName := .only "ipv4_gateway"

def gateway6Field : FieldName := .only "ipv6_gateway"

def portsField : FieldName := .only "ports"

/-- All fields, in the order of documents. -/
def fieldNames : List FieldName :=
  [stateField, interfaceNameField, activeInstanceIdField, macField, profilesField, networks4Field,
    networks6Field, mappings4Field, mappings6Field, labelsField, gateway4Field, gateway6Field,
    portsField]

/-- Reads the networks of both families where some masks are known. Those of IPv4 may make further
masks known to those of IPv6. -/
def readNetworks (known : Masks) (es : Entries) : Checked (ByFamily Interface.family) :=
  (fun networks4 networks6 => ⟨networks4.1, networks6.1, networks4.2, networks6.2⟩)
    <$> optional networks4Field ⟨[], by simp⟩ (readNetworksOf known .v4 networks4Field.wire) es
    <*> optional networks6Field ⟨[], by simp⟩
      (readNetworksOf (networks4Field.after masksAfterList known es) .v6 networks6Field.wire) es

/-- The masks that are known after the networks of both families were read. -/
def masksAfter (known : Masks) : EndpointUpgrade.Value → Masks
  | .map es =>
    networks6Field.after masksAfterList (networks4Field.after masksAfterList known es) es
  | _ => known

/-- Reads what is kept, where some masks are known. -/
def read (known : Masks) : EndpointUpgrade.Value → Checked Stored.Value :=
  record recordName fieldNames fun es =>
    (fun state interfaceName activeInstanceId mac profiles networks mappings4 mappings6
        labels gateway4 gateway6 ports =>
        ⟨state, interfaceName, activeInstanceId, mac, profiles, networks,
          ⟨mappings4.1, mappings6.1, mappings4.2, mappings6.2⟩, labels, gateway4, gateway6, ports⟩)
      <$> optional stateField "" text es
      <*> optional interfaceNameField "" text es
      <*> optional activeInstanceIdField "" text es
      <*> optional macField none readMac es
      <*> optional profilesField [] (listOf text) es
      <*> readNetworks known es
      <*> optional mappings4Field ⟨[], by simp⟩ (readMappingsOf .v4 mappings4Field.wire) es
      <*> optional mappings6Field ⟨[], by simp⟩ (readMappingsOf .v6 mappings6Field.wire) es
      <*> optional labelsField ∅ Labels.read es
      <*> optional gateway4Field none (readGateway4 gateway4Field.wire) es
      <*> optional gateway6Field none (readGateway6 gateway6Field.wire) es
      <*> optional portsField [] (listOf Port.read) es

def networksDocument (ns : List Interface) : Document := .texts (ns.map Interface.text)

def mappingsDocument (ms : List Mapping) : Document :=
  .list (ms.map (AddressPair.document .backend Address.text))

def document (v : Stored.Value) : Document :=
  .ofFields
    [(stateField.wire, some (.text v.state)),
      (interfaceNameField.wire, some (.text v.interfaceName)),
      (activeInstanceIdField.wire, some (.text v.activeInstanceId)),
      (macField.wire, v.mac.map fun m => .text m.text),
      (profilesField.wire, some (.texts v.profiles)),
      (networks4Field.wire, some (networksDocument v.networks.v4)),
      (networks6Field.wire, some (networksDocument v.networks.v6)),
      (mappings4Field.wire, some (mappingsDocument v.mappings.v4)),
      (mappings6Field.wire, some (mappingsDocument v.mappings.v6)),
      (labelsField.wire, some (.pairs v.labels.pairs)),
      (gateway4Field.wire, v.gateway4.map fun a => .text a.text),
      (gateway6Field.wire, v.gateway6.map fun a => .text a.text),
      (portsField.wire, some (.list (v.ports.map Port.document)))]

/-- What is kept, with prefix lengths as numbers. -/
def plain (v : Stored.Value) : Stored.Value :=
  { v with networks := v.networks.map Interface.plain Interface.family_plain }

/-- Equality that looks at labels as a map. -/
def Same (a b : Stored.Value) : Prop :=
  a.labels.Same b.labels ∧ { a with labels := b.labels } = b

instance (a b : Stored.Value) : Decidable (a.Same b) := by unfold Same; infer_instance

end Value

def recordName : String := "WorkloadEndpointKVPair"

def keyField : FieldName := .only "key"

/-- What is kept under the key. -/
def valueField : FieldName := .only "value"

/-- Reads a stored endpoint from the body of its document, where some masks are known. -/
def read (known : Masks) : EndpointUpgrade.Value → Checked Stored :=
  record recordName [keyField, valueField] fun es =>
    Stored.mk <$> required keyField Key.read es <*> required valueField (Value.read known) es

def masksAfter (known : Masks) : EndpointUpgrade.Value → Masks
  | .map es => valueField.after Value.masksAfter known es
  | _ => known

def document (e : Stored) : Document :=
  .mapping
    [("kind", .text kind), (keyField.wire, Key.document e.key),
      (valueField.wire, e.value.document)]

/-- The endpoint with prefix lengths as numbers, which it is equal to. -/
def plain (e : Stored) : Stored := { e with value := e.value.plain }

/-- Equality that looks at labels as a map. -/
def Same (a b : Stored) : Prop := a.key = b.key ∧ a.value.Same b.value

instance (a b : Stored) : Decidable (a.Same b) := by unfold Same; infer_instance

end Stored

end EndpointUpgrade.Endpoint
