import EndpointUpgrade.Proofs.Documents.Staging
import EndpointUpgrade.Proofs.Endpoint.ByFamily
import EndpointUpgrade.Proofs.Endpoint.RoundTrip
import EndpointUpgrade.Proofs.Reading.Given
import EndpointUpgrade.Upgrade.Conversion

/-!
# Conversions through the checks of records

A conversion may also be done the long way, with every record built from raw values by the checks
that guard its fields: networks and mappings are first split by the versions that they state, and
addresses, networks and hardware addresses are given as texts. Every check passes, so that this
comes to the same, and an undecodable workload id is the only thing that can go wrong.
-/

namespace EndpointUpgrade.Upgrade

open Endpoint Net Identity Reading Document

/-- What can go wrong while a record is built from raw values. -/
inductive BuildFault where
  | unknownVersion (version : Int)
  | rejected (rejection : Rejection)
  | misused (how : Value.Misuse)
  | malformed (reason : Malformed)

section Steps

variable {α : Type}

/-- Splits items by the number of the address family that each one states. -/
def splitByNumber (family : α → Family) (items : List α) :
    Except BuildFault (List α × List α) :=
  (partitionByVersion (fun x => ((family x).number : Int)) items).mapError fun unknown =>
    .unknownVersion unknown.version

/-- Passes fields through the checks of a record. -/
def checkedBy (recordName : String) (read : Value → Checked α) (given : List GivenField) :
    Except BuildFault α :=
  (read (.map (givenEntries given))).orFail (fun issues => .rejected ⟨recordName, issues⟩) .misused

theorem splitByNumber_eq (family : α → Family) (items : List α) :
    splitByNumber family items =
      .ok ((ByFamily.ofList family items).v4, (ByFamily.ofList family items).v6) := by
  rw [splitByNumber, ByFamily.partitionByVersion_number]
  rfl

theorem checkedBy_of_read {recordName : String} {read : Value → Checked α}
    {given : List GivenField} {a : α} (h : read (.map (givenEntries given)) = .ok a) :
    checkedBy recordName read given = .ok a := by
  rw [checkedBy, h]
  rfl

end Steps

/-! ## Stored endpoints -/

section Storing

open Stored Stored.Key Stored.Value

def keyFields (i : Identifiers) : List GivenField :=
  [(hostField, .text i.host), (orchestratorField, .text i.orchestrator),
    (workloadField, .text i.workloadId), (endpointIdField, .text i.endpointId)]

/-- The fields of what is to be kept about an endpoint whose networks and mappings have been
split. -/
def valueFields (e : V1) (networks4 networks6 : List Interface)
    (mappings4 mappings6 : List Mapping) : List GivenField :=
  [(stateField, .text activeState),
    (interfaceNameField, .text e.spec.interfaceName),
    (activeInstanceIdField, .text e.metadata.activeInstanceId),
    (macField, givenValue (e.spec.mac.map fun m => .text m.text)),
    (profilesField, (Document.texts e.spec.profiles).toValue),
    (networks4Field, (networksDocument networks4).toValue),
    (networks6Field, (networksDocument networks6).toValue),
    (mappings4Field, (mappingsDocument mappings4).toValue),
    (mappings6Field, (mappingsDocument mappings6).toValue),
    (labelsField, e.metadata.labels.given),
    (gateway4Field, givenValue (e.spec.gateway4.map fun a => .text a.text)),
    (gateway6Field, givenValue (e.spec.gateway6.map fun a => .text a.text)),
    (portsField, (Document.list (e.spec.ports.map Port.document)).toValue)]

/-- The stored form of an endpoint, built through the checks of its records where some masks are
known. -/
def buildStored (known : Masks) (e : V1) : Except BuildFault Stored := do
  let (networks4, networks6) ← splitByNumber Interface.family e.spec.networks
  let (mappings4, mappings6) ← splitByNumber AddressPair.family e.spec.mappings
  let key ← checkedBy Key.recordName Key.read (keyFields e.metadata.identity)
  let value ← checkedBy Stored.Value.recordName (Stored.Value.read known)
    (valueFields e networks4 networks6 mappings4 mappings6)
  return ⟨key, value⟩

theorem read_keyFields (i : Identifiers) :
    Key.read (.map (givenEntries (keyFields i))) = .ok i := by
  have h : Gives [hostField, orchestratorField, workloadField, endpointIdField] (keyFields i) :=
    ⟨rfl, by decide, by decide⟩
  have hhost := h.required (f := hostField) (by simp [keyFields]) (text_text i.host)
  have horchestrator := h.required (f := orchestratorField) (by simp [keyFields])
    (text_text i.orchestrator)
  have hworkload := h.required (f := workloadField) (by simp [keyFields])
    (text_text i.workloadId)
  have hendpoint := h.required (f := endpointIdField) (by simp [keyFields])
    (text_text i.endpointId)
  apply h.record
  rw [hhost, horchestrator, hworkload, hendpoint]
  rfl

/-- The networks of both families are read from their texts, also if those of IPv4 make masks
known. -/
theorem readNetworks_of_gives (known : Masks) (networks : ByFamily Interface.family)
    {given : List GivenField} (h : Gives fieldNames given)
    (h4 : (networks4Field, (networksDocument networks.v4).toValue) ∈ given)
    (h6 : (networks6Field, (networksDocument networks.v6).toValue) ∈ given) :
    readNetworks known (givenEntries given) =
      .ok (networks.map Interface.plain Interface.family_plain) := by
  let plain := networks.map Interface.plain Interface.family_plain
  let known6 := networks4Field.after masksAfterList known (givenEntries given)
  have hnetworks4 := h.optional_some (f := networks4Field) ⟨[], by simp⟩ h4
    (readNetworksOf_toValue known networks4Field.wire plain.v4_family)
  have hnetworks6 := h.optional_some (f := networks6Field) ⟨[], by simp⟩ h6
    (readNetworksOf_toValue known6 networks6Field.wire plain.v6_family)
  rw [readNetworks, hnetworks4, hnetworks6]
  rfl

theorem read_valueFields (known : Masks) (e : V1) (networks : ByFamily Interface.family)
    (mappings : ByFamily AddressPair.family) :
    Stored.Value.read known (.map (givenEntries
        (valueFields e networks.v4 networks.v6 mappings.v4 mappings.v6))) =
      .ok
        { (stored e).value with
          networks := networks.map Interface.plain Interface.family_plain
          mappings := mappings } := by
  have h : Gives fieldNames (valueFields e networks.v4 networks.v6 mappings.v4 mappings.v6) :=
    ⟨rfl, by decide, by decide⟩
  have hstate := h.optional_some (f := stateField) "" (by simp [valueFields])
    (text_text activeState)
  have hinterface := h.optional_some (f := interfaceNameField) "" (by simp [valueFields])
    (text_text e.spec.interfaceName)
  have hinstance := h.optional_some (f := activeInstanceIdField) "" (by simp [valueFields])
    (text_text e.metadata.activeInstanceId)
  have hmac := h.optional_map (f := macField) readMac_toValue rfl e.spec.mac
    (by simp [valueFields])
  have hprofiles := h.optional_some (f := profilesField) [] (by simp [valueFields])
    (listOf_texts e.spec.profiles)
  have hnetworks := readNetworks_of_gives known networks h (by simp [valueFields])
    (by simp [valueFields])
  have hmappings4 := h.optional_some (f := mappings4Field) ⟨[], by simp⟩ (by simp [valueFields])
    (readMappingsOf_toValue mappings4Field.wire mappings.v4_family)
  have hmappings6 := h.optional_some (f := mappings6Field) ⟨[], by simp⟩ (by simp [valueFields])
    (readMappingsOf_toValue mappings6Field.wire mappings.v6_family)
  have hlabels := h.optional_some (f := labelsField) ∅ (by simp [valueFields])
    e.metadata.labels.read_given
  have hgateway4 := h.optional_map (f := gateway4Field) (readGateway4_toValue gateway4Field.wire)
    rfl e.spec.gateway4 (by simp [valueFields])
  have hgateway6 := h.optional_map (f := gateway6Field) (readGateway6_toValue gateway6Field.wire)
    rfl e.spec.gateway6 (by simp [valueFields])
  have hports := h.optional_some (f := portsField) [] (by simp [valueFields])
    (listOf_ports e.spec.ports)
  apply h.record
  rw [hstate, hinterface, hinstance, hmac, hprofiles, hnetworks, hmappings4, hmappings6, hlabels,
    hgateway4, hgateway6, hports]
  rfl

theorem buildStored_eq (known : Masks) (e : V1) : buildStored known e = .ok (stored e) := by
  have hvalue := read_valueFields known e (ByFamily.ofList Interface.family e.spec.networks)
    (ByFamily.ofList AddressPair.family e.spec.mappings)
  rw [← ByFamily.ofList_map] at hvalue
  rw [buildStored, splitByNumber_eq, splitByNumber_eq]
  dsimp only [bind, Except.bind]
  rw [checkedBy_of_read (read_keyFields e.metadata.identity)]
  dsimp only
  rw [checkedBy_of_read hvalue]
  rfl

end Storing

/-! ## Resources -/

section Presenting

open V3 V3.Metadata V3.Spec

def metadataFields (e : Stored) (name : String) (workload : Workload) : List GivenField :=
  [(nameField, .text name), (nsField, givenValue (workload.ns.map .text)),
    (labelsField, (labels e.value.labels).given)]

/-- The names of a mapping in the v3 API when it is built. -/
def plainShape : AddressPair.Shape :=
  ⟨AddressPair.Shape.v3.recordName, .only AddressPair.Shape.v3.internal.plain,
    .only AddressPair.Shape.v3.external.plain⟩

def specFields (e : Stored) (workload : Workload) : List GivenField :=
  [(orchestratorField, .text e.key.orchestrator),
    (workloadField,
      givenValue ((if e.key.orchestrator = k8s then none else some workload.name).map .text)),
    (nodeField, .text (Text.lower e.key.host)),
    (containerIdField, .text e.value.activeInstanceId),
    (podField,
      givenValue ((if e.key.orchestrator = k8s then some workload.name else none).map .text)),
    (endpointField, .text e.key.endpointId),
    (networksField,
      (Document.texts (networkTexts e.value.networks.v4 e.value.networks.v6)).toValue),
    (mappingsField,
      (Document.list ((mappingTexts e.value.mappings.v4 e.value.mappings.v6).map
        (AddressPair.document plainShape id))).toValue),
    (gateway4Field, givenValue ((e.value.gateway4.map V4.text).map .text)),
    (gateway6Field, givenValue ((e.value.gateway6.map V6.text).map .text)),
    (profilesField, (Document.texts (e.value.profiles.map profileId)).toValue),
    (interfaceNameField, .text e.value.interfaceName),
    (macField, givenValue ((e.value.mac.map Mac.text).map .text)),
    (portsField, (Document.list (e.value.ports.map Port.document)).toValue)]

/-- The resource of a stored endpoint, built through the checks of its records. -/
def buildResource (e : Stored) : Except BuildFault V3 := do
  let workload ← (decodeWorkloadId e.key.orchestrator e.key.workloadId).mapError .malformed
  let name ← (encode e.key).mapError .malformed
  let metadata ← checkedBy Metadata.recordName Metadata.read (metadataFields e name workload)
  let spec ← checkedBy Spec.recordName Spec.read (specFields e workload)
  return ⟨metadata, spec⟩

theorem optionalText_toValue (s : String) :
    optionalText (Document.text s).toValue = .ok (some s) := rfl

theorem read_metadataFields (e : Stored) (name : String) (workload : Workload) :
    Metadata.read (.map (givenEntries (metadataFields e name workload))) =
      .ok ⟨name, workload.ns, labels e.value.labels⟩ := by
  have h : Gives [nameField, nsField, labelsField] (metadataFields e name workload) :=
    ⟨rfl, by decide, by decide⟩
  have hname := h.required (f := nameField) (by simp [metadataFields]) (text_text name)
  have hns := h.optional_map (f := nsField) optionalText_toValue rfl workload.ns
    (by simp [metadataFields])
  have hlabels := h.optional_some (f := labelsField) ∅ (by simp [metadataFields])
    (labels e.value.labels).read_given
  apply h.record
  rw [hname, hns, hlabels]
  rfl

theorem read_plainMapping (m : TextMapping) :
    AddressPair.read .v3 text (m.document plainShape id).toValue = .ok m := by
  have h : Gives [AddressPair.Shape.v3.internal, AddressPair.Shape.v3.external]
      [(AddressPair.Shape.v3.internal, .text m.internal),
        (AddressPair.Shape.v3.external, .text m.external)] :=
    ⟨rfl, by decide, by decide⟩
  have hinternal := h.required (f := AddressPair.Shape.v3.internal) (by simp)
    (text_text m.internal)
  have hexternal := h.required (f := AddressPair.Shape.v3.external) (by simp)
    (text_text m.external)
  apply h.record
  rw [hinternal, hexternal]
  rfl

theorem read_specFields (e : Stored) (workload : Workload) :
    Spec.read (.map (givenEntries (specFields e workload))) = .ok (resourceOf e workload).spec := by
  have h : Gives fieldNames (specFields e workload) := ⟨rfl, by decide, by decide⟩
  have horchestrator := h.required (f := orchestratorField) (by simp [specFields])
    (text_text e.key.orchestrator)
  have hworkload := h.optional_map (f := workloadField) optionalText_toValue rfl
    (if e.key.orchestrator = k8s then none else some workload.name) (by simp [specFields])
  have hnode := h.required (f := nodeField) (by simp [specFields])
    (text_text (Text.lower e.key.host))
  have hcontainer := h.optional_some (f := containerIdField) "" (by simp [specFields])
    (text_text e.value.activeInstanceId)
  have hpod := h.optional_map (f := podField) optionalText_toValue rfl
    (if e.key.orchestrator = k8s then some workload.name else none) (by simp [specFields])
  have hendpoint := h.required (f := endpointField) (by simp [specFields])
    (text_text e.key.endpointId)
  have hnetworks := h.optional_some (f := networksField) [] (by simp [specFields])
    (listOf_texts (networkTexts e.value.networks.v4 e.value.networks.v6))
  have hmappings := h.optional_some (f := mappingsField) [] (by simp [specFields])
    (listOf_map read_plainMapping (mappingTexts e.value.mappings.v4 e.value.mappings.v6))
  have hgateway4 := h.optional_map (f := gateway4Field) optionalText_toValue rfl
    (e.value.gateway4.map V4.text) (by simp [specFields])
  have hgateway6 := h.optional_map (f := gateway6Field) optionalText_toValue rfl
    (e.value.gateway6.map V6.text) (by simp [specFields])
  have hprofiles := h.optional_some (f := profilesField) [] (by simp [specFields])
    (listOf_texts (e.value.profiles.map profileId))
  have hinterface := h.optional_some (f := interfaceNameField) "" (by simp [specFields])
    (text_text e.value.interfaceName)
  have hmac := h.optional_map (f := macField) optionalText_toValue rfl
    (e.value.mac.map Mac.text) (by simp [specFields])
  have hports := h.optional_some (f := portsField) [] (by simp [specFields])
    (listOf_ports e.value.ports)
  apply h.record
  rw [horchestrator, hworkload, hnode, hcontainer, hpod, hendpoint, hnetworks, hmappings,
    hgateway4, hgateway6, hprofiles, hinterface, hmac, hports]
  rfl

theorem buildResource_eq (e : Stored) : buildResource e = (resource e).mapError .malformed := by
  rw [buildResource, resource, encode]
  cases decodeWorkloadId e.key.orchestrator e.key.workloadId with
  | error reason => rfl
  | ok workload =>
    dsimp only [bind, Except.bind, Except.mapError, pure, Except.pure]
    rw [checkedBy_of_read (read_metadataFields e _ workload)]
    dsimp only
    rw [checkedBy_of_read (read_specFields e workload)]
    rfl

end Presenting

/-! ## What can fail -/

/-- A log of one record, on the level of details. -/
def IsOneDetail (log : List LogRecord) : Prop := ∃ record, log = [record] ∧ record.level = .debug

/-- The conversion of a stored endpoint fails exactly if its workload id is one of `k8s` without a
point, reports this id, and then notes nothing. Otherwise it gives a resource and one record. -/
structure FailsOnlyUndecodable (e : Stored) : Prop where
  fails_iff : (∃ reason, (toResource e).result = .error reason) ↔
    e.key.orchestrator = k8s ∧ '.' ∉ e.key.workloadId.toList
  reported : ∀ reason, (toResource e).result = .error reason →
    (Report.ofMalformed reason).kind = .malformedIdentifier ∧
      (Report.ofMalformed reason).context = [("identifier", e.key.workloadId)] ∧
      reason.identifier = e.key.workloadId ∧ (toResource e).log = []
  noted : ∀ r, (toResource e).result = .ok r → IsOneDetail (toResource e).log

theorem toResource_log_of_ok {e : Stored} {r : V3} (h : (toResource e).result = .ok r) :
    IsOneDetail (toResource e).log := by
  unfold toResource at h ⊢
  cases hresource : resource e with
  | ok r =>
    dsimp only [Logged.noted]
    exact ⟨_, rfl, rfl⟩
  | error reason =>
    rw [hresource] at h
    exact absurd h (by simp [Logged.failure])

theorem toResource_log_of_error {e : Stored} {reason : Malformed}
    (h : (toResource e).result = .error reason) : (toResource e).log = [] := by
  unfold toResource at h ⊢
  cases hresource : resource e with
  | ok r =>
    rw [hresource] at h
    exact absurd h (by simp [Logged.noted])
  | error reason => rfl

theorem undecodable_of_toResource_error {e : Stored} {reason : Malformed}
    (h : (toResource e).result = .error reason) : Documents.Undecodable e.key := by
  by_contra hkey
  obtain ⟨r, hr⟩ := Documents.exists_toResource_of_decodable hkey
  rw [hr] at h
  exact absurd h (by simp)

theorem toResource_result (e : Stored) : (toResource e).result = resource e := by
  unfold toResource
  cases resource e with
  | ok r => rfl
  | error reason => rfl

theorem failsOnlyUndecodable (e : Stored) : FailsOnlyUndecodable e where
  fails_iff := by
    constructor
    · intro ⟨reason, h⟩
      exact undecodable_of_toResource_error h
    · intro hkey
      exact ⟨_, Documents.toResource_of_undecodable hkey⟩
  reported := by
    intro reason h
    have hkey := undecodable_of_toResource_error h
    have hlog := toResource_log_of_error h
    rw [Documents.toResource_of_undecodable hkey] at h
    rw [← Except.error.inj h]
    exact ⟨rfl, rfl, rfl, hlog⟩
  noted := by
    intro r h
    exact toResource_log_of_ok h

/-- Storing an endpoint never fails and notes one record, and making a resource fails only on an
undecodable workload id: the checks of the records that either one builds all pass. -/
theorem conversions_pass_checks :
    (∀ (known : Masks) (e : V1), buildStored known e = .ok (toStored e).result ∧
        IsOneDetail (toStored e).log) ∧
      ∀ e : Stored, buildResource e = (toResource e).result.mapError .malformed ∧
        FailsOnlyUndecodable e := by
  constructor
  · intro known e
    have hbuild : buildStored known e = .ok (toStored e).result := buildStored_eq known e
    exact ⟨hbuild, _, rfl, rfl⟩
  · intro e
    have hbuild : buildResource e = (toResource e).result.mapError .malformed := by
      rw [toResource_result, buildResource_eq]
    exact ⟨hbuild, failsOnlyUndecodable e⟩

end EndpointUpgrade.Upgrade
