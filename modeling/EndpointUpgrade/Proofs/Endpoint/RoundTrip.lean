import EndpointUpgrade.Endpoint.Stored
import EndpointUpgrade.Endpoint.V1
import EndpointUpgrade.Proofs.Endpoint.ByFamily
import EndpointUpgrade.Proofs.Labels
import EndpointUpgrade.Proofs.Net.Interface
import EndpointUpgrade.Proofs.Net.Mac
import EndpointUpgrade.Proofs.Reading.Written

/-!
# Endpoints read back from their documents

An endpoint of the v1 API and a stored one are read back from their documents, part by part: the
text of every address, network and hardware address is accepted again and means the same, whatever
masks are known, and a field that was left out has its default. Nothing is asked of an endpoint, so
every value of these types is one that reading accepts. What documents do not show does not come
back: that a prefix length was given as a truth value, and halves of characters in the keys of
labels.
-/

namespace EndpointUpgrade.Endpoint

open Reading Net Document

/-! ## Values of single fields -/

theorem address_toValue (a : Address) : address (Document.text a.text).toValue = .ok a := by
  rw [toValue, address, Address.ofValue?_text]

theorem optionalAddress_toValue (a : Address) :
    optionalAddress (Document.text a.text).toValue = .ok (some a) := by
  have haddress := address_toValue a
  rw [toValue] at haddress ⊢
  rw [optionalAddress, haddress, Checked.map_ok]
  simp

theorem readGateway4_toValue (field : String) (a : V4) :
    readGateway4 field (Document.text a.text).toValue = .ok (some a) := by
  have haddress := optionalAddress_toValue (.v4 a)
  change optionalAddress (Document.text a.text).toValue = _ at haddress
  rw [readGateway4, haddress]
  rfl

theorem readGateway6_toValue (field : String) (a : V6) :
    readGateway6 field (Document.text a.text).toValue = .ok (some a) := by
  have haddress := optionalAddress_toValue (.v6 a)
  change optionalAddress (Document.text a.text).toValue = _ at haddress
  rw [readGateway6, haddress]
  rfl

theorem network_text (known : Masks) (n : Network) :
    network known (.text n.text) = .ok (.ofNetwork n) := by
  rw [network, Interface.ofValue_text]

/-- Networks are read from their texts whatever masks are known. -/
theorem networkList_texts (known : Masks) (ns : List Network) :
    networkList known (texts (ns.map Network.text)).toValue = .ok (ns.map .ofNetwork) := by
  have helements (position : Int) :
      elements (fun p => network p.1 p.2) position
          (threaded Masks.after known (toValues ((ns.map Network.text).map .text))) =
        .ok (ns.map .ofNetwork) := by
    induction ns generalizing known position with
    | nil => rfl
    | cons n ns ih =>
      rw [List.map_cons, List.map_cons, toValues, toValue, threaded, elements, network_text,
        Checked.under_ok, ih, Checked.map_ok, Checked.ok_seq_ok, List.map_cons]
  rw [texts, toValue]
  exact helements 0

theorem networkList_map_text (known : Masks) (is : List Interface) :
    networkList known (texts (is.map Interface.text)).toValue = .ok (is.map Interface.plain) := by
  have htexts : is.map Interface.text = (is.map Interface.network).map Network.text := by
    rw [List.map_map]
    rfl
  rw [htexts, networkList_texts, List.map_map]
  rfl

theorem readMac_toValue (m : Mac) : readMac (Document.text m.text).toValue = .ok (some m) := by
  have hread : Mac.read? m.text.toList = some m := by
    rw [Mac.text, String.toList_ofList, Mac.read?_chars]
  have hne : m.text ≠ "" := by
    intro eq
    have hempty : Mac.read? "".toList = none := by decide
    rw [eq, hempty] at hread
    exact absurd hread (by simp)
  have hnormal : normalizeMac (some m.text) = .ok (some m) := by
    rw [normalizeMac, if_neg hne, hread]
  rw [toValue, readMac, optionalText, Reading.text, Checked.map_ok]
  · dsimp only [Checked.thenRule]
    rw [hnormal]
  · simp

/-- Items of one family pass the check of their family. -/
theorem onlyFamily_eq_ok {α : Type} {familyOf : α → Family} {family : Family}
    {wording : α → String} {xs : List α} (h : ∀ x ∈ xs, familyOf x = family) :
    onlyFamily familyOf family wording xs = .ok ⟨xs, h⟩ := by
  unfold onlyFamily
  split
  · next x hfind =>
    have hfamily := h x (List.mem_of_find?_eq_some hfind)
    simpa [hfamily] using List.find?_some hfind
  · rfl

theorem readNetworksOf_toValue (known : Masks) {family : Family} (field : String)
    {is : List Interface} (h : ∀ i ∈ is.map Interface.plain, i.family = family) :
    readNetworksOf known family field (Stored.Value.networksDocument is).toValue =
      .ok ⟨is.map Interface.plain, h⟩ := by
  rw [readNetworksOf, Stored.Value.networksDocument, networkList_map_text]
  dsimp only [Checked.thenRule]
  rw [onlyFamily_eq_ok h]

/-! ## Records within endpoints -/

/-- A mapping is read back if its parts are. -/
theorem AddressPair.read_document {α : Type} {shape : Shape} {part : Value → Checked α}
    {write : α → String} (hpart : ∀ a, part (Document.text (write a)).toValue = .ok a)
    (distinct : ([shape.internal, shape.external].map FieldName.wire).Nodup)
    (plain : ∀ f ∈ [shape.internal, shape.external],
      f.plain = f.wire ∨ f.plain ∉ [shape.internal, shape.external].map FieldName.wire)
    (m : AddressPair α) :
    AddressPair.read shape part (m.document shape write).toValue = .ok m := by
  rw [document, toValue_mapping]
  have h : Writes [shape.internal, shape.external]
      [(shape.internal.wire, some (.text (write m.internal))),
        (shape.external.wire, some (.text (write m.external)))] := ⟨rfl, distinct, plain⟩
  have hinternal := h.required (f := shape.internal) (by simp) (by simp) (hpart m.internal)
  have hexternal := h.required (f := shape.external) (by simp) (by simp) (hpart m.external)
  apply h.record
  rw [hinternal, hexternal]
  rfl

theorem listOf_mappings_v1 (ms : List Mapping) :
    listOf (AddressPair.read .v1 address)
      (Document.list (ms.map (AddressPair.document .v1 Address.text))).toValue = .ok ms :=
  listOf_map (AddressPair.read_document address_toValue (by decide) (by decide)) ms

theorem readMappingsOf_toValue {family : Family} (field : String) {ms : List Mapping}
    (h : ∀ m ∈ ms, m.family = family) :
    readMappingsOf family field (Stored.Value.mappingsDocument ms).toValue = .ok ⟨ms, h⟩ := by
  have hmapping (m : Mapping) :
      AddressPair.read .backend address (m.document .backend Address.text).toValue = .ok m :=
    AddressPair.read_document address_toValue (by decide) (by decide) m
  rw [readMappingsOf, Stored.Value.mappingsDocument, listOf_map hmapping]
  dsimp only [Checked.thenRule]
  rw [onlyFamily_eq_ok h]

theorem Protocol.read_document (p : Protocol) : Protocol.read p.document.toValue = .ok p := by
  cases p <;> rfl

theorem Port.read_document (p : Port) : Port.read p.document.toValue = .ok p := by
  have hname : readName (Document.text p.name).toValue = .ok ⟨p.name, p.name_ne⟩ := by
    rw [readName, text_toValue]
    dsimp only [Checked.thenRule]
    rw [dif_neg p.name_ne]
  have hnumber : integerWithin 1 65535 (Document.number p.number.1).toValue = .ok p.number := by
    obtain ⟨least, greatest⟩ := p.number.2
    rw [toValue, integerWithin, integer]
    dsimp only
    rw [dif_neg (by omega), dif_neg (by omega)]
  rw [document, toValue_mapping]
  have h : Writes fieldNames
      [("name", some (.text p.name)), ("protocol", some p.protocol.document),
        ("port", some (.number p.number.1))] := ⟨rfl, by decide, by decide⟩
  have hname' := h.required (f := .only "name") (by simp [fieldNames]) (by simp [FieldName.only])
    hname
  have hprotocol := h.required (f := .only "protocol") (by simp [fieldNames])
    (by simp [FieldName.only]) p.protocol.read_document
  have hnumber' := h.required (f := .only "port") (by simp [fieldNames]) (by simp [FieldName.only])
    hnumber
  apply h.record
  rw [hname', hprotocol, hnumber']
  rfl

theorem listOf_ports (ps : List Port) :
    listOf Port.read (Document.list (ps.map Port.document)).toValue = .ok ps :=
  listOf_map Port.read_document ps

/-! ## Endpoints of the v1 API -/

namespace V1

def Metadata.shown (m : Metadata) : Metadata := { m with labels := m.labels.shown }

theorem Metadata.read_document (m : Metadata) :
    Metadata.read m.document.toValue = .ok m.shown := by
  rw [document, toValue_mapping]
  have h : Writes
      [endpointIdField, workloadField, orchestratorField, hostField, activeInstanceIdField,
        labelsField]
      [(endpointIdField.wire, some (.text m.identity.endpointId)),
        (workloadField.wire, some (.text m.identity.workloadId)),
        (orchestratorField.wire, some (.text m.identity.orchestrator)),
        (hostField.wire, some (.text m.identity.host)),
        (activeInstanceIdField.wire, some (.text m.activeInstanceId)),
        (labelsField.wire, some (.pairs m.labels.pairs))] := ⟨rfl, by decide, by decide⟩
  have hendpoint := h.required (f := endpointIdField) (by simp) (by simp)
    (text_toValue m.identity.endpointId)
  have hworkload := h.required (f := workloadField) (by simp) (by simp)
    (text_toValue m.identity.workloadId)
  have horchestrator := h.required (f := orchestratorField) (by simp) (by simp)
    (text_toValue m.identity.orchestrator)
  have hhost := h.required (f := hostField) (by simp) (by simp) (text_toValue m.identity.host)
  have hinstance := h.optional_some (f := activeInstanceIdField) "" (by simp) (by simp)
    (text_toValue m.activeInstanceId)
  have hlabels := h.optional_some (f := labelsField) ∅ (by simp) (by simp)
    (Labels.read_pairs m.labels)
  apply h.record
  rw [hendpoint, hworkload, horchestrator, hhost, hinstance, hlabels]
  rfl

theorem Spec.read_document (known : Masks) (s : Spec) :
    Spec.read known s.document.toValue = .ok s.plain := by
  rw [document, toValue_ofFields]
  have h : Writes
      [networksField, mappingsField, gateway4Field, gateway6Field, profilesField,
        interfaceNameField, macField, portsField]
      [(networksField.wire, some (.texts (s.networks.map Interface.text))),
        (mappingsField.wire,
          some (.list (s.mappings.map (AddressPair.document .v1 Address.text)))),
        (gateway4Field.wire, s.gateway4.map fun a => .text a.text),
        (gateway6Field.wire, s.gateway6.map fun a => .text a.text),
        (profilesField.wire, some (.texts s.profiles)),
        (interfaceNameField.wire, some (.text s.interfaceName)),
        (macField.wire, s.mac.map fun m => .text m.text),
        (portsField.wire, some (.list (s.ports.map Port.document)))] :=
    ⟨rfl, by decide, by decide⟩
  have hnetworks := h.optional_some (f := networksField) [] (by simp) (by simp)
    (networkList_map_text known s.networks)
  have hmappings := h.optional_some (f := mappingsField) [] (by simp) (by simp)
    (listOf_mappings_v1 s.mappings)
  have hgateway4 := h.optional_map (f := gateway4Field) (readGateway4_toValue gateway4Field.wire)
    s.gateway4 (by simp) (by simp)
  have hgateway6 := h.optional_map (f := gateway6Field) (readGateway6_toValue gateway6Field.wire)
    s.gateway6 (by simp) (by simp)
  have hprofiles := h.optional_some (f := profilesField) [] (by simp) (by simp)
    (listOf_texts s.profiles)
  have hinterface := h.optional_some (f := interfaceNameField) "" (by simp) (by simp)
    (text_toValue s.interfaceName)
  have hmac := h.optional_map (f := macField) readMac_toValue s.mac (by simp) (by simp)
  have hports := h.optional_some (f := portsField) [] (by simp) (by simp) (listOf_ports s.ports)
  apply h.record
  rw [hnetworks, hmappings, hgateway4, hgateway6, hprofiles, hinterface, hmac, hports]
  rfl

def shown (e : V1) : V1 := ⟨e.metadata.shown, e.spec.plain⟩

/-- The body of the document of an endpoint, without its kind and version. -/
def bodyEntries (e : V1) : Entries :=
  fieldEntries [(metadataField.wire, some e.metadata.document),
    (specField.wire, some e.spec.document)]

theorem read_bodyEntries (known : Masks) (e : V1) :
    read known (.map e.bodyEntries) = .ok e.shown := by
  have h : Writes [metadataField, specField]
      [(metadataField.wire, some e.metadata.document), (specField.wire, some e.spec.document)] :=
    ⟨rfl, by decide, by decide⟩
  have hmetadata := h.required (f := metadataField) (by simp) (by simp) e.metadata.read_document
  have hspec := h.optional_some (f := specField) .empty (by simp) (by simp)
    (e.spec.read_document known)
  rw [bodyEntries]
  apply h.record
  rw [hmetadata, hspec]
  rfl

theorem Metadata.document_shown (m : Metadata) : m.shown.document = m.document := by
  unfold shown document
  rw [Labels.pairs_shown]

theorem Spec.plain_plain (s : Spec) : s.plain.plain = s.plain := by
  unfold plain
  rw [List.map_map, show Interface.plain ∘ Interface.plain = Interface.plain from
    funext Interface.plain_plain]

theorem Spec.document_plain (s : Spec) : s.plain.document = s.document := by
  unfold plain document
  rw [List.map_map, show Interface.text ∘ Interface.plain = Interface.text from
    funext Interface.text_plain]

theorem document_shown (e : V1) : e.shown.document = e.document := by
  unfold shown document
  rw [Metadata.document_shown, Spec.document_plain]

/-- A document shows all that equality looks at, unless a key of the labels is torn. -/
theorem plain_shown_eq_iff {e : V1} : e.shown.plain = e.plain ↔ e.metadata.labels.WholeKeys := by
  rw [← Labels.shown_eq_self_iff, shown, plain, plain, Spec.plain_plain, V1.mk.injEq,
    and_iff_left rfl]
  constructor
  · intro h
    exact congrArg Metadata.labels h
  · intro h
    exact congrArg (fun labels => { e.metadata with labels }) h

end V1

/-! ## Stored endpoints -/

namespace Stored

theorem Key.read_document (i : Identity.Identifiers) :
    Key.read (Key.document i).toValue = .ok i := by
  rw [document, toValue_mapping]
  have h : Writes [hostField, orchestratorField, workloadField, endpointIdField]
      [(hostField.wire, some (.text i.host)), (orchestratorField.wire, some (.text i.orchestrator)),
        (workloadField.wire, some (.text i.workloadId)),
        (endpointIdField.wire, some (.text i.endpointId))] := ⟨rfl, by decide, by decide⟩
  have hhost := h.required (f := hostField) (by simp) (by simp) (text_toValue i.host)
  have horchestrator := h.required (f := orchestratorField) (by simp) (by simp)
    (text_toValue i.orchestrator)
  have hworkload := h.required (f := workloadField) (by simp) (by simp)
    (text_toValue i.workloadId)
  have hendpoint := h.required (f := endpointIdField) (by simp) (by simp)
    (text_toValue i.endpointId)
  apply h.record
  rw [hhost, horchestrator, hworkload, hendpoint]
  rfl

theorem Value.readNetworks_of_writes (known : Masks) (networks : ByFamily Interface.family)
    {fields : List Field} (h : Writes fieldNames fields)
    (h4 : (networks4Field.wire, some (networksDocument networks.v4)) ∈ fields)
    (h6 : (networks6Field.wire, some (networksDocument networks.v6)) ∈ fields) :
    readNetworks known (fieldEntries fields) =
      .ok (networks.map Interface.plain Interface.family_plain) := by
  let plain := networks.map Interface.plain Interface.family_plain
  let known6 := networks4Field.after masksAfterList known (fieldEntries fields)
  have hnetworks4 := h.optional_some (f := networks4Field) ⟨[], by simp⟩ (by simp [fieldNames]) h4
    (readNetworksOf_toValue known networks4Field.wire plain.v4_family)
  have hnetworks6 := h.optional_some (f := networks6Field) ⟨[], by simp⟩ (by simp [fieldNames]) h6
    (readNetworksOf_toValue known6 networks6Field.wire plain.v6_family)
  rw [readNetworks, hnetworks4, hnetworks6]
  rfl

def Value.shown (v : Stored.Value) : Stored.Value := { v.plain with labels := v.labels.shown }

theorem Value.read_document (known : Masks) (v : Stored.Value) :
    Value.read known v.document.toValue = .ok v.shown := by
  rw [document, toValue_ofFields]
  have h : Writes fieldNames
      [(stateField.wire, some (.text v.state)),
        (interfaceNameField.wire, some (.text v.interfaceName)),
        (activeInstanceIdField.wire, some (.text v.activeInstanceId)),
        (macField.wire, v.mac.map fun m => .text m.text),
        (profilesField.wire, some (.texts v.profiles)),
        (networks4Field.wire, some (networksDocument v.networks.v4)),
        (networks6Field.wire, some (networksDocument v.networks.v6)),
        (mappings4Field.wire, some (mappingsDocument v.mappings.v4)),
        (mappings6Field.wire, some (mappingsDocument v.mappings.v6)),
        (labelsField.wire, some (.pairs v.labels.pairs)),
        (gateway4Field.wire, v.gateway4.map fun a => .text a.text),
        (gateway6Field.wire, v.gateway6.map fun a => .text a.text),
        (portsField.wire, some (.list (v.ports.map Port.document)))] :=
    ⟨rfl, by decide, by decide⟩
  have hstate := h.optional_some (f := stateField) "" (by simp [fieldNames]) (by simp)
    (text_toValue v.state)
  have hinterface := h.optional_some (f := interfaceNameField) "" (by simp [fieldNames]) (by simp)
    (text_toValue v.interfaceName)
  have hinstance := h.optional_some (f := activeInstanceIdField) "" (by simp [fieldNames])
    (by simp) (text_toValue v.activeInstanceId)
  have hmac := h.optional_map (f := macField) readMac_toValue v.mac (by simp [fieldNames])
    (by simp)
  have hprofiles := h.optional_some (f := profilesField) [] (by simp [fieldNames]) (by simp)
    (listOf_texts v.profiles)
  have hnetworks := readNetworks_of_writes known v.networks h (by simp) (by simp)
  have hmappings4 := h.optional_some (f := mappings4Field) ⟨[], by simp⟩ (by simp [fieldNames])
    (by simp) (readMappingsOf_toValue mappings4Field.wire v.mappings.v4_family)
  have hmappings6 := h.optional_some (f := mappings6Field) ⟨[], by simp⟩ (by simp [fieldNames])
    (by simp) (readMappingsOf_toValue mappings6Field.wire v.mappings.v6_family)
  have hlabels := h.optional_some (f := labelsField) ∅ (by simp [fieldNames]) (by simp)
    (Labels.read_pairs v.labels)
  have hgateway4 := h.optional_map (f := gateway4Field) (readGateway4_toValue gateway4Field.wire)
    v.gateway4 (by simp [fieldNames]) (by simp)
  have hgateway6 := h.optional_map (f := gateway6Field) (readGateway6_toValue gateway6Field.wire)
    v.gateway6 (by simp [fieldNames]) (by simp)
  have hports := h.optional_some (f := portsField) [] (by simp [fieldNames]) (by simp)
    (listOf_ports v.ports)
  apply h.record
  rw [hstate, hinterface, hinstance, hmac, hprofiles, hnetworks, hmappings4, hmappings6, hlabels,
    hgateway4, hgateway6, hports]
  rfl

def shown (e : Stored) : Stored := { e with value := e.value.shown }

/-- The body of the document of a stored endpoint, without its kind. -/
def bodyEntries (e : Stored) : Entries :=
  fieldEntries [(keyField.wire, some (Key.document e.key)),
    (valueField.wire, some e.value.document)]

theorem read_bodyEntries (known : Masks) (e : Stored) :
    read known (.map e.bodyEntries) = .ok e.shown := by
  have h : Writes [keyField, valueField]
      [(keyField.wire, some (Key.document e.key)), (valueField.wire, some e.value.document)] :=
    ⟨rfl, by decide, by decide⟩
  have hkey := h.required (f := keyField) (by simp) (by simp) (Key.read_document e.key)
  have hvalue := h.required (f := valueField) (by simp) (by simp)
    (e.value.read_document known)
  rw [bodyEntries]
  apply h.record
  rw [hkey, hvalue]
  rfl

theorem Value.plain_plain (v : Stored.Value) : v.plain.plain = v.plain := by
  unfold plain
  rw [ByFamily.map_map_self Interface.family_plain Interface.plain_plain]

theorem Value.document_shown (v : Stored.Value) : v.shown.document = v.document := by
  have hnetworks (is : List Interface) :
      networksDocument (is.map Interface.plain) = networksDocument is := by
    rw [networksDocument, List.map_map, show Interface.text ∘ Interface.plain = Interface.text from
      funext Interface.text_plain]
    rfl
  unfold shown plain document
  dsimp only [ByFamily.map]
  rw [Labels.pairs_shown, hnetworks, hnetworks]

theorem document_shown (e : Stored) : e.shown.document = e.document := by
  unfold shown document
  rw [Value.document_shown]

/-- A document shows all that equality looks at, unless a key of the labels is torn. -/
theorem plain_shown_eq_iff {e : Stored} : e.shown.plain = e.plain ↔ e.value.labels.WholeKeys := by
  rw [← Labels.shown_eq_self_iff]
  constructor
  · intro h
    exact congrArg (fun e => e.value.labels) h
  · intro h
    have hshown : e.value.shown = e.value.plain := by
      rw [Value.shown, h]
      rfl
    unfold shown plain
    rw [hshown, Value.plain_plain]

end Stored

end EndpointUpgrade.Endpoint
