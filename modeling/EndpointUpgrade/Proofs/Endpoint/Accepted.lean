import EndpointUpgrade.Proofs.Endpoint.RoundTrip
import EndpointUpgrade.Proofs.Net.Interface
import EndpointUpgrade.Proofs.Reading.Given

/-!
# Every endpoint is accepted

Every endpoint of the v1 API is read from some body by a process that knows no masks, also one that
documents show incompletely: a truth value is given as the mask of a pair, and the other networks
are given as texts. Numbers are never given as masks, so that only truth values become known, and
each of them is found as itself.
-/

namespace EndpointUpgrade

open Reading

namespace Net

/-! ## Networks -/

/-- All lengths that are known were given as truth values. -/
structure Masks.OnlyTruths (known : Masks) : Prop where
  v4 : ∀ l ∈ known.v4, l.asTruth = true
  v6 : ∀ l ∈ known.v6, l.asTruth = true

theorem Masks.onlyTruths_empty : Masks.empty.OnlyTruths :=
  ⟨List.forall_mem_nil _, List.forall_mem_nil _⟩

/-- The value that a length is read from if it was given as a truth value. -/
def PrefixLength.truth {bound : Nat} (l : PrefixLength bound) : Value := .bool (l.number.val = 1)

/-- The value that a network is read from. -/
def Interface.given : Interface → Value
  | .v4 a l =>
    if l.asTruth then .tuple [.text a.text, l.truth] else .text (Network.v4 a l.number).text
  | .v6 a l =>
    if l.asTruth then .tuple [.text a.text, l.truth] else .text (Network.v6 a l.number).text

section Masks

variable {bound : Nat} {known : List (PrefixLength bound)} {l : PrefixLength bound}

theorem PrefixLength.asKnown_of_onlyTruths (hknown : ∀ k ∈ known, k.asTruth = true)
    (h : l.asTruth = true) : asKnown known l = l := by
  unfold asKnown
  cases hfind : known.find? fun k => k.number = l.number with
  | none => rfl
  | some k =>
    have hnumber : k.number = l.number := by simpa using List.find?_some hfind
    have htruth := hknown k (List.mem_of_find?_eq_some hfind)
    cases k
    cases l
    simp only [Option.getD_some, mk.injEq]
    exact ⟨hnumber, htruth.trans h.symm⟩

theorem PrefixLength.ofValue_truth {ofText : List Char → Option (Fin (bound + 1))}
    {ofBytes : List UInt8 → Except MaskFault (PrefixLength bound)}
    (hknown : ∀ k ∈ known, k.asTruth = true) (h : l.asTruth = true) :
    ofValue ofText ofBytes known l.truth = .ok l := by
  have hle := l.le_one h
  have hnat : (decide (l.number.val = 1)).toNat = l.number.val := by
    by_cases hone : l.number.val = 1
    · simp [hone]
    · simp [hone]
      omega
  have hbool : ofBool? (decide (l.number.val = 1)) = some l := by
    have hbound : (decide (l.number.val = 1)).toNat < bound + 1 := by
      rw [hnat]
      exact l.number.isLt
    rw [ofBool?, dif_pos hbound]
    cases l
    simp only [Option.some.injEq, mk.injEq]
    exact ⟨Fin.ext hnat, h.symm⟩
  rw [truth, ofValue, hbool, Option.map_some, asKnown_of_onlyTruths hknown h]
  rfl

end Masks

variable {known : Masks} {i : Interface}

theorem Interface.ofValue_given (hknown : known.OnlyTruths) (i : Interface) :
    ofValue known i.given = .ok i := by
  cases i with
  | v4 a l =>
    cases h : l.asTruth with
    | true =>
      rw [given, if_pos h, ofValue]
      exact ofPair_textV4 (PrefixLength.ofValue_truth hknown.v4 h)
    | false =>
      rw [given, h, if_neg (by decide), ofValue_text, ofNetwork, PrefixLength.ofNumber_number h]
  | v6 a l =>
    cases h : l.asTruth with
    | true =>
      rw [given, if_pos h, ofValue]
      exact ofPair_textV6 (PrefixLength.ofValue_truth hknown.v6 h)
    | false =>
      rw [given, h, if_neg (by decide), ofValue_text, ofNetwork, PrefixLength.ofNumber_number h]

theorem Masks.onlyTruths_after (hknown : known.OnlyTruths) (i : Interface) :
    (known.after i.given).OnlyTruths := by
  have hslash (n : Network) : isNumber (.text n.text) = false := by
    rw [isNumber, Network.text, String.toList_ofList]
    cases n <;> simp [Network.chars]
  rw [after, Interface.ofValue_given hknown]
  dsimp only
  split
  · next hnumber =>
    cases i with
    | v4 a l =>
      rw [Interface.given] at hnumber
      split at hnumber
      · next htruth => exact ⟨List.forall_mem_cons.mpr ⟨htruth, hknown.v4⟩, hknown.v6⟩
      · exact absurd hnumber (by rw [hslash]; decide)
    | v6 a l =>
      rw [Interface.given] at hnumber
      split at hnumber
      · next htruth => exact ⟨hknown.v4, List.forall_mem_cons.mpr ⟨htruth, hknown.v6⟩⟩
      · exact absurd hnumber (by rw [hslash]; decide)
  · exact hknown

end Net

open Net

theorem Reading.networkList_given (is : List Interface) :
    networkList .empty (.list (is.map Interface.given)) = .ok is := by
  have helements (known : Masks) (hknown : known.OnlyTruths) (position : Int) :
      elements (fun p => network p.1 p.2) position
        (threaded Masks.after known (is.map Interface.given)) = .ok is := by
    induction is generalizing known position with
    | nil => rfl
    | cons i is ih =>
      rw [List.map_cons, threaded, elements, network, Interface.ofValue_given hknown,
        Checked.under_ok, ih _ (Masks.onlyTruths_after hknown i), Checked.map_ok,
        Checked.ok_seq_ok]
  exact helements .empty Masks.onlyTruths_empty 0

/-! ## Endpoints -/

namespace Endpoint.V1

def Metadata.given (m : Metadata) : List GivenField :=
  [(endpointIdField, .text m.identity.endpointId), (workloadField, .text m.identity.workloadId),
    (orchestratorField, .text m.identity.orchestrator), (hostField, .text m.identity.host),
    (activeInstanceIdField, .text m.activeInstanceId), (labelsField, m.labels.given)]

def Spec.given (s : Spec) : List GivenField :=
  [(networksField, .list (s.networks.map Interface.given)),
    (mappingsField,
      (Document.list (s.mappings.map (AddressPair.document .v1 Address.text))).toValue),
    (gateway4Field, givenValue (s.gateway4.map fun a => .text a.text)),
    (gateway6Field, givenValue (s.gateway6.map fun a => .text a.text)),
    (profilesField, (Document.texts s.profiles).toValue),
    (interfaceNameField, .text s.interfaceName),
    (macField, givenValue (s.mac.map fun m => .text m.text)),
    (portsField, (Document.list (s.ports.map Port.document)).toValue)]

theorem Metadata.read_given (m : Metadata) :
    Metadata.read (.map (givenEntries m.given)) = .ok m := by
  have h : Gives
      [endpointIdField, workloadField, orchestratorField, hostField, activeInstanceIdField,
        labelsField] m.given := ⟨rfl, by decide, by decide⟩
  have hendpoint := h.required (f := endpointIdField) (by simp [given])
    (text_text m.identity.endpointId)
  have hworkload := h.required (f := workloadField) (by simp [given])
    (text_text m.identity.workloadId)
  have horchestrator := h.required (f := orchestratorField) (by simp [given])
    (text_text m.identity.orchestrator)
  have hhost := h.required (f := hostField) (by simp [given]) (text_text m.identity.host)
  have hinstance := h.optional_some (f := activeInstanceIdField) "" (by simp [given])
    (text_text m.activeInstanceId)
  have hlabels := h.optional_some (f := labelsField) ∅ (by simp [given]) m.labels.read_given
  apply h.record
  rw [hendpoint, hworkload, horchestrator, hhost, hinstance, hlabels]
  rfl

theorem Spec.read_given (s : Spec) : Spec.read .empty (.map (givenEntries s.given)) = .ok s := by
  have h : Gives
      [networksField, mappingsField, gateway4Field, gateway6Field, profilesField,
        interfaceNameField, macField, portsField] s.given := ⟨rfl, by decide, by decide⟩
  have hnetworks := h.optional_some (f := networksField) [] (by simp [given])
    (networkList_given s.networks)
  have hmappings := h.optional_some (f := mappingsField) [] (by simp [given])
    (listOf_mappings_v1 s.mappings)
  have hgateway4 := h.optional_map (f := gateway4Field) (readGateway4_toValue gateway4Field.wire)
    rfl s.gateway4 (by simp [given])
  have hgateway6 := h.optional_map (f := gateway6Field) (readGateway6_toValue gateway6Field.wire)
    rfl s.gateway6 (by simp [given])
  have hprofiles := h.optional_some (f := profilesField) [] (by simp [given])
    (listOf_texts s.profiles)
  have hinterface := h.optional_some (f := interfaceNameField) "" (by simp [given])
    (text_text s.interfaceName)
  have hmac := h.optional_map (f := macField) readMac_toValue rfl s.mac (by simp [given])
  have hports := h.optional_some (f := portsField) [] (by simp [given]) (listOf_ports s.ports)
  apply h.record
  rw [hnetworks, hmappings, hgateway4, hgateway6, hprofiles, hinterface, hmac, hports]
  rfl

/-- Every endpoint of the v1 API is one that reading accepts. -/
theorem exists_read (e : V1) : ∃ body, V1.read .empty body = .ok e := by
  let fields : List GivenField :=
    [(metadataField, .map (givenEntries e.metadata.given)),
      (specField, .map (givenEntries e.spec.given))]
  have h : Gives [metadataField, specField] fields := ⟨rfl, by decide, by decide⟩
  have hmetadata := h.required (f := metadataField) (by simp [fields]) e.metadata.read_given
  have hspec := h.optional_some (f := specField) .empty (by simp [fields]) e.spec.read_given
  refine ⟨.map (givenEntries fields), ?_⟩
  apply h.record
  rw [hmetadata, hspec]
  rfl

end Endpoint.V1

end EndpointUpgrade
