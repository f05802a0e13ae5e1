import EndpointUpgrade.Documents.Upgrade
import EndpointUpgrade.Proofs.Text.Numeral

/-!
# Records that can be written

The integers in the document of a record are the numbers of its ports and those of their protocols.
The first are small, so a record can be written exactly if no protocol has a number with too many
digits.
-/

namespace EndpointUpgrade

namespace Document

theorem areWritable_iff {ds : List Document} :
    areWritable ds = true ↔ ∀ d ∈ ds, d.isWritable = true := by
  induction ds with
  | nil => simp [areWritable]
  | cons d ds ih => simp [areWritable, ih]

theorem haveWritable_iff {es : List (String × Document)} :
    haveWritable es = true ↔ ∀ e ∈ es, e.2.isWritable = true := by
  induction es with
  | nil => simp [haveWritable]
  | cons e es ih => simp [haveWritable, ih]

theorem isWritable_ofFields {fields : List Field} :
    (ofFields fields).isWritable = true ↔
      ∀ f ∈ fields, ∀ d, f.2 = some d → d.isWritable = true := by
  rw [ofFields, isWritable, haveWritable_iff]
  constructor
  · intro h f hf d hd
    exact h (f.1, d) (List.mem_filterMap.mpr ⟨f, hf, by rw [hd]; rfl⟩)
  · intro h e he
    obtain ⟨f, hf, hmap⟩ := List.mem_filterMap.mp he
    obtain ⟨d, hd, rfl⟩ := Option.map_eq_some_iff.mp hmap
    exact h f hf d hd

@[simp] theorem isWritable_text (s : String) : (text s).isWritable = true := rfl

@[simp] theorem isWritable_list (ds : List Document) :
    (list ds).isWritable = true ↔ ∀ d ∈ ds, d.isWritable = true := areWritable_iff

@[simp] theorem isWritable_texts (ss : List String) : (texts ss).isWritable = true := by
  rw [texts, isWritable_list]
  intro d hd
  obtain ⟨s, -, rfl⟩ := List.mem_map.mp hd
  rfl

@[simp] theorem isWritable_pairs (es : List (String × String)) :
    (pairs es).isWritable = true := by
  rw [pairs, isWritable, haveWritable_iff]
  intro e he
  obtain ⟨e, -, rfl⟩ := List.mem_map.mp he
  rfl

end Document

namespace Endpoint

open Document Text

@[simp] theorem AddressPair.isWritable_document {α : Type} (shape : Shape) (part : α → String)
    (m : AddressPair α) : (m.document shape part).isWritable = true := rfl

/-- No number of a protocol has too many digits. -/
def Protocol.IsShort (p : Protocol) : Prop :=
  ∀ n, p = .number n → (decimal n.natAbs).length ≤ longestDecimal

theorem Protocol.isWritable_document (p : Protocol) :
    p.document.isWritable = true ↔ p.IsShort := by
  cases p with
  | name s => simp [document, IsShort]
  | number n => simp [document, IsShort, Document.isWritable, Text.isWritable]

/-- The number of a port has at most five digits. -/
theorem isWritable_portNumber (n : PortNumber) : Text.isWritable n.1 = true := by
  obtain ⟨n, least, greatest⟩ := n
  have hbound : n.natAbs ≤ 65535 := by omega
  have hlength : (decimal n.natAbs).length ≤ 5 :=
    length_decimal_le (Nat.lt_of_le_of_lt hbound (by decide))
  exact decide_eq_true (Nat.le_trans hlength (by decide))

theorem Port.isWritable_document (p : Port) :
    p.document.isWritable = true ↔ p.protocol.IsShort := by
  have hnumber : (Document.number p.number.1).isWritable = true := isWritable_portNumber p.number
  rw [← Protocol.isWritable_document, document, Document.isWritable]
  simp [haveWritable, hnumber]

/-- The ports of a record can be written if their protocols are short. -/
theorem isWritable_ports (ps : List Port) :
    (Document.list (ps.map Port.document)).isWritable = true ↔
      ∀ p ∈ ps, p.protocol.IsShort := by
  rw [isWritable_list, List.forall_mem_map]
  simp only [Port.isWritable_document]

theorem Stored.Value.isWritable_document (v : Stored.Value) :
    v.document.isWritable = true ↔ ∀ p ∈ v.ports, p.protocol.IsShort := by
  rw [document, isWritable_ofFields, ← isWritable_ports]
  simp [networksDocument, mappingsDocument]

theorem Stored.isWritable_document (e : Stored) :
    e.document.isWritable = true ↔ ∀ p ∈ e.value.ports, p.protocol.IsShort := by
  rw [← Stored.Value.isWritable_document]
  simp [document, Key.document, Document.isWritable, haveWritable]

theorem V3.Spec.isWritable_document (s : V3.Spec) :
    s.document.isWritable = true ↔ ∀ p ∈ s.ports, p.protocol.IsShort := by
  rw [document, isWritable_ofFields, ← isWritable_ports]
  simp

theorem V3.isWritable_document (r : V3) :
    r.document.isWritable = true ↔ ∀ p ∈ r.spec.ports, p.protocol.IsShort := by
  have hmetadata : r.metadata.document.isWritable = true := by
    rw [Metadata.document, isWritable_ofFields]
    simp
  rw [← V3.Spec.isWritable_document]
  simp [document, Document.isWritable, haveWritable, hmetadata]

end Endpoint

namespace Documents

def Upgraded.ports : Upgraded → List Endpoint.Port
  | .stored e => e.value.ports
  | .v3 r => r.spec.ports

theorem Upgraded.isWritable_document (u : Upgraded) :
    u.document.isWritable = true ↔ ∀ p ∈ u.ports, p.protocol.IsShort := by
  cases u with
  | stored e => exact e.isWritable_document
  | v3 r => exact r.isWritable_document

end Documents

end EndpointUpgrade
