import EndpointUpgrade.Endpoint.Stored
import EndpointUpgrade.Endpoint.V1
import EndpointUpgrade.Proofs.Reading.AddedKey

/-!
# Keys added to endpoints

The schemas of the records of the v1 API and of the backend: metadata and payload, key and value,
and the address mappings and ports in their lists. Wherever a foreign key is added to an endpoint,
the endpoint is refused for that key and for nothing else.
-/

namespace EndpointUpgrade.Endpoint

open Reading

namespace AddressPair

/-- A mapping holds two addresses. -/
def schema (shape : Shape) : Schema := .record [(shape.internal, .leaf), (shape.external, .leaf)]

theorem detects_read {α : Type} {shape : Shape}
    (separate : Separate [shape.internal, shape.external])
    (part : EndpointUpgrade.Value → Checked α) : Detects (schema shape) (read shape part) :=
  detects_record _ separate
    ((ReadsFields.required _ detects_leaf).map _
      |>.seq (.required _ detects_leaf))

end AddressPair

namespace Port

/-- A port holds no other record. -/
def schema : Schema := .record (fieldNames.map fun f => (f, .leaf))

theorem detects_read : Detects schema read :=
  detects_record _ (by decide)
    ((ReadsFields.required _ detects_leaf).map _
      |>.seq (.required _ detects_leaf)
      |>.seq (.required _ detects_leaf))

end Port

namespace V1

/-- The metadata holds no other record: labels may have any keys. -/
def Metadata.schema : Schema :=
  .record
    [(endpointIdField, .leaf), (workloadField, .leaf), (orchestratorField, .leaf),
      (hostField, .leaf), (activeInstanceIdField, .leaf), (labelsField, .leaf)]

/-- The payload holds mappings and ports. -/
def Spec.schema : Schema :=
  .record
    [(networksField, .leaf), (mappingsField, .items (AddressPair.schema .v1)),
      (gateway4Field, .leaf), (gateway6Field, .leaf), (profilesField, .leaf),
      (interfaceNameField, .leaf), (macField, .leaf), (portsField, .items Port.schema)]

def fields : List (FieldName × Schema) :=
  [(metadataField, Metadata.schema), (specField, Spec.schema)]

theorem Metadata.detects_read : Detects Metadata.schema Metadata.read :=
  detects_record _ (by decide)
    ((ReadsFields.required _ detects_leaf).map _
      |>.seq (.required _ detects_leaf)
      |>.seq (.required _ detects_leaf)
      |>.seq (.required _ detects_leaf)
      |>.seq (.optional _ _ detects_leaf)
      |>.seq (.optional _ _ detects_leaf))

theorem Spec.detects_read (known : Net.Masks) : Detects Spec.schema (Spec.read known) :=
  detects_record _ (by decide)
    ((ReadsFields.optional _ _ detects_leaf).map _
      |>.seq (.optional _ _ (AddressPair.detects_read (by decide) _).listOf)
      |>.seq (.optional _ _ detects_leaf)
      |>.seq (.optional _ _ detects_leaf)
      |>.seq (.optional _ _ detects_leaf)
      |>.seq (.optional _ _ detects_leaf)
      |>.seq (.optional _ _ detects_leaf)
      |>.seq (.optional _ _ Port.detects_read.listOf))

theorem detects_read (known : Net.Masks) : Detects (.record fields) (V1.read known) :=
  detects_record _ (by decide)
    ((ReadsFields.required _ Metadata.detects_read).map _
      |>.seq (.optional _ _ (Spec.detects_read known)))

end V1

namespace Stored

def Key.schema : Schema :=
  .record
    [(hostField, .leaf), (orchestratorField, .leaf), (workloadField, .leaf),
      (endpointIdField, .leaf)]

/-- What is kept holds mappings of both families and ports. -/
def Value.schema : Schema :=
  .record
    [(stateField, .leaf), (interfaceNameField, .leaf), (activeInstanceIdField, .leaf),
      (macField, .leaf), (profilesField, .leaf), (networks4Field, .leaf), (networks6Field, .leaf),
      (mappings4Field, .items (AddressPair.schema .backend)),
      (mappings6Field, .items (AddressPair.schema .backend)), (labelsField, .leaf),
      (gateway4Field, .leaf), (gateway6Field, .leaf), (portsField, .items Port.schema)]

/-- A stored endpoint holds a key and what is kept under it. -/
def fields : List (FieldName × Schema) := [(keyField, Key.schema), (valueField, Value.schema)]

theorem Key.detects_read : Detects Key.schema Key.read :=
  detects_record _ (by decide)
    ((ReadsFields.required _ detects_leaf).map _
      |>.seq (.required _ detects_leaf)
      |>.seq (.required _ detects_leaf)
      |>.seq (.required _ detects_leaf))

theorem detects_readMappingsOf (family : Net.Family) (field : String) :
    Detects (.items (AddressPair.schema .backend)) (readMappingsOf family field) :=
  (AddressPair.detects_read (by decide) _).listOf.thenRule _

/-- The networks of IPv6 also look at those of IPv4, for the masks that become known. -/
theorem Value.readsFields_readNetworks (known : Net.Masks) :
    ReadsFields [(networks4Field, .leaf), (networks6Field, .leaf)] (readNetworks known) := by
  intro es fs issuesOf hchange
  obtain ⟨hfind4, hissues4⟩ := (hchange (networks4Field, .leaf) (by simp)).of_leaf
  obtain ⟨hfind6, hissues6⟩ := (hchange (networks6Field, .leaf) (by simp)).of_leaf
  have hread : readNetworks known fs = readNetworks known es := by
    unfold readNetworks Reading.optional FieldName.after
    rw [hfind4, hfind6]
  have hissues : ([(networks4Field, Schema.leaf), (networks6Field, .leaf)].flatMap
      fun p => issuesOf p.1) = [] := by
    rw [List.flatMap_cons, List.flatMap_singleton, hissues4, hissues6, List.append_nil]
  rw [hissues]
  exact .of_eq hread

theorem Value.detects_read (known : Net.Masks) : Detects Value.schema (Value.read known) :=
  detects_record _ (by decide)
    ((ReadsFields.optional _ _ detects_leaf).map _
      |>.seq (.optional _ _ detects_leaf)
      |>.seq (.optional _ _ detects_leaf)
      |>.seq (.optional _ _ detects_leaf)
      |>.seq (.optional _ _ detects_leaf)
      |>.seq (readsFields_readNetworks known)
      |>.seq (.optional _ _ (detects_readMappingsOf .v4 _))
      |>.seq (.optional _ _ (detects_readMappingsOf .v6 _))
      |>.seq (.optional _ _ detects_leaf)
      |>.seq (.optional _ _ detects_leaf)
      |>.seq (.optional _ _ detects_leaf)
      |>.seq (.optional _ _ Port.detects_read.listOf))

theorem detects_read (known : Net.Masks) : Detects (.record fields) (Stored.read known) :=
  detects_record _ (by decide)
    ((ReadsFields.required _ Key.detects_read).map _
      |>.seq (.required _ (Value.detects_read known)))

end Stored

end EndpointUpgrade.Endpoint
