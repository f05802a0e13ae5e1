import EndpointUpgrade.Endpoint.V1
import EndpointUpgrade.Endpoint.Stored
import EndpointUpgrade.Endpoint.V3

/-!
# Records of every kind

The records of the three generations and the records inside them, as one type, for callers that
name the kind of record at run time.
-/

namespace EndpointUpgrade.Endpoint

open Reading

/-- A record of some kind. -/
inductive AnyRecord where
  | port (r : Port)
  | mappingV1 (r : Mapping)
  | metadataV1 (r : V1.Metadata)
  | specV1 (r : V1.Spec)
  | v1 (r : V1)
  | storedMapping (r : Mapping)
  | storedKey (r : Identity.Identifiers)
  | storedValue (r : Stored.Value)
  | stored (r : Stored)
  | mappingV3 (r : TextMapping)
  | metadataV3 (r : V3.Metadata)
  | specV3 (r : V3.Spec)
  | v3 (r : V3)

namespace AnyRecord

def recordName : AnyRecord → String
  | .port _ => Port.recordName
  | .mappingV1 _ => AddressPair.Shape.v1.recordName
  | .metadataV1 _ => V1.Metadata.recordName
  | .specV1 _ => V1.Spec.recordName
  | .v1 _ => V1.recordName
  | .storedMapping _ => AddressPair.Shape.backend.recordName
  | .storedKey _ => Stored.Key.recordName
  | .storedValue _ => Stored.Value.recordName
  | .stored _ => Stored.recordName
  | .mappingV3 _ => AddressPair.Shape.v3.recordName
  | .metadataV3 _ => V3.Metadata.recordName
  | .specV3 _ => V3.Spec.recordName
  | .v3 _ => V3.recordName

def document : AnyRecord → Document
  | .port r => r.document
  | .mappingV1 r => r.document .v1 Net.Address.text
  | .metadataV1 r => r.document
  | .specV1 r => r.document
  | .v1 r => r.document
  | .storedMapping r => r.document .backend Net.Address.text
  | .storedKey r => Stored.Key.document r
  | .storedValue r => r.document
  | .stored r => r.document
  | .mappingV3 r => r.document .v3 id
  | .metadataV3 r => r.document
  | .specV3 r => r.document
  | .v3 r => r.document

/-- Equality of records: of one kind, with labels compared as maps and prefix lengths as numbers. -/
def same : AnyRecord → AnyRecord → Bool
  | .port a, .port b => a = b
  | .mappingV1 a, .mappingV1 b => a = b
  | .metadataV1 a, .metadataV1 b => a.Same b
  | .specV1 a, .specV1 b => a.plain = b.plain
  | .v1 a, .v1 b => a.plain.Same b.plain
  | .storedMapping a, .storedMapping b => a = b
  | .storedKey a, .storedKey b => a = b
  | .storedValue a, .storedValue b => a.plain.Same b.plain
  | .stored a, .stored b => a.plain.Same b.plain
  | .mappingV3 a, .mappingV3 b => a = b
  | .metadataV3 a, .metadataV3 b => a.Same b
  | .specV3 a, .specV3 b => a = b
  | .v3 a, .v3 b => a.Same b
  | _, _ => false

/-- The ways to read a record where no masks are known, by the name of its kind. -/
def readers : List (String × (Value → Checked AnyRecord)) :=
  [(Port.recordName, fun v => .port <$> Port.read v),
    (AddressPair.Shape.v1.recordName,
      fun v => .mappingV1 <$> AddressPair.read .v1 address v),
    (V1.Metadata.recordName, fun v => .metadataV1 <$> V1.Metadata.read v),
    (V1.Spec.recordName, fun v => .specV1 <$> V1.Spec.read .empty v),
    (V1.recordName, fun v => .v1 <$> V1.read .empty v),
    (AddressPair.Shape.backend.recordName,
      fun v => .storedMapping <$> AddressPair.read .backend address v),
    (Stored.Key.recordName, fun v => .storedKey <$> Stored.Key.read v),
    (Stored.Value.recordName, fun v => .storedValue <$> Stored.Value.read .empty v),
    (Stored.recordName, fun v => .stored <$> Stored.read .empty v),
    (AddressPair.Shape.v3.recordName, fun v => .mappingV3 <$> AddressPair.read .v3 text v),
    (V3.Metadata.recordName, fun v => .metadataV3 <$> V3.Metadata.read v),
    (V3.Spec.recordName, fun v => .specV3 <$> V3.Spec.read v),
    (V3.recordName, fun v => .v3 <$> V3.read v)]

/-- Reads a record of the named kind; there may be no such kind. -/
def read? (name : String) (v : Value) : Option (Checked AnyRecord) :=
  (readers.lookup name).map fun read => read v

/-- An attempt to give an attribute of a record another value. Records do not change; only
attributes that are not part of the record, whose names begin with an underscore, can be set. -/
def assign (r : AnyRecord) (name : String) : Except Rejection Unit :=
  if name.startsWith "_" then .ok ()
  else .error ⟨r.recordName, [⟨[.field name], .frozen⟩]⟩

end AnyRecord

end EndpointUpgrade.Endpoint
