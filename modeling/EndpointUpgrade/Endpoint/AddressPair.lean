import EndpointUpgrade.Document
import EndpointUpgrade.Reading.Record
import EndpointUpgrade.Reading.Scalar

/-!
# Address mappings

A one-to-one mapping between an address inside a workload and the address it is reached on. Its
family is that of the inner address, whatever the outer one's. The v1 API and the backend give the
two addresses different field names; the v3 API has them as plain texts.
-/

namespace EndpointUpgrade.Endpoint

open Reading Net

/-- A pair of an inner and an outer address, either as addresses or as texts. -/
structure AddressPair (α : Type) where
  internal : α
  external : α
deriving DecidableEq, Repr

abbrev Mapping := AddressPair Address

abbrev TextMapping := AddressPair String

namespace AddressPair

/-- The names of a record that holds two addresses. -/
structure Shape where
  recordName : String
  internal : FieldName
  external : FieldName

def Shape.v1 : Shape := ⟨"IPNATv1", ⟨"internalIP", "internal_ip"⟩, ⟨"externalIP", "external_ip"⟩⟩

def Shape.backend : Shape := ⟨"IPNATBackend", .only "int_ip", .only "ext_ip"⟩

def Shape.v3 : Shape := ⟨"IPNATv3", ⟨"internalIP", "internal_ip"⟩, ⟨"externalIP", "external_ip"⟩⟩

/-- Reads a mapping whose two parts are read in the same way. -/
def read {α : Type} (shape : Shape) (part : Value → Checked α) : Value → Checked (AddressPair α) :=
  record shape.recordName [shape.internal, shape.external] fun es =>
    AddressPair.mk <$> required shape.internal part es <*> required shape.external part es

/-- The document of a mapping whose parts are written as texts. -/
def document {α : Type} (shape : Shape) (part : α → String) (m : AddressPair α) : Document :=
  .mapping
    [(shape.internal.wire, .text (part m.internal)), (shape.external.wire, .text (part m.external))]

def family (m : Mapping) : Family := m.internal.family

def toText (m : Mapping) : TextMapping := ⟨m.internal.text, m.external.text⟩

end AddressPair

end EndpointUpgrade.Endpoint
