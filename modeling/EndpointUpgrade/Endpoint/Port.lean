import EndpointUpgrade.Document
import EndpointUpgrade.Reading.Record
import EndpointUpgrade.Reading.Scalar

/-!
# Ports

A port that a workload exposes: a name, a transport protocol given by its name or its number, and
a number between 1 and 65535.
-/

namespace EndpointUpgrade.Endpoint

open Reading

/-- A transport protocol, by name or by its assigned number. -/
inductive Protocol where
  | name (s : String)
  | number (n : Int)
deriving DecidableEq, Repr

abbrev PortNumber := { n : Int // 1 ≤ n ∧ n ≤ 65535 }

structure Port where
  name : String
  name_ne : name ≠ ""
  protocol : Protocol
  number : PortNumber
deriving DecidableEq, Repr

namespace Protocol

/-- Reads a protocol. Texts and integers are taken as they are. Anything else is read as a number,
or else as a text, and what is neither has the faults of both. -/
def read : Value → Checked Protocol
  | .text s => .ok (.name s)
  | .int n => .ok (.number n)
  | v =>
    match integer v, text v with
    | .ok n, _ => .ok (.number n)
    | _, .ok s => .ok (.name s)
    | asNumber, asName =>
      .faulty
        ((asNumber.under (.field "int")).issues ++ (asName.under (.field "str")).issues)

def document : Protocol → Document
  | .name s => .text s
  | .number n => .number n

end Protocol

namespace Port

def recordName : String := "EndpointPort"

def readName (v : Value) : Checked { s : String // s ≠ "" } :=
  (text v).thenRule fun s =>
    if h : s = "" then .error "EndpointPort.name must not be empty" else .ok ⟨s, h⟩

def fieldNames : List FieldName := [.only "name", .only "protocol", .only "port"]

def read : Value → Checked Port :=
  record recordName fieldNames fun es =>
    (fun name protocol number => ⟨name.1, name.2, protocol, number⟩)
      <$> required (.only "name") readName es
      <*> required (.only "protocol") Protocol.read es
      <*> required (.only "port") (integerWithin 1 65535) es

def document (p : Port) : Document :=
  .mapping
    [("name", .text p.name), ("protocol", p.protocol.document), ("port", .number p.number.1)]

end Port

end EndpointUpgrade.Endpoint
