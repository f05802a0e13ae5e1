import EndpointUpgrade.Endpoint.AddressPair
import EndpointUpgrade.Net.Mac

/-!
# Rules of single fields

Fields of the v1 API and of the backend that hold more than plain texts: hardware addresses,
gateways of one family, and lists of one family.
-/

namespace EndpointUpgrade.Endpoint

open Reading Net

/-- Reads a hardware address in any spelling; there may be none. -/
def readMac (v : Value) : Checked (Option Mac) :=
  (optionalText v).thenRule fun s =>
    match normalizeMac s with
    | .ok m => .ok m
    | .error e => .error e.message

/-- Reads a gateway of IPv4 in a field of the given name. -/
def readGateway4 (field : String) (v : Value) : Checked (Option V4) :=
  (optionalAddress v).thenRule fun
    | none => .ok none
    | some (.v4 a) => .ok (some a)
    | some a => .error (field ++ " '" ++ a.text ++ "' is not an IPv4 address")

/-- Reads a gateway of IPv6 in a field of the given name. -/
def readGateway6 (field : String) (v : Value) : Checked (Option V6) :=
  (optionalAddress v).thenRule fun
    | none => .ok none
    | some (.v6 a) => .ok (some a)
    | some a => .error (field ++ " '" ++ a.text ++ "' is not an IPv6 address")

/-- Items that all belong to one family. -/
abbrev OneFamily {α : Type} (familyOf : α → Family) (family : Family) :=
  { xs : List α // ∀ x ∈ xs, familyOf x = family }

/-- Accepts a list if all its items belong to one family; otherwise the first item that does not is
the fault, put into words by `wording`. -/
def onlyFamily {α : Type} (familyOf : α → Family) (family : Family) (wording : α → String)
    (xs : List α) : Except String (OneFamily familyOf family) :=
  match h : xs.find? fun x => familyOf x ≠ family with
  | some x => .error (wording x)
  | none => .ok ⟨xs, by simpa [List.find?_eq_none] using h⟩

/-- How a family is called in messages. -/
def familyName : Family → String
  | .v4 => "IPv4"
  | .v6 => "IPv6"

/-- Reads a list of networks of one family in a field of the given name. -/
def readNetworksOf (known : Masks) (family : Family) (field : String) (v : Value) :
    Checked (OneFamily Interface.family family) :=
  (networkList known v).thenRule <| onlyFamily Interface.family family fun i =>
    field ++ " contains non-" ++ familyName family ++ " network '" ++ i.text ++ "'"

/-- Reads a list of address mappings of one family in a field of the given name. -/
def readMappingsOf (family : Family) (field : String) (v : Value) :
    Checked (OneFamily AddressPair.family family) :=
  (listOf (AddressPair.read .backend address) v).thenRule <|
    onlyFamily AddressPair.family family fun m =>
      field ++ " contains non-" ++ familyName family ++ " mapping '" ++ m.internal.text ++ "'"

end EndpointUpgrade.Endpoint
