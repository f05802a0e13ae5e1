import EndpointUpgrade.Net.Address

/-!
# Networks

An address together with the length of the part that names its network; the bits beyond that part
are kept, and so is the scope of an IPv6 address.
-/

namespace EndpointUpgrade.Net

open Text

/-- A network of either family that keeps its host bits. -/
inductive Network where
  | v4 (address : V4) (length : Fin 33)
  | v6 (address : V6) (length : Fin 129)
deriving DecidableEq, Repr

/-- The prefix length that digits denote, if it is at most `bound`. Numerals of more than 4300
digits are refused. -/
def prefixLength? (bound : Nat) (cs : List Char) : Option (Fin (bound + 1)) :=
  if cs.isEmpty || !cs.all isDigit || 4300 < cs.length then none
  else
    match readDigits 10 cs with
    | some n => if h : n < bound + 1 then some ⟨n, h⟩ else none
    | none => none

/-- The number of the IPv4 mask whose first `length` bits are set. -/
def maskNumber (length : Nat) : Nat := V4.count - 1 <<< (32 - length)

def maskLength? (mask : Nat) : Option (Fin 33) :=
  (List.finRange 33).find? fun length => maskNumber length = mask

/-- The length that an IPv4 mask denotes: a prefix length, a network mask or a host mask. -/
def readMask? (cs : List Char) : Option (Fin 33) :=
  match prefixLength? 32 cs with
  | some length => some length
  | none =>
    match V4.read? cs with
    | some a =>
      match maskLength? a.toNat with
      | some length => some length
      | none => maskLength? (V4.count - 1 - a.toNat)
    | none => none

namespace Network

def address : Network → Address
  | .v4 a _ => .v4 a
  | .v6 a _ => .v6 a

def family : Network → Family
  | .v4 .. => .v4
  | .v6 .. => .v6

def ofAddress : Address → Network
  | .v4 a => .v4 a 32
  | .v6 a => .v6 a 128

def chars : Network → List Char
  | .v4 a length => a.chars ++ '/' :: decimal length
  | .v6 a length => a.chars ++ '/' :: decimal length

def text (n : Network) : String := String.ofList n.chars

/-- The IPv4 network with an address and an optional mask. -/
def readV4? (address : List Char) (mask : Option (List Char)) : Option Network := do
  let a ← V4.read? address
  match mask with
  | some m => return .v4 a (← readMask? m)
  | none => return .v4 a 32

/-- The IPv6 network with an address and an optional prefix length. -/
def readV6? (address : List Char) (mask : Option (List Char)) : Option Network := do
  let a ← V6.read? address
  match mask with
  | some m => return .v6 a (← prefixLength? 128 m)
  | none => return .v6 a 128

/-- The network that a text denotes, of the first family that can read it. -/
def read? (cs : List Char) : Option Network :=
  let (address, mask) := cutAt '/' cs
  if (mask.getD []).contains '/' then none
  else
    match readV4? address mask with
    | some n => some n
    | none => readV6? address mask

end Network

end EndpointUpgrade.Net
