import EndpointUpgrade.Net.Network

/-!
# Networks as records hold them

A prefix length may be given as a truth value, one for the true one and zero for the false one, and
a record keeps it as it was given. The plain text of a network shows the number all the same, but
the CIDR text shows the truth value. Apart from that, a network of a record is a network.
-/

namespace EndpointUpgrade.Net

open Text

/-- A prefix length, and whether a truth value was given for it. -/
structure PrefixLength (bound : Nat) where
  number : Fin (bound + 1)
  asTruth : Bool
  le_one : asTruth = true → number.val ≤ 1
deriving DecidableEq, Repr

namespace PrefixLength

variable {bound : Nat}

def ofNumber (number : Fin (bound + 1)) : PrefixLength bound := ⟨number, false, nofun⟩

/-- The length as CIDR texts show it. -/
def chars (l : PrefixLength bound) : List Char :=
  if l.asTruth then (if l.number.val = 0 then "False" else "True").toList else decimal l.number

end PrefixLength

/-- A network of a record. -/
inductive Interface where
  | v4 (address : V4) (length : PrefixLength 32)
  | v6 (address : V6) (length : PrefixLength 128)
deriving DecidableEq, Repr

namespace Interface

def network : Interface → Network
  | .v4 a l => .v4 a l.number
  | .v6 a l => .v6 a l.number

def ofNetwork : Network → Interface
  | .v4 a length => .v4 a (.ofNumber length)
  | .v6 a length => .v6 a (.ofNumber length)

/-- The same network with its prefix length as a number. -/
def plain (i : Interface) : Interface := ofNetwork i.network

/-- The prefix length was given as a truth value. -/
def asTruth : Interface → Bool
  | .v4 _ l => l.asTruth
  | .v6 _ l => l.asTruth

def family (i : Interface) : Family := i.network.family

@[simp] theorem network_ofNetwork (n : Network) : (ofNetwork n).network = n := by
  cases n <;> rfl

@[simp] theorem family_plain (i : Interface) : i.plain.family = i.family := by
  cases i <;> rfl

@[simp] theorem plain_plain (i : Interface) : i.plain.plain = i.plain := by
  cases i <;> rfl

def text (i : Interface) : String := i.network.text

@[simp] theorem text_plain (i : Interface) : i.plain.text = i.text := by
  cases i <;> rfl

/-- The CIDR text of a network, which leaves out the scope. -/
def cidrChars : Interface → List Char
  | .v4 a l => a.chars ++ '/' :: l.chars
  | .v6 a l => V6.addressChars a.groups ++ '/' :: l.chars

def cidr (i : Interface) : String := String.ofList i.cidrChars

end Interface

end EndpointUpgrade.Net
