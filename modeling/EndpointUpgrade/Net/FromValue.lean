import EndpointUpgrade.Net.Interface
import EndpointUpgrade.Value.Basic

/-!
# Addresses and networks from values

Documents give addresses and networks as texts, as numbers or as packed bytes. A truth value counts
as the number one or zero. A network may also be a pair of an address and a mask. The masks of pairs
are kept once they have been made, under the value that they were made from, and numbers of
different kinds are the same value when they are equal: what such a mask comes to depends on the
networks that were read before it.
-/

namespace EndpointUpgrade.Net

def Address.ofValue? : Value → Option Address
  | .text s => Address.read? s.toList
  | .bool b => Address.ofInt? (if b then 1 else 0)
  | .int n => Address.ofInt? n
  | .bytes bs => Address.ofBytes? bs
  | _ => none

def V4.ofValue? (v : Value) : Option V4 :=
  match Address.ofValue? v with
  | some (.v4 a) => some a
  | _ => none

/-- The IPv6 address that a value denotes, also where an IPv4 address has the same number. -/
def V6.ofValue? : Value → Option V6
  | .text s => V6.read? s.toList
  | .bool b => some (.ofNat b.toNat)
  | .int n => if 0 ≤ n ∧ n < V6.count then some (.ofNat n.toNat) else none
  | .bytes bs => if bs.length = 16 then some (.ofNat (Address.bytesToNat bs)) else none
  | _ => none

/-! ## Masks -/

/-- Why a value is no mask: it denotes none, or it is used as a text although it is none. -/
inductive MaskFault where
  | refused
  | misused (how : Value.Misuse)
deriving DecidableEq, Repr

namespace PrefixLength

variable {bound : Nat}

/-- The length of a number, which is taken for one that is known by the same number. -/
def asKnown (known : List (PrefixLength bound)) (l : PrefixLength bound) : PrefixLength bound :=
  (known.find? fun k => k.number = l.number).getD l

def ofBool? (b : Bool) : Option (PrefixLength bound) :=
  if h : b.toNat < bound + 1 then some ⟨⟨b.toNat, h⟩, true, fun _ => b.toNat_le⟩ else none

def ofInt? (n : Int) : Option (PrefixLength bound) :=
  if h : 0 ≤ n ∧ n.toNat < bound + 1 then some (.ofNumber ⟨n.toNat, h.2⟩) else none

def ofBytes? (bs : List UInt8) : Option (PrefixLength bound) :=
  (prefixLength? bound (bs.map fun b => Char.ofNat b.toNat)).map .ofNumber

/-- The result of taking a value for a mask. -/
def orRefused : Option (PrefixLength bound) → Except MaskFault (PrefixLength bound)
  | some l => .ok l
  | none => .error .refused

/-- The length that a value denotes where texts and bytes are read in a given way. Numbers are
looked up among the lengths that are known, also those of a kind that is no mask otherwise. -/
def ofValue (ofText : List Char → Option (Fin (bound + 1)))
    (ofBytes : List UInt8 → Except MaskFault (PrefixLength bound))
    (known : List (PrefixLength bound)) : Value → Except MaskFault (PrefixLength bound)
  | .text s => orRefused ((ofText s.toList).map .ofNumber)
  | .tornText _ => .error .refused
  | .bytes bs => ofBytes bs
  | .bool b => orRefused ((ofBool? b).map (asKnown known))
  | .int n => orRefused ((ofInt? n).map (asKnown known))
  | .float x =>
    match known.find? fun k => x.toInt? = some (k.number.val : Int) with
    | some k => .ok k
    | none => .error (.misused (.property (Value.float x).typeName))
  | v =>
    match v.unkeyable? with
    | some part => .error (.misused (.key part))
    | none => .error (.misused (.property v.typeName))

/-- The length of an IPv4 mask. Bytes that are no numeral are used as an address, which they are not
unless they are empty. -/
def ofValueV4 : List (PrefixLength 32) → Value → Except MaskFault (PrefixLength 32) :=
  ofValue readMask? fun bs =>
    match ofBytes? bs with
    | some l => .ok l
    | none => .error (if bs.isEmpty then .refused else .misused .bytesAsText)

/-- The length of an IPv6 mask. -/
def ofValueV6 : List (PrefixLength 128) → Value → Except MaskFault (PrefixLength 128) :=
  ofValue (prefixLength? 128) fun bs => orRefused (ofBytes? bs)

end PrefixLength

/-- The lengths that numbers have been taken for so far, in each family. A number that is equal to
one of them is taken for that one again, so that `1` may come to be a truth value. -/
structure Masks where
  v4 : List (PrefixLength 32)
  v6 : List (PrefixLength 128)
deriving Repr

/-! ## Networks -/

namespace Interface

/-- The IPv4 network of an address and a mask. The mask is not looked at without the address. -/
def ofPairV4 (known : Masks) (address mask : Value) : Except MaskFault Interface :=
  match V4.ofValue? address with
  | some a => (PrefixLength.ofValueV4 known.v4 mask).map (.v4 a)
  | none => .error .refused

def ofPairV6 (known : Masks) (address mask : Value) : Except MaskFault Interface :=
  match V6.ofValue? address with
  | some a => (PrefixLength.ofValueV6 known.v6 mask).map (.v6 a)
  | none => .error .refused

/-- The network of an address and a mask, of the first family that does not refuse them. -/
def ofPair (known : Masks) (address mask : Value) : Except MaskFault Interface :=
  match ofPairV4 known address mask with
  | .error .refused => ofPairV6 known address mask
  | result => result

/-- A network whose prefix length is a number. -/
def ofNetwork? : Option Network → Except MaskFault Interface
  | some n => .ok (.ofNetwork n)
  | none => .error .refused

/-- The network that a value denotes where some masks are known. -/
def ofValue (known : Masks) : Value → Except MaskFault Interface
  | .text s => ofNetwork? (Network.read? s.toList)
  | .tuple [] => .error (.misused .noItem)
  | .tuple [address] => ofNetwork? ((Address.ofValue? address).map .ofAddress)
  | .tuple [address, mask] => ofPair known address mask
  | .tuple _ => .error .refused
  | v => ofNetwork? ((Address.ofValue? v).map .ofAddress)

end Interface

namespace Masks

def empty : Masks := ⟨[], []⟩

/-- One more length is known. -/
def add (known : Masks) : Interface → Masks
  | .v4 _ l => { known with v4 := l :: known.v4 }
  | .v6 _ l => { known with v6 := l :: known.v6 }

/-- The mask of a network is a number, as it also is where none is given. -/
def isNumber : Value → Bool
  | .text s => !s.toList.contains '/'
  | .tuple [_, mask] => mask.toInt?.isSome
  | _ => true

/-- The masks that are known after a value was taken for a network. -/
def after (known : Masks) (v : Value) : Masks :=
  match Interface.ofValue known v with
  | .ok i => if isNumber v then known.add i else known
  | .error _ => known

end Masks

end EndpointUpgrade.Net
