import EndpointUpgrade.Text.Fields
import EndpointUpgrade.Text.Numeral

/-!
# Internet addresses

Addresses of both families with their texts. An IPv4 address is written as four decimal octets
without leading zeros. An IPv6 address is written as eight hexadecimal groups, of which the first
longest run of at least two zero groups is left out; reading also admits any single gap, capital
digits, leading zeros and an IPv4 address in place of the last two groups. A scope may follow an
IPv6 address behind a percent sign.
-/

namespace EndpointUpgrade.Net

open Text

inductive Family where
  | v4
  | v6
deriving DecidableEq, Repr

def Family.number : Family → Nat
  | .v4 => 4
  | .v6 => 6

/-- An IPv4 address by its four octets. -/
structure V4 where
  first : UInt8
  second : UInt8
  third : UInt8
  fourth : UInt8
deriving DecidableEq, Repr

namespace V4

/-- How many addresses there are. -/
def count : Nat := 0x100000000

/-- The address of a number below `count`. -/
def ofNat (n : Nat) : V4 :=
  ⟨UInt8.ofNat (n / 0x1000000), UInt8.ofNat (n / 0x10000), UInt8.ofNat (n / 0x100),
    UInt8.ofNat n⟩

def toNat (a : V4) : Nat :=
  ((a.first.toNat * 256 + a.second.toNat) * 256 + a.third.toNat) * 256 + a.fourth.toNat

def chars (a : V4) : List Char :=
  joined '.' [decimal a.first.toNat, decimal a.second.toNat, decimal a.third.toNat,
    decimal a.fourth.toNat]

def text (a : V4) : String := String.ofList a.chars

/-- An octet: one to three digits without a leading zero, of value at most 255. -/
def octet? (cs : List Char) : Option UInt8 :=
  if cs.isEmpty || !cs.all isDigit || 3 < cs.length then none
  else if cs ≠ ['0'] ∧ cs.head? = some '0' then none
  else
    match readDigits 10 cs with
    | some n => if n ≤ 255 then some (UInt8.ofNat n) else none
    | none => none

def read? (cs : List Char) : Option V4 :=
  match fields '.' cs with
  | [a, b, c, d] => do return ⟨← octet? a, ← octet? b, ← octet? c, ← octet? d⟩
  | _ => none

end V4

/-- The name of the zone that an IPv6 address belongs to. -/
structure Scope where
  chars : List Char
  ne_nil : chars ≠ []
  no_percent : '%' ∉ chars
  no_slash : '/' ∉ chars
deriving DecidableEq, Repr

def Scope.ofChars? (cs : List Char) : Option Scope :=
  if h : cs ≠ [] ∧ '%' ∉ cs ∧ '/' ∉ cs then some ⟨cs, h.1, h.2.1, h.2.2⟩ else none

/-- An IPv6 address by its eight groups and its scope. -/
structure V6 where
  groups : List UInt16
  length_groups : groups.length = 8
  scope : Option Scope
deriving DecidableEq, Repr

namespace V6

/-- How many addresses without scope there are. -/
def count : Nat := 0x100000000000000000000000000000000

/-- The groups of a number below `count`, most significant first. -/
def groupsOfNat (n : Nat) : List UInt16 :=
  [7, 6, 5, 4, 3, 2, 1, 0].map fun i => UInt16.ofNat (n >>> (16 * i))

/-- The unscoped address of a number below `count`. -/
def ofNat (n : Nat) : V6 := ⟨groupsOfNat n, rfl, none⟩

/-- The number of zero groups at the front. -/
def leadingZeros : List UInt16 → Nat
  | [] => 0
  | g :: rest => if g = 0 then leadingZeros rest + 1 else 0

/-- Start and length of the first longest run of zero groups. -/
def longestRun : List UInt16 → Nat × Nat
  | [] => (0, 0)
  | g :: rest =>
    let here := leadingZeros (g :: rest)
    let (start, length) := longestRun rest
    if length ≤ here then (0, here) else (start + 1, length)

def groupChars (gs : List UInt16) : List Char :=
  joined ':' (gs.map fun g => hexadecimal g.toNat)

def addressChars (gs : List UInt16) : List Char :=
  let (start, length) := longestRun gs
  if length < 2 then groupChars gs
  else groupChars (gs.take start) ++ ':' :: ':' :: groupChars (gs.drop (start + length))

def chars (a : V6) : List Char :=
  match a.scope with
  | some s => addressChars a.groups ++ '%' :: s.chars
  | none => addressChars a.groups

def text (a : V6) : String := String.ofList a.chars

/-- A group: one to four hexadecimal digits. -/
def group? (cs : List Char) : Option UInt16 :=
  if 4 < cs.length then none else (readDigits 16 cs).map UInt16.ofNat

/-- Writes an IPv4 address in the last part as two groups. -/
def expandTail? (parts : List (List Char)) : Option (List (List Char)) :=
  match parts.getLast? with
  | some tail =>
    if tail.contains '.' then
      (V4.read? tail).map fun a =>
        parts.dropLast ++
          [hexadecimal (a.toNat / 0x10000), hexadecimal (a.toNat % 0x10000)]
    else some parts
  | none => none

/-- The parts on one side of a gap; an empty part is allowed as the only one. -/
def side? (parts : List (List Char)) (outermost : Option (List Char)) :
    Option (List (List Char)) :=
  if outermost = some [] then (if parts.length = 1 then some [] else none) else some parts

/-- The groups that the parts between colons denote. A gap is an empty part that is neither the
first nor the last; there is at most one, and it stands for at least one group. -/
def groupsOfParts? (parts : List (List Char)) : Option (List UInt16) :=
  let inside := (parts.drop 1).dropLast
  match inside.findIdx? (·.isEmpty) with
  | none => if parts.length = 8 then parts.mapM group? else none
  | some i =>
    if (inside.drop (i + 1)).any (·.isEmpty) then none
    else do
      let high ← side? (parts.take (i + 1)) parts.head?
      let low ← side? (parts.drop (i + 2)) parts.getLast?
      if high.length + low.length < 8 then
        let hs ← high.mapM group?
        let ls ← low.mapM group?
        return hs ++ List.replicate (8 - (high.length + low.length)) 0 ++ ls
      else none

/-- The groups that a text without scope denotes. -/
def readGroups? (cs : List Char) : Option (List UInt16) := do
  let parts := fields ':' cs
  if parts.length < 3 then none
  else
    let parts ← expandTail? parts
    if 9 < parts.length then none else groupsOfParts? parts

def ofGroups? (gs : List UInt16) (scope : Option Scope) : Option V6 :=
  if h : gs.length = 8 then some ⟨gs, h, scope⟩ else none

def read? (cs : List Char) : Option V6 := do
  let (address, scope) := cutAt '%' cs
  let scope ← match scope with
    | some s => (Scope.ofChars? s).map some
    | none => some none
  ofGroups? (← readGroups? address) scope

end V6

/-- An address of either family. -/
inductive Address where
  | v4 (a : V4)
  | v6 (a : V6)
deriving DecidableEq, Repr

namespace Address

def family : Address → Family
  | .v4 _ => .v4
  | .v6 _ => .v6

def chars : Address → List Char
  | .v4 a => a.chars
  | .v6 a => a.chars

def text (a : Address) : String := String.ofList a.chars

/-- The address that a text denotes, of the first family that can read it. -/
def read? (cs : List Char) : Option Address :=
  match V4.read? cs with
  | some a => some (.v4 a)
  | none => (V6.read? cs).map .v6

/-- The address of a number, of the first family that has it. -/
def ofInt? (n : Int) : Option Address :=
  if n < 0 then none
  else if n < V4.count then some (.v4 (.ofNat n.toNat))
  else if n < V6.count then some (.v6 (.ofNat n.toNat))
  else none

/-- The number that bytes spell, most significant first. -/
def bytesToNat (bs : List UInt8) : Nat :=
  bs.foldl (fun n b => n * 256 + b.toNat) 0

def ofBytes? (bs : List UInt8) : Option Address :=
  if bs.length = 4 then some (.v4 (.ofNat (bytesToNat bs)))
  else if bs.length = 16 then some (.v6 (.ofNat (bytesToNat bs)))
  else none

end Address

end EndpointUpgrade.Net
