import EndpointUpgrade.Text.Fields
import EndpointUpgrade.Text.Numeral

/-!
# Hardware addresses

A hardware address is read from six pairs of hexadecimal digits between equal separators, all
colons or all hyphens, and written with small digits and colons. A line break at the very end of
the text is accepted and kept.
-/

namespace EndpointUpgrade.Net

open Text

/-- A hardware address by its six octets, and whether a line break follows its text. -/
structure Mac where
  octets : List UInt8
  length_octets : octets.length = 6
  lineBreak : Bool
deriving DecidableEq, Repr

namespace Mac

def octetChars (b : UInt8) : List Char :=
  [digitChar (b.toNat / 16), digitChar (b.toNat % 16)]

/-- The canonical text of a hardware address. -/
def chars (m : Mac) : List Char :=
  joined ':' (m.octets.map octetChars) ++ (if m.lineBreak then ['\n'] else [])

def text (m : Mac) : String := String.ofList m.chars

def octet? : List Char → Option UInt8
  | [a, b] => do
    let high ← digitValue? 16 a
    let low ← digitValue? 16 b
    return UInt8.ofNat (high * 16 + low)
  | _ => none

/-- The address whose octets are the fields between the occurrences of a separator. -/
def readWith? (separator : Char) (cs : List Char) (lineBreak : Bool) : Option Mac := do
  let octets ← (fields separator cs).mapM octet?
  if h : octets.length = 6 then return ⟨octets, h, lineBreak⟩ else none

/-- The hardware address that a text denotes. The third character decides the separator. -/
def read? (cs : List Char) : Option Mac :=
  let lineBreak := cs.getLast? = some '\n'
  let body := if lineBreak then cs.dropLast else cs
  match (body.drop 2).head? with
  | some ':' => readWith? ':' body lineBreak
  | some '-' => readWith? '-' body lineBreak
  | _ => none

end Mac

/-- A text that is no hardware address. -/
structure InvalidMac where
  text : String
deriving DecidableEq, Repr

/-- The wording for a text that is no hardware address. -/
def InvalidMac.message (e : InvalidMac) : String :=
  "Invalid MAC address '" ++ e.text ++ "'"

/-- The hardware address that an optional text denotes. A missing and an empty text both mean that
there is none. -/
def normalizeMac (value : Option String) : Except InvalidMac (Option Mac) :=
  match value with
  | none => .ok none
  | some s =>
    if s = "" then .ok none
    else
      match Mac.read? s.toList with
      | some m => .ok (some m)
      | none => .error ⟨s⟩

end EndpointUpgrade.Net
