import EndpointUpgrade.Text.Halves
import EndpointUpgrade.Text.Numeral
import EndpointUpgrade.Text.PrintTable

/-!
# Quoted text

The form in which messages show a text: between single quotes, or between double quotes when it
holds a single quote and no double quote. A backslash introduces the escapes of the delimiting
quote, of line breaks and tabs, and of all characters without a visible form.
-/

namespace EndpointUpgrade.Text

/-- A character that stands for itself in quoted text. -/
def isPrintable (c : Char) : Bool :=
  if c.toNat < 0x80 then 0x20 ≤ c.toNat && c.toNat < 0x7F
  else !inRanges hiddenRanges c.toNat

/-- A hexadecimal escape as short as the code point admits: two, four or eight digits. -/
def hexEscape (c : Char) : List Char :=
  if c.toNat < 0x100 then '\\' :: 'x' :: padLeft 2 '0' (hexadecimal c.toNat)
  else if c.toNat < 0x10000 then '\\' :: 'u' :: padLeft 4 '0' (hexadecimal c.toNat)
  else '\\' :: 'U' :: padLeft 8 '0' (hexadecimal c.toNat)

def quotedChar (quote c : Char) : List Char :=
  if c = quote ∨ c = '\\' then ['\\', c]
  else if c = '\n' then ['\\', 'n']
  else if c = '\r' then ['\\', 'r']
  else if c = '\t' then ['\\', 't']
  else if isPrintable c then [c]
  else hexEscape c

/-- The delimiter that a text is quoted with. -/
def delimiter (cs : List Char) : Char :=
  if cs.contains '\'' && !cs.contains '"' then '"' else '\''

def quoted (s : String) : String :=
  let cs := s.toList
  let quote := delimiter cs
  String.ofList (quote :: cs.flatMap (quotedChar quote) ++ [quote])

/-- The quoted form of code points; halves of characters are escaped. -/
def quotedPoints (points : List Nat) : String :=
  let quote := delimiter (points.filterMap pointChar?)
  let pointChars (n : Nat) : List Char :=
    match pointChar? n with
    | some c => quotedChar quote c
    | none => '\\' :: 'u' :: hexadecimal n
  String.ofList (quote :: points.flatMap pointChars ++ [quote])

/-- The quoted form of bytes, marked by a leading `b`; bytes beyond ASCII are escaped. -/
def quotedBytes (bytes : List UInt8) : String :=
  let cs := bytes.map fun b => Char.ofNat b.toNat
  let quote := delimiter cs
  let byteChar (c : Char) : List Char :=
    if c.toNat < 0x80 then quotedChar quote c else hexEscape c
  String.ofList ('b' :: quote :: cs.flatMap byteChar ++ [quote])

end EndpointUpgrade.Text
