import EndpointUpgrade.Text.CaseTable

/-!
# Lower case

The full lower-casing of Unicode text. Each capital has one small letter, with two exceptions: a
dotted capital I becomes a small i followed by a combining dot, and a capital sigma becomes the
final form where a letter stands before it and none after it.
-/

namespace EndpointUpgrade.Text

/-- The small letter of a code point; every other code point is its own image. -/
def smallCode (c : Nat) : Nat :=
  (caseRuns.findSome? (·.image? c)).getD c

/-- The small letter of a character, the sigma and the dotted I excepted. -/
def smallChar (c : Char) : Char :=
  Char.ofNat (smallCode c.toNat)

/-- A mark that is passed over when one looks for the letter beside a sigma. -/
def isIgnorable (c : Char) : Bool :=
  inRanges ignorableRanges c.toNat

def isCased (c : Char) : Bool :=
  inRanges casedRanges c.toNat

/-- Behind any number of ignorable marks comes a letter that has case. -/
def beginsCased : List Char → Bool
  | [] => false
  | c :: rest => if isIgnorable c then beginsCased rest else isCased c

/-- The lower-case form of one character between the text before it, nearest character first,
and the text after it. -/
def lowerChar (before : List Char) (c : Char) (after : List Char) : List Char :=
  if c = 'Σ' then [if beginsCased before && !beginsCased after then 'ς' else 'σ']
  else if c = 'İ' then ['i', '\u0307']
  else [smallChar c]

/-- Lower case of a text that follows `before`, which is given nearest character first. -/
def lowerAfter (before : List Char) : List Char → List Char
  | [] => []
  | c :: after => lowerChar before c after ++ lowerAfter (c :: before) after

def lower (s : String) : String :=
  String.ofList (lowerAfter [] s.toList)

end EndpointUpgrade.Text
