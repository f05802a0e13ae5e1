/-!
# Halves of characters

A character beyond the first 65536 code points can be written as two code points, its halves. Halves
that stand together make one character; one that stands alone makes none.
-/

namespace EndpointUpgrade.Text

def isHighHalf (n : Nat) : Bool := 0xD800 ≤ n && n < 0xDC00

def isLowHalf (n : Nat) : Bool := 0xDC00 ≤ n && n < 0xE000

/-- The code point of the character with two given halves. -/
def wholeOf (high low : Nat) : Nat := 0x10000 + (high - 0xD800) * 0x400 + (low - 0xDC00)

/-- Puts a code point behind others, of which the last one comes first. -/
def pushPoint (n : Nat) : List Nat → List Nat
  | high :: before =>
    if isHighHalf high && isLowHalf n then wholeOf high n :: before else n :: high :: before
  | [] => [n]

def pointChar? (n : Nat) : Option Char :=
  if h : n.isValidChar then some (.ofNatAux n h) else none

/-- The text of code points, if none of them is a half. -/
def pointText? (points : List Nat) : Option String :=
  (points.mapM pointChar?).map String.ofList

/-- A text, or the code points of one with halves that stand alone. -/
inductive RawText where
  | whole (s : String)
  | torn (points : List Nat)
deriving DecidableEq, Repr

/-- What is shown for a code point where only characters can stand: a half leaves a mark for each of
its three bytes. -/
def lossyChars (n : Nat) : List Char :=
  match pointChar? n with
  | some c => [c]
  | none => ['\uFFFD', '\uFFFD', '\uFFFD']

/-- A text in characters, which loses the halves that stand alone. -/
def RawText.lossy : RawText → String
  | .whole s => s
  | .torn points => String.ofList (points.flatMap lossyChars)

end EndpointUpgrade.Text
