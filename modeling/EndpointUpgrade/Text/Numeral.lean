/-!
# Numerals

Natural numbers and integers as digits of a base up to sixteen, and back. Letters of a base above
ten are written small and read in either case.
-/

namespace EndpointUpgrade.Text

def digitChar (d : Nat) : Char :=
  if d < 10 then Char.ofNat (48 + d) else Char.ofNat (87 + d)

def digitValue? (base : Nat) (c : Char) : Option Nat :=
  let d :=
    if '0' ≤ c ∧ c ≤ '9' then c.toNat - 48
    else if 'a' ≤ c ∧ c ≤ 'f' then c.toNat - 87
    else if 'A' ≤ c ∧ c ≤ 'F' then c.toNat - 55
    else base
  if d < base then some d else none

def isDigit (c : Char) : Bool := '0' ≤ c && c ≤ '9'

def isHexDigit (c : Char) : Bool :=
  isDigit c || ('a' ≤ c && c ≤ 'f') || ('A' ≤ c && c ≤ 'F')

/-- The digits of `n`, most significant first; zero has one digit. -/
def digits (base : Nat) (two_le : 2 ≤ base) (n : Nat) : List Char :=
  if n < base then [digitChar n]
  else digits base two_le (n / base) ++ [digitChar (n % base)]
termination_by n
decreasing_by exact Nat.div_lt_self (by omega) (by omega)

def decimal (n : Nat) : List Char := digits 10 (by decide) n

/-- Hexadecimal digits of a natural number, small letters. -/
def hexadecimal (n : Nat) : List Char := digits 16 (by decide) n

def integer (n : Int) : List Char :=
  if n < 0 then '-' :: decimal n.natAbs else decimal n.natAbs

/-- The greatest number of decimal digits with which an integer is written. -/
def longestDecimal : Nat := 4300

/-- An integer that is not too long to be written in decimal. -/
def isWritable (n : Int) : Bool := (decimal n.natAbs).length ≤ longestDecimal

/-- Extends the number `n` by further digits. -/
def readDigitsFrom (base : Nat) (n : Nat) : List Char → Option Nat
  | [] => some n
  | c :: rest =>
    match digitValue? base c with
    | some d => readDigitsFrom base (n * base + d) rest
    | none => none

/-- The number that a non-empty run of digits denotes. -/
def readDigits (base : Nat) : List Char → Option Nat
  | [] => none
  | cs => readDigitsFrom base 0 cs

def padLeft (width : Nat) (fill : Char) (cs : List Char) : List Char :=
  List.replicate (width - cs.length) fill ++ cs

def integerText (n : Int) : String := String.ofList (integer n)

def decimalText (n : Nat) : String := String.ofList (decimal n)

end EndpointUpgrade.Text
