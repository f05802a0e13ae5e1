/-!
# Binary floating-point numbers of 64 bits

A number is a sign, a coefficient below `2 ^ 53` and a power of two, or an infinity, or the single
not-a-number. Ratios of naturals are rounded to the nearest such number, and of two equally near
ones to that with the even coefficient. All arithmetic is exact.
-/

namespace EndpointUpgrade.Decimal

/-- A binary floating-point number. The coefficient of a finite one is at least `2 ^ 52` unless the
exponent is the least one, -1074. -/
inductive Binary64 where
  | finite (negative : Bool) (coefficient : Nat) (exponent : Int)
  | infinite (negative : Bool)
  | nan
deriving DecidableEq, Repr, Inhabited

namespace Binary64

def zero (negative : Bool) : Binary64 := .finite negative 0 (-1074)

/-- Numerator and denominator of `num / den` measured in units of `2 ^ exponent`. -/
def inUnits (num den : Nat) (exponent : Int) : Nat × Nat :=
  if 0 ≤ exponent then (num, den * Nat.pow 2 exponent.toNat)
  else (num * Nat.pow 2 (-exponent).toNat, den)

/-- The natural number nearest to `num / den`, the even one of two equally near. -/
def nearest (num den : Nat) : Nat :=
  let q := num / den
  let r := num % den
  if 2 * r < den then q
  else if den < 2 * r then q + 1
  else if q % 2 = 0 then q else q + 1

/-- The least exponent at which the whole part of `num / den` has at most 53 bits, and not below
-1074. -/
def scale (num den : Nat) : Int :=
  let guess : Int := (num.log2 : Int) - (den.log2 : Int) - 52
  let (n, d) := inUnits num den guess
  let exact := if n / d < Nat.pow 2 52 then guess - 1 else guess
  max exact (-1074)

/-- The number nearest to a ratio of naturals. -/
def ofRatio (negative : Bool) (num den : Nat) : Binary64 :=
  if num = 0 ∨ den = 0 then zero negative
  else
    let e := scale num den
    let (n, d) := inUnits num den e
    let c := nearest n d
    let (c, e) := if c = Nat.pow 2 53 then (Nat.pow 2 52, e + 1) else (c, e)
    if 971 < e then .infinite negative else .finite negative c e

/-- Length of the decimal numeral of `n`, bounded by the fuel. -/
def decimalLength (n : Nat) : Nat :=
  (Nat.toDigits 10 n).length

/-- The number nearest to `digits * 10 ^ exponent`. Ratios that are far outside the range are
settled by their length, so that no large power is computed for them. -/
def ofDecimal (negative : Bool) (digits : Nat) (exponent : Int) : Binary64 :=
  let size : Int := decimalLength digits + exponent
  if digits = 0 ∨ size < -330 then zero negative
  else if 310 < size then .infinite negative
  else if 0 ≤ exponent then ofRatio negative (digits * Nat.pow 10 exponent.toNat) 1
  else ofRatio negative digits (Nat.pow 10 (-exponent).toNat)

def toInt? : Binary64 → Option Int
  | .finite negative c e =>
    let magnitude? : Option Nat :=
      if 0 ≤ e then some (c * Nat.pow 2 e.toNat)
      else if c % Nat.pow 2 (-e).toNat = 0 then some (c / Nat.pow 2 (-e).toNat)
      else none
    magnitude?.map fun (n : Nat) => if negative then -(n : Int) else (n : Int)
  | _ => none

/-- A number that is neither infinite nor undefined. -/
def isFinite : Binary64 → Bool
  | .finite .. => true
  | _ => false

/-- The number of opposite sign. -/
def negate : Binary64 → Binary64
  | .finite negative c e => .finite (!negative) c e
  | .infinite negative => .infinite (!negative)
  | .nan => .nan

/-- Numerator and denominator of the magnitude of a finite number. -/
def ratio (c : Nat) (e : Int) : Nat × Nat :=
  if 0 ≤ e then (c * Nat.pow 2 e.toNat, 1) else (c, Nat.pow 2 (-e).toNat)

end Binary64

end EndpointUpgrade.Decimal
