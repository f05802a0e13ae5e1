import EndpointUpgrade.Decimal.Binary64
import EndpointUpgrade.Text.Numeral

/-!
# Shortest decimals

The text of a floating-point number has the fewest significant digits that read back as the same
number, and among texts of that length it is the nearest; of two that are equally near it is the one
with the even last digit. Numbers from `0.0001` up to below `10 ^ 16` are written with a decimal
point, all others with an exponent of at least two digits.
-/

namespace EndpointUpgrade.Decimal

open EndpointUpgrade.Text

/-- The least `k` with `num / den < 10 ^ k`, for a ratio below one; the search stops at `fuel`. -/
def smallMagnitude (num den : Nat) : Nat → Int → Int
  | 0, k => k
  | fuel + 1, k => if den ≤ num * 10 then k else smallMagnitude (num * 10) den fuel (k - 1)

/-- The least `k` with `num / den < 10 ^ k`. -/
def magnitude (num den : Nat) : Int :=
  if den ≤ num then Binary64.decimalLength (num / den) else smallMagnitude num den 400 0

/-- The point of the decimal grid `10 ^ exponent` that is nearest to `num / den` and still reads
back as `x`, if either neighbour does. Half-way between the two the even one is nearer. -/
def readsBackOnGrid (x : Binary64) (num den : Nat) (exponent : Int) : Option Nat :=
  let (n, d) :=
    if 0 ≤ exponent then (num, den * Nat.pow 10 exponent.toNat)
    else (num * Nat.pow 10 (-exponent).toNat, den)
  let low := n / d
  let lowReads := Binary64.ofDecimal false low exponent = x
  let highReads := Binary64.ofDecimal false (low + 1) exponent = x
  let lowIsNearer := 2 * (n % d) < d ∨ 2 * (n % d) = d ∧ low % 2 = 0
  if lowReads ∧ (¬ highReads ∨ lowIsNearer) then some low
  else if highReads then some (low + 1)
  else none

/-- Significant digits of a positive finite number and the place of its point: the number reads
as `0.digits * 10 ^ place`. Seventeen digits always suffice. -/
def shortestFrom (x : Binary64) (num den : Nat) (place : Int) : Nat → Nat → List Char × Int
  | 0, _ => (decimal (num / den), place)
  | fuel + 1, count =>
    match readsBackOnGrid x num den (place - count) with
    | some d =>
      let ds := decimal d
      (((ds.reverse.dropWhile (· = '0')).reverse), place + (ds.length - count : Int))
    | none => shortestFrom x num den place fuel (count + 1)

/-- Decimal layout of significant digits whose point stands at `place`. -/
def layOut (ds : List Char) (place : Int) : List Char :=
  if -4 < place ∧ place ≤ 16 then
    if place ≤ 0 then '0' :: '.' :: List.replicate (-place).toNat '0' ++ ds
    else
      let whole := ds.take place.toNat
      let fraction := ds.drop place.toNat
      whole ++ List.replicate (place.toNat - whole.length) '0' ++
        '.' :: (if fraction.isEmpty then ['0'] else fraction)
  else
    let exponent := place - 1
    let mantissa :=
      match ds with
      | [] => []
      | [d] => [d]
      | d :: rest => d :: '.' :: rest
    mantissa ++ 'e' :: (if exponent < 0 then '-' else '+') ::
      padLeft 2 '0' (decimal exponent.natAbs)

def Binary64.text : Binary64 → String
  | .nan => "nan"
  | .infinite negative => if negative then "-inf" else "inf"
  | .finite negative c e =>
    let sign := if negative then ['-'] else []
    if c = 0 then String.ofList (sign ++ ['0', '.', '0'])
    else
      let (num, den) := Binary64.ratio c e
      let (ds, place) := shortestFrom (.finite false c e) num den (magnitude num den) 17 1
      String.ofList (sign ++ layOut ds place)

end EndpointUpgrade.Decimal
