import Cadence.Decimal.Fixed

/-!
The shortest decimal text that reads back as the same binary64 number.  A
decimal is accepted when it lies in the interval of reals that round to the
number; the ends belong to it when the significand is even.  The first digit
count with an accepted neighbour wins, of two accepted neighbours the nearer.
-/

namespace Cadence.Decimal

/-- The decimal `coefficient * 10^exponent`. -/
structure Scaled where
  coefficient : Nat
  exponent : Int
deriving DecidableEq, Repr

/-- The same decimal without zeros at the end of its coefficient. -/
def Scaled.trim (decimal : Scaled) : Scaled :=
  let digits := Nat.repr decimal.coefficient
  let zeros := (digits.toList.reverse.takeWhile (· == '0')).length
  if decimal.coefficient = 0 then ⟨0, 0⟩
  else ⟨decimal.coefficient / Nat.pow 10 zeros, decimal.exponent + zeros⟩

/-- The reals that round to a magnitude, in quarters of its unit. -/
structure RoundingInterval where
  low : Nat
  high : Nat
  closed : Bool

/-- Half a spacing on either side, except below a power of two, where the
spacing is half as wide. -/
def roundingInterval (magnitude : Magnitude) : RoundingInterval :=
  let spacing := Nat.pow 2 magnitude.shift
  let below :=
    if magnitude.significand = hiddenBit ∧ 0 < magnitude.shift then spacing
    else 2 * spacing
  { low := 4 * magnitude.units - below
    high := 4 * magnitude.units + 2 * spacing
    closed := magnitude.significand % 2 == 0 }

/-- A decimal in quarters of a unit, as a quotient. -/
def Scaled.quarterUnits (decimal : Scaled) : Nat × Nat :=
  (decimal.coefficient * Nat.pow 10 decimal.exponent.toNat *
      (4 * Magnitude.unitsPerOne),
    Nat.pow 10 (-decimal.exponent).toNat)

def RoundingInterval.accepts (interval : RoundingInterval) (decimal : Scaled) :
    Bool :=
  let (numerator, denominator) := decimal.quarterUnits
  let low := interval.low * denominator
  let high := interval.high * denominator
  if interval.closed then low ≤ numerator && numerator ≤ high
  else low < numerator && numerator < high

/-- The exponent `k` with `10^(k-1) ≤ value < 10^k`. -/
def leadingExponent (magnitude : Magnitude) : Int :=
  let raised := magnitude.units * Nat.pow 10 400 / Magnitude.unitsPerOne
  (Nat.repr raised).length - 400

/-- The accepted neighbour of `magnitude` on the grid of `10^exponent`; the
nearer of two, and the upper one of two that are equally near. -/
def neighbour? (magnitude : Magnitude) (exponent : Int) : Option Scaled :=
  let interval := roundingInterval magnitude
  let scale := Nat.pow 10 (-exponent).toNat
  let cell := Magnitude.unitsPerOne * Nat.pow 10 exponent.toNat
  let lower := magnitude.units * scale / cell
  let rest := magnitude.units * scale % cell
  let below : Scaled := ⟨lower, exponent⟩
  let above : Scaled := ⟨lower + 1, exponent⟩
  match interval.accepts below, interval.accepts above with
  | true, true => some (if 2 * rest < cell then below else above)
  | true, false => some below
  | false, true => some above
  | false, false => none

/-- The shortest decimal of a magnitude; seventeen digits always suffice. -/
def shortest (magnitude : Magnitude) : Scaled :=
  if magnitude.units = 0 then ⟨0, 0⟩
  else
    let leading := leadingExponent magnitude
    let candidates := (List.range 17).map fun count =>
      neighbour? magnitude (leading - (count + 1 : Nat))
    ((candidates.findSome? id).getD ⟨0, 0⟩).trim

/-- A decimal without exponent mark. -/
def Scaled.positional (decimal : Scaled) : String :=
  placesText (-decimal.exponent).toNat
    (decimal.coefficient * Nat.pow 10 decimal.exponent.toNat)

/-- A decimal with one digit before the point and an exponent mark. -/
def Scaled.scientific (decimal : Scaled) : String :=
  let digits := Nat.repr decimal.coefficient
  let tail := String.ofList (digits.toList.drop 1)
  let mantissa := String.ofList (digits.toList.take 1) ++
    (if tail.isEmpty then "" else "." ++ tail)
  mantissa ++ "e" ++ toString (decimal.exponent + (digits.length - 1 : Nat))

private def signText (negative : Bool) : String := if negative then "-" else ""

/-- The shortest text of a number, never with an exponent. -/
def plain : Binary64 → String
  | .finite negative magnitude =>
      signText negative ++ (shortest magnitude).positional
  | special => (specialText? special).getD ""

/-- The shortest text that shows the number to be a fraction: whole numbers
keep one place, and magnitudes from `10^16` on or below `10^-4` have an
exponent. -/
def fractional : Binary64 → String
  | .finite negative magnitude =>
      let decimal := shortest magnitude
      let digits := (Nat.repr decimal.coefficient).length
      let leading := decimal.exponent + digits
      let text :=
        if decimal.coefficient ≠ 0 ∧ (16 < leading ∨ leading < -3) then
          decimal.scientific
        else if 0 ≤ decimal.exponent then decimal.positional ++ ".0"
        else decimal.positional
      signText negative ++ text
  | special => (specialText? special).getD ""

end Cadence.Decimal
