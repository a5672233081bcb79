import Cadence.Binary64.Basic

/-!
Decimal text with a fixed number of places.  The exact value is rounded, a tie
going to the even last digit.
-/

namespace Cadence.Decimal

/-- What is written for numbers that have no digits. -/
def specialText? : Binary64 → Option String
  | .nan => some "NaN"
  | .infinite negative => some (if negative then "-inf" else "inf")
  | .finite _ _ => none

/-- `n` in at least `width` digits. -/
def paddedDigits (width n : Nat) : String :=
  let digits := Nat.repr n
  String.ofList (List.replicate (width - digits.length) '0') ++ digits

/-- `scaled / 10^places` with all its places. -/
def placesText (places scaled : Nat) : String :=
  let whole := Nat.repr (scaled / Nat.pow 10 places)
  if places = 0 then whole
  else whole ++ "." ++ paddedDigits places (scaled % Nat.pow 10 places)

/-- A number with `places` digits behind the point; the sign of a negative
number stays when it rounds to zero. -/
def fixed (places : Nat) : Binary64 → String
  | .finite negative magnitude =>
      let scaled :=
        roundHalfEven (magnitude.units * Nat.pow 10 places) Magnitude.unitsPerOne
      (if negative then "-" else "") ++ placesText places scaled
  | special => (specialText? special).getD ""

end Cadence.Decimal
