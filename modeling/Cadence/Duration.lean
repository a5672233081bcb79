import Cadence.Decimal.Fixed

/-!
Durations and instants.  All of them are natural numbers of nanoseconds; an
instant counts from the origin of the clock that gave it.
-/

namespace Cadence.Duration

def perSecond : Nat := 1000000000

def ofMillis (millis : Nat) : Nat := millis * 1000000

/-- The time from `earlier` to `later`, zero if they are out of order. -/
def since (later earlier : Nat) : Nat := later - earlier

/-- Seconds as a binary64 number: whole seconds plus the rest, each rounded. -/
def toSeconds (duration : Nat) : Binary64 :=
  Binary64.ofNat (duration / perSecond) +
    Binary64.ofNat (duration % perSecond) / Binary64.ofNat perSecond

/-- The nearest whole number of nanoseconds to a finite number of seconds, a
tie to the even one; zero for all other numbers. -/
def ofSeconds : Binary64 → Nat
  | .finite false magnitude =>
      roundHalfEven (magnitude.units * perSecond) Magnitude.unitsPerOne
  | _ => 0

/-- The longest duration that an interval in milliseconds can give. -/
def longest : Nat := UInt64.size - 1

/-- The nearest whole number of nanoseconds to a positive finite number of
milliseconds; zero for all other numbers. -/
def ofMillisRounded (millis : Binary64) : Nat :=
  if millis.isFinite && Binary64.lt 0 millis then
    (millis * Binary64.ofNat 1000000).round.toNatUpTo longest
  else 0

/-- `whole` units and `rest / 10^places` of one, without zeros at the end. -/
private def unitText (whole rest places : Nat) (unit : String) : String :=
  let digits := (Decimal.paddedDigits places rest).toList
  let kept := (digits.reverse.dropWhile (· == '0')).reverse
  let fraction := if rest = 0 then "" else "." ++ String.ofList kept
  Nat.repr whole ++ fraction ++ unit

/-- A duration in the largest of `s`, `ms`, `µs` and `ns` that it fills. -/
def text (duration : Nat) : String :=
  if perSecond ≤ duration then
    unitText (duration / perSecond) (duration % perSecond) 9 "s"
  else if 1000000 ≤ duration then
    unitText (duration / 1000000) (duration % 1000000) 6 "ms"
  else if 1000 ≤ duration then
    unitText (duration / 1000) (duration % 1000) 3 "µs"
  else
    unitText duration 0 0 "ns"

end Cadence.Duration
