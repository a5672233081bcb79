import Cadence.Binary64.Grid

/-!
Binary64 numbers and their arithmetic, over exact magnitudes.  Each operation
computes its result exactly on natural numbers and rounds it once, to nearest
with ties to even; a result from 2^1024 on is infinite.
-/

namespace Cadence

/-- A finite magnitude, counted in units of 2^-1074. -/
structure Magnitude where
  units : Nat
  onGrid : OnGrid units
deriving DecidableEq, Repr

/-- A binary64 number; there is one NaN. -/
inductive Binary64
  | nan
  | infinite (negative : Bool)
  | finite (negative : Bool) (magnitude : Magnitude)
deriving DecidableEq, Repr

namespace Magnitude

/-- The grid point `significand * 2^shift`. -/
def ofScaled (significand shift : Nat)
    (hsignificand : significand < 2 * hiddenBit) (hshift : shift ≤ maxShift) :
    Magnitude :=
  ⟨significand * Nat.pow 2 shift, onGrid_of_lt hsignificand hshift⟩

def zero : Magnitude := ofScaled 0 0 (by decide) (by decide)

instance : Inhabited Magnitude := ⟨zero⟩

/-- The exponent of the grid spacing around a magnitude. -/
def shift (magnitude : Magnitude) : Nat := magnitude.units.log2 - 52

/-- The integer of at most 53 bits that a magnitude holds `2^shift` of. -/
def significand (magnitude : Magnitude) : Nat :=
  magnitude.units / Nat.pow 2 magnitude.shift

def unitsPerOne : Nat := Nat.pow 2 1074

def wholePart (magnitude : Magnitude) : Nat := magnitude.units / unitsPerOne

end Magnitude

namespace Binary64

instance : Inhabited Binary64 := ⟨.nan⟩

/-- The binary64 number nearest to `numerator / denominator` units. -/
def ofUnitRatio (negative : Bool) (numerator denominator : Nat) : Binary64 :=
  let units := roundRatio numerator denominator
  if h : units < overflowUnits then
    .finite negative ⟨units, roundRatio_onGrid h⟩
  else
    .infinite negative

/-- The binary64 number nearest to a quotient of natural numbers. -/
def ofRatio (negative : Bool) (numerator denominator : Nat) : Binary64 :=
  ofUnitRatio negative (numerator * Magnitude.unitsPerOne) denominator

/-- The binary64 number nearest to a natural number. -/
def ofNat (n : Nat) : Binary64 := ofRatio false n 1

instance (n : Nat) : OfNat Binary64 n := ⟨ofNat n⟩

/-- The sign is the topmost of 64 bits. -/
def signBit : Nat := UInt64.size / 2

/-- Reads the interchange format: sign, eleven exponent bits, 52 fraction
bits. -/
def ofBits (bits : UInt64) : Binary64 :=
  let negative := decide (signBit ≤ bits.toNat)
  let exponent := bits.toNat / hiddenBit % 2048
  let fraction := bits.toNat % hiddenBit
  have hfraction : fraction < hiddenBit := Nat.mod_lt _ (by decide)
  have hexponent : exponent < 2048 := Nat.mod_lt _ (by omega)
  if hspecial : exponent = 2047 then
    if fraction = 0 then .infinite negative else .nan
  else if exponent = 0 then
    .finite negative (.ofScaled fraction 0 (by omega) (by decide))
  else
    .finite negative
      (.ofScaled (hiddenBit + fraction) (exponent - 1) (by omega)
        (by unfold maxShift; omega))

/-- Writes the interchange format; the NaN is the quiet one of payload zero. -/
def toBits : Binary64 → UInt64
  | .nan => 0x7ff8000000000000
  | .infinite negative =>
      (if negative then 0xfff0000000000000 else 0x7ff0000000000000)
  | .finite negative magnitude =>
      UInt64.ofNat ((if negative then signBit else 0) +
        (magnitude.shift * hiddenBit + magnitude.significand))

def isNaN : Binary64 → Bool
  | .nan => true
  | _ => false

def isFinite : Binary64 → Bool
  | .finite _ _ => true
  | _ => false

/-- The place of a number in the order of the extended line, in units; a NaN
has none. -/
def position? : Binary64 → Option Int
  | .nan => none
  | .infinite negative =>
      some (if negative then -(overflowUnits : Int) else overflowUnits)
  | .finite negative magnitude =>
      some (if negative then -(magnitude.units : Int) else magnitude.units)

/-- `a < b`; false as soon as one of them is a NaN. -/
def lt (a b : Binary64) : Bool :=
  match a.position?, b.position? with
  | some x, some y => decide (x < y)
  | _, _ => false

/-- `a ≤ b`; false as soon as one of them is a NaN. -/
def le (a b : Binary64) : Bool :=
  match a.position?, b.position? with
  | some x, some y => decide (x ≤ y)
  | _, _ => false

instance : LT Binary64 := ⟨fun a b => a.lt b = true⟩
instance : LE Binary64 := ⟨fun a b => a.le b = true⟩

instance (a b : Binary64) : Decidable (a < b) :=
  inferInstanceAs (Decidable (a.lt b = true))

instance (a b : Binary64) : Decidable (a ≤ b) :=
  inferInstanceAs (Decidable (a.le b = true))

/-- The larger of two numbers that are not NaN. -/
def max (a b : Binary64) : Binary64 := if a < b then b else a

def neg : Binary64 → Binary64
  | .nan => .nan
  | .infinite negative => .infinite (!negative)
  | .finite negative magnitude => .finite (!negative) magnitude

/-- Sums of opposite numbers are positive zero, the sum of two negative zeros
is negative zero. -/
def add : Binary64 → Binary64 → Binary64
  | .nan, _ => .nan
  | _, .nan => .nan
  | .infinite s, .infinite t => if s = t then .infinite s else .nan
  | .infinite s, .finite _ _ => .infinite s
  | .finite _ _, .infinite t => .infinite t
  | .finite s a, .finite t b =>
      if s = t then ofUnitRatio s (a.units + b.units) 1
      else if a.units = b.units then .finite false .zero
      else if b.units < a.units then ofUnitRatio s (a.units - b.units) 1
      else ofUnitRatio t (b.units - a.units) 1

def sub (a b : Binary64) : Binary64 := a.add b.neg

def mul : Binary64 → Binary64 → Binary64
  | .nan, _ => .nan
  | _, .nan => .nan
  | .infinite s, .infinite t => .infinite (s != t)
  | .infinite s, .finite t b =>
      if b.units = 0 then .nan else .infinite (s != t)
  | .finite s a, .infinite t =>
      if a.units = 0 then .nan else .infinite (s != t)
  | .finite s a, .finite t b =>
      ofUnitRatio (s != t) (a.units * b.units) Magnitude.unitsPerOne

def div : Binary64 → Binary64 → Binary64
  | .nan, _ => .nan
  | _, .nan => .nan
  | .infinite _, .infinite _ => .nan
  | .infinite s, .finite t _ => .infinite (s != t)
  | .finite s _, .infinite t => .finite (s != t) .zero
  | .finite s a, .finite t b =>
      if b.units = 0 then
        if a.units = 0 then .nan else .infinite (s != t)
      else
        ofUnitRatio (s != t) (a.units * Magnitude.unitsPerOne) b.units

instance : Neg Binary64 := ⟨neg⟩
instance : Add Binary64 := ⟨add⟩
instance : Sub Binary64 := ⟨sub⟩
instance : Mul Binary64 := ⟨mul⟩
instance : Div Binary64 := ⟨div⟩

/-- The largest whole number not above `a`. -/
def floor : Binary64 → Binary64
  | .finite negative magnitude =>
      let whole := magnitude.wholePart
      if negative && magnitude.units % Magnitude.unitsPerOne != 0 then
        ofRatio true (whole + 1) 1
      else
        ofRatio negative whole 1
  | a => a

/-- The nearest whole number, a half going away from zero. -/
def round : Binary64 → Binary64
  | .finite negative magnitude =>
      ofRatio negative
        ((2 * magnitude.units + Magnitude.unitsPerOne) /
          (2 * Magnitude.unitsPerOne)) 1
  | a => a

/-- The whole part, held between zero and `bound`; zero for a NaN. -/
def toNatUpTo (bound : Nat) : Binary64 → Nat
  | .nan => 0
  | .infinite negative => if negative then 0 else bound
  | .finite negative magnitude =>
      if negative then 0 else min magnitude.wholePart bound

end Binary64

end Cadence
