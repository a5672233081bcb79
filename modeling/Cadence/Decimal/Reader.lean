import Cadence.Binary64.Basic

/-!
Readers of decimal text: whole numbers of a bounded range and binary64 numbers.
Digits are the ten ASCII ones.
-/

namespace Cadence.Decimal

def digitsValue (digits : List Char) : Nat :=
  digits.foldl (fun value digit => 10 * value + (digit.toNat - '0'.toNat)) 0

/-- An optional sign in front; true when it is a minus. -/
def takeSign : List Char → Bool × List Char
  | '-' :: rest => (true, rest)
  | '+' :: rest => (false, rest)
  | text => (false, text)

/-- A whole number of at least one digit, with an optional sign. -/
def readInt? (text : List Char) : Option Int :=
  let (negative, digits) := takeSign text
  if digits.isEmpty || !digits.all Char.isDigit then none
  else
    let value : Int := digitsValue digits
    some (if negative then -value else value)

def readInt64? (text : List Char) : Option Int :=
  (readInt? text).filter fun value =>
    Int64.minValue.toInt ≤ value && value ≤ Int64.maxValue.toInt

/-- The number nearest to `coefficient * 10^exponent`.  Exponents that decide
the answer alone are not raised. -/
def ofScaled (negative : Bool) (coefficient : Nat) (exponent : Int) : Binary64 :=
  if coefficient = 0 then .finite negative .zero
  else if 400 < exponent then .infinite negative
  else if exponent + (Nat.repr coefficient).length < -400 then
    .finite negative .zero
  else
    Binary64.ofRatio negative (coefficient * Nat.pow 10 exponent.toNat)
      (Nat.pow 10 (-exponent).toNat)

/-- Digits with an optional point among or around them. -/
def takeMantissa? (text : List Char) : Option (List Char × Nat × List Char) :=
  let whole := text.takeWhile Char.isDigit
  match text.dropWhile Char.isDigit with
  | '.' :: rest =>
      let places := rest.takeWhile Char.isDigit
      if whole.isEmpty && places.isEmpty then none
      else some (whole ++ places, places.length, rest.dropWhile Char.isDigit)
  | rest => if whole.isEmpty then none else some (whole, 0, rest)

/-- An exponent mark with its whole number, or nothing. -/
def readExponent? : List Char → Option Int
  | [] => some 0
  | mark :: rest => if mark == 'e' || mark == 'E' then readInt? rest else none

/-- The names of numbers without digits, in any case. -/
def readSpecial? (negative : Bool) (text : List Char) : Option Binary64 :=
  match String.ofList (text.map Char.toLower) with
  | "inf" => some (.infinite negative)
  | "infinity" => some (.infinite negative)
  | "nan" => some .nan
  | _ => none

/-- A binary64 number: sign, then a name or digits with point and exponent. -/
def readBinary64? (text : List Char) : Option Binary64 :=
  let (negative, rest) := takeSign text
  match takeMantissa? rest with
  | none => readSpecial? negative rest
  | some (digits, places, tail) =>
      (readExponent? tail).map fun exponent =>
        ofScaled negative (digitsValue digits) (exponent - places)

end Cadence.Decimal
