/-! # Binary floating-point numbers

A finite double is a sign and a magnitude that is a whole number of `2 ^ -1074`, the least
positive double.  With that unit two doubles, or a double and an integer, are compared by
comparing integers, so every comparison is exact.

* `Double.ofRatio` rounds a quotient to the nearest double, a tie to the even neighbour.
* `Double.ofDecimal` reads `digits * 10 ^ exponent`.
* `Double.add` is the rounded sum. -/

namespace JsonPatch

/-- The quotient rounded to the nearest integer, a tie to the even one. -/
def roundQuotient (num den : Nat) : Nat :=
  let q := num / den
  let rest := 2 * (num % den)
  if rest < den then q
  else if den < rest then q + 1
  else if q % 2 = 0 then q else q + 1

/-- The number of decimal digits of a number; one for zero. -/
def digitCount (n : Nat) : Nat :=
  (Nat.toDigits 10 n).length

/-- A number in the IEEE double format.  The two zeros are different values of the type. -/
inductive Double where
  /-- The value that is no number and equals nothing. -/
  | nan
  /-- One of the two infinities. -/
  | infinity (negative : Bool)
  /-- A magnitude of `units` times `2 ^ -1074`. -/
  | finite (negative : Bool) (units : Nat)
deriving DecidableEq, Repr, Inhabited

namespace Double

/-- The exponent of the unit: there are `2 ^ unitBits` units in one. -/
def unitBits : Nat := 1074

/-- The number of units of the least magnitude that is out of range. -/
def overflow : Nat := Nat.pow 2 (1024 + unitBits)

/-- Keep 53 significant bits of `num / den` units, rounding to nearest and ties to even. -/
def roundUnits (num den : Nat) : Nat :=
  let extra := (num / den).log2 + 1 - 53
  roundQuotient num (den * Nat.pow 2 extra) * Nat.pow 2 extra

/-- The double nearest to `num / den`; too large a magnitude gives an infinity. -/
def ofRatio (negative : Bool) (num den : Nat) : Double :=
  let units := roundUnits (num * Nat.pow 2 unitBits) den
  if overflow ≤ units then infinity negative else finite negative units

/-- The double nearest to `digits * 10 ^ exponent`. -/
def ofDecimal (negative : Bool) (digits : Nat) (exponent : Int) : Double :=
  if digits = 0 then finite negative 0
  else
    let size := digitCount digits + exponent
    if 400 < size then infinity negative
    else if size < -400 then finite negative 0
    else if 0 ≤ exponent then ofRatio negative (digits * Nat.pow 10 exponent.toNat) 1
    else ofRatio negative digits (Nat.pow 10 (-exponent).toNat)

/-- The double nearest to an integer. -/
def ofInt (n : Int) : Double :=
  ofRatio (n < 0) n.natAbs 1

/-- Whether the value is a number different from zero, or no number at all. -/
def isNonzero : Double → Bool
  | finite _ units => units != 0
  | _ => true

/-- The signed number of units; infinities and `nan` count none. -/
def signedUnits : Double → Int
  | finite true units => -units
  | finite false units => units
  | _ => 0

/-- Minus one for negative infinity, one for positive infinity, and zero in between. -/
def rank : Double → Int
  | infinity true => -1
  | infinity false => 1
  | _ => 0

/-- The double nearest to a signed number of units; `zeroNegative` is the sign of a zero sum. -/
def ofSignedUnits (zeroNegative : Bool) (n : Int) : Double :=
  let units := roundUnits n.natAbs 1
  let negative := if n = 0 then zeroNegative else n < 0
  if overflow ≤ units then infinity negative else finite negative units

/-- The rounded sum. -/
def add : Double → Double → Double
  | nan, _ => nan
  | _, nan => nan
  | infinity s, infinity t => if s = t then infinity s else nan
  | infinity s, finite .. => infinity s
  | finite .., infinity t => infinity t
  | x@(finite s _), y@(finite t _) => ofSignedUnits (s && t) (x.signedUnits + y.signedUnits)

/-- Whether the value is an even integer. -/
def isEven : Double → Bool
  | finite _ units => units % Nat.pow 2 (unitBits + 1) == 0
  | _ => false

end Double
end JsonPatch
