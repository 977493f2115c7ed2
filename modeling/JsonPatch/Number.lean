import JsonPatch.Number.Double
import JsonPatch.Number.Shortest

/-! # Numbers

A number is an integer of any size or a double.  Comparison is by exact mathematical value, so
integers beyond the precision of doubles are still told apart; `nan` is neither equal to nor
ordered with anything. -/

namespace JsonPatch

/-- An integer of any size or a double. -/
inductive Number where
  | int (n : Int)
  | double (d : Double)
deriving DecidableEq, Repr, Inhabited

namespace Number

/-- Whether the number is `nan`. -/
def isNan : Number → Bool
  | double .nan => true
  | _ => false

/-- Minus one, zero or one for negative infinity, a finite number and positive infinity. -/
def rank : Number → Int
  | int _ => 0
  | double d => d.rank

/-- The value of a finite number in units of `2 ^ -1074`. -/
def signedUnits : Number → Int
  | int n => n * (Nat.pow 2 Double.unitBits : Nat)
  | double d => d.signedUnits

/-- Equality of exact values. -/
def eq (x y : Number) : Bool :=
  !x.isNan && !y.isNan && x.rank == y.rank && x.signedUnits == y.signedUnits

/-- Two numbers are equal if neither is `nan` and they have the same value: the same infinity, or
the same number of units. -/
theorem eq_iff {x y : Number} : x.eq y = true ↔
    x.isNan = false ∧ y.isNan = false ∧ x.rank = y.rank ∧ x.signedUnits = y.signedUnits := by
  rw [eq]
  simp only [Bool.and_eq_true, Bool.not_eq_true', beq_iff_eq, and_assoc]

/-- The order of exact values. -/
def lt (x y : Number) : Bool :=
  !x.isNan && !y.isNan &&
    (x.rank < y.rank || (x.rank == y.rank && x.signedUnits < y.signedUnits))

/-- Whether the number is different from zero; `nan` is. -/
def isNonzero : Number → Bool
  | int n => n != 0
  | double d => d.isNonzero

/-- Whether the number is an even integer. -/
def isEven : Number → Bool
  | int n => n % 2 == 0
  | double d => d.isEven

/-- The text of a number; `nan` and infinities are written as words. -/
def render : Number → String
  | int n => toString n
  | double d => d.render

end Number
end JsonPatch
