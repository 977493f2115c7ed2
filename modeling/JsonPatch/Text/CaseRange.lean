/-! # Ranges of a case map

Alphabets store their letters so that a case map moves a whole run of code points, or every
second one of a run, by the same distance. -/

namespace JsonPatch.Text

/-- The code points `first`, `first + step`, … up to `last`, each moved by `shift`. -/
structure CaseRange where
  first : Nat
  last : Nat
  step : Nat
  shift : Int

namespace CaseRange

/-- Whether a code point is one of the moved ones. -/
def covers (r : CaseRange) (n : Nat) : Bool :=
  r.first ≤ n && n ≤ r.last && (n - r.first) % r.step == 0

/-- Whether one of the moved code points lies between two bounds. -/
def meets (r : CaseRange) (first last : Nat) : Bool :=
  let skipped := (max first r.first - r.first + (r.step - 1)) / r.step
  r.first + skipped * r.step ≤ min last r.last

end CaseRange

/-- The character that the first covering range moves `c` to, or `c` itself. -/
def shiftCase (ranges : List CaseRange) (c : Char) : Char :=
  match ranges.find? (·.covers c.toNat) with
  | some r => Char.ofNat ((c.toNat : Int) + r.shift).toNat
  | none => c

/-- The characters that the ranges move to `c`. -/
def shiftedTo (ranges : List CaseRange) (c : Char) : List Char :=
  ranges.filterMap fun r =>
    let n := ((c.toNat : Int) - r.shift).toNat
    if r.covers n then some (Char.ofNat n) else none

end JsonPatch.Text
