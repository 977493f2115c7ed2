import JsonPatch.Number.Double

/-! # The shortest text of a double

`Double.shortest` finds the fewest decimal digits that read back as the same double, and of the
numbers with that many digits the nearest one.  `Double.render` writes them: positional when the
decimal exponent is at least -4 and below 16, always with a fractional part, and with an
exponent of at least two digits otherwise. -/

namespace JsonPatch.Double

/-- The number of digits before the decimal point of a positive number of units; for a number
below one, minus the number of zeros after the point. -/
def decimalPoint (units : Nat) : Int :=
  digitCount (units * Nat.pow 10 400 / Nat.pow 2 unitBits) - 400

/-- Of the two decimal numbers `c * 10 ^ place` and `(c + 1) * 10 ^ place` around the magnitude,
the ones that read back as it, the nearer one first and, in a tie, the even one. -/
def neighbours (units : Nat) (place : Int) : List Nat :=
  let num := if place < 0 then units * Nat.pow 10 (-place).toNat else units
  let den := Nat.pow 2 unitBits * (if place < 0 then 1 else Nat.pow 10 place.toNat)
  let low := num / den
  let near := roundQuotient num den
  let far := if near = low then low + 1 else low
  [near, far].filter fun c => ofDecimal false c place == finite false units

/-- Digits and exponent of the shortest decimal number that reads back as the magnitude. -/
def shortest (units : Nat) : Nat × Int :=
  let point := decimalPoint units
  let places := (List.range 17).map fun (n : Nat) => point - (n + 1)
  match places.findSome? fun place => (neighbours units place).head?.map (·, place) with
  | some found => found
  | none => (0, 0)

/-- The digits of a number without the zeros at its end, and how many zeros these were. -/
def trimZeros (digits : List Char) : List Char × Nat :=
  let kept := (digits.reverse.dropWhile (· == '0')).reverse
  (kept, digits.length - kept.length)

/-- The exponent mark, the sign and at least two digits. -/
def renderExponent (e : Int) : List Char :=
  let digits := Nat.toDigits 10 e.natAbs
  'e' :: (if e < 0 then '-' else '+') :: (if digits.length < 2 then '0' :: digits else digits)

/-- Digits with the decimal point after the first `point` of them. -/
def renderDigits (digits : List Char) (point : Int) : List Char :=
  if -4 < point ∧ point ≤ 16 then
    if point ≤ 0 then ['0', '.'] ++ List.replicate (-point).toNat '0' ++ digits
    else
      let whole := digits.take point.toNat
      let fraction := digits.drop point.toNat
      whole ++ List.replicate (point.toNat - whole.length) '0' ++ '.' ::
        (if fraction.isEmpty then ['0'] else fraction)
  else
    match digits with
    | [] => []
    | d :: rest => d :: (if rest.isEmpty then [] else '.' :: rest) ++ renderExponent (point - 1)

/-- The text of a finite magnitude. -/
def renderUnits (units : Nat) : List Char :=
  if units = 0 then ['0', '.', '0']
  else
    let (n, place) := shortest units
    let all := Nat.toDigits 10 n
    renderDigits (trimZeros all).1 (all.length + place)

/-- The text of a double, with `nan` and `inf` for the values that are not finite. -/
def render : Double → String
  | nan => "nan"
  | infinity true => "-inf"
  | infinity false => "inf"
  | finite true units => String.ofList ('-' :: renderUnits units)
  | finite false units => String.ofList (renderUnits units)

end JsonPatch.Double
