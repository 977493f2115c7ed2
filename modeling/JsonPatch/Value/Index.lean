import JsonPatch.Fault

/-! # Array indexes

An index is written in decimal digits without leading zeros; one line feed may follow.  Keys of
arrays are such texts or non-negative integers.  `isIndexText` is the grammar, `parseIndex` reads
a key. -/

namespace JsonPatch.Value

/-- Whether a character is an ASCII digit. -/
def isIndexDigit (c : Char) : Bool :=
  '0' ≤ c && c ≤ '9'

/-- The grammar of indexes: a zero, or digits of which the first is no zero. -/
def isIndexText : List Char → Bool
  | [] => false
  | ['0'] => true
  | c :: rest => '1' ≤ c && c ≤ '9' && rest.all isIndexDigit

/-- The text without one line feed at its end. -/
def dropLineFeed (s : List Char) : List Char :=
  if s.getLast? = some '\n' then s.dropLast else s

/-- The number that decimal digits stand for. -/
def indexValue (digits : List Char) : Nat :=
  digits.foldl (fun n c => n * 10 + (c.toNat - '0'.toNat)) 0

/-- The greatest number of digits that are read. -/
def indexDigitLimit : Nat := 4300

/-- The index that a text stands for. -/
def indexOfText (s : String) : Except Fault Nat :=
  let digits := dropLineFeed s.toList
  if isIndexText digits then
    if digits.length ≤ indexDigitLimit then .ok (indexValue digits)
    else .error (.longNumber digits.length)
  else .error (.missingKey (.string s))

/-- The index that a key stands for: a text or an integer that is not negative. -/
def parseIndex : Value → Except Fault Nat
  | string s => indexOfText s
  | number (.int (.ofNat n)) => .ok n
  | key => .error (.missingKey key)

/-- The index that a key stands for, if it lies below a bound. -/
def indexBelow (bound : Nat) (key : Value) : Except Fault Nat :=
  match parseIndex key with
  | .ok i => if i < bound then .ok i else .error (.missingKey key)
  | .error f => .error f

end JsonPatch.Value
