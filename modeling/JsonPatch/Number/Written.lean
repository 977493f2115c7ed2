import JsonPatch.Number.Double
import JsonPatch.Text.Blank
import JsonPatch.Text.Digit

/-! # Numbers in free text

`Double.ofText?` reads the number that a text stands for: a decimal number with an optional sign,
fraction and exponent, or one of the words for infinity and `nan` in any case.  There may be
white space around it, digits may be those of any script, and a low line may stand between two
digits.  `Double.integer?` reads an integer in the same way. -/

namespace JsonPatch.Double

/-- The ASCII form of a character: a digit for a digit of any script, a space for white space
beyond ASCII. -/
def asciiForm (c : Char) : Char :=
  if c.val < 0x7f then c
  else if Text.isBlank c then ' '
  else
    match Text.digitValue? c with
    | some d => Char.ofNat ('0'.toNat + d)
    | none => c

/-- Leave out the low lines; each must stand between two digits. -/
def dropLowLines (previous : Option Char) : List Char → Option (List Char)
  | [] => some []
  | '_' :: rest =>
    if previous.any Text.isAsciiDigit && rest.head?.any Text.isAsciiDigit then
      dropLowLines (some '_') rest
    else none
  | c :: rest => (dropLowLines (some c) rest).map (c :: ·)

/-- The number that digits stand for. -/
def digitsValue (digits : List Char) : Nat :=
  digits.foldl (fun n c => n * 10 + (c.toNat - '0'.toNat)) 0

/-- The sign at the start of a text, and the rest. -/
def takeSign : List Char → Bool × List Char
  | '-' :: rest => (true, rest)
  | '+' :: rest => (false, rest)
  | s => (false, s)

/-- The exponent that a text stands for: nothing, or a letter, a sign and digits. -/
def exponentOf? : List Char → Option Int
  | [] => some 0
  | c :: rest =>
    let (negative, digits) := takeSign rest
    if (c == 'e' || c == 'E') && !digits.isEmpty && digits.all Text.isAsciiDigit then
      some (if negative then -(digitsValue digits : Int) else digitsValue digits)
    else none

/-- The digits after a point, if there is one, and the rest. -/
def takeFraction : List Char → List Char × List Char
  | '.' :: rest => rest.span Text.isAsciiDigit
  | s => ([], s)

/-- The number that a text without a sign stands for. -/
def unsigned? (negative : Bool) (s : List Char) : Option Double :=
  let word := s.map Char.toLower
  if word = "inf".toList ∨ word = "infinity".toList then some (infinity negative)
  else if word = "nan".toList then some nan
  else
    let (whole, rest) := s.span Text.isAsciiDigit
    let (fraction, rest) := takeFraction rest
    if whole.isEmpty && fraction.isEmpty then none
    else
      (exponentOf? rest).map fun e =>
        ofDecimal negative (digitsValue (whole ++ fraction)) (e - fraction.length)

/-- The sign of a number in a text and what follows it, without white space and low lines. -/
def signAndRest? (text : String) : Option (Bool × List Char) :=
  let s := text.toList.map asciiForm
  let s := ((s.dropWhile Text.isAsciiBlank).reverse.dropWhile Text.isAsciiBlank).reverse
  (dropLowLines none s).map takeSign

/-- The double that a text stands for. -/
def ofText? (text : String) : Option Double :=
  (signAndRest? text).bind fun (negative, rest) => unsigned? negative rest

/-- The integer that a text stands for. -/
def integer? (text : String) : Option Int :=
  (signAndRest? text).bind fun (negative, digits) =>
    if digits.isEmpty || !digits.all Text.isAsciiDigit then none
    else some (if negative then -(digitsValue digits : Int) else digitsValue digits)

end JsonPatch.Double
