import JsonPatch.Pattern.Fault

/-! # Faults of JSON text

A text that is no JSON is refused with the problem met first and its place: line, column and
position, the first two counted from one. -/

namespace JsonPatch.Json

/-- What is wrong at a place of a JSON text. -/
inductive Problem where
  | byteOrderMark
  | expectingValue
  | expectingComma
  | expectingColon
  | expectingName
  | unterminatedString
  | controlCharacter
  | badEscape
  | badUnicodeEscape
  | extraData
deriving DecidableEq, Repr

/-- The wording of a problem. -/
def Problem.message : Problem → String
  | byteOrderMark => "Unexpected UTF-8 BOM (decode using utf-8-sig)"
  | expectingValue => "Expecting value"
  | expectingComma => "Expecting ',' delimiter"
  | expectingColon => "Expecting ':' delimiter"
  | expectingName => "Expecting property name enclosed in double quotes"
  | unterminatedString => "Unterminated string starting at"
  | controlCharacter => "Invalid control character at"
  | badEscape => "Invalid \\escape"
  | badUnicodeEscape => "Invalid \\uXXXX escape"
  | extraData => "Extra data"

/-- Why a text was not read. -/
inductive Fault where
  /-- A problem at a place, given by position, line and column. -/
  | located (problem : Problem) (position line column : Nat)
  /-- An integer with too many digits. -/
  | longNumber (digits : Nat)
deriving Repr

/-- A problem at a position of a text. -/
def Fault.at (text : List Char) (position : Nat) (problem : Problem) : Fault :=
  let before := text.take position
  .located problem position (before.count '\n' + 1)
    ((before.reverse.takeWhile (· != '\n')).length + 1)

/-- The wording of a fault. -/
def Fault.message : Fault → String
  | located problem position line column =>
    problem.message ++ ": line " ++ toString line ++ " column " ++ toString column ++
      " (char " ++ toString position ++ ")"
  | longNumber digits => Pattern.tooManyDigits (some digits)

end JsonPatch.Json
