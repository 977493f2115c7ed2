import JsonPatch.Fault
import JsonPatch.Json.Printer

/-! # Values that have a text

Integers are written only up to a number of decimal digits, the same up to which they are read.
A sum can have more digits than its terms, and a caller may hand over any integer, so a value may
hold one that keeps it from being written or shown. -/

namespace JsonPatch

namespace Json

/-- The least size of an integer that has too many decimal digits to be written. -/
def integerBound : Nat := Nat.pow 10 4300

mutual

/-- Whether no integer in a value has too many digits. -/
def isWritable : Value → Bool
  | .number (.int n) => n.natAbs < integerBound
  | .array items | .tuple items => isWritableItems items
  | .object members => isWritableMembers members
  | _ => true

/-- Whether no integer in the values of a list has too many digits. -/
def isWritableItems : List Value → Bool
  | [] => true
  | v :: rest => isWritable v && isWritableItems rest

/-- Whether no integer in the values of members has too many digits. -/
def isWritableMembers : Members → Bool
  | [] => true
  | (_, v) :: rest => isWritable v && isWritableMembers rest

end

/-- The text of a value in a layout. -/
def text (l : Layout) (v : Value) : Except JsonPatch.Fault String :=
  if isWritable v then .ok (write l 0 v) else .error .hugeInteger

end Json

namespace Value

/-- The value as messages show it. -/
def shown (v : Value) : Except Fault String :=
  if Json.isWritable v then .ok v.display else .error .hugeInteger

/-- The value as plain text. -/
def shownPlain (v : Value) : Except Fault String :=
  if Json.isWritable v then .ok v.plain else .error .hugeInteger

end Value

end JsonPatch
