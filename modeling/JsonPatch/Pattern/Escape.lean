import JsonPatch.Pattern.Source
import JsonPatch.Text.Digit
import JsonPatch.Text.Name

/-! # Escapes in patterns

An escape names a class, an anchor, a code point or an earlier group.  Inside a set it cannot be
an anchor or a group, and `\b` is the backspace there. -/

namespace JsonPatch.Pattern

/-- The greatest code point. -/
def greatestCode : Nat := 0x10ffff

/-- An ASCII letter. -/
def isAsciiLetter (c : Char) : Bool := c.isAlpha

/-- A hexadecimal digit. -/
def isHexDigit (c : Char) : Bool :=
  c.isDigit || ('a' ≤ c && c ≤ 'f') || ('A' ≤ c && c ≤ 'F')

/-- An octal digit. -/
def isOctalDigit (c : Char) : Bool := '0' ≤ c && c ≤ '7'

/-- The value of a digit below sixteen. -/
def digitOf (c : Char) : Nat :=
  if c.isDigit then c.toNat - 0x30
  else if 'a' ≤ c then c.toNat - 0x57
  else c.toNat - 0x37

/-- The number that digits of a base stand for. -/
def numberOf (base : Nat) (digits : List Char) : Nat :=
  digits.foldl (fun n c => n * base + digitOf c) 0

/-- The code point that a letter after the backslash stands for. -/
def controlEscape : Char → Option Nat
  | 'a' => some 0x07
  | 'b' => some 0x08
  | 'f' => some 0x0c
  | 'n' => some 0x0a
  | 'r' => some 0x0d
  | 't' => some 0x09
  | 'v' => some 0x0b
  | '\\' => some 0x5c
  | _ => none

/-- The class that a letter after the backslash stands for. -/
def categoryEscape : Char → Option SetItem
  | 'd' => some (.category .digit false)
  | 'D' => some (.category .digit true)
  | 's' => some (.category .blank false)
  | 'S' => some (.category .blank true)
  | 'w' => some (.category .word false)
  | 'W' => some (.category .word true)
  | _ => none

/-- The anchor that a letter after the backslash stands for. -/
def anchorEscape : Char → Option Anchor
  | 'A' => some .textStart
  | 'b' => some .boundary
  | 'B' => some .noBoundary
  | 'Z' => some .textEnd
  | _ => none

/-- A hexadecimal escape with a fixed number of digits. -/
def hexEscape (letter : Char) (width : Nat) : Reading Nat := do
  let digits ← takeUpTo isHexDigit width
  let text := '\\' :: letter :: digits
  if digits.length != width then
    failBefore text.length (.incompleteEscape (String.ofList text))
  let code := numberOf 16 digits
  if 0x80000000 ≤ code then throw .hugeCode
  if greatestCode < code then failBefore text.length (.badEscape (String.ofList text))
  return code

/-- A character given by its name. -/
def nameEscape : Reading Nat := do
  if !(← accept '\x7b') then failBefore 0 (.missing "\x7b")
  let name ← takeUntil '\x7d' "character name"
  match Text.Name.find? name with
  | some code => return code
  | none => failBefore (name.length + 4) (.undefinedName (String.ofList name))

/-- An octal escape whose digits have been taken. -/
def octalEscape (digits : List Char) : Reading Nat := do
  let code := numberOf 8 digits
  if 0o377 < code then
    let text := '\\' :: digits
    failBefore text.length (.octalOutOfRange (String.ofList text))
  return code

/-- The escapes that are the same inside and outside of sets. -/
def commonEscape (c : Char) : Reading Nat := do
  if c == 'x' then hexEscape c 2
  else if c == 'u' then hexEscape c 4
  else if c == 'U' then hexEscape c 8
  else if c == 'N' then nameEscape
  else if isAsciiLetter c || c.isDigit then
    failBefore 2 (.badEscape (String.ofList ['\\', c]))
  else return c.toNat

/-- The item that an escape stands for inside a set. -/
def setEscape (c : Char) : Reading SetItem := do
  if let some code := controlEscape c then return .code code
  if let some item := categoryEscape c then return item
  if isOctalDigit c then
    return .code (← octalEscape (c :: (← takeUpTo isOctalDigit 2)))
  return .code (← commonEscape c)

/-- Whether a group is closed. -/
def isClosed (s : Progress) (index : Nat) : Bool :=
  1 ≤ index && (s.widths[index - 1]?).any Option.isSome

/-- Inside a look-behind only the groups that were closed before it can be referred to. -/
def checkLookbehind (index : Nat) : Reading Unit := do
  let s ← get
  if let some count := s.lookbehind then
    if !isClosed s index then failBefore 0 .openGroup
    if count ≤ index then failBefore 0 .groupOfSameLookbehind

/-- A reference to a closed group. -/
def referenceTo (index : Nat) : Reading Node := do
  checkLookbehind index
  let s ← get
  return .reference index (((s.widths[index - 1]?).bind id).getD ⟨0, 0⟩)

/-- The digits after a backslash outside of a set: an octal escape or a reference. -/
def digitEscape (c : Char) : Reading Node := do
  if c == '0' then
    return .code (numberOf 8 (c :: (← takeUpTo isOctalDigit 2)))
  let mut digits := [c]
  let second ← takeUpTo Text.isAsciiDigit 1
  if let [d] := second then
    digits := [c, d]
    if isOctalDigit c && isOctalDigit d then
      let third ← takeUpTo isOctalDigit 1
      if !third.isEmpty then
        return .code (← octalEscape (c :: d :: third))
  let group := numberOf 10 digits
  let s ← get
  if group ≤ s.widths.length then
    if !isClosed s group then failBefore (digits.length + 1) .openGroup
    referenceTo group
  else failBefore digits.length (.invalidGroup group)

/-- The node that an escape stands for outside of a set. -/
def nodeEscape (c : Char) : Reading Node := do
  if let some item := categoryEscape c then return .set false [item]
  if let some a := anchorEscape c then return .anchor a
  if let some code := controlEscape c then return .code code
  if c.isDigit then digitEscape c
  else return .code (← commonEscape c)

end JsonPatch.Pattern
