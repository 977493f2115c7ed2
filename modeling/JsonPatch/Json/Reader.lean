import JsonPatch.Json.Fault
import JsonPatch.Text.Digit
import JsonPatch.Value.Basic
import JsonPatch.Value.Members

/-! # Reading JSON text

`Json.read` turns a text into a value.  Beside the standard grammar it accepts the words `NaN`,
`Infinity` and `-Infinity`.  A number without fraction and exponent is an integer; any other is
the nearest double.  Of several members with one name the first gives the place and the last the
value.  The reader walks the text with the position of the rest, which faults report. -/

namespace JsonPatch

namespace Json

/-- The number of digits that are read in an integer. -/
def digitLimit : Nat := 4300

/-- The rest of a text and the position at which it starts. -/
structure Cursor where
  rest : List Char
  position : Nat

namespace Cursor

/-- Move on by a number of characters. -/
def advance (c : Cursor) (n : Nat) : Cursor :=
  ⟨c.rest.drop n, c.position + n⟩

/-- White space between the parts of a JSON text. -/
def isSpace (c : Char) : Bool :=
  c == ' ' || c == '\t' || c == '\n' || c == '\r'

/-- Move over white space. -/
def skipSpace (c : Cursor) : Cursor :=
  c.advance (c.rest.takeWhile isSpace).length

end Cursor

/-- The problem and position at which reading stops, or a number that is too long. -/
inductive Stop where
  | problem (p : Problem) (position : Nat)
  | longNumber (digits : Nat)

/-! ### Strings -/

/-- The value of a hexadecimal digit. -/
def hexValue? (c : Char) : Option Nat :=
  if '0' ≤ c && c ≤ '9' then some (c.toNat - 0x30)
  else if 'a' ≤ c && c ≤ 'f' then some (c.toNat - 0x57)
  else if 'A' ≤ c && c ≤ 'F' then some (c.toNat - 0x37)
  else none

/-- The number that four hexadecimal digits stand for. -/
def hexNumber? (digits : List Char) : Option Nat :=
  digits.foldl (fun n c => n.bind fun k => (hexValue? c).map (k * 16 + ·)) (some 0)

/-- The character that a letter after a backslash stands for. -/
def escaped? : Char → Option Char
  | '"' => some '"'
  | '\\' => some '\\'
  | '/' => some '/'
  | 'b' => some '\x08'
  | 'f' => some '\x0c'
  | 'n' => some '\n'
  | 'r' => some '\r'
  | 't' => some '\t'
  | _ => none

/-- The second half of a surrogate pair: the code point of the pair, if these characters hold
one. There must be more text after them. -/
def lowSurrogate (high : Nat) (c : Cursor) : Except Stop (Option Nat) :=
  match c.rest with
  | '\\' :: 'u' :: d₁ :: d₂ :: d₃ :: d₄ :: _ :: _ =>
    match hexNumber? [d₁, d₂, d₃, d₄] with
    | none => .error (.problem .badUnicodeEscape (c.position + 1))
    | some low =>
      .ok (if 0xdc00 ≤ low && low ≤ 0xdfff then
        some (0x10000 + (high - 0xd800) * 0x400 + (low - 0xdc00)) else none)
  | _ => .ok none

/-- The code point of a hexadecimal escape and the text after it; `c` stands after the `u`. -/
def hexEscape (c : Cursor) : Except Stop (Nat × Cursor) :=
  match c.rest with
  | d₁ :: d₂ :: d₃ :: d₄ :: _ :: _ =>
    match hexNumber? [d₁, d₂, d₃, d₄] with
    | none => .error (.problem .badUnicodeEscape (c.position - 1))
    | some code =>
      let after := c.advance 4
      if 0xd800 ≤ code && code ≤ 0xdbff then
        match lowSurrogate code after with
        | .error e => .error e
        | .ok (some pair) => .ok (pair, after.advance 6)
        | .ok none => .ok (code, after)
      else .ok (code, after)
  | _ => .error (.problem .badUnicodeEscape (c.position - 1))

/-- The character of a code point; a lone surrogate is replaced. -/
def charOfCode (code : Nat) : Char :=
  if code.isValidChar then Char.ofNat code else '\ufffd'

/-- The characters of a string that started at `start`, up to its closing quote. -/
def readString (start : Nat) : Nat → Cursor → List Char → Except Stop (List Char × Cursor)
  | 0, _, _ => .error (.problem .unterminatedString start)
  | fuel + 1, c, done =>
    match c.rest with
    | [] => .error (.problem .unterminatedString start)
    | '"' :: _ => .ok (done.reverse, c.advance 1)
    | ['\\'] => .error (.problem .unterminatedString start)
    | '\\' :: 'u' :: _ =>
      match hexEscape (c.advance 2) with
      | .error e => .error e
      | .ok (code, after) => readString start fuel after (charOfCode code :: done)
    | '\\' :: e :: _ =>
      match escaped? e with
      | some x => readString start fuel (c.advance 2) (x :: done)
      | none => .error (.problem .badEscape c.position)
    | x :: _ =>
      if x.val < 0x20 then .error (.problem .controlCharacter c.position)
      else readString start fuel (c.advance 1) (x :: done)

/-! ### Numbers -/

/-- The number that decimal digits stand for. -/
def decimal (digits : List Char) : Nat :=
  digits.foldl (fun n c => n * 10 + (c.toNat - 0x30)) 0

/-- The digits at the start of a text. -/
def leadingDigits (s : List Char) : List Char :=
  s.takeWhile Text.isAsciiDigit

/-- The digits after a decimal point, if there is a point with a digit after it. -/
def fraction? : List Char → Option (List Char)
  | '.' :: rest =>
    let digits := leadingDigits rest
    if digits.isEmpty then none else some digits
  | _ => none

/-- The value and the length of an exponent, if there is a mark with digits after it. -/
def exponent? : List Char → Option (Int × Nat)
  | mark :: rest =>
    if mark == 'e' || mark == 'E' then
      let (negative, signed, digits) := match rest with
        | '-' :: more => (true, 1, leadingDigits more)
        | '+' :: more => (false, 1, leadingDigits more)
        | more => (false, 0, leadingDigits more)
      if digits.isEmpty then none
      else some (if negative then -(decimal digits : Int) else decimal digits,
        1 + signed + digits.length)
    else none
  | [] => none

/-- The digits before the point: a zero alone or digits that start with another one. -/
def wholeDigits? (s : List Char) : Option (List Char) :=
  match s with
  | '0' :: _ => some ['0']
  | _ =>
    let digits := leadingDigits s
    if digits.isEmpty then none else some digits

/-- Whether a minus stands at the start of a text, and the text after it. -/
def splitSign : List Char → Bool × List Char
  | '-' :: rest => (true, rest)
  | rest => (false, rest)

/-- A number at the cursor. -/
def readNumber (c : Cursor) : Except Stop (Number × Cursor) :=
  let (negative, body) := splitSign c.rest
  match wholeDigits? body with
  | none => .error (.problem .expectingValue c.position)
  | some whole =>
    let signed := if negative then 1 else 0
    let afterWhole := body.drop whole.length
    let part := fraction? afterWhole
    let afterPart := match part with
      | some digits => afterWhole.drop (digits.length + 1)
      | none => afterWhole
    let power := exponent? afterPart
    match part, power with
    | none, none =>
      if digitLimit < whole.length then .error (.longNumber whole.length)
      else
        let n : Int := decimal whole
        .ok (.int (if negative then -n else n), c.advance (signed + whole.length))
    | _, _ =>
      let digits := part.getD []
      let length := signed + whole.length + (part.map (·.length + 1)).getD 0 +
        (power.map (·.2)).getD 0
      let exponent := (power.map (·.1)).getD 0 - digits.length
      .ok (.double (.ofDecimal negative (decimal (whole ++ digits)) exponent), c.advance length)

/-! ### Values -/

/-- The words that stand for values. -/
def words : List (List Char × Value) := [
  ("null".toList, .null),
  ("true".toList, .bool true),
  ("false".toList, .bool false),
  ("NaN".toList, .number (.double .nan)),
  ("Infinity".toList, .number (.double (.infinity false))),
  ("-Infinity".toList, .number (.double (.infinity true)))]

mutual

/-- A value at the cursor. -/
def readValue : Nat → Cursor → Except Stop (Value × Cursor)
  | 0, c => .error (.problem .expectingValue c.position)
  | fuel + 1, c =>
    match c.rest with
    | '"' :: _ =>
      match readString c.position (c.rest.length + 1) (c.advance 1) [] with
      | .error e => .error e
      | .ok (s, after) => .ok (.string (String.ofList s), after)
    | '\x7b' :: _ =>
      let inner := (c.advance 1).skipSpace
      match inner.rest with
      | '\x7d' :: _ => .ok (.object [], inner.advance 1)
      | _ =>
        match readMembers fuel inner [] with
        | .error e => .error e
        | .ok (members, after) => .ok (.object members, after)
    | '[' :: _ =>
      let inner := (c.advance 1).skipSpace
      match inner.rest with
      | ']' :: _ => .ok (.array [], inner.advance 1)
      | _ =>
        match readItems fuel inner [] with
        | .error e => .error e
        | .ok (items, after) => .ok (.array items, after)
    | _ =>
      match words.find? fun w => w.1.isPrefixOf c.rest with
      | some (word, v) => .ok (v, c.advance word.length)
      | none =>
        match readNumber c with
        | .error e => .error e
        | .ok (n, after) => .ok (.number n, after)

/-- The values of an array that has at least one more, up to the closing bracket. -/
def readItems : Nat → Cursor → List Value → Except Stop (List Value × Cursor)
  | 0, c, _ => .error (.problem .expectingValue c.position)
  | fuel + 1, c, done =>
    match readValue fuel c with
    | .error e => .error e
    | .ok (v, after) =>
      let after := after.skipSpace
      match after.rest with
      | ']' :: _ => .ok ((v :: done).reverse, after.advance 1)
      | ',' :: _ => readItems fuel (after.advance 1).skipSpace (v :: done)
      | _ => .error (.problem .expectingComma after.position)

/-- The members of an object that has at least one more, up to the closing brace. -/
def readMembers : Nat → Cursor → Members → Except Stop (Members × Cursor)
  | 0, c, _ => .error (.problem .expectingName c.position)
  | fuel + 1, c, done =>
    match c.rest with
    | '"' :: _ =>
      match readString c.position (c.rest.length + 1) (c.advance 1) [] with
      | .error e => .error e
      | .ok (name, after) =>
        let after := after.skipSpace
        match after.rest with
        | ':' :: _ =>
          match readValue fuel (after.advance 1).skipSpace with
          | .error e => .error e
          | .ok (v, after) =>
            let after := after.skipSpace
            let members := Members.put (String.ofList name) v done
            match after.rest with
            | '\x7d' :: _ => .ok (members, after.advance 1)
            | ',' :: _ => readMembers fuel (after.advance 1).skipSpace members
            | _ => .error (.problem .expectingComma after.position)
        | _ => .error (.problem .expectingColon after.position)
    | _ => .error (.problem .expectingName c.position)

end

/-- The value that a whole text stands for, or where reading it stops. -/
def readAll (text : List Char) : Except Stop Value :=
  if text.head? == some '\ufeff' then .error (.problem .byteOrderMark 0)
  else
    match readValue (2 * text.length + 2) (Cursor.skipSpace ⟨text, 0⟩) with
    | .error e => .error e
    | .ok (v, after) =>
      let after := after.skipSpace
      if after.rest.isEmpty then .ok v else .error (.problem .extraData after.position)

/-- The value that a whole text stands for. -/
def read (text : List Char) : Except Fault Value :=
  match readAll text with
  | .ok v => .ok v
  | .error (.problem p position) => .error (.at text position p)
  | .error (.longNumber digits) => .error (.longNumber digits)

end Json
end JsonPatch
