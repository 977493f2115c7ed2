import JsonPatch.Text.Printable

/-! # Quoted text

Messages show texts in quotes: single ones, or double ones for a text with a single quote and no
double one.  The backslash, the quote in use and every character that is not printable are
written as escapes. -/

namespace JsonPatch.Text

/-- The lower-case hexadecimal digits of a number, padded with zeros to a width. -/
def hex (width n : Nat) : List Char :=
  let digits := Nat.toDigits 16 n
  List.replicate (width - digits.length) '0' ++ digits

/-- The quote for a text. -/
def quoteFor (s : List Char) : Char :=
  if s.contains '\'' && !s.contains '"' then '"' else '\''

/-- The escape of a code point: two, four or eight hexadecimal digits. -/
def escapeCode (n : Nat) : List Char :=
  if n ≤ 0xff then '\\' :: 'x' :: hex 2 n
  else if n ≤ 0xffff then '\\' :: 'u' :: hex 4 n
  else '\\' :: 'U' :: hex 8 n

/-- A character as it stands inside the quotes. -/
def quoteChar (quote c : Char) : List Char :=
  if c == quote || c == '\\' then ['\\', c]
  else if c == '\n' then ['\\', 'n']
  else if c == '\r' then ['\\', 'r']
  else if c == '\t' then ['\\', 't']
  else if isPrintable c then [c]
  else escapeCode c.toNat

/-- A text in quotes. -/
def quoted (s : String) : String :=
  let quote := quoteFor s.toList
  String.ofList (quote :: s.toList.flatMap (quoteChar quote) ++ [quote])

/-- A byte string in quotes after the letter `b`; bytes beyond ASCII are written as escapes. -/
def quotedBytes (content : List UInt8) : String :=
  let chars := content.map fun b => Char.ofNat b.toNat
  let quote := quoteFor chars
  let shown := chars.flatMap fun c =>
    if c.val < 0x80 then quoteChar quote c else escapeCode c.toNat
  String.ofList ('b' :: quote :: shown ++ [quote])

end JsonPatch.Text
