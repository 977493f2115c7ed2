import JsonPatch.Value.Display

/-! # Writing JSON text

Three layouts of the same text: on one line with all characters kept (`render`), on one line in
ASCII (`renderAscii`), and spread over indented lines (`renderIndented`).  A frozen array is
written as an array; what else is no JSON value is written as the text that displays it. -/

namespace JsonPatch.Json

/-- The escape of a control character. -/
def escapeUnit (n : Nat) : List Char :=
  '\\' :: 'u' :: Text.hex 4 n

/-- A character of a string: quotes, backslashes and control characters are escaped. -/
def escapeChar (c : Char) : List Char :=
  if c == '"' then ['\\', '"']
  else if c == '\\' then ['\\', '\\']
  else if c == '\n' then ['\\', 'n']
  else if c == '\r' then ['\\', 'r']
  else if c == '\t' then ['\\', 't']
  else if c == '\x08' then ['\\', 'b']
  else if c == '\x0c' then ['\\', 'f']
  else if c.val < 0x20 then escapeUnit c.toNat
  else [c]

/-- A character of a string in ASCII: beyond the printable ones it is escaped by its UTF-16
units. -/
def escapeAscii (c : Char) : List Char :=
  if c.val < 0x7f then escapeChar c
  else if c.val < 0x10000 then escapeUnit c.toNat
  else
    let n := c.toNat - 0x10000
    escapeUnit (0xd800 + n / 0x400) ++ escapeUnit (0xdc00 + n % 0x400)

/-- A string between quotes. -/
def quote (escape : Char → List Char) (s : String) : String :=
  String.ofList ('"' :: s.toList.flatMap escape ++ ['"'])

/-- A number; the values that are not finite are written as words. -/
def renderNumber : Number → String
  | .double .nan => "NaN"
  | .double (.infinity false) => "Infinity"
  | .double (.infinity true) => "-Infinity"
  | n => n.render

/-- How one layout writes its parts. -/
structure Layout where
  escape : Char → List Char
  /-- What stands between items. -/
  separator : Nat → String
  /-- What stands after an opening bracket and before a closing one. -/
  opening : Nat → String
  closing : Nat → String
  /-- A value that is no JSON value. -/
  other : Value → String

/-- Items between brackets. -/
def Layout.enclose (l : Layout) (depth : Nat) (left right : String) (parts : List String) :
    String :=
  if parts.isEmpty then left ++ right
  else
    left ++ l.opening depth ++ String.intercalate (l.separator depth) parts ++
      l.closing depth ++ right

mutual

/-- A value in a layout, at a depth. -/
def write (l : Layout) (depth : Nat) : Value → String
  | .null => "null"
  | .bool true => "true"
  | .bool false => "false"
  | .number n => renderNumber n
  | .string s => quote l.escape s
  | .array items => l.enclose depth "[" "]" (writeItems l (depth + 1) items)
  | .tuple items => l.enclose depth "[" "]" (writeItems l (depth + 1) items)
  | .object members => l.enclose depth "\x7b" "\x7d" (writeMembers l (depth + 1) members)
  | v@(.bytes _) => l.other v
  | v@(.foreign _) => l.other v

/-- The values of a list in a layout. -/
def writeItems (l : Layout) (depth : Nat) : List Value → List String
  | [] => []
  | v :: rest => write l depth v :: writeItems l depth rest

/-- The members of an object in a layout. -/
def writeMembers (l : Layout) (depth : Nat) : Members → List String
  | [] => []
  | (name, v) :: rest =>
    (quote l.escape name ++ ": " ++ write l depth v) :: writeMembers l depth rest

end

/-- On one line, with all characters kept. -/
def oneLine : Layout where
  escape := escapeChar
  separator := fun _ => ", "
  opening := fun _ => ""
  closing := fun _ => ""
  other := fun v => quote escapeChar v.display

/-- On one line in ASCII. -/
def asciiLine : Layout where
  escape := escapeAscii
  separator := fun _ => ", "
  opening := fun _ => ""
  closing := fun _ => ""
  other := fun v => quote escapeAscii v.display

/-- A new line with two blanks for each level. -/
def newLine (depth : Nat) : String :=
  "\n" ++ String.ofList (List.replicate (2 * depth) ' ')

/-- Over several lines, with all characters kept. -/
def indented : Layout where
  escape := escapeChar
  separator := fun depth => "," ++ newLine (depth + 1)
  opening := fun depth => newLine (depth + 1)
  closing := newLine
  other := oneLine.other

/-- The text of a value on one line. -/
def render (v : Value) : String := write oneLine 0 v

/-- The text of a value on one line in ASCII. -/
def renderAscii (v : Value) : String := write asciiLine 0 v

/-- The text of a value over several lines. -/
def renderIndented (v : Value) : String := write indented 0 v

end JsonPatch.Json
