import JsonPatch.Pattern.Basic
import JsonPatch.Text.Blank
import JsonPatch.Text.Case
import JsonPatch.Text.Digit
import JsonPatch.Text.Word

/-! # Classes and case in patterns

Which characters a code point, a range or a class of a pattern stands for.  When case is ignored
two characters are the same if their lower-case forms are equal, or are twins: lower-case forms
that share an upper-case form, such as `s` and the long `ſ`. -/

namespace JsonPatch.Pattern

/-- The lower-case characters that share an upper-case form with others. -/
def twinTable : List (Char × List Char) := [
  ('\u0069', ['\u0131']), ('\u0073', ['\u017f']), ('\u00b5', ['\u03bc']), ('\u0131', ['\u0069']),
  ('\u017f', ['\u0073']), ('\u0345', ['\u03b9', '\u1fbe']), ('\u0390', ['\u1fd3']),
  ('\u03b0', ['\u1fe3']), ('\u03b2', ['\u03d0']), ('\u03b5', ['\u03f5']), ('\u03b8', ['\u03d1']),
  ('\u03b9', ['\u0345', '\u1fbe']), ('\u03ba', ['\u03f0']), ('\u03bc', ['\u00b5']),
  ('\u03c0', ['\u03d6']), ('\u03c1', ['\u03f1']), ('\u03c2', ['\u03c3']), ('\u03c3', ['\u03c2']),
  ('\u03c6', ['\u03d5']), ('\u03d0', ['\u03b2']), ('\u03d1', ['\u03b8']), ('\u03d5', ['\u03c6']),
  ('\u03d6', ['\u03c0']), ('\u03f0', ['\u03ba']), ('\u03f1', ['\u03c1']), ('\u03f5', ['\u03b5']),
  ('\u0432', ['\u1c80']), ('\u0434', ['\u1c81']), ('\u043e', ['\u1c82']), ('\u0441', ['\u1c83']),
  ('\u0442', ['\u1c84', '\u1c85']), ('\u044a', ['\u1c86']), ('\u0463', ['\u1c87']),
  ('\u1c80', ['\u0432']), ('\u1c81', ['\u0434']), ('\u1c82', ['\u043e']), ('\u1c83', ['\u0441']),
  ('\u1c84', ['\u0442', '\u1c85']), ('\u1c85', ['\u0442', '\u1c84']), ('\u1c86', ['\u044a']),
  ('\u1c87', ['\u0463']), ('\u1c88', ['\ua64b']), ('\u1e61', ['\u1e9b']), ('\u1e9b', ['\u1e61']),
  ('\u1fbe', ['\u0345', '\u03b9']), ('\u1fd3', ['\u0390']), ('\u1fe3', ['\u03b0']),
  ('\ua64b', ['\u1c88']), ('\ufb05', ['\ufb06']), ('\ufb06', ['\ufb05'])]

/-- The other lower-case characters with the same upper-case form. -/
def twins (c : Char) : List Char :=
  ((twinTable.find? (·.1 == c)).map (·.2)).getD []

/-- The character of a code point, if it is one. -/
def charOf? (code : Nat) : Option Char :=
  if code.isValidChar then some (Char.ofNat code) else none

/-- The lower-case form under the flags' character set. -/
def fold (flags : Flags) (c : Char) : Char :=
  if flags.ascii then c.toLower else Text.lower c

/-- The lower-case characters that a lower-case character stands for when case is ignored. -/
def alike (flags : Flags) (c : Char) : List Char :=
  if flags.ascii then [c] else c :: twins c

/-- The characters with the given lower-case form. -/
def unfold (flags : Flags) (c : Char) : List Char :=
  (if fold flags c == c then [c] else []) ++
    (if 'a' ≤ c && c ≤ 'z' then [c.toUpper] else []) ++
    (if flags.ascii then [] else Text.shiftedTo Text.lowerRanges c)

/-- Whether a character is in a class. -/
def inCategory (flags : Flags) (kind : Category) (c : Char) : Bool :=
  match kind, flags.ascii with
  | .digit, true => Text.isAsciiDigit c
  | .digit, false => Text.isDigit c
  | .blank, true => Text.isAsciiBlank c
  | .blank, false => Text.isBlank c
  | .word, true => c.isAlphanum || c == '_'
  | .word, false => Text.isWord c

/-- Whether a character is the one of a code point. -/
def isCode (flags : Flags) (code : Nat) (c : Char) : Bool :=
  if flags.ignoreCase then
    (charOf? code).any fun k => (alike flags (fold flags k)).contains (fold flags c)
  else c.toNat == code

/-- Whether a code point is that of a character with case. -/
def isCased (flags : Flags) (code : Nat) : Bool :=
  (charOf? code).any fun c => if flags.ascii then c.isAlpha else Text.isCased c

/-- The greatest code point of the basic plane. -/
def basicPlane : Nat := 0xffff

/-- Whether a number lies between two bounds. -/
def between (first last n : Nat) : Bool :=
  first ≤ n && n ≤ last

/-- Whether a character lies in a range when case is ignored: it does if some character of the
range in the basic plane is alike, or if its lower-case form or the upper-case form of that lies
in a range that goes beyond the basic plane. -/
def inFoldedRange (flags : Flags) (first last : Nat) (c : Char) : Bool :=
  let d := fold flags c
  let basic := (alike flags d).any fun e =>
    (unfold flags e).any fun k => between first (min last basicPlane) k.toNat
  let wide := between first last d.toNat ||
    ((Text.upper d).head?.any fun u => between first last u.toNat)
  basic || (basicPlane < last && wide)

/-- Whether a range holds a character with case. -/
def hasCasedIn (flags : Flags) (first last : Nat) : Bool :=
  if flags.ascii then
    (first ≤ 'Z'.toNat && 'A'.toNat ≤ last) || (first ≤ 'z'.toNat && 'a'.toNat ≤ last)
  else Text.hasCasedIn first last

/-- Whether a character is in one item of a set. Beyond the basic plane a code point of a set
stands for the characters with that lower-case form only. -/
def inItem (flags : Flags) (item : SetItem) (c : Char) : Bool :=
  match item with
  | .code code =>
    if flags.ignoreCase && basicPlane < code then (fold flags c).toNat == code
    else isCode flags code c
  | .range first last =>
    if flags.ignoreCase then inFoldedRange flags first last c
    else between first last c.toNat
  | .category kind negated => inCategory flags kind c != negated

/-- Whether a character is in a set. -/
def inSet (flags : Flags) (negated : Bool) (items : List SetItem) (c : Char) : Bool :=
  items.any (inItem flags · c) != negated

end JsonPatch.Pattern
