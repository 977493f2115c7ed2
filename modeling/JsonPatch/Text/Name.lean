import JsonPatch.Text.Name.Alias
import JsonPatch.Text.Name.From0000
import JsonPatch.Text.Name.From0600
import JsonPatch.Text.Name.From1000
import JsonPatch.Text.Name.From1D00
import JsonPatch.Text.Name.From2300
import JsonPatch.Text.Name.From2A00
import JsonPatch.Text.Name.FromA000
import JsonPatch.Text.Name.FromFB50
import JsonPatch.Text.Name.From10100
import JsonPatch.Text.Name.From11700
import JsonPatch.Text.Name.From12000
import JsonPatch.Text.Name.From16800
import JsonPatch.Text.Name.From1D000
import JsonPatch.Text.Name.From1F000

/-! # Characters by name

`Name.find?` gives the character with a name.  Most names are written out in tables, and there
the case of ASCII letters makes no difference.  The names of the Han characters and of the
syllables of Hangul follow rules, and are known in capitals only. -/

namespace JsonPatch.Text.Name

/-- All names that are written out. -/
def runs : List Run :=
  from0000 ++ from0600 ++ from1000 ++ from1D00 ++ from2300 ++ from2A00 ++ fromA000 ++ fromFB50
    ++ from10100 ++ from11700 ++ from12000 ++ from16800 ++ from1D000 ++ from1F000 ++ aliases

/-! ### Syllables of Hangul -/

/-- The consonants with which a syllable starts, by their order. -/
def initials : List String :=
  ["G", "GG", "N", "D", "DD", "R", "M", "B", "BB", "S", "SS", "", "J", "JJ", "C", "K", "T", "P",
   "H"]

/-- The vowels of syllables, by their order. -/
def vowels : List String :=
  ["A", "AE", "YA", "YAE", "EO", "E", "YEO", "YE", "O", "WA", "WAE", "OE", "YO", "U", "WEO",
   "WE", "WI", "YU", "EU", "YI", "I"]

/-- The consonants with which a syllable ends, by their order. -/
def finals : List String :=
  ["", "G", "GG", "GS", "N", "NJ", "NH", "D", "L", "LG", "LM", "LB", "LS", "LT", "LP", "LH", "M",
   "B", "BS", "S", "SS", "NG", "J", "C", "K", "T", "P", "H"]

/-- The longest of some texts with which a text starts: its place in the list and what follows. -/
def takeLongest (parts : List String) (text : List Char) : Option (Nat × List Char) :=
  let fitting := parts.zipIdx.filter fun (p, _) => p.toList.isPrefixOf text
  let best := fitting.foldl
    (fun (best : Option (String × Nat)) candidate =>
      if best.all fun b => b.1.length < candidate.1.length then some candidate else best) none
  best.map fun (p, i) => (i, text.drop p.length)

/-- The syllable that a text spells. -/
def syllable? (text : List Char) : Option Nat :=
  match takeLongest initials text with
  | none => none
  | some (i, text) =>
    match takeLongest vowels text with
    | none => none
    | some (v, text) =>
      match takeLongest finals text with
      | some (f, []) => some (0xac00 + (i * vowels.length + v) * finals.length + f)
      | _ => none

/-! ### Numbered characters -/

/-- The value of a hexadecimal digit, a capital letter or not a letter. -/
def hexValue? (c : Char) : Option Nat :=
  if c.isDigit then some (c.toNat - '0'.toNat)
  else if 'A' ≤ c && c ≤ 'F' then some (c.toNat - 'A'.toNat + 10)
  else none

/-- The number that hexadecimal digits stand for. -/
def hexNumber? (digits : List Char) : Option Nat :=
  digits.foldlM (fun n c => (hexValue? c).map (n * 16 + ·)) 0

/-- The unified Han characters. -/
def ideographs : List (Nat × Nat) := [
  (0x3400, 0x4dbf), (0x4e00, 0x9fff), (0x20000, 0x2a6df), (0x2a700, 0x2b738), (0x2b740, 0x2b81d),
  (0x2b820, 0x2cea1), (0x2ceb0, 0x2ebe0), (0x30000, 0x3134a)]

/-- The characters that are named by a word and their number. -/
def numbered : List (String × Nat × Nat) := [
  ("CJK COMPATIBILITY IDEOGRAPH-", 0xf900, 0xfa6d),
  ("CJK COMPATIBILITY IDEOGRAPH-", 0xfa70, 0xfad9),
  ("CJK COMPATIBILITY IDEOGRAPH-", 0x2f800, 0x2fa1d),
  ("KHITAN SMALL SCRIPT CHARACTER-", 0x18b00, 0x18cd5),
  ("NUSHU CHARACTER-", 0x1b170, 0x1b2fb)]

/-- The Han character with a number, written in four or five digits. -/
def ideograph? (digits : List Char) : Option Nat :=
  if digits.length == 4 || digits.length == 5 then
    (hexNumber? digits).filter fun n => ideographs.any fun (lo, hi) => lo ≤ n && n ≤ hi
  else none

/-- The other characters with a number in their name, written without leading zeros. -/
def numbered? (name : List Char) : Option Nat :=
  numbered.findSome? fun (word, lo, hi) =>
    if word.toList.isPrefixOf name then
      let digits := name.drop word.length
      if digits.head? == some '0' then none
      else (hexNumber? digits).filter fun n => lo ≤ n && n ≤ hi
    else none

/-! ### All names -/

/-- The code point of the character with a name. -/
def find? (name : List Char) : Option Nat :=
  let hangul := "HANGUL SYLLABLE ".toList
  let han := "CJK UNIFIED IDEOGRAPH-".toList
  if hangul.isPrefixOf name then syllable? (name.drop hangul.length)
  else if han.isPrefixOf name then ideograph? (name.drop han.length)
  else
    let name := name.map Char.toUpper
    match numbered? name with
    | some n => some n
    | none => runs.findSome? (·.find? ((String.ofList name).splitOn " "))

end JsonPatch.Text.Name
