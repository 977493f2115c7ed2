/-! # Runs of character names

The names of the characters of an alphabet mostly start with the same words, so a run writes for
each name only how many words it shares with the one before it, and the words after these.  An
empty entry stands for a code point without a name. -/

namespace JsonPatch.Text.Name

/-- The names of a run of code points. -/
structure Run where
  first : Nat
  /-- The entries, several in a line with bars between them. -/
  lines : List String

/-- The number that one character of an entry stands for. -/
def countOf (c : Char) : Nat :=
  if c.isDigit then c.toNat - '0'.toNat else c.toNat - 'A'.toNat + 10

/-- The words of the name in an entry, given those of the name before it. -/
def entryWords (before : List String) (entry : String) : List String :=
  match entry.toList with
  | [] => before
  | [c] => before.take (countOf c)
  | c :: words => before.take (countOf c) ++ (String.ofList words).splitOn " "

namespace Run

/-- The code point with a name, among entries that start at a code point. -/
def findIn (name : List String) : List String → Nat → List String → Option Nat
  | [], _, _ => none
  | entry :: rest, code, before =>
    let words := entryWords before entry
    if !entry.isEmpty && words == name then some code else findIn name rest (code + 1) words

/-- The code point with a name, given by its words. -/
def find? (r : Run) (name : List String) : Option Nat :=
  findIn name (r.lines.flatMap (·.splitOn "|")) r.first []

end Run
end JsonPatch.Text.Name
