import JsonPatch.Text.Ranges

/-! # White space

The characters that separate words: the ASCII controls from tab to carriage return and from the
file separator to the unit separator, the space, and the space characters from U+0080 on. -/

namespace JsonPatch.Text

/-- The white-space code points from U+0080 on. -/
def blankRanges : List (Nat × Nat) := [
  (0x85, 0x85), (0xa0, 0xa0), (0x1680, 0x1680), (0x2000, 0x200a), (0x2028, 0x2029),
  (0x202f, 0x202f), (0x205f, 0x205f), (0x3000, 0x3000)]

/-- White space. -/
def isBlank (c : Char) : Bool :=
  if c.val < 0x80 then
    (0x09 ≤ c.val && c.val ≤ 0x0d) || (0x1c ≤ c.val && c.val ≤ 0x20)
  else inRanges blankRanges c

/-- White space among the ASCII characters only. -/
def isAsciiBlank (c : Char) : Bool :=
  (0x09 ≤ c.val && c.val ≤ 0x0d) || c == ' '

/-- The text without the white space at its two ends. -/
def strip (s : List Char) : List Char :=
  ((s.dropWhile isBlank).reverse.dropWhile isBlank).reverse

end JsonPatch.Text
