/-! # Segments of a pointer

A path writes its segments after slashes.  Inside a segment the tilde is written `~0` and the
slash `~1`.  Reading a segment back replaces `~1` first and `~0` after that, so `~01` is the text
`~1`; a tilde before any other character stands for itself.  `decode` does the same from left to
right in one pass. -/

namespace JsonPatch.Segment

/-- Replace every occurrence of two characters, from left to right, by one. -/
def replacePair (a b c : Char) : List Char → List Char
  | [] => []
  | [x] => [x]
  | x :: y :: rest =>
    if x = a ∧ y = b then c :: replacePair a b c rest else x :: replacePair a b c (y :: rest)

/-- A character of a segment as it stands in a path. -/
def escapeChar (c : Char) : List Char :=
  if c = '~' then ['~', '0'] else if c = '/' then ['~', '1'] else [c]

/-- A segment as it stands in a path. -/
def escape (s : String) : String :=
  String.ofList (s.toList.flatMap escapeChar)

/-- The segment that stands in a path, by two replacements. -/
def unescape (s : String) : String :=
  String.ofList (replacePair '~' '0' '~' (replacePair '~' '1' '/' s.toList))

/-- The segment that stands in a path, read from left to right. -/
def decode : List Char → List Char
  | [] => []
  | '~' :: '1' :: rest => '/' :: decode rest
  | '~' :: '0' :: rest => '~' :: decode rest
  | c :: rest => c :: decode rest

/-- The pieces of a text between slashes. -/
def split : List Char → List (List Char)
  | [] => [[]]
  | c :: rest =>
    if c = '/' then [] :: split rest
    else
      match split rest with
      | [] => [[c]]
      | piece :: more => (c :: piece) :: more

/-- The pieces of a text after its slashes; what stands before the first slash is left out. -/
def ofPath (path : String) : List String :=
  (split path.toList).tail.map fun piece => unescape (String.ofList piece)

/-- The path with the given segments. -/
def toPath (segments : List String) : String :=
  String.join (segments.map fun s => "/" ++ escape s)

end JsonPatch.Segment
