import JsonPatch.Live.Cell

/-! # What an operation sees

An operation is planned on a value.  Where cells lead back to themselves there is none, and it is
planned on a piece of the endless tree instead: all that its descriptor can lead to.  An operation
goes along the paths that are among the texts of its descriptor, and beyond them it looks no
deeper than the descriptor is deep, because it compares what it finds with a part of it. -/

namespace JsonPatch

namespace Value

mutual

/-- The greatest number of arrays and objects inside each other. -/
def depth : Value → Nat
  | .array items | .tuple items => depthItems items + 1
  | .object members => depthMembers members + 1
  | _ => 0

/-- The greatest depth of the values of a list. -/
def depthItems : List Value → Nat
  | [] => 0
  | v :: rest => max (depth v) (depthItems rest)

/-- The greatest depth of the values of members. -/
def depthMembers : Members → Nat
  | [] => 0
  | (_, v) :: rest => max (depth v) (depthMembers rest)

end

mutual

/-- The texts in a value, without the names of members. -/
def texts : Value → List String
  | .string s => [s]
  | .array items | .tuple items => textsOfItems items
  | .object members => textsOfMembers members
  | _ => []

/-- The texts in the values of a list. -/
def textsOfItems : List Value → List String
  | [] => []
  | v :: rest => texts v ++ textsOfItems rest

/-- The texts in the values of members. -/
def textsOfMembers : Members → List String
  | [] => []
  | (_, v) :: rest => texts v ++ textsOfMembers rest

end

end Value

namespace Live

/-- How far an operation can see: along some paths, given by their segments, and from each place
on them down to a depth. -/
structure Sight where
  paths : List (List String)
  margin : Nat

namespace Sight

/-- What is seen along the texts of a value. -/
def ofValue (v : Value) : Sight where
  paths := v.texts.map Segment.ofPath
  margin := v.depth

/-- What is seen along one pointer. -/
def ofPointer (p : Pointer) : Sight where
  paths := [p.segments]
  margin := 1

/-- Whether a segment names a key. -/
def names (segment : String) : Key → Bool
  | .member name => name == segment
  | .index i =>
    match Value.indexOfText segment with
    | .ok n => n == i
    | .error _ => false

/-- The rests of the paths that start at a key. -/
def onward (paths : List (List String)) (k : Key) : List (List String) :=
  paths.filterMap fun path =>
    match path with
    | segment :: rest => if names segment k then some rest else none
    | [] => none

/-- The length of the longest path. -/
def reach (s : Sight) : Nat :=
  (s.paths.map List.length).foldl max 0

end Sight

namespace Cells

/-- A part down to a depth; what lies deeper is left empty. -/
def crop (cells : Cells) : Nat → Part → Value
  | _, .leaf v => v
  | 0, .cell i =>
    match cells[i]? with
    | some (.array _) => .array []
    | some (.tuple _) => .tuple []
    | some (.object _) => .object []
    | none => .null
  | depth + 1, .cell i =>
    match cells[i]? with
    | some c => c.value fun _ p => crop cells depth p
    | none => .null

/-- A part along paths of a bounded length and down to a depth from each place on them. -/
def excerptWithin (cells : Cells) (margin : Nat) : Nat → List (List String) → Part → Value
  | 0, _, p => cells.crop margin p
  | _ + 1, _, .leaf v => v
  | reach + 1, paths, .cell i =>
    match cells[i]? with
    | some c => c.value fun k p =>
      match Sight.onward paths k with
      | [] => cells.crop margin p
      | rest => excerptWithin cells margin reach rest p
    | none => .null

/-- A part as far as it is seen. -/
def excerpt (cells : Cells) (s : Sight) (p : Part) : Value :=
  cells.excerptWithin s.margin s.reach s.paths p

/-- The value of a part, or as much of it as is seen if there is none. -/
def view (cells : Cells) (s : Sight) (p : Part) : Value :=
  (cells.read? p).getD (cells.excerpt s p)

end Cells
end Live
end JsonPatch
