import JsonPatch.Operation.Edit

/-! # Values in cells

A value that a patch inserts is not copied: it stays tied to its descriptor, so a later change
inside it changes the descriptor too.  Here every array and every object has a *cell* of its own,
and what holds it holds the number of the cell.  One cell may be held at several places, and a
cell may even lead back to itself.

* `Cells.plant` puts a value into new cells, and `Cells.read?` takes it out again; what leads back
  to itself is no value.
* `Cells.follow` goes along a place, whatever it passes on the way.
* `Cells.copy?` puts a copy of a part into new cells; frozen arrays are shared with the copy. -/

namespace JsonPatch.Live

/-- A part of a value: a value without parts, or a cell. -/
inductive Part where
  | leaf (v : Value)
  | cell (i : Nat)
deriving Inhabited

/-- What is in a cell: an array, a frozen array or an object. -/
inductive Cell where
  | array (items : List Part)
  | tuple (items : List Part)
  | object (members : List (String × Part))
deriving Inhabited

/-- All cells, by number. -/
abbrev Cells := Array Cell

namespace Cell

/-- The part at one key. -/
def child? (c : Cell) (k : Key) : Option Part :=
  match c, k with
  | .object members, .member name => Members.find? name members
  | .array items, .index i => items[i]?
  | _, _ => none

/-- Set a member, or put an element before an index. -/
def insertAt (c : Cell) (k : Key) (new : Part) : Cell :=
  match c, k with
  | .object members, .member name => .object (Members.put name new members)
  | .array items, .index i => .array (items.insertIdx i new)
  | _, _ => c

/-- Overwrite a member or an element. -/
def assignAt (c : Cell) (k : Key) (new : Part) : Cell :=
  match c, k with
  | .object members, .member name => .object (Members.put name new members)
  | .array items, .index i => .array (items.set i new)
  | _, _ => c

/-- Take out a member or an element. -/
def deleteAt (c : Cell) (k : Key) : Cell :=
  match c, k with
  | .object members, .member name => .object (Members.erase name members)
  | .array items, .index i => .array (items.eraseIdx i)
  | _, _ => c

/-- What adding up a cell gives: its elements, or the names of its members. -/
def parts : Cell → List Part
  | .array items | .tuple items => items
  | .object members => members.map fun m => .leaf (.string m.1)

/-- The value of a cell, given the values of its parts. -/
def value (show' : Key → Part → Value) : Cell → Value
  | .array items => .array (items.mapIdx fun i p => show' (.index i) p)
  | .tuple items => .tuple (items.mapIdx fun i p => show' (.index i) p)
  | .object members => .object (members.map fun m => (m.1, show' (.member m.1) m.2))

end Cell

namespace Cells

mutual

/-- Put a value into new cells. -/
def plant : Value → Cells → Part × Cells
  | .array items, cells =>
    let (parts, cells) := plantItems items cells
    (.cell cells.size, cells.push (.array parts))
  | .tuple items, cells =>
    let (parts, cells) := plantItems items cells
    (.cell cells.size, cells.push (.tuple parts))
  | .object members, cells =>
    let (parts, cells) := plantMembers members cells
    (.cell cells.size, cells.push (.object parts))
  | v, cells => (.leaf v, cells)

/-- Put the values of a list into new cells. -/
def plantItems : List Value → Cells → List Part × Cells
  | [], cells => ([], cells)
  | v :: rest, cells =>
    let (part, cells) := plant v cells
    let (parts, cells) := plantItems rest cells
    (part :: parts, cells)

/-- Put the values of members into new cells. -/
def plantMembers : Members → Cells → List (String × Part) × Cells
  | [], cells => ([], cells)
  | (name, v) :: rest, cells =>
    let (part, cells) := plant v cells
    let (parts, cells) := plantMembers rest cells
    ((name, part) :: parts, cells)

end

/-- The value of a part of which no chain of cells is longer than the given depth. -/
def readWithin (cells : Cells) : Nat → Part → Option Value
  | _, .leaf v => some v
  | 0, .cell _ => none
  | depth + 1, .cell i =>
    match cells[i]? with
    | some (.array items) => (items.mapM (readWithin cells depth)).map .array
    | some (.tuple items) => (items.mapM (readWithin cells depth)).map .tuple
    | some (.object members) =>
      (members.mapM fun m => (readWithin cells depth m.2).map fun v => (m.1, v)).map .object
    | none => none

/-- The value of a part; none if it leads back to itself. A chain of cells without a repetition is
no longer than the number of cells. -/
def read? (cells : Cells) (p : Part) : Option Value :=
  readWithin cells cells.size p

/-- The part at one key of a part. -/
def child? (cells : Cells) (p : Part) (k : Key) : Option Part :=
  match p with
  | .leaf _ => none
  | .cell i => cells[i]?.bind fun c => c.child? k

/-- The part at a place. -/
def follow (cells : Cells) : List Key → Part → Option Part
  | [], p => some p
  | k :: place, p => (cells.child? p k).bind (follow cells place)

/-- The parts of a part, as shared ones. -/
def parts (cells : Cells) : Part → List Part
  | .leaf v => (v.parts?.getD []).map .leaf
  | .cell i => (cells[i]?.map Cell.parts).getD []

/-- Copy the parts of a list, one after the other. -/
def copyItems (copy : Part → Cells → Option (Part × Cells)) :
    List Part → Cells → Option (List Part × Cells)
  | [], cells => some ([], cells)
  | p :: rest, cells =>
    match copy p cells with
    | none => none
    | some (part, cells) =>
      (copyItems copy rest cells).map fun (parts, cells) => (part :: parts, cells)

/-- A copy of a part of which no chain of cells is longer than the given depth. -/
def copyWithin : Nat → Part → Cells → Option (Part × Cells)
  | _, .leaf v, cells => some (.leaf v, cells)
  | 0, .cell _, _ => none
  | depth + 1, .cell i, cells =>
    match cells[i]? with
    | some (.array items) =>
      (copyItems (copyWithin depth) items cells).map fun (parts, cells) =>
        (.cell cells.size, cells.push (.array parts))
    | some (.object members) =>
      (copyItems (copyWithin depth) (members.map (·.2)) cells).map fun (parts, cells) =>
        (.cell cells.size, cells.push (.object ((Members.names members).zip parts)))
    | _ => some (.cell i, cells)

/-- Put a copy of a part into new cells; there is none of what leads back to itself. -/
def copy? (cells : Cells) (p : Part) : Option (Part × Cells) :=
  copyWithin cells.size p cells

end Cells
end JsonPatch.Live
