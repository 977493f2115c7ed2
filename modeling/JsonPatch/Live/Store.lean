import JsonPatch.Live.View

/-! # Edits of shared values

A store is a document whose arrays and objects are in cells.  An edit changes the cell that the
slot leads to, and the change is seen wherever that cell is held.  A part that is put into a slot
is put there as it is, so it is shared from then on. -/

namespace JsonPatch.Live

/-- A document in cells. -/
structure Store where
  cells : Cells
  document : Part

namespace Store

/-- The document as a value, if it is one. -/
def read? (s : Store) : Option Value :=
  s.cells.read? s.document

/-- The document as far as it is seen. -/
def view (s : Store) (sight : Sight) : Value :=
  s.cells.view sight s.document

/-- The part in a slot. -/
def part (s : Store) (slot : Slot) : Part :=
  (s.cells.follow slot.place s.document).getD (.leaf .null)

/-- Change the cell at a place of the document. -/
def modifyAt (s : Store) (place : List Key) (f : Cell → Cell) : Store :=
  match s.cells.follow place s.document with
  | some (.cell i) => { s with cells := s.cells.modify i f }
  | _ => s

/-- Put a part into a slot. -/
def insert (s : Store) (slot : Slot) (new : Part) : Store :=
  s.modifyAt slot.container fun c => c.insertAt slot.key new

/-- Overwrite what is in a slot. -/
def assign (s : Store) (slot : Slot) (new : Part) : Store :=
  s.modifyAt slot.container fun c => c.assignAt slot.key new

/-- Take out what is in a slot. -/
def delete (s : Store) (slot : Slot) : Store :=
  s.modifyAt slot.container fun c => c.deleteAt slot.key

/-- Put parts at the end of the array in a slot. A frozen array gives way to a new one. -/
def extend (s : Store) (slot : Slot) (more : List Part) : Store :=
  match s.part slot with
  | .leaf _ => s
  | .cell i =>
    match s.cells[i]? with
    | some (.array items) => { s with cells := s.cells.set! i (.array (items ++ more)) }
    | some (.tuple items) =>
      { s with cells := s.cells.push (.tuple (items ++ more)) }.assign slot (.cell s.cells.size)
    | _ => s

/-- Make an edit, given the part that the descriptor holds. What leads back to itself cannot be
copied. -/
def edit (s : Store) (own : Part) : Edit → Edited Store
  | .insert slot => ⟨s.insert slot own, none⟩
  | .assign slot .own => ⟨s.assign slot own, none⟩
  | .assign slot (.fresh v) => ⟨s.assign slot (.leaf v), none⟩
  | .delete slot => ⟨s.delete slot, none⟩
  | .move source target =>
    let rest := s.delete source
    match target.insertionSlot (rest.view (.ofPointer target)) with
    | .ok slot => ⟨rest.insert slot (s.part source), none⟩
    | .error f => ⟨rest, some (Trouble.fault f).settle⟩
  | .copy source target =>
    match s.cells.copy? (s.part source) with
    | some (copied, cells) => ⟨{ s with cells }.insert target copied, none⟩
    | none => ⟨s, some (.fault .circular)⟩
  | .extend slot => ⟨s.extend slot (s.cells.parts own), none⟩

end Store
end JsonPatch.Live
