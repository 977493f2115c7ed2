import JsonPatch.Pointer.Basic

/-! # Slots

A slot is a key inside the container at a place of a document.  `insertionSlot` and
`existingSlot?` find the slots that a pointer leads to; reading and changing a slot never fails. -/

namespace JsonPatch

/-- A key inside the container at a place. -/
structure Slot where
  container : List Key
  key : Key
deriving DecidableEq, Repr

namespace Slot

/-- The place of what is in a slot. -/
def place (s : Slot) : List Key :=
  s.container ++ [s.key]

/-- The value in a slot. -/
def read? (s : Slot) (doc : Value) : Option Value :=
  Value.at? s.place doc

/-- The document after a value has been put into a slot. -/
def insert (s : Slot) (new : Value) (doc : Value) : Value :=
  Value.modifyAt s.container (fun c => c.insertAt s.key new) doc

/-- The document after the value in a slot has been overwritten. -/
def assign (s : Slot) (new : Value) (doc : Value) : Value :=
  Value.modifyAt s.container (fun c => c.assignAt s.key new) doc

/-- The document after the value in a slot has been taken out. -/
def delete (s : Slot) (doc : Value) : Value :=
  Value.modifyAt s.container (fun c => c.deleteAt s.key) doc

end Slot

namespace Pointer

/-- The slot at which a pointer would put a new value. -/
def insertionSlot (p : Pointer) (doc : Value) : Except Fault Slot :=
  match p.parent doc with
  | .error f => .error f
  | .ok c =>
    if c.isContainer then
      (c.insertionKey (.string (p.last.getD ""))).map fun key =>
        { container := p.parentPlace doc, key }
    else .error (.pointer (.noContainer p.path) (some p.path))

/-- The slot that a pointer leads to, if it leads anywhere but to the document itself. -/
def existingSlot? (p : Pointer) (doc : Value) : Except Fault (Option Slot) :=
  (p.locate doc).map fun place =>
    place.key.map fun key => { container := p.parentPlace doc, key }

end Pointer
end JsonPatch
