import JsonPatch.Operation.Failure
import JsonPatch.Operation.Slot

/-! # Edits

What an operation does to a document once it has found its places.  An edit speaks of the value
under `value` in the descriptor without holding it, so that the same edit can be made on a
document that shares this value with the descriptor.  Only a move can fail: its target is looked
up in the document without the moved value, and if it is not there, the value stays taken out. -/

namespace JsonPatch

/-- A value to put into a document. -/
inductive Payload where
  /-- The value that the descriptor holds. -/
  | own
  /-- A value without parts, which nothing else holds. -/
  | fresh (v : Value)

/-- A change of a document. -/
inductive Edit where
  /-- Put the descriptor's value into a slot: set a member, or put an element before an index. -/
  | insert (slot : Slot)
  /-- Overwrite what is there. -/
  | assign (slot : Slot) (payload : Payload)
  /-- Take out what is there. -/
  | delete (slot : Slot)
  /-- Take out what is there and put it where the pointer then leads. -/
  | move (source : Slot) (target : Pointer)
  /-- Put a copy of what is in the first slot into the second one. -/
  | copy (source target : Slot)
  /-- Put the parts of the descriptor's value at the end of the array that is there. -/
  | extend (slot : Slot)

/-- Something that has been edited, and what went wrong. -/
structure Edited (α : Type) where
  content : α
  trouble : Option Trouble := none

/-- The value that a payload stands for, given the one that the descriptor holds. -/
def Payload.value (own : Value) : Payload → Value
  | .own => own
  | .fresh v => v

namespace Value

/-- The parts of a value: elements, characters, names of members or bytes. -/
def parts? : Value → Option (List Value)
  | .array items | .tuple items => some items
  | .string s => some (s.toList.map fun c => .string (String.singleton c))
  | .object members => some (members.map fun m => .string m.1)
  | .bytes content => some (content.map fun b => .number (.int b.toNat))
  | _ => none

/-- An array with more elements; values other than arrays stay as they are. -/
def extend (more : List Value) : Value → Value
  | .array first => .array (first ++ more)
  | .tuple first => .tuple (first ++ more)
  | v => v

end Value

/-- The document after an edit, given the value that the descriptor holds. -/
def Edit.apply (own : Value) (e : Edit) (doc : Value) : Edited Value :=
  match e with
  | .insert slot => ⟨slot.insert own doc, none⟩
  | .assign slot payload => ⟨slot.assign (payload.value own) doc, none⟩
  | .delete slot => ⟨slot.delete doc, none⟩
  | .move source target =>
    let rest := source.delete doc
    match target.insertionSlot rest with
    | .ok slot => ⟨slot.insert ((source.read? doc).getD .null) rest, none⟩
    | .error f => ⟨rest, some (Trouble.fault f).settle⟩
  | .copy source target => ⟨target.insert ((source.read? doc).getD .null) doc, none⟩
  | .extend slot => ⟨Value.modifyAt slot.place (Value.extend (own.parts?.getD [])) doc, none⟩

end JsonPatch
