import JsonPatch.Value.Basic
import JsonPatch.Value.Members

/-! # Places inside a value

A place is a list of keys: names of members and indexes of elements.  `at?` reads the value at a
place and `modifyAt` changes it, leaving everything else as it is.  `insertAt`, `assignAt` and
`deleteAt` change one object or array at a key that has already been found fit for it. -/

namespace JsonPatch

/-- The name of a member or the index of an element. -/
inductive Key where
  | member (name : String)
  | index (i : Nat)
deriving DecidableEq, Repr

namespace Value

/-- The part of a value at one key. -/
def child? (v : Value) (k : Key) : Option Value :=
  match v, k with
  | object members, .member name => Members.find? name members
  | array items, .index i => items[i]?
  | _, _ => none

/-- Set a member, or put an element before an index. -/
def insertAt (v : Value) (k : Key) (new : Value) : Value :=
  match v, k with
  | object members, .member name => object (Members.put name new members)
  | array items, .index i => array (items.insertIdx i new)
  | _, _ => v

/-- Overwrite a member or an element. -/
def assignAt (v : Value) (k : Key) (new : Value) : Value :=
  match v, k with
  | object members, .member name => object (Members.put name new members)
  | array items, .index i => array (items.set i new)
  | _, _ => v

/-- Take out a member or an element. -/
def deleteAt (v : Value) (k : Key) : Value :=
  match v, k with
  | object members, .member name => object (Members.erase name members)
  | array items, .index i => array (items.eraseIdx i)
  | _, _ => v

/-- Change the part of a value at one key. -/
def modifyChild (k : Key) (f : Value → Value) (v : Value) : Value :=
  match v, k with
  | object members, .member name => object (Members.modify name f members)
  | array items, .index i => array (items.modify i f)
  | _, _ => v

/-- The value at a place. -/
def at? : List Key → Value → Option Value
  | [], v => some v
  | k :: place, v =>
    match v.child? k with
    | some w => at? place w
    | none => none

/-- Change the value at a place. -/
def modifyAt : List Key → (Value → Value) → Value → Value
  | [], f, v => f v
  | k :: place, f, v => modifyChild k (modifyAt place f) v

end Value
end JsonPatch
