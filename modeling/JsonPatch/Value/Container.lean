import JsonPatch.Value.Index
import JsonPatch.Value.Path

/-! # Containers

Reading and changing one object or array by a key that may or may not fit.  Objects take the
names of their members, arrays take indexes, and other values have no keys at all.
`existingKey` and `insertionKey` settle which place a key names, or refuse it; the operations
act on that place. -/

namespace JsonPatch.Value

/-- The token that stands for the place after the last element of an array. -/
def appendMarker : String := "-"

/-- The place that a key names among those that are there. -/
def existingKey (c key : Value) : Except Fault Key :=
  match c, key with
  | object members, string name =>
    if Members.has name members then .ok (.member name) else .error (.missingKey key)
  | array items, _ => (indexBelow items.length key).map .index
  | _, _ => .error (.missingKey key)

/-- The place that a key names for a new value: any member, an index of the array, or its end. -/
def insertionKey (c key : Value) : Except Fault Key :=
  match c, key with
  | object _, string name => .ok (.member name)
  | array items, string token =>
    if token = appendMarker then .ok (.index items.length)
    else (indexBelow (items.length + 1) key).map .index
  | array items, _ => (indexBelow (items.length + 1) key).map .index
  | _, _ => .error (.missingKey key)

/-- The value at a key. -/
def get (c key : Value) : Except Fault Value :=
  (existingKey c key).map fun k => (c.child? k).getD null

/-- Whether there is a value at a key. A number with too many digits is a fault, not an absence. -/
def contains (c key : Value) : Except Fault Bool :=
  match existingKey c key with
  | .ok _ => .ok true
  | .error (.missingKey _) => .ok false
  | .error f => .error f

/-- Set a member of an object, or insert into an array before an index or at the end. -/
def insert (c key new : Value) : Except Fault Value :=
  (insertionKey c key).map fun k => c.insertAt k new

/-- Overwrite the value at a key that is there. -/
def assign (c key new : Value) : Except Fault Value :=
  (existingKey c key).map fun k => c.assignAt k new

/-- Take out the value at a key that is there: that value, and the container without it. -/
def delete (c key : Value) : Except Fault (Value × Value) :=
  (existingKey c key).map fun k => ((c.child? k).getD null, c.deleteAt k)

end JsonPatch.Value
