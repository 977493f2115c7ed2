import JsonPatch.Fault
import JsonPatch.Value.Members

/-! # Equality of JSON values

Two JSON values are equal if they have the same shape and equal leaves: arrays element by
element, objects member by member in any order, numbers by exact value.  A boolean never equals
a number.  Other values cannot be compared. -/

namespace JsonPatch.Value

/-- The kind of a JSON value; any other value is a fault. -/
def kind (v : Value) : Except Fault Kind :=
  match v.kind? with
  | some k => .ok k
  | none => .error (.notJson v.typeName)

/-- Whether two objects have the same names. -/
def sameNames (l r : Members) : Bool :=
  l.all (fun m => Members.has m.1 r) && r.all (fun m => Members.has m.1 l)

/-- Equality of two leaves, or of values of different kinds. -/
def equalLeaves : Value → Value → Bool
  | null, null => true
  | bool a, bool b => a == b
  | number m, number n => m.eq n
  | string s, string t => s == t
  | _, _ => false

mutual

/-- Whether two JSON values are equal. -/
def equals : Value → Value → Except Fault Bool
  | object l, object r => if sameNames l r then equalMembers l r else .ok false
  | array l, array r => if l.length = r.length then equalItems l r else .ok false
  | l, r =>
    match kind l, kind r with
    | .error f, _ => .error f
    | _, .error f => .error f
    | .ok _, .ok _ => .ok (equalLeaves l r)

/-- Whether all members of one object have an equal member in another. -/
def equalMembers : Members → Members → Except Fault Bool
  | [], _ => .ok true
  | (name, v) :: rest, r =>
    match equals v ((Members.find? name r).getD null) with
    | .ok true => equalMembers rest r
    | answer => answer

/-- Whether two arrays have equal elements. -/
def equalItems : List Value → List Value → Except Fault Bool
  | a :: l, b :: r =>
    match equals a b with
    | .ok true => equalItems l r
    | answer => answer
  | _, _ => .ok true

end

end JsonPatch.Value
