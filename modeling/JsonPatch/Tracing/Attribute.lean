import JsonPatch.Value.Basic
import JsonPatch.Value.Members

/-! # Attributes of spans and services

An attribute is any value with a name.  Members without a name are left out at every depth, and a
span keeps only so many attributes, the latest ones. -/

namespace JsonPatch.Tracing.Attribute

mutual

/-- A value without the members that have no name. -/
def named : Value → Value
  | .array items => .array (namedItems items)
  | .object members => .object (namedMembers members)
  | v => v

/-- Values without the members that have no name. -/
def namedItems : List Value → List Value
  | [] => []
  | v :: rest => named v :: namedItems rest

/-- The members with a name. -/
def namedMembers : Members → Members
  | [] => []
  | (name, v) :: rest =>
    if name = "" then namedMembers rest else (name, named v) :: namedMembers rest

end

/-- The number of attributes that a span keeps. -/
def limit : Nat := 128

/-- The attributes that a span keeps of those it is given. -/
def kept (attributes : Members) : Members :=
  let all := namedMembers attributes
  all.drop (all.length - limit)

/-- A truth value as a number. -/
def asNumber? : Value → Option Number
  | .number n => some n
  | .bool b => some (.int (if b then 1 else 0))
  | _ => none

mutual

/-- Whether an attribute that has been stored is the one that a value would give. A truth value
counts as a number here, and lists, which are stored in another form, are never the same. -/
def isSame : Value → Value → Bool
  | .null, .null => true
  | .string s, .string t => s == t
  | .object l, .object r => l.length == r.length && isSameMembers l r
  | v, w =>
    match asNumber? v, asNumber? w with
    | some m, some n => m.eq n
    | _, _ => false

/-- Whether all members of one object have the same value in another. -/
def isSameMembers : Members → Members → Bool
  | [], _ => true
  | (name, v) :: rest, r =>
    (match Members.find? name r with
      | some w => isSame v w
      | none => false) && isSameMembers rest r

end

end JsonPatch.Tracing.Attribute
