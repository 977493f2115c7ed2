import JsonPatch.Number

/-! # Values

A JSON document is a tree of objects and arrays with scalars at the leaves.  The members of an
object keep their order.  Beside the JSON values the type holds what else a host program may
hand over (frozen arrays, byte strings, its own objects): the operations pass such values on
but never look inside.  `Value.IsJson` singles out the trees without them. -/

namespace JsonPatch

/-- A JSON value, or a value of the host program that is not one. -/
inductive Value where
  | null
  | bool (b : Bool)
  | number (n : Number)
  | string (s : String)
  | array (items : List Value)
  | object (members : List (String × Value))
  /-- A sequence of the host program that cannot be changed. -/
  | tuple (items : List Value)
  /-- A byte string of the host program. -/
  | bytes (content : List UInt8)
  /-- Any other value of the host program, known by the name of its type. -/
  | foreign (type : String)
deriving Repr, Inhabited

/-- The members of an object, in order. -/
abbrev Members := List (String × Value)

/-- The six kinds of JSON values. -/
inductive Kind where
  | object
  | array
  | string
  | number
  | boolean
  | null
deriving DecidableEq, Repr

namespace Kind

/-- The name of a kind. -/
def name : Kind → String
  | object => "object"
  | array => "array"
  | string => "string"
  | number => "number"
  | boolean => "boolean"
  | null => "null"

/-- All kinds. -/
def all : List Kind := [object, array, string, number, boolean, null]

end Kind

namespace Value

/-- The kind of a JSON value; other values have none. -/
def kind? : Value → Option Kind
  | null => some .null
  | bool _ => some .boolean
  | number _ => some .number
  | string _ => some .string
  | array _ => some .array
  | object _ => some .object
  | tuple _ | bytes _ | foreign _ => none

/-- The name of the host type that a value has, as error messages give it. -/
def typeName : Value → String
  | null => "NoneType"
  | bool _ => "bool"
  | number (.int _) => "int"
  | number (.double _) => "float"
  | string _ => "str"
  | array _ => "list"
  | object _ => "dict"
  | tuple _ => "tuple"
  | bytes _ => "bytes"
  | foreign type => type

/-- Whether the value is an object or an array. -/
def isContainer : Value → Bool
  | array _ | object _ => true
  | _ => false

/-- Whether the value counts as true: zero, empty and null values do not. -/
def isTruthy : Value → Bool
  | null => false
  | bool b => b
  | number n => n.isNonzero
  | string s => !s.isEmpty
  | array items | tuple items => !items.isEmpty
  | object members => !members.isEmpty
  | bytes content => !content.isEmpty
  | foreign _ => true

mutual

/-- The type name of the array or object that keeps a value from being looked up in a table. -/
def unhashable? : Value → Option String
  | array _ => some "list"
  | object _ => some "dict"
  | tuple items => unhashableItem? items
  | _ => none

/-- The first such type name among the values of a list. -/
def unhashableItem? : List Value → Option String
  | [] => none
  | v :: rest => (unhashable? v).or (unhashableItem? rest)

end

mutual

/-- Whether the value is a JSON value through and through. -/
def isJson : Value → Bool
  | array items => isJsonItems items
  | object members => isJsonMembers members
  | tuple _ | bytes _ | foreign _ => false
  | _ => true

/-- Whether all values of a list are JSON values. -/
def isJsonItems : List Value → Bool
  | [] => true
  | v :: rest => isJson v && isJsonItems rest

/-- Whether all members hold JSON values. -/
def isJsonMembers : Members → Bool
  | [] => true
  | (_, v) :: rest => isJson v && isJsonMembers rest

end

/-- A tree of JSON values only. -/
def IsJson (v : Value) : Prop := v.isJson = true

instance (v : Value) : Decidable v.IsJson :=
  inferInstanceAs (Decidable (v.isJson = true))

end Value
end JsonPatch
