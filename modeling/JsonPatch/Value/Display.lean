import JsonPatch.Value.Basic
import JsonPatch.Text.Quoted

/-! # Values in messages

Messages show a value on one line: texts in quotes, arrays in brackets, objects in braces, and
`None`, `True` and `False` for the constants. -/

namespace JsonPatch.Value

/-- Parts between two brackets, separated by a comma and a space. -/
def enclose (left right : String) (parts : List String) : String :=
  left ++ String.intercalate ", " parts ++ right

mutual

/-- The value as messages show it. -/
def display : Value → String
  | null => "None"
  | bool true => "True"
  | bool false => "False"
  | number n => n.render
  | string s => Text.quoted s
  | array items => enclose "[" "]" (displayItems items)
  | object members => enclose "\x7b" "\x7d" (displayMembers members)
  | tuple [v] => "(" ++ display v ++ ",)"
  | tuple items => enclose "(" ")" (displayItems items)
  | bytes content => Text.quotedBytes content
  | foreign type => "<" ++ type ++ ">"

/-- The values of a list as messages show them. -/
def displayItems : List Value → List String
  | [] => []
  | v :: rest => display v :: displayItems rest

/-- The members of an object as messages show them. -/
def displayMembers : Members → List String
  | [] => []
  | (name, v) :: rest => (Text.quoted name ++ ": " ++ display v) :: displayMembers rest

end

/-- A value as plain text: a text stands for itself, any other value is displayed. -/
def plain : Value → String
  | string s => s
  | v => display v

end JsonPatch.Value
