/-! # Ordered members

The members of an object are a list of names and values.  A name is looked up at its first
place; writing a member keeps its place, and a new member comes last. -/

namespace JsonPatch.Members

variable {α : Type}

/-- The value of a member. -/
def find? (name : String) : List (String × α) → Option α
  | [] => none
  | (n, v) :: rest => if n = name then some v else find? name rest

/-- Whether there is a member of the name. -/
def has (name : String) (members : List (String × α)) : Bool :=
  (find? name members).isSome

/-- Set the value of a member: in its place if there is one, else as the last member. -/
def put (name : String) (value : α) : List (String × α) → List (String × α)
  | [] => [(name, value)]
  | (n, v) :: rest => if n = name then (n, value) :: rest else (n, v) :: put name value rest

/-- Change the value of a member if there is one. -/
def modify (name : String) (f : α → α) : List (String × α) → List (String × α)
  | [] => []
  | (n, v) :: rest => if n = name then (n, f v) :: rest else (n, v) :: modify name f rest

/-- Take a member out. -/
def erase (name : String) : List (String × α) → List (String × α)
  | [] => []
  | (n, v) :: rest => if n = name then rest else (n, v) :: erase name rest

/-- The names of the members, in order. -/
def names (members : List (String × α)) : List String :=
  members.map (·.1)

end JsonPatch.Members
