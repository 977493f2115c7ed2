import JsonPatch.Operation.Basic

/-! # Registries

A registry maps the names of operations to their handlers.  Registering under a name that is
taken replaces the handler. -/

namespace JsonPatch

/-- Handlers by name. -/
structure Registry where
  handlers : List (String × Handler)

namespace Registry

/-- The registry without operations. -/
def empty : Registry := ⟨[]⟩

/-- The registry of the core operations. -/
def core : Registry := ⟨Operation.core⟩

/-- The handler of a name. -/
def get? (r : Registry) (name : Value) : Option Handler :=
  match name with
  | .string s => Members.find? s r.handlers
  | _ => none

/-- Whether a name is registered; a value that cannot be looked up is a fault. -/
def contains (r : Registry) (name : Value) : Except Fault Bool :=
  match name.unhashable? with
  | some type => .error (.unhashable type)
  | none => .ok (r.get? name).isSome

/-- Register a handler. The name must be a text that is not empty, and there must be a handler:
`none` stands for a value that cannot be called. -/
def register (r : Registry) (name : Value) (handler : Option Handler) : Except Fault Registry :=
  match name, handler with
  | .string "", _ => badName
  | .string s, some h => .ok ⟨Members.put s h r.handlers⟩
  | .string s, none =>
    .error (.raised .type ("handler for " ++ Text.quoted s ++ " is not callable"))
  | _, _ => badName
where
  /-- The fault for a value that names no operation. -/
  badName : Except Fault Registry :=
    .error (.raised .value "operation name must be a non-empty string")

/-- The handlers of both registries; those of the second one come first where both have a name. -/
def merge (r s : Registry) : Registry :=
  ⟨s.handlers.foldl (fun merged h => Members.put h.1 h.2 merged) r.handlers⟩

/-- The names in ascending order. -/
def names (r : Registry) : List String :=
  (Members.names r.handlers).mergeSort (fun a b => decide (a ≤ b))

end Registry
end JsonPatch
