import JsonPatch.Operation.Edit
import JsonPatch.Value.Equal

/-! # Operations

An operation looks at a descriptor and a document and says what is to be done: an edit, or the
trouble that keeps it from being made.  It never changes anything itself, so trouble leaves the
document as it was, unless the edit is a move that fails halfway. -/

namespace JsonPatch

/-- A predicate that a fault made false. -/
structure Note where
  predicate : String
  fault : Fault

/-- What an operation is going to do. -/
structure Plan where
  /-- The change of the document, or what keeps it from being made. -/
  edit : Except Trouble (Option Edit) := .ok none
  /-- The predicates that faults made false on the way. -/
  notes : List Note := []

/-- An operation plans what a descriptor asks for in a document. In a patch all descriptors are
objects; a handler that is called by itself may be given any value. -/
abbrev Handler := Value → Value → Plan

/-- The handler of an operation that asks its descriptor for members. -/
def Handler.ofObject (plan : Descriptor → Value → Plan) : Handler
  | .object d, doc => plan d doc
  | v, _ => { edit := .error (.fault (.noMembers v.typeName)) }

namespace Plan

/-- What becomes of something when the plan is carried out, given what an edit makes of it. -/
def carryOut {α : Type} (p : Plan) (unchanged : α) (change : Edit → Edited α) : Edited α :=
  match p.edit with
  | .ok (some e) => change e
  | .ok none => ⟨unchanged, none⟩
  | .error trouble => ⟨unchanged, some trouble⟩

/-- The plan with a fault made a failure of the operation. -/
def settle (p : Plan) : Plan :=
  { p with edit := p.edit.mapError Trouble.settle }

end Plan

namespace Operation

/-- A step of planning: a value or trouble. -/
abbrev Step (α : Type) := Except Trouble α

/-- A step that may meet a fault. -/
def ofFault {α : Type} (r : Except Fault α) : Step α :=
  r.mapError .fault

/-- Fail for a reason. -/
def fail {α : Type} (cause : Failure) : Step α :=
  .error (.failure cause none)

/-- The pointer under a member of the descriptor. -/
def pointerOf (d : Descriptor) (field : String) : Step Pointer :=
  match Members.find? field d with
  | none => fail (.missingField field)
  | some v => ofFault (Pointer.parse v)

/-- The value that the descriptor holds. -/
def valueOf (d : Descriptor) : Step Value :=
  match Members.find? "value" d with
  | none => fail (.missingField "value")
  | some v => .ok v

/-- Put the descriptor's value where the path leads; a member that is there is overwritten. -/
def add (d : Descriptor) (doc : Value) : Step (Option Edit) := do
  let p ← pointerOf d "path"
  let _ ← valueOf d
  let slot ← ofFault (p.insertionSlot doc)
  return some (.insert slot)

/-- Take out what is at the path; nothing has to be there. -/
def remove (d : Descriptor) (doc : Value) : Step (Option Edit) := do
  let p ← pointerOf d "path"
  if p.isRoot then fail .rootRemoval
  else
    let slot ← ofFault (p.existingSlot? doc)
    return slot.map .delete

/-- Overwrite what is at the path, which must lead somewhere. -/
def replace (d : Descriptor) (doc : Value) : Step (Option Edit) := do
  let p ← pointerOf d "path"
  let _ ← valueOf d
  match ← ofFault (p.existingSlot? doc) with
  | some slot => return some (.assign slot .own)
  | none => fail (.absentPath p.path)

/-- Compare what is at the path with the descriptor's value. -/
def test (d : Descriptor) (doc : Value) : Step (Option Edit) := do
  let p ← pointerOf d "path"
  let expected ← valueOf d
  if !(← ofFault (p.leads doc)) then fail (.absentPath p.path)
  else
    let actual ← ofFault (p.value doc)
    if ← ofFault (actual.equals expected) then return none
    else fail (.testFailed p.path)

/-- The pointer to the place that takes a moved or copied value: `path`, or else `to`. -/
def targetOf (d : Descriptor) : Step Pointer :=
  pointerOf d (if Members.has "path" d || !Members.has "to" d then "path" else "to")

/-- Whether a path goes on below another one, as texts. -/
def goesBelow (target source : String) : Bool :=
  (source.toList ++ ['/']).isPrefixOf target.toList

/-- The slot of the value to be moved or copied, and the pointer to the place that takes it. The
place must have a container before anything is taken out. -/
def transfer (d : Descriptor) (doc : Value) (moves : Bool) : Step (Slot × Pointer) := do
  let source ← pointerOf d "from"
  let target ← targetOf d
  match ← ofFault (source.existingSlot? doc) with
  | none => fail (.absentSource source.path)
  | some slot =>
    if moves && goesBelow target.path source.path then fail (.intoOwnChild source.path)
    else
      let c ← ofFault (target.parent doc)
      if c.isContainer then return (slot, target)
      else fail (.badTarget target.path)

/-- Put a copy of what is at `from` where the path leads. -/
def copy (d : Descriptor) (doc : Value) : Step (Option Edit) := do
  let (slot, target) ← transfer d doc false
  let place ← ofFault (target.insertionSlot doc)
  return some (.copy slot place)

/-- Take out what is at `from`, then put it where the path leads in the rest of the document. If
it leads nowhere there, the value has been taken out all the same. -/
def move (d : Descriptor) (doc : Value) : Step (Option Edit) := do
  let (slot, target) ← transfer d doc true
  return some (.move slot target)

/-- The handler of an operation, whose faults are failures. -/
def handler (operation : Descriptor → Value → Step (Option Edit)) : Handler :=
  Handler.ofObject fun d doc => Plan.settle { edit := operation d doc }

/-- The operations of the core, by name. -/
def core : List (String × Handler) := [
  ("add", handler add),
  ("remove", handler remove),
  ("replace", handler replace),
  ("move", handler move),
  ("copy", handler copy),
  ("test", handler test)]

end Operation
end JsonPatch
