import JsonPatch.Json.Fault
import JsonPatch.Json.Utf8
import JsonPatch.Value.Display

/-! # Faults

What can go wrong inside an operation or a predicate, one constructor for each cause.  The sort
of a fault decides what becomes of it: the faults of an operation make it fail, those of a
predicate make it false, and the others stop the run.  `Fault.message` has the wording. -/

namespace JsonPatch

/-- What keeps a pointer from being followed. -/
inductive PointerFault where
  /-- The pointer is no text but a value of this type. -/
  | notText (type : String)
  /-- The path neither is empty nor starts with a slash. -/
  | malformed (path : String)
  /-- The document itself lies in no container. -/
  | rootParent
  /-- The key, which is shown like this, is no array index. -/
  | badIndex (key : String)
  /-- The index lies beyond the array. -/
  | outOfRange (key : String)
  /-- A value of this type has no parts. -/
  | notIndexable (type key : String)
  /-- The path goes on below a value of this type. -/
  | dead (type : String) (segment : String)
  /-- The last container of the path is neither object nor array. -/
  | noContainer (path : String)
  /-- Nothing is there. -/
  | absent (path : String)

/-- The wording of a pointer fault. -/
def PointerFault.message : PointerFault → String
  | notText type => "pointer must be a string, got " ++ type
  | malformed path => "invalid JSON Pointer (must start with '/'): " ++ Text.quoted path
  | rootParent => "the document root has no parent"
  | badIndex key => "invalid array index: " ++ key
  | outOfRange key => "array index out of range: " ++ key
  | notIndexable type key => "cannot index into " ++ type ++ " with " ++ key
  | dead type segment => "cannot descend into " ++ type ++ " at " ++ Text.quoted segment
  | noContainer path => "parent of " ++ Text.quoted path ++ " is not an object or array"
  | absent path => "path does not exist: " ++ Text.quoted path

/-- The sorts of faults. -/
inductive FaultSort where
  | pointer
  | key
  | index
  | type
  | value
  | pattern
  | range
  | library
  | runtime
  | attribute
  | system
deriving DecidableEq, Repr

/-- What can go wrong inside an operation or a predicate. -/
inductive Fault where
  /-- A pointer that cannot be followed, and the path it has, if known. -/
  | pointer (cause : PointerFault) (path : Option String)
  /-- A key that is not there. -/
  | missingKey (key : Value)
  /-- A number with too many decimal digits. -/
  | longNumber (digits : Nat)
  /-- An integer that has too many decimal digits to be written. -/
  | hugeInteger
  /-- A value that leads back to itself. -/
  | circular
  /-- A value of this type, which is no JSON value. -/
  | notJson (type : String)
  /-- A value of this type, which cannot be looked up in a table. -/
  | unhashable (type : String)
  /-- A value of this type, which has no members to ask for. -/
  | noMembers (type : String)
  /-- A value of this type, which cannot name a file. -/
  | notFileName (type : String)
  /-- A value of this type, which cannot be read as JSON text. -/
  | notJsonText (type : String)
  /-- A text that is no pattern. -/
  | pattern (cause : Pattern.Fault)
  /-- A fault of a function that the host program added. -/
  | raised (sort : FaultSort) (message : String)

namespace Fault

/-- The sort of a fault. -/
def sort : Fault → FaultSort
  | pointer .. => .pointer
  | missingKey _ => .key
  | longNumber _ | hugeInteger | circular => .value
  | notJson _ | unhashable _ | notFileName _ | notJsonText _ => .type
  | pattern cause =>
    match cause.sort with
    | .mistake => .pattern
    | .value => .value
    | .range => .range
    | .runtime => .runtime
    | .system => .system
  | noMembers _ => .attribute
  | raised sort _ => sort

/-- The wording of a fault. A missing key is shown as a value. -/
def message : Fault → String
  | pointer cause _ => cause.message
  | missingKey key => key.display
  | longNumber digits => Pattern.tooManyDigits (some digits)
  | hugeInteger => Pattern.tooManyDigits none
  | circular => "Circular reference detected"
  | notJson type => "not a JSON value: " ++ type
  | unhashable type => "unhashable type: " ++ Text.quoted type
  | noMembers type => "'" ++ type ++ "' object has no attribute 'get'"
  | notFileName type => "expected str, bytes or os.PathLike object, not " ++ type
  | notJsonText type => "the JSON object must be str, bytes or bytearray, not " ++ type
  | pattern cause => cause.message
  | raised .key text => Text.quoted text
  | raised _ text => text

/-- Whether the fault makes an operation fail. -/
def failsOperation (f : Fault) : Bool :=
  match f.sort with
  | .pointer | .key | .index | .type | .value => true
  | _ => false

/-- Whether the fault makes a predicate false. -/
def falsifiesPredicate (f : Fault) : Bool :=
  match f.sort with
  | .range | .runtime | .attribute | .system => false
  | _ => true

end Fault
end JsonPatch
