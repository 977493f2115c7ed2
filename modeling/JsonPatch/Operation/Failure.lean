import JsonPatch.Json.Text
import JsonPatch.Value.Members

/-! # Descriptors and failures

A descriptor names an operation under `op` and holds its arguments in the other members.  An
operation fails for one of the reasons listed in `Failure`; the message speaks of the descriptor.
What a failure says of a value has been put into words when the operation failed, since an integer
with too many digits has none: then there is a fault in place of the failure. -/

namespace JsonPatch

/-- The description of one operation. -/
abbrev Descriptor := Members

namespace Descriptor

/-- The value of a member; null if there is none. -/
def field (d : Descriptor) (name : String) : Value :=
  (Members.find? name d).getD .null

/-- The name of the operation as messages give it. -/
def opText (d : Descriptor) : String :=
  (d.field "op").plain

end Descriptor

/-- Why an operation failed. -/
inductive Failure where
  /-- A member of the descriptor is missing. -/
  | missingField (field : String)
  /-- The document itself cannot be removed. -/
  | rootRemoval
  /-- The path leads nowhere. -/
  | absentPath (path : String)
  /-- The value at the path is not the expected one. -/
  | testFailed (path : String)
  /-- The path to take a value from leads nowhere. -/
  | absentSource (path : String)
  /-- The value would be moved below itself. -/
  | intoOwnChild (path : String)
  /-- The value would be put into something that is no container. -/
  | badTarget (path : String)
  /-- A predicate is false, at a path that is shown like this. -/
  | predicateFalse (name place : String)
  /-- A fault on the way. -/
  | fault (cause : Fault)
  /-- A reason in the words of a function of the host program. -/
  | custom (message : String)

/-- The wording of a failure. -/
def Failure.message (d : Descriptor) : Failure → String
  | missingField field => d.opText ++ " requires " ++ Text.quoted field
  | rootRemoval => "cannot remove the document root"
  | absentPath path => "path does not exist: " ++ Text.quoted path
  | testFailed path => "test failed at " ++ Text.quoted path
  | absentSource path => "source does not exist: " ++ Text.quoted path
  | intoOwnChild path => "cannot move " ++ Text.quoted path ++ " into its own child"
  | badTarget path => "parent of " ++ Text.quoted path ++ " is not an object or array"
  | predicateFalse name place => "predicate " ++ Text.quoted name ++ " is false at " ++ place
  | fault cause => d.opText ++ " failed: " ++ cause.message
  | custom message => message

/-- What ends an operation early: a failure, with an index if it brings one, or a fault that has
not been made one. -/
inductive Trouble where
  | failure (cause : Failure) (index : Option Int)
  | fault (cause : Fault)

/-- A fault as the failure of the operation it happened in, if its sort makes operations fail. -/
def Trouble.settle : Trouble → Trouble
  | fault cause =>
    if cause.failsOperation then failure (.fault cause) none else fault cause
  | t => t

end JsonPatch
