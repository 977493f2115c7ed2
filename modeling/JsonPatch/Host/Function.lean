import JsonPatch.Host.Format
import JsonPatch.Host.Sum
import JsonPatch.Json.Reader
import JsonPatch.Predicate.Set

/-! # Functions of the host program

A host program may add operations and predicates of its own.  These are the ones that need no
more than a descriptor and a document; each has a handler or a rule that can be registered. -/

namespace JsonPatch.Host

/-- What a host program finds in a value under a name. -/
def item (v : Value) (name : String) : Except Fault Value :=
  match v with
  | .object members =>
    match Members.find? name members with
    | some v => .ok v
    | none => .error (.missingKey (.string name))
  | .array _ => wrongIndex "list indices must be integers or slices, not str"
  | .tuple _ => wrongIndex "tuple indices must be integers or slices, not str"
  | .bytes _ => wrongIndex "byte indices must be integers or slices, not str"
  | .string _ => wrongIndex "string indices must be integers, not 'str'"
  | v => wrongIndex ("'" ++ v.typeName ++ "' object is not subscriptable")
where
  /-- The fault of a value that has no members. -/
  wrongIndex (message : String) : Except Fault Value :=
    .error (.raised .type message)

/-- The path of a descriptor without its leading slashes. -/
def memberName (descriptor : Value) : Except Fault String := do
  match ← item descriptor "path" with
  | .string path => return String.ofList (path.toList.dropWhile (· == '/'))
  | .bytes _ => throw (.raised .type "a bytes-like object is required, not 'str'")
  | v => throw (.raised .attribute ("'" ++ v.typeName ++ "' object has no attribute 'lstrip'"))

/-- An operation of the host program. -/
inductive Action where
  /-- Do nothing. -/
  | nothing
  /-- Add the descriptor's value, or one, to a member of the document. -/
  | increment
  /-- Fail for a reason, at an index. -/
  | fail (message : Option String) (index : Option Int)
  /-- Raise a fault. -/
  | raise (sort : FaultSort) (message : String)

/-- The value of a descriptor, or one if it has none. -/
def amount : Value → Value
  | .object d => (Members.find? "value" d).getD (.number (.int 1))
  | _ => .number (.int 1)

/-- Add the descriptor's value, or one, to a member of the document. -/
def increment (descriptor doc : Value) : Except Fault Edit := do
  let name ← memberName descriptor
  let old ← item doc name
  let slot : Slot := { container := [], key := .member name }
  match ← add old (amount descriptor) with
  | .value v => return .assign slot (.fresh v)
  | .longer => return .extend slot

/-- What an operation says that fails without a reason: it shows its descriptor. -/
def unspecified (d : Descriptor) : Except Fault String := do
  return "operation failed: " ++ (← (d.field "op").shown) ++ " at " ++ (← (d.field "path").shown)

/-- The words of an operation that fails. An empty reason counts as none. -/
def reason (message : Option String) (descriptor : Value) : Except Fault String :=
  match message, descriptor with
  | some "", .object d | none, .object d => unspecified d
  | some "", v | none, v => .error (.noMembers v.typeName)
  | some text, _ => .ok text

/-- The trouble of an operation that fails for a reason, at an index. -/
def failure (message : Option String) (index : Option Int) (descriptor : Value) : Trouble :=
  match reason message descriptor with
  | .ok text => .failure (.custom text) index
  | .error f => .fault f

/-- The handler of an operation. -/
def Action.handler : Action → Handler
  | nothing => fun _ _ => {}
  | increment => fun d doc => { edit := ((Host.increment d doc).map some).mapError .fault }
  | fail message index => fun d _ => { edit := .error (failure message index d) }
  | raise sort message => fun _ _ => { edit := .error (.fault (.raised sort message)) }

/-- A predicate of the host program. -/
inductive Test where
  /-- Always the value of a JSON text, which is read each time. -/
  | constant (text : String)
  /-- Whether a member of the document is an even number. -/
  | even
  /-- Raise a fault. -/
  | raise (sort : FaultSort) (message : String)

/-- Whether a value leaves no rest when it is halved. A text or a byte string is taken for a
format instead, and what it gives is never zero. -/
def isEven (v : Value) : Except Fault Bool :=
  match v with
  | .string s => (Format.check .text s.toList).map fun _ => false
  | .bytes content =>
    (Format.check .bytes (content.map fun b => Char.ofNat b.toNat)).map fun _ => false
  | v =>
    match number? v with
    | some n => .ok n.isEven
    | none =>
      .error (.raised .type
        ("unsupported operand type(s) for %: '" ++ v.typeName ++ "' and 'int'"))

/-- The value of a JSON text. -/
def readConstant (text : String) : Except Fault Value :=
  (Json.read text.toList).mapError fun f => .raised .value f.message

/-- The rule of a predicate. -/
def Test.rule : Test → Rule
  | constant text => .host fun _ _ => readConstant text
  | even => .host fun d doc => do
    let name ← memberName (.object d)
    let v ← item doc name
    return .bool (← isEven v)
  | raise sort message => .host fun _ _ => .error (.raised sort message)

end JsonPatch.Host
