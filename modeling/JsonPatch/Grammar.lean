import JsonPatch.Grammar.Violation
import JsonPatch.Value.Members

/-! # The grammar of patch documents

A patch document is an array of operations.  An operation is an object with a name under `op`;
`path`, `from` and `to` are texts, `ignore_case` is a boolean, and `apply` is an array of
operations again.  Other members are free.

* `violations` lists all violations at every depth, and `reports` has the report of each.
* `shapeViolations` asks for an array of objects with a text under `op` and for nothing else.
* `schema` states the grammar as a schema document. -/

namespace JsonPatch.Grammar

/-- The violation of a member that is there but not of a kind. -/
def kindViolation (place : List Key) (members : Members) (name : String) (kind : Kind) :
    List Violation :=
  match Members.find? name members with
  | none => []
  | some v =>
    if v.kind? = some kind then [] else [⟨place ++ [.member name], .notOfKind v kind⟩]

/-- The violation of the name of an operation. -/
def nameViolation (place : List Key) (members : Members) : List Violation :=
  match Members.find? "op" members with
  | none => [⟨place, .missingName⟩]
  | some (.string "") => [⟨place ++ [.member "op"], .emptyName⟩]
  | some (.string _) => []
  | some v => [⟨place ++ [.member "op"], .notOfKind v .string⟩]

mutual

/-- The violations in an operation at a place. -/
def operationViolations (place : List Key) : Value → List Violation
  | .object members =>
    nameViolation place members ++ kindViolation place members "path" .string ++
      kindViolation place members "from" .string ++ kindViolation place members "to" .string ++
      kindViolation place members "ignore_case" .boolean ++ nestedViolations place members
  | v => [⟨place, .notOfKind v .object⟩]

/-- The violations in the operations under `apply`. -/
def nestedViolations (place : List Key) : Members → List Violation
  | [] => []
  | (name, v) :: rest =>
    if name = "apply" then listViolations (place ++ [.member "apply"]) v
    else nestedViolations place rest

/-- The violations in a list of operations at a place. -/
def listViolations (place : List Key) : Value → List Violation
  | .array items => itemViolations place 0 items
  | v => [⟨place, .notOfKind v .array⟩]

/-- The violations in the operations of a list from an index on. -/
def itemViolations (place : List Key) (i : Nat) : List Value → List Violation
  | [] => []
  | v :: rest =>
    operationViolations (place ++ [.index i]) v ++ itemViolations place (i + 1) rest

end

/-- All violations of a patch document. -/
def violations (ops : Value) : List Violation :=
  sortByPlace (listViolations [] ops)

/-- The violation of the shape of an operation at an index. -/
def shapeViolation (i : Nat) : Value → List Violation
  | .object members =>
    match Members.find? "op" members with
    | some (.string _) => []
    | _ => [⟨[.index i], .nameNotText⟩]
  | _ => [⟨[.index i], .expectedObject⟩]

/-- The violations of the shape of operations from an index on. -/
def shapeViolationsFrom (i : Nat) : List Value → List Violation
  | [] => []
  | v :: rest => shapeViolation i v ++ shapeViolationsFrom (i + 1) rest

/-- All violations of the shape of a patch document. -/
def shapeViolations : Value → List Violation
  | .array items => shapeViolationsFrom 0 items
  | v => [⟨[], .expectedArray v.typeName⟩]

/-- The violations of a patch document, of the whole grammar or of the shape alone. -/
def check (whole : Bool) (ops : Value) : List Violation :=
  if whole then violations ops else shapeViolations ops

/-- The reports on violations. A single one that has none keeps all of them from being given. -/
def reports (violations : List Violation) : Except Fault (List String) :=
  violations.mapM Violation.message

/-- The grammar as a schema document. -/
def schema : Value :=
  let ofKind (kind : Kind) : Value := .object [("type", .string kind.name)]
  let operations : Value := .object [("$ref", .string "#/definitions/operation")]
  .object [
    ("$schema", .string "http://json-schema.org/draft-07/schema#"),
    ("$id", .string "https://jsontools.dev/schemas/patch-document.schema.json"),
    ("title", .string "JSON Patch document with JSON Predicate extensions"),
    ("type", .string Kind.array.name),
    ("items", operations),
    ("definitions", .object [
      ("operation", .object [
        ("type", .string Kind.object.name),
        ("required", .array [.string "op"]),
        ("properties", .object [
          ("op", .object [("type", .string Kind.string.name), ("minLength", .number (.int 1))]),
          ("path", ofKind .string),
          ("from", ofKind .string),
          ("to", ofKind .string),
          ("ignore_case", ofKind .boolean),
          ("apply", .object [("type", .string Kind.array.name), ("items", operations)])])])])]

end JsonPatch.Grammar
