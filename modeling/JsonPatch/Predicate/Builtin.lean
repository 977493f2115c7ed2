import JsonPatch.Pattern.Match
import JsonPatch.Pointer.Basic
import JsonPatch.Text.Case

/-! # Built-in predicates

A predicate looks at the value that the descriptor's path leads to.  Where the path leads nowhere,
or the value or the argument has the wrong kind, it is false; only `type` and `undefined` hold of
absent values.  A missing path, a path that is no text and the like are faults. -/

namespace JsonPatch.Predicate

/-- A test of a document by a descriptor. -/
abbrev Test := Members → Value → Except Fault Bool

/-- The pointer under `path`, which must be there. -/
def pointerOf (d : Members) : Except Fault Pointer :=
  match Members.find? "path" d with
  | some path => Pointer.parse path
  | none => .error (.missingKey (.string "path"))

/-- The value at the path, if the path leads anywhere. -/
def target? (d : Members) (doc : Value) : Except Fault (Option Value) :=
  match pointerOf d with
  | .error f => .error f
  | .ok p =>
    match p.leads doc with
    | .error f => .error f
    | .ok false => .ok none
    | .ok true => (p.value doc).map some

/-- A member of a descriptor; null if there is none. -/
def argument (d : Members) (name : String) : Value :=
  (Members.find? name d).getD .null

/-- Whether the descriptor asks to ignore case. -/
def ignoresCase (d : Members) : Bool :=
  (argument d "ignore_case").isTruthy

/-- Compare two texts, in upper case if case is ignored. -/
def compareTexts (compare : List Char → List Char → Bool) : Test := fun d doc =>
  (target? d doc).map fun found =>
    match found, argument d "value" with
    | some (.string text), .string expected =>
      if ignoresCase d then
        compare (Text.uppercase text.toList) (Text.uppercase expected.toList)
      else compare text.toList expected.toList
    | _, _ => false

/-- Compare two numbers. -/
def compareNumbers (compare : Number → Number → Bool) : Test := fun d doc =>
  (target? d doc).map fun found =>
    match found, argument d "value" with
    | some (.number n), .number expected => compare n expected
    | _, _ => false

/-- Whether a text occurs inside another one. -/
def occursIn (part : List Char) : List Char → Bool
  | [] => part.isEmpty
  | c :: rest => part.isPrefixOf (c :: rest) || occursIn part rest

/-- The text at the path contains the given one. -/
def contains : Test := compareTexts fun text part => occursIn part text

/-- The text at the path starts with the given one. -/
def starts : Test := compareTexts fun text part => part.isPrefixOf text

/-- The text at the path ends with the given one. -/
def ends : Test := compareTexts fun text part => part.isSuffixOf text

/-- The number at the path is less than the given one. -/
def less : Test := compareNumbers fun n bound => n.lt bound

/-- The number at the path is more than the given one. -/
def more : Test := compareNumbers fun n bound => bound.lt n

/-- The pattern matches somewhere in the text at the path. -/
def matchesPattern : Test := fun d doc =>
  match target? d doc with
  | .error f => .error f
  | .ok found =>
    match found, argument d "value" with
    | some (.string text), .string pattern =>
      (Pattern.search pattern text (ignoresCase d)).mapError .pattern
    | _, _ => .ok false

/-- The path leads somewhere. -/
def defined : Test := fun d doc =>
  match pointerOf d with
  | .ok p => p.leads doc
  | .error f => .error f

/-- The path leads nowhere. -/
def undefined : Test := fun d doc =>
  (defined d doc).map (!·)

/-- The name of the kind of absent values. -/
def absentKind : String := "undefined"

/-- The value at the path is of the kind with the given name. -/
def hasType : Test := fun d doc =>
  match target? d doc with
  | .error f => .error f
  | .ok none =>
    .ok (match argument d "value" with
      | .string name => name == absentKind
      | _ => false)
  | .ok (some v) =>
    match argument d "value" with
    | .string name =>
      if Kind.all.any fun k => k.name == name then
        match v.kind? with
        | some k => .ok (k.name == name)
        | none => .error (.notJson v.typeName)
      else .ok false
    | expected =>
      match expected.unhashable? with
      | some type => .error (.unhashable type)
      | none => .ok false

/-- The built-in predicates that look at a value, by name. -/
def tests : List (String × Test) := [
  ("contains", contains),
  ("defined", defined),
  ("ends", ends),
  ("less", less),
  ("matches", matchesPattern),
  ("more", more),
  ("starts", starts),
  ("type", hasType),
  ("undefined", undefined)]

end JsonPatch.Predicate
