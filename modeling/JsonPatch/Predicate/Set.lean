import JsonPatch.Operation.Registry
import JsonPatch.Predicate.Builtin

/-! # Predicate sets

A predicate set maps names to rules: tests of a value, combinators over other descriptors, and
functions of the host program.  Evaluating a descriptor looks its name up; a fault on the way
makes the predicate false and leaves a note, so `and`, `or` and `not` are plain boolean algebra.
`not` is true if none of the nested descriptors is.

Every predicate is also an operation, which fails when the predicate is false. -/

namespace JsonPatch

/-- What a combinator asks of the nested descriptors. -/
inductive Quantifier where
  | all
  | any
  | none
deriving DecidableEq, Repr

/-- How a predicate is evaluated. -/
inductive Rule where
  /-- A built-in test. -/
  | test (f : Predicate.Test)
  /-- A combinator over the descriptors under `apply`. -/
  | combine (q : Quantifier)
  /-- A function of the host program; its result counts as true or false. -/
  | host (f : Members → Value → Except Fault Value)

/-- The answer of an evaluation and the notes on the faults met, in order. -/
structure Verdict where
  answer : Except Fault Bool
  notes : List Note

namespace Verdict

/-- An answer without faults on the way. -/
def of (answer : Except Fault Bool) : Verdict := ⟨answer, []⟩

/-- The same verdict after some notes. -/
def after (notes : List Note) (v : Verdict) : Verdict := ⟨v.answer, notes ++ v.notes⟩

/-- The opposite answer. -/
def negate (v : Verdict) : Verdict := ⟨v.answer.map (!·), v.notes⟩

/-- The verdict on a predicate: a fault that does not stop the run makes it false. -/
def conclude (name : String) (v : Verdict) : Verdict :=
  match v.answer with
  | .ok _ => v
  | .error f =>
    if f.falsifiesPredicate then ⟨.ok false, v.notes ++ [⟨name, f⟩]⟩ else v

end Verdict

/-- Rules by name. -/
abbrev Rules := List (String × Rule)

namespace Rules

mutual

/-- Evaluate a descriptor against a document. What is no object, or has no known name, is false. -/
def judge (rules : Rules) (doc : Value) : Value → Verdict
  | .object members =>
    match Members.find? "op" members with
    | some (.string name) =>
      match Members.find? name rules with
      | some (.test f) => (Verdict.of (f members doc)).conclude name
      | some (.host f) =>
        (Verdict.of ((f members doc).map Value.isTruthy)).conclude name
      | some (.combine q) => (judgeApply rules doc q members).conclude name
      | none => .of (.ok false)
    | _ => .of (.ok false)
  | _ => .of (.ok false)

/-- Evaluate a combinator on the descriptors under `apply`. -/
def judgeApply (rules : Rules) (doc : Value) (q : Quantifier) : Members → Verdict
  | [] => .of (.ok false)
  | (name, v) :: rest =>
    if name = "apply" then judgeNested rules doc q v else judgeApply rules doc q rest

/-- Evaluate a combinator on a value that should be a list of descriptors. -/
def judgeNested (rules : Rules) (doc : Value) (q : Quantifier) : Value → Verdict
  | .array items =>
    match q with
    | .all => judgeAll rules doc items
    | .any => judgeAny rules doc items
    | .none => (judgeAny rules doc items).negate
  | _ => .of (.ok false)

/-- Whether all descriptors are true; the first false one settles it. -/
def judgeAll (rules : Rules) (doc : Value) : List Value → Verdict
  | [] => .of (.ok true)
  | d :: rest =>
    let v := judge rules doc d
    match v.answer with
    | .ok true => (judgeAll rules doc rest).after v.notes
    | _ => v

/-- Whether any descriptor is true; the first true one settles it. -/
def judgeAny (rules : Rules) (doc : Value) : List Value → Verdict
  | [] => .of (.ok false)
  | d :: rest =>
    let v := judge rules doc d
    match v.answer with
    | .ok false => (judgeAny rules doc rest).after v.notes
    | _ => v

end

end Rules

/-- A set of named predicates. -/
structure PredicateSet where
  rules : Rules

namespace PredicateSet

/-- The combinators by name. -/
def combinators : Rules := [
  ("and", .combine .all),
  ("or", .combine .any),
  ("not", .combine .none)]

/-- The built-in predicates. -/
def builtin : PredicateSet :=
  ⟨Predicate.tests.map (fun (name, f) => (name, Rule.test f)) ++ combinators⟩

/-- The set without predicates. -/
def empty : PredicateSet := ⟨[]⟩

/-- The set with more rules; a rule replaces the one of the same name. -/
def extend (s : PredicateSet) (rules : Rules) : PredicateSet :=
  ⟨rules.foldl (fun all r => Members.put r.1 r.2 all) s.rules⟩

/-- Register a predicate under a name, which must be a text that is not empty. -/
def register (s : PredicateSet) (name : Value) (rule : Rule) : Except Fault PredicateSet :=
  match name with
  | .string "" => badName
  | .string n => .ok (s.extend [(n, rule)])
  | _ => badName
where
  /-- The fault for a value that names no predicate. -/
  badName : Except Fault PredicateSet :=
    .error (.raised .value "predicate name must be a non-empty string")

/-- Whether a name is registered; a value that cannot be looked up is a fault. -/
def contains (s : PredicateSet) (name : Value) : Except Fault Bool :=
  match name with
  | .string n => .ok (Members.has n s.rules)
  | v =>
    match v.unhashable? with
    | some type => .error (.unhashable type)
    | none => .ok false

/-- The names in ascending order. -/
def names (s : PredicateSet) : List String :=
  (Members.names s.rules).mergeSort (fun a b => decide (a ≤ b))

/-- Evaluate a descriptor against a document. -/
def evaluate (s : PredicateSet) (d doc : Value) : Verdict :=
  s.rules.judge doc d

/-- The trouble of an operation whose predicate is false. The failure shows the descriptor's path,
and a path that cannot be shown is a fault. -/
def refusal (name : String) (d : Descriptor) : Trouble :=
  match (d.field "path").shown with
  | .ok place => .failure (.predicateFalse name place) none
  | .error f => .fault f

/-- The operation that fails when the descriptor's predicate is false. -/
def check (s : PredicateSet) (name : String) : Handler := Handler.ofObject fun d doc =>
  let v := s.evaluate (.object d) doc
  match v.answer with
  | .ok true => { notes := v.notes }
  | .ok false => { edit := .error (refusal name d), notes := v.notes }
  | .error f => { edit := .error (.fault f), notes := v.notes }

/-- The operations of all predicates of the set, whose names must not be empty. -/
def asOperations (s : PredicateSet) : Except Fault Registry :=
  (Members.names s.rules).foldlM
    (fun r name => r.register (.string name) (some (s.check name))) Registry.empty

end PredicateSet
end JsonPatch
