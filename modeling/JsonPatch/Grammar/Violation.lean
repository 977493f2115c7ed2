import JsonPatch.Json.Text
import JsonPatch.Value.Path

/-! # Violations of the patch grammar

A violation names the place of the offending value inside the patch document and says what is
wrong with it.  The report of a violation gives the place as a path and then the problem; there is
none if the problem is a value that cannot be shown. -/

namespace JsonPatch.Grammar

/-- What is wrong with a part of a patch document. -/
inductive Problem where
  /-- The value is not of the kind. -/
  | notOfKind (found : Value) (kind : Kind)
  /-- The operation has no name. -/
  | missingName
  /-- The name of the operation is empty. -/
  | emptyName
  /-- The document is no array but a value of this type. -/
  | expectedArray (type : String)
  | expectedObject
  /-- The operation has no name that is a text. -/
  | nameNotText

/-- The wording of a problem. -/
def Problem.message : Problem → Except Fault String
  | notOfKind found kind => found.shown.map (· ++ " is not of type '" ++ kind.name ++ "'")
  | missingName => .ok "'op' is a required property"
  | emptyName => .ok "'' should be non-empty"
  | expectedArray type => .ok ("expected an array, got " ++ type)
  | expectedObject => .ok "expected an object"
  | nameNotText => .ok "'op' must be a string"

/-- A problem and the place of the value that has it. -/
structure Violation where
  place : List Key
  problem : Problem

/-- A key as it stands in a report. -/
def keyText : Key → String
  | .member name => name
  | .index i => toString i

namespace Violation

/-- The keys that lead to the value, as texts. -/
def keyTexts (v : Violation) : List String :=
  v.place.map keyText

/-- The report of a violation. -/
def message (v : Violation) : Except Fault String :=
  v.problem.message.map fun text => "/" ++ String.intercalate "/" v.keyTexts ++ ": " ++ text

end Violation

/-- Whether one list of texts comes before another one, or is the same: the first texts that
differ decide, and a list comes before a longer one that starts with it. -/
def comesBefore : List String → List String → Bool
  | [], _ => true
  | _ :: _, [] => false
  | a :: l, b :: r => if a = b then comesBefore l r else decide (a < b)

/-- The violations by their places, compared as texts; those of one place keep their order. -/
def sortByPlace (violations : List Violation) : List Violation :=
  violations.mergeSort fun v w => comesBefore v.keyTexts w.keyTexts

end JsonPatch.Grammar
