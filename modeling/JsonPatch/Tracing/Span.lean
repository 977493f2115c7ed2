import JsonPatch.Patch.Run

/-! # Spans

A span records one activity: its name, its attributes and how it ended.  The wording of the error
describes a span that ended with one. -/

namespace JsonPatch.Tracing

/-- A span that has ended. -/
structure Span where
  name : String
  attributes : Members
  result : Except RunError Unit

namespace Span

/-- The wording of the error that ended the span. -/
def description (s : Span) : Option String :=
  match s.result with
  | .ok () => none
  | .error e => some e.message

/-- The span of a run of a patch. -/
def ofRun (p : Patch) (r : Run) : Span where
  name := "jsontools.patch.apply"
  attributes := [("patch.operations", Patch.numberField p.operations.length),
    ("patch.predicates", .bool p.withPredicates)]
  result := r.result

/-- The span of a call of a function; it has the given name or else those of the module and the
function. -/
def ofCall (given : Option String) (module function : String) (result : Except RunError Unit) :
    Span where
  name := match given with
    | some name => if name = "" then module ++ "." ++ function else name
    | none => module ++ "." ++ function
  attributes := [("function.name", .string function)]
  result := result

end Span
end JsonPatch.Tracing
