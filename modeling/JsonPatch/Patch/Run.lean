import JsonPatch.Log.Entry
import JsonPatch.Patch.Basic

/-! # Runs

A run carries out the operations of a patch in order, up to the first one that does not succeed;
there is no way back, so what has been done before it stays done.  `Patch.turn` says what one
operation does to a document, `Patch.run` is the whole run with its log, and `Patch.apply` gives
the document of a run that succeeds.

An event about an operation shows parts of its descriptor.  If these cannot be written, the run
ends there with the fault of the log, whatever has become of the operation. -/

namespace JsonPatch

/-- What ends a run early. -/
inductive RunError where
  /-- No operation of this name is registered. -/
  | unknown (d : Descriptor) (index : Nat)
  /-- An operation failed. -/
  | failed (d : Descriptor) (cause : Failure) (index : Int)
  /-- A fault that is no failure of an operation. -/
  | fault (cause : Fault)

/-- The wording of an error. The name of an operation is a text, which can be shown. -/
def RunError.message : RunError → String
  | unknown d _ => "invalid operation: " ++ (d.field "op").display
  | failed d cause _ => cause.message d
  | fault cause => cause.message

/-- What one operation of a run leaves: what it was carried out on, the error that ends the run,
and lines of the log. -/
structure Turn (α : Type) where
  content : α
  error : Option RunError := none
  entries : List Log.Entry := []

/-- A run: the document as it is left, how the run ended, and its log. -/
structure Run where
  document : Value
  result : Except RunError Unit
  entries : List Log.Entry

/-- The same run after some lines of the log. -/
def Run.after (entries : List Log.Entry) (r : Run) : Run :=
  { r with entries := entries ++ r.entries }

namespace Patch

/-- A number as a field of an event. -/
def numberField (n : Nat) : Value := .number (.int n)

/-- The fields of a descriptor that events show. -/
def shownFields (d : Descriptor) : Members :=
  [("op", d.field "op"), ("path", d.field "path")]

/-- The event of an operation without a handler. -/
def unknownEntry (i : Nat) (d : Descriptor) : Except Fault Log.Entry :=
  Log.event Log.warning "patch_unknown_operation" [("op", d.field "op")] [("index", numberField i)]

/-- The event of an operation that failed. -/
def failedEntry (i : Nat) (d : Descriptor) (message : String) : Except Fault Log.Entry :=
  Log.event Log.warning "patch_operation_failed" (shownFields d)
    [("index", numberField i), ("error", .string message)]

/-- The event of an operation that succeeded. -/
def appliedEntry (i : Nat) (d : Descriptor) : Except Fault Log.Entry :=
  Log.event Log.debug "patch_operation_applied" (shownFields d) [("index", numberField i)]

/-- An error with the event that reports it. If this cannot be written, the fault takes the place
of the error. -/
def reported (error : RunError) : Except Fault Log.Entry → RunError × List Log.Entry
  | .ok entry => (error, [entry])
  | .error f => (.fault f, [])

/-- The error and the events for what keeps an operation from succeeding. -/
def troubled (i : Nat) (d : Descriptor) : Trouble → RunError × List Log.Entry
  | .failure cause index =>
    reported (.failed d cause (index.getD i)) (failedEntry i d (cause.message d))
  | .fault f =>
    if f.failsOperation then reported (.failed d (.fault f) i) (failedEntry i d f.message)
    else (.fault f, [])

/-- The events of an operation that succeeded, and the fault of one that cannot be written. -/
def applied (p : Patch) (i : Nat) (d : Descriptor) : Option RunError × List Log.Entry :=
  if p.settings.logOperations.isTruthy then
    match appliedEntry i d with
    | .ok entry => (none, [entry])
    | .error f => (some (.fault f), [])
  else (none, [])

/-- The turn of an operation: it is planned on a document, and `change` makes its edit. -/
def turn {α : Type} (p : Patch) (i : Nat) (d : Descriptor) (doc : Value) (unchanged : α)
    (change : Edit → Edited α) : Turn α :=
  match p.registry.get? (d.field "op") with
  | none =>
    let (error, entries) := reported (.unknown d i) (unknownEntry i d)
    ⟨unchanged, some error, entries⟩
  | some handler =>
    let plan := handler (.object d) doc
    let edited := plan.carryOut unchanged change
    let notes := plan.notes.map Log.ofNote
    match edited.trouble with
    | some trouble =>
      let (error, entries) := troubled i d trouble
      ⟨edited.content, some error, notes ++ entries⟩
    | none =>
      let (error, entries) := p.applied i d
      ⟨edited.content, error, notes ++ entries⟩

/-- Carry out operations, of which the first has the given index. -/
def runFrom (p : Patch) (i : Nat) : List Descriptor → Value → Run
  | [], doc => ⟨doc, .ok (), []⟩
  | d :: rest, doc =>
    let t := p.turn i d doc doc fun e => e.apply (d.field "value") doc
    match t.error with
    | some e => ⟨t.content, .error e, t.entries⟩
    | none => (p.runFrom (i + 1) rest t.content).after t.entries

/-- An event of the run as a whole. -/
def runEntry (p : Patch) (name : String) : Log.Entry :=
  Log.line [] Log.debug (.string name) [("operations", numberField p.operations.length)]

/-- The lines of the log around those of the operations. -/
def framed (p : Patch) (r : Run) : Run :=
  let closing :=
    match r.result with
    | .ok () => [p.runEntry "patch_apply_completed"]
    | .error _ => []
  { r with entries := p.runEntry "patch_apply_started" :: r.entries ++ closing }

/-- Apply the patch to a document in its place. -/
def run (p : Patch) (doc : Value) : Run :=
  p.framed (p.runFrom 0 p.operations doc)

/-- Apply the patch to a copy of a document. -/
def apply (p : Patch) (doc : Value) : Except RunError Value :=
  let r := p.run doc
  r.result.map fun _ => r.document

end Patch
end JsonPatch
