import JsonPatch.Live.Store
import JsonPatch.Session

/-! # Runs that share values with the patch

The run of a patch in which inserted values stay tied to their descriptors.  Each operation is
planned on the values as they are at its turn, and its edit is made on the shared cells.  The cells
outlive the run, so the next run of the same patch meets the descriptors as this one left them. -/

namespace JsonPatch.Live

/-- A descriptor and the part that is its value from now on. -/
structure Entry where
  descriptor : Descriptor
  value : Part

namespace Entry

/-- Put the values of descriptors into cells. -/
def plant : List Descriptor → Cells → List Entry × Cells
  | [], cells => ([], cells)
  | d :: rest, cells =>
    let (value, cells) := cells.plant (d.field "value")
    let (entries, cells) := plant rest cells
    (⟨d, value⟩ :: entries, cells)

/-- The descriptor with another value, if it has one at all. -/
def withValue (e : Entry) (v : Value) : Descriptor :=
  Members.modify "value" (fun _ => v) e.descriptor

/-- The descriptor as the cells have it; none if its value leads back to itself. -/
def read? (cells : Cells) (e : Entry) : Option Descriptor :=
  (cells.read? e.value).map e.withValue

/-- The descriptor as its operation sees it. -/
def view (cells : Cells) (e : Entry) : Descriptor :=
  e.withValue (cells.view ⟨[], 1⟩ e.value)

end Entry

/-- A run and the store it leaves. -/
structure Run where
  store : Store
  result : Except RunError Unit
  entries : List Log.Entry

/-- Carry out the operation of an index. -/
def turn (p : Patch) (i : Nat) (e : Entry) (s : Store) : Turn Store :=
  p.turn i (e.view s.cells) (s.view (.ofValue (.object e.descriptor))) s (s.edit e.value)

/-- Carry out operations, of which the first has the given index. -/
def runFrom (p : Patch) (i : Nat) : List Entry → Store → Run
  | [], s => ⟨s, .ok (), []⟩
  | e :: rest, s =>
    let t := turn p i e s
    match t.error with
    | some error => ⟨t.content, .error error, t.entries⟩
    | none =>
      let r := runFrom p (i + 1) rest t.content
      { r with entries := t.entries ++ r.entries }

/-- Apply a patch, whose values are in cells, to a document that shares nothing with it. -/
def run (p : Patch) (entries : List Entry) (cells : Cells) (doc : Value) : Run :=
  let (document, cells) := cells.plant doc
  runFrom p 0 entries { cells, document }

/-- Apply a patch, whose values are in cells, to a copy of a document that is in cells too. There is
no copy of what leads back to itself. -/
def apply (p : Patch) (entries : List Entry) (s : Store) : Option Run :=
  (s.cells.copy? s.document).map fun (document, cells) =>
    runFrom p 0 entries { cells, document }

/-- What is seen after a run: how it ended, the document, and the descriptors. What leads back to
itself cannot be seen. -/
structure Aftermath where
  result : Except RunError Unit
  document : Except Fault Value
  operations : Except Fault (List Descriptor)

/-- The descriptors as the cells have them. -/
def operations (cells : Cells) (entries : List Entry) : Except Fault (List Descriptor) :=
  entries.mapM fun e => (e.read? cells).elim (.error .circular) .ok

/-- One run after another on a list of documents: each run meets the descriptors as the ones
before it left them. Tracing that cannot start keeps the runs from starting. -/
def runEach (s : Session) (p : Patch) (entries : List Entry) (cells : Cells) :
    List Value → List Aftermath
  | [] => []
  | doc :: rest =>
    match s.currentTracing with
    | .error f =>
      ⟨.error (.fault f), .ok doc, operations cells entries⟩ :: runEach s p entries cells rest
    | .ok (_, session) =>
      let r := run p entries cells doc
      let document := r.store.read?.elim (.error .circular) .ok
      ⟨r.result, document, operations r.store.cells entries⟩ ::
        runEach session p entries r.store.cells rest

/-- Apply a patch to each of a list of documents in its place. -/
def runAll (s : Session) (p : Patch) (docs : List Value) : List Aftermath :=
  let (entries, cells) := Entry.plant p.operations #[]
  runEach s p entries cells docs

end JsonPatch.Live
