import JsonPatch.Tracing.Settings
import JsonPatch.Tracing.Span

/-! # Sessions

A session is one life of the program: its environment and what has been read from it so far.  The
settings are read when they are first needed, and so are those of tracing; later changes of the
environment do not matter then.  The settings of tracing are needed by every run and every
evaluation, so a sampling rate that is no number stops them. -/

namespace JsonPatch

/-- The state of the program. -/
structure Session where
  environment : Environment
  settings : Option Settings := none
  tracing : Option Tracing.Settings := none

/-- Why a patch gave no document. -/
inductive PatchError where
  | build (cause : BuildError)
  | run (cause : RunError)

/-- The wording of the error. -/
def PatchError.message : PatchError → String
  | build cause => cause.message
  | run cause => cause.message

namespace Session

/-- The settings in force, and the session that has read them. -/
def currentSettings (s : Session) : Settings × Session :=
  match s.settings with
  | some settings => (settings, s)
  | none =>
    let settings := Settings.ofEnvironment s.environment
    (settings, { s with settings := some settings })

/-- The settings of tracing in force, and the session that has read them. -/
def currentTracing (s : Session) : Except Fault (Tracing.Settings × Session) :=
  match s.tracing with
  | some settings => .ok (settings, s)
  | none =>
    (Tracing.Settings.ofRequest s.environment {}).map fun settings =>
      (settings, { s with tracing := some settings })

/-- Record a span that has ended; the session records nothing if tracing is off. -/
def record (s : Session) (span : Tracing.Span) : Except Fault (Session × List Tracing.Span) :=
  s.currentTracing.map fun (settings, s) =>
    (s, if settings.enabled.isTruthy then [span] else [])

/-- A run in a session, and the spans it leaves. -/
structure Traced where
  session : Session
  run : Run
  spans : List Tracing.Span

/-- A run of a patch in a session: the run, or what keeps it from starting. -/
def trace (s : Session) (p : Patch) (doc : Value) (r : Run) : Traced :=
  match s.record (Tracing.Span.ofRun p r) with
  | .ok (session, spans) => { session, run := r, spans }
  | .error f => { session := s, run := ⟨doc, .error (.fault f), []⟩, spans := [] }

/-- Apply a patch to a document in its place. -/
def run (s : Session) (p : Patch) (doc : Value) : Traced :=
  s.trace p doc (p.run doc)

/-- Apply a patch to a copy of a document. -/
def apply (s : Session) (p : Patch) (doc : Value) : Except RunError Value :=
  let r := (s.run p doc).run
  r.result.map fun _ => r.document

/-- Build a patch with the settings in force. -/
def build (s : Session) (o : Settings → Patch.Options) (source : Source) :
    Except BuildError Patch :=
  Patch.build (o s.currentSettings.1) source

/-- Apply the patch that a source holds to a copy of a document. -/
def applySource (s : Session) (withPredicates : Value) (source : Source) (doc : Value) :
    Except PatchError Value :=
  match s.build (fun settings => { settings, withPredicates }) source with
  | .error e => .error (.build e)
  | .ok p => (s.apply p doc).mapError .run

/-- An evaluation in a session, and the spans it leaves. -/
structure Judged where
  session : Session
  verdict : Verdict
  spans : List Tracing.Span

/-- The span of an evaluation. -/
def evaluationSpan (v : Verdict) : Tracing.Span :=
  Tracing.Span.ofCall (some "jsontools.predicates.evaluate") "jsontools.predicates" "evaluate"
    ((v.answer.map fun _ => ()).mapError .fault)

/-- Evaluate a descriptor by the built-in predicates. -/
def evaluate (s : Session) (d doc : Value) : Judged :=
  let verdict := PredicateSet.builtin.evaluate d doc
  match s.record (evaluationSpan verdict) with
  | .ok (session, spans) => { session, verdict, spans }
  | .error f => { session := s, verdict := .of (.error f), spans := [] }

end Session
end JsonPatch
