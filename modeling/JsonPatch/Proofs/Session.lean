import JsonPatch.Session

/-! # Runs and evaluations in a session

Where the settings of tracing can be read, a session adds nothing to the outcome of a run or an
evaluation; where they cannot be read, nothing happens at all. -/

namespace JsonPatch.Session

variable {s : Session} {p : Patch} {doc : Value}

theorem run_of_tracing {t : Tracing.Settings × Session} (h : s.currentTracing = .ok t) :
    (s.run p doc).run = p.run doc := by
  unfold run trace record
  rw [h]
  rfl

theorem run_of_no_tracing {f : Fault} (h : s.currentTracing = .error f) :
    (s.run p doc).run = ⟨doc, .error (.fault f), []⟩ := by
  unfold run trace record
  rw [h]
  rfl

/-- The settings of tracing are read once. -/
theorem currentTracing_again {t : Tracing.Settings} {s' : Session}
    (h : s.currentTracing = .ok (t, s')) : s'.currentTracing = .ok (t, s') := by
  unfold currentTracing at h
  split at h
  · rename_i ht
    cases h
    unfold currentTracing
    rw [ht]
  · cases hr : Tracing.Settings.ofRequest s.environment {} with
    | error f => rw [hr] at h; cases h
    | ok settings =>
        rw [hr] at h
        cases h
        rfl

theorem evaluate_of_tracing {t : Tracing.Settings × Session} (h : s.currentTracing = .ok t)
    (d : Value) : (s.evaluate d doc).verdict = PredicateSet.builtin.evaluate d doc := by
  unfold evaluate record
  rw [h]
  rfl

theorem evaluate_of_no_tracing {f : Fault} (h : s.currentTracing = .error f) (d : Value) :
    (s.evaluate d doc).verdict = .of (.error f) := by
  unfold evaluate record
  rw [h]
  rfl

end JsonPatch.Session
