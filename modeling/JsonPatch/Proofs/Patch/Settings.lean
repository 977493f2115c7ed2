import JsonPatch.Proofs.Patch.Turn

/-! # Settings and runs

The settings of a patch decide how it is built and what it logs.  Once it is built, they change
neither the document that a run leaves nor how the run ends, unless they ask for other events and
there is an operation that cannot be logged (`run_withSettings`).  Of two settings that ask for the
same check and the same predicates, each builds the patch of the other one, but for the settings
(`build_withSettings`). -/

namespace JsonPatch.Patch

/-- The patch under other settings. -/
def withSettings (p : Patch) (settings : Settings) : Patch :=
  { p with settings }

variable {p : Patch} {settings : Settings}

theorem applied_withSettings {d : Descriptor} (i : Nat)
    (h : settings.logOperations.isTruthy = p.settings.logOperations.isTruthy ∨ d.IsLoggable) :
    ((p.withSettings settings).applied i d).1 = (p.applied i d).1 := by
  rcases h with h | h
  · unfold applied
    rw [← h]
    rfl
  · rw [applied_of_isLoggable h, applied_of_isLoggable h]

theorem turnOn_withSettings {d : Descriptor} (i : Nat) (doc : Value)
    (h : settings.logOperations.isTruthy = p.settings.logOperations.isTruthy ∨ d.IsLoggable) :
    ((p.withSettings settings).turnOn i d doc).content = (p.turnOn i d doc).content ∧
      ((p.withSettings settings).turnOn i d doc).error = (p.turnOn i d doc).error := by
  simp only [turnOn, turn_content, turn_error, applied_withSettings i h]
  exact ⟨rfl, rfl⟩

theorem runFrom_withSettings {ds : List Descriptor} (i : Nat) (doc : Value)
    (h : settings.logOperations.isTruthy = p.settings.logOperations.isTruthy ∨
      ∀ d ∈ ds, d.IsLoggable) :
    ((p.withSettings settings).runFrom i ds doc).document = (p.runFrom i ds doc).document ∧
      ((p.withSettings settings).runFrom i ds doc).result = (p.runFrom i ds doc).result := by
  induction ds generalizing i doc with
  | nil => exact ⟨rfl, rfl⟩
  | cons d rest ih =>
      rw [List.forall_mem_cons, or_and_left] at h
      obtain ⟨hcontent, herror⟩ := turnOn_withSettings i doc h.1
      cases he : (p.turnOn i d doc).error with
      | some e =>
          rw [runFrom_cons_error he, runFrom_cons_error (herror.trans he)]
          exact ⟨hcontent, rfl⟩
      | none =>
          rw [runFrom_cons_ok he, runFrom_cons_ok (herror.trans he), hcontent]
          exact ih (i + 1) (p.turnOn i d doc).content h.2

/-- A run goes in the same way under other settings, if they log as much or all can be logged. -/
theorem run_withSettings (doc : Value)
    (h : settings.logOperations.isTruthy = p.settings.logOperations.isTruthy ∨
      ∀ d ∈ p.operations, d.IsLoggable) :
    ((p.withSettings settings).run doc).document = (p.run doc).document ∧
      ((p.withSettings settings).run doc).result = (p.run doc).result :=
  runFrom_withSettings 0 doc h

/-- What is checked and which operations there are is all that the settings decide about a patch
that is built. -/
theorem build_withSettings {o : Options} {settings : Settings}
    (hcheck : settings.validateSchema = o.settings.validateSchema)
    (hpredicates : settings.enablePredicates = o.settings.enablePredicates) (source : Source) :
    build { o with settings } source = (build o source).map (·.withSettings settings) := by
  have henables : Options.enablesPredicates { o with settings } = o.enablesPredicates := by
    unfold Options.enablesPredicates
    rw [hpredicates]
  have hregistry : Options.buildRegistry { o with settings } = o.buildRegistry := by
    unfold Options.buildRegistry
    rw [henables]
  unfold build
  cases source.read with
  | error e => rfl
  | ok ops =>
      dsimp only
      rw [hcheck]
      cases validate o.settings.validateSchema.isTruthy ops with
      | error e => rfl
      | ok ops =>
          dsimp only
          unfold assemble
          rw [hregistry, henables]
          cases o.buildRegistry <;> rfl

end JsonPatch.Patch
