import JsonPatch.Proofs.Patch.Settings
import JsonPatch.Proofs.Session

/-! # What observing changes

Some variables of the environment are there for those who observe the program: they say what is
traced and what is logged.  Two environments that agree on all others can give different documents,
errors and answers in two ways only (`sameOutcomes_iff`).

* The settings of tracing refuse them differently: a sampling rate that is no number is enough to
  stop everything (`evaluate_badRate`).
* One asks for events about the operations that succeed and the other one does not, and the grammar
  is not checked: then an operation can succeed that cannot be logged
  (`applySourceInPlace_unloggable`).  In a checked document everything can be logged
  (`isLoggable_of_build`). -/

namespace JsonPatch

namespace Environment

/-- The variables of tracing. -/
def tracingVariables : List String :=
  ["OTEL_SERVICE_NAME", "OTEL_SERVICE_VERSION", "OTEL_ENVIRONMENT", "OTEL_SAMPLE_RATE",
    "OTEL_ENABLED"]

/-- What the names of the variables of logging start with. -/
def loggingStem : String := "JSONTOOLS_LOG_"

/-- The variable is one of tracing or of logging. -/
def IsObserving (name : String) : Prop :=
  name ∈ tracingVariables ∨ loggingStem.toList <+: name.toList

instance (name : String) : Decidable (IsObserving name) :=
  inferInstanceAs (Decidable (_ ∨ _))

/-- Two environments have the same variables, but for those of tracing and logging. -/
def AgreeUnobserved (env env' : Environment) : Prop :=
  ∀ name, ¬ IsObserving name → Members.find? name env = Members.find? name env'

theorem AgreeUnobserved.flag {env env' : Environment} (h : AgreeUnobserved env env') (name : String)
    (hname : ¬ IsObserving name) (default : String) :
    env.flag name default = env'.flag name default := by
  rw [Environment.flag, Environment.flag, get, get, h name hname]

/-- The environment asks for an event about each operation that succeeds. -/
def logsOperations (env : Environment) : Bool :=
  env.flag "JSONTOOLS_LOG_OPERATIONS" "false"

/-- The environment asks for a check of the whole grammar. -/
def checksGrammar (env : Environment) : Bool :=
  env.flag "JSONTOOLS_VALIDATE_SCHEMA" "true"

/-- Variables of tracing and logging may be added. -/
theorem agreeUnobserved_append (added env : Environment) (h : ∀ v ∈ added, IsObserving v.1) :
    AgreeUnobserved (added ++ env) env := by
  intro name hname
  induction added with
  | nil => rfl
  | cons v rest ih =>
      rw [List.forall_mem_cons] at h
      have hne : v.1 ≠ name := fun e => hname (e ▸ h.1)
      rw [List.cons_append, Members.find?, if_neg hne]
      exact ih h.2

end Environment

namespace Session

/-- A session that has read nothing of its environment yet. -/
def starting (environment : Environment) : Session :=
  { environment }

/-- Build the patch that a source holds and apply it in place: the document that is left, and how
the run ended. -/
def applySourceInPlace (s : Session) (withPredicates : Value) (source : Source) (doc : Value) :
    Except BuildError (Value × Except RunError Unit) :=
  (s.build (fun settings => { settings, withPredicates }) source).map fun p =>
    ((s.run p doc).run.document, (s.run p doc).run.result)

/-- Two sessions cannot be told apart by applying patches and evaluating predicates. -/
structure SameOutcomes (s s' : Session) : Prop where
  apply : ∀ withPredicates source doc,
    s.applySource withPredicates source doc = s'.applySource withPredicates source doc
  inPlace : ∀ withPredicates source doc,
    s.applySourceInPlace withPredicates source doc =
      s'.applySourceInPlace withPredicates source doc
  evaluate : ∀ d doc,
    (s.evaluate d doc).verdict.answer = (s'.evaluate d doc).verdict.answer

/-- The sampling rate of an environment. -/
def samplingRate (env : Environment) : Except Fault Double :=
  Tracing.Settings.sampleRateFor .null env

variable {env env' : Environment}

theorem currentTracing_starting {rate : Double} (h : samplingRate env = .ok rate) :
    ∃ t, (starting env).currentTracing = .ok t := by
  change ∃ t, Except.map _ (Tracing.Settings.ofRequest env {}) = .ok t
  unfold Tracing.Settings.ofRequest
  change ∃ t, Except.map _ (Except.map _ (samplingRate env)) = .ok t
  rw [h]
  exact ⟨_, rfl⟩

theorem currentTracing_refused {f : Fault} (h : samplingRate env = .error f) :
    (starting env).currentTracing = .error f := by
  change Except.map _ (Tracing.Settings.ofRequest env {}) = .error f
  unfold Tracing.Settings.ofRequest
  change Except.map _ (Except.map _ (samplingRate env)) = .error f
  rw [h]
  rfl

/-- In environments that agree but for tracing and logging the same patches are built, but for
settings of the log. -/
theorem build_starting (h : env.AgreeUnobserved env') (withPredicates : Value) (source : Source) :
    (starting env').build (fun settings => { settings, withPredicates }) source =
      ((starting env).build (fun settings => { settings, withPredicates }) source).map
        (·.withSettings (Settings.ofEnvironment env')) := by
  have hcheck := h.flag "JSONTOOLS_VALIDATE_SCHEMA" (by decide) "true"
  have hpredicates := h.flag "JSONTOOLS_PREDICATES" (by decide) "false"
  let o : Patch.Options := { settings := Settings.ofEnvironment env, withPredicates }
  exact Patch.build_withSettings (o := o) (congrArg Value.bool hcheck.symm)
    (congrArg Value.bool hpredicates.symm) source

/-- If the grammar has been checked, all operations of a patch can be logged. -/
theorem isLoggable_of_build (hchecks : env.checksGrammar = true) {withPredicates : Value}
    {source : Source} {p : Patch}
    (h : (starting env).build (fun settings => { settings, withPredicates }) source = .ok p)
    {d : Descriptor} (hd : d ∈ p.operations) : d.IsLoggable := by
  obtain ⟨name, hname⟩ := (Patch.operations_of_build h).2 d hd
  exact Patch.isLoggable_of_hasTextPath hname (Patch.hasTextPath_of_build h hchecks hd)

/-- The runs of a patch end in the same way in two sessions, with the same document, under other
settings of the patch in the second one. -/
def RunAlike (s s' : Session) (p : Patch) (settings : Settings) : Prop :=
  ∀ doc,
    (s'.run (p.withSettings settings) doc).run.document = (s.run p doc).run.document ∧
      (s'.run (p.withSettings settings) doc).run.result = (s.run p doc).run.result

theorem sameOutcomes_of_runAlike (h : env.AgreeUnobserved env')
    (hrun : ∀ withPredicates source p,
      (starting env).build (fun settings => { settings, withPredicates }) source = .ok p →
        RunAlike (starting env) (starting env') p (Settings.ofEnvironment env'))
    (hevaluate : ∀ d doc, ((starting env).evaluate d doc).verdict.answer =
      ((starting env').evaluate d doc).verdict.answer) :
    SameOutcomes (starting env) (starting env') where
  apply withPredicates source doc := by
    unfold applySource
    rw [build_starting h]
    cases hp : (starting env).build (fun settings => { settings, withPredicates }) source with
    | error e => simp only [Except.map]
    | ok p =>
        obtain ⟨hdocument, hresult⟩ := hrun withPredicates source p hp doc
        change ((starting env).apply p doc).mapError _ =
          ((starting env').apply (p.withSettings (Settings.ofEnvironment env')) doc).mapError _
        unfold apply
        dsimp only
        rw [hdocument, hresult]
  inPlace withPredicates source doc := by
    unfold applySourceInPlace
    rw [build_starting h]
    cases hp : (starting env).build (fun settings => { settings, withPredicates }) source with
    | error e => simp only [Except.map]
    | ok p =>
        obtain ⟨hdocument, hresult⟩ := hrun withPredicates source p hp doc
        exact congrArg Except.ok (Prod.ext hdocument.symm hresult.symm)
  evaluate := hevaluate

theorem runAlike_of_tracing {t t' : Tracing.Settings × Session} {s s' : Session} {p : Patch}
    {settings : Settings} (h : s.currentTracing = .ok t) (h' : s'.currentTracing = .ok t')
    (hlog : settings.logOperations.isTruthy = p.settings.logOperations.isTruthy ∨
      ∀ d ∈ p.operations, d.IsLoggable) : RunAlike s s' p settings := by
  intro doc
  rw [run_of_tracing h, run_of_tracing h']
  exact Patch.run_withSettings doc hlog

theorem runAlike_of_no_tracing {f : Fault} {s s' : Session} (p : Patch) (settings : Settings)
    (h : s.currentTracing = .error f) (h' : s'.currentTracing = .error f) :
    RunAlike s s' p settings := by
  intro doc
  rw [run_of_no_tracing h, run_of_no_tracing h']
  exact ⟨rfl, rfl⟩

/-- What is no descriptor is false, unless nothing is evaluated at all. -/
theorem evaluate_null_starting (env : Environment) :
    ((starting env).evaluate .null .null).verdict.answer =
      (samplingRate env).map fun _ => false := by
  cases h : samplingRate env with
  | error f =>
      rw [evaluate_of_no_tracing (currentTracing_refused h)]
      rfl
  | ok rate =>
      obtain ⟨t, ht⟩ := currentTracing_starting h
      rw [evaluate_of_tracing ht]
      rfl

/-- Two environments are refused alike by the settings of tracing: both sampling rates are numbers,
or both are refused with the same fault. -/
def RefusedAlike (env env' : Environment) : Prop :=
  ∀ f, samplingRate env = .error f ↔ samplingRate env' = .error f

theorem RefusedAlike.exists_rate (h : RefusedAlike env env') {rate : Double}
    (hrate : samplingRate env = .ok rate) : ∃ rate', samplingRate env' = .ok rate' := by
  cases hrate' : samplingRate env' with
  | ok rate' => exact ⟨rate', rfl⟩
  | error f =>
      rw [(h f).mpr hrate'] at hrate
      cases hrate

/-- Two sessions that cannot be told apart are refused alike. -/
theorem SameOutcomes.refusedAlike (h : SameOutcomes (starting env) (starting env')) :
    RefusedAlike env env' := by
  intro f
  have hnull := h.evaluate .null .null
  rw [evaluate_null_starting, evaluate_null_starting] at hnull
  constructor
  · intro hf
    rw [hf] at hnull
    cases hr : samplingRate env' with
    | error f' => rw [hr] at hnull; cases hnull; rfl
    | ok rate => rw [hr] at hnull; cases hnull
  · intro hf
    rw [hf] at hnull
    cases hr : samplingRate env with
    | error f' => rw [hr] at hnull; cases hnull; rfl
    | ok rate => rw [hr] at hnull; cases hnull

/-- A predicate that is true and cannot be logged. -/
def unloggable : Descriptor :=
  [("op", .string "and"), ("apply", .array []), ("path", Json.hugeNumber)]

/-- An operation that succeeds and cannot be logged is carried out where it need not be logged, and
ends the run where it is to be logged. -/
theorem applySourceInPlace_unloggable {rate : Double} (hrate : samplingRate env = .ok rate)
    (hchecks : env.checksGrammar = false) :
    (starting env).applySourceInPlace (.bool true) (.value (.array [.object unloggable])) .null =
      .ok (.null, if env.logsOperations then .error (.fault .hugeInteger) else .ok ()) := by
  let p : Patch :=
    { operations := [unloggable], settings := Settings.ofEnvironment env, withPredicates := true,
      registry := Registry.checked }
  have hbuild : (starting env).build (fun settings => { settings, withPredicates := .bool true })
      (.value (.array [.object unloggable])) = .ok p := by
    refine Patch.build_of_assemble rfl ?_ ?_
    · change Patch.validate env.checksGrammar _ = _
      rw [hchecks]
      rfl
    · have hregistry : Patch.Options.buildRegistry
          { settings := Settings.ofEnvironment env, withPredicates := .bool true } =
            .ok Registry.checked := (if_pos rfl).trans merge_builtin
      change Patch.assemble { settings := Settings.ofEnvironment env, withPredicates := _ } _ = _
      rw [Patch.assemble, hregistry]
      rfl
  have hlog : ¬ unloggable.IsLoggable := by
    have hop : unloggable.field "op" = .string "and" := rfl
    rw [Patch.isLoggable_of_name hop]
    exact Bool.eq_false_iff.mp Json.isWritable_hugeNumber
  have hhandler : p.registry.get? (unloggable.field "op") =
      some (PredicateSet.builtin.check "and") := rfl
  have hplan : (PredicateSet.builtin.check "and" (.object unloggable) .null).edit = .ok none := rfl
  have hlogs : p.settings.logOperations.isTruthy = env.logsOperations := rfl
  have hcontent : (p.turnOn 0 unloggable .null).content = .null := by
    rw [Patch.turnOn, Patch.turn_content, hhandler]
    simp only [Plan.carryOut, hplan]
  have herror : (p.turnOn 0 unloggable .null).error =
      if env.logsOperations then some (.fault .hugeInteger) else none := by
    rw [Patch.turnOn, Patch.turn_error, hhandler]
    simp only [Plan.carryOut, hplan]
    rw [Patch.applied_of_not_isLoggable hlog, hlogs]
  obtain ⟨t, ht⟩ := currentTracing_starting hrate
  have hsingle : p.single unloggable = p := rfl
  have hresult : ((p.single unloggable).run .null).result =
      if env.logsOperations then .error (.fault .hugeInteger) else .ok () := by
    split_ifs at herror ⊢
    · exact Patch.single_run_error herror
    · exact (p.succeeds_iff 0 unloggable .null).mpr herror
  unfold applySourceInPlace
  rw [hbuild, Except.map, run_of_tracing ht, ← hsingle, p.single_run_document 0, hcontent, hresult]

/-- Two sessions that cannot be told apart check the grammar or log as much as each other, unless
nothing is run at all. -/
theorem SameOutcomes.checks_or_logs (h : SameOutcomes (starting env) (starting env'))
    (hagree : env.AgreeUnobserved env') {rate : Double} (hrate : samplingRate env = .ok rate) :
    env.checksGrammar = true ∨ env.logsOperations = env'.logsOperations := by
  rw [or_iff_not_imp_left, Bool.not_eq_true]
  intro hchecks
  have hchecks' : env'.checksGrammar = false := by
    rw [← hchecks]
    exact (hagree.flag "JSONTOOLS_VALIDATE_SCHEMA" (by decide) "true").symm
  obtain ⟨rate', hrate'⟩ := h.refusedAlike.exists_rate hrate
  have hsame := h.inPlace (.bool true) (.value (.array [.object unloggable])) .null
  rw [applySourceInPlace_unloggable hrate hchecks,
    applySourceInPlace_unloggable hrate' hchecks'] at hsame
  cases hlogs : env.logsOperations <;> cases hlogs' : env'.logsOperations
  · rfl
  · rw [hlogs, hlogs'] at hsame
    cases hsame
  · rw [hlogs, hlogs'] at hsame
    cases hsame
  · rfl

/-- The variables of tracing and logging change nothing exactly if both environments are refused
alike and, unless nothing is run at all, the grammar is checked or they log as much as each
other. -/
theorem sameOutcomes_iff (h : env.AgreeUnobserved env') :
    SameOutcomes (starting env) (starting env') ↔ RefusedAlike env env' ∧
      ((∃ rate, samplingRate env = .ok rate) →
        env.checksGrammar = true ∨ env.logsOperations = env'.logsOperations) := by
  constructor
  · intro hsame
    refine ⟨hsame.refusedAlike, ?_⟩
    rintro ⟨rate, hrate⟩
    exact hsame.checks_or_logs h hrate
  · rintro ⟨hrefused, hlogs⟩
    cases hrate : samplingRate env with
    | error f =>
        have ht := currentTracing_refused hrate
        have ht' := currentTracing_refused ((hrefused f).mp hrate)
        refine sameOutcomes_of_runAlike h
          (fun _ _ p _ => runAlike_of_no_tracing p _ ht ht') fun d doc => ?_
        rw [evaluate_of_no_tracing ht, evaluate_of_no_tracing ht']
    | ok rate =>
        obtain ⟨rate', hrate'⟩ := hrefused.exists_rate hrate
        obtain ⟨t, ht⟩ := currentTracing_starting hrate
        obtain ⟨t', ht'⟩ := currentTracing_starting hrate'
        refine sameOutcomes_of_runAlike h (fun withPredicates source p hp => ?_) fun d doc => ?_
        · refine runAlike_of_tracing ht ht' ?_
          rcases hlogs ⟨rate, hrate⟩ with hchecks | hlogs
          · exact .inr fun d hd => isLoggable_of_build hchecks hp hd
          · obtain ⟨-, -, -, -, hsettings, -⟩ := Patch.build_eq_ok hp
            rw [hsettings]
            exact .inl hlogs.symm
        · rw [evaluate_of_tracing ht, evaluate_of_tracing ht']

/-- Tracing is off and every operation is logged. -/
def quietAndLogged : Environment :=
  [("OTEL_ENABLED", "off"), ("JSONTOOLS_LOG_OPERATIONS", "yes")]

theorem sameOutcomes_quietAndLogged :
    Environment.AgreeUnobserved quietAndLogged [] ∧
      SameOutcomes (starting quietAndLogged) (starting []) := by
  have hagree : Environment.AgreeUnobserved quietAndLogged [] :=
    Environment.agreeUnobserved_append quietAndLogged [] (by decide)
  have hrefused : RefusedAlike quietAndLogged [] := fun f => Iff.rfl
  have hchecks : quietAndLogged.checksGrammar = true := rfl
  exact ⟨hagree, (sameOutcomes_iff hagree).mpr ⟨hrefused, fun _ => .inl hchecks⟩⟩

/-- The sampling rate is no number. -/
def badRate : Environment := [("OTEL_SAMPLE_RATE", "high")]

/-- A sampling rate that is no number turns the answer of an evaluation into an error. -/
theorem evaluate_badRate :
    let d : Value := .object [("op", .string "defined"), ("path", .string "")]
    Environment.AgreeUnobserved badRate [] ∧
      ((starting []).evaluate d .null).verdict.answer = .ok true ∧
      ((starting badRate).evaluate d .null).verdict.answer =
        .error (.raised .value "could not convert string to float: 'high'") ∧
      ¬ SameOutcomes (starting badRate) (starting []) := by
  intro d
  have hanswer : ((starting []).evaluate d .null).verdict.answer = .ok true := rfl
  have hrefused : ((starting badRate).evaluate d .null).verdict.answer =
      .error (.raised .value "could not convert string to float: 'high'") := rfl
  refine ⟨Environment.agreeUnobserved_append badRate [] (by decide), hanswer, hrefused, fun h => ?_⟩
  have hsame := h.evaluate d .null
  rw [hanswer, hrefused] at hsame
  cases hsame

end Session
end JsonPatch
