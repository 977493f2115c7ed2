import JsonPatch.CommandLine.Run
import JsonPatch.Proofs.Patch.Escape
import JsonPatch.Proofs.Patch.Text
import JsonPatch.Proofs.Pointer.LongIndex
import JsonPatch.Proofs.Session.Observer

/-! # What stops the program

Most errors of a command are reported.  The program is stopped in two cases only: the command comes
to a source that was taken away (`Lacks`), or to a pattern that breaks the evaluation of a predicate
(`Breaks`).  For each of the functions that a command calls it is said which of its errors stop the
program (`readSource_stops` up to `valueOrFail_reported`), and from these which outcomes do
(`runCommand_stops`).  An unknown log level is reported, and so is a sampling rate that is no
number. -/

namespace JsonPatch.CommandLine

open Session (starting samplingRate)
open PredicateSet (builtin)

variable {c : Console} {f : Fault} {e : CommandError}

/-! ### Errors -/

/-- The error stops the program with this fault. -/
def CommandError.Stops (e : CommandError) (f : Fault) : Prop :=
  e.fault? = some f ∧ isReported f = false

/-- The outcome is an error that stops the program with this fault. -/
def Outcome.Stops (o : Outcome) (f : Fault) : Prop :=
  ∃ e, o.result = .error e ∧ e.Stops f

theorem failed_eq_stopped {log log' : String} :
    failed log e = .stopped f log' ↔ e.Stops f ∧ log' = log := by
  unfold failed CommandError.Stops
  dsimp only
  cases e.fault? with
  | none => simp
  | some g =>
      dsimp only
      split_ifs with hg
      · simp only [Option.some.injEq, false_iff, not_and]
        rintro ⟨rfl, hf⟩
        rw [hg] at hf
        cases hf
      · simp only [Ending.stopped.injEq, Option.some.injEq]
        constructor
        · rintro ⟨rfl, rfl⟩
          exact ⟨⟨rfl, by simpa using hg⟩, rfl⟩
        · rintro ⟨⟨rfl, -⟩, rfl⟩
          exact ⟨rfl, rfl⟩

/-- The fault of a pattern that breaks an evaluation is not reported. -/
theorem isReported_pattern {cause : Pattern.Fault}
    (h : cause.sort ≠ .mistake ∧ cause.sort ≠ .value) : isReported (.pattern cause) = false := by
  unfold isReported Fault.sort
  obtain ⟨hmistake, hvalue⟩ := h
  cases hs : cause.sort with
  | mistake => exact absurd hs hmistake
  | value => exact absurd hs hvalue
  | _ => simp [hs]

/-- The log level that an invocation asks for. -/
def Invocation.givenLevel (i : Invocation) : Value :=
  match i.logLevel with
  | some name => .string name
  | none => .null

/-- A log level that is not known is reported. -/
theorem threshold_reported {i : Invocation} {settings : Settings}
    (h : Log.threshold i.givenLevel settings = .error f) : isReported f = true := by
  unfold Log.threshold at h
  split at h
  · rename_i g hg
    unfold Invocation.givenLevel Settings.levelName at hg
    cases hlevel : i.logLevel with
    | none =>
        rw [hlevel] at hg
        cases hg
    | some name =>
        rw [hlevel] at hg
        dsimp only at hg
        split at hg <;> cases hg
  · split at h
    · cases h
    · cases h
      rfl

/-- A sampling rate that is no number is reported. -/
theorem samplingRate_reported {env : Environment} (h : samplingRate env = .error f) :
    isReported f = true := by
  change Tracing.Settings.rateOfText _ = _ at h
  unfold Tracing.Settings.rateOfText at h
  split at h
  · cases h
  · cases h
    rfl

/-! ### The steps of a command -/

/-- What a command says about predicates as operations: without the option nothing is said. -/
def given (predicates : Bool) : Value :=
  if predicates then .bool true else .null

/-- The fault of a file whose name was taken away. -/
def noFileName : Fault := .notFileName emptyType

/-- The fault of a predicate that was taken away. -/
def noPredicate : Fault := .notJsonText emptyType

theorem CommandError.stops_of_none (h : e.fault? = none) : ¬ e.Stops f := by
  rintro ⟨hf, -⟩
  rw [h] at hf
  cases hf

theorem CommandError.stops_fault {g : Fault} : (CommandError.fault g).Stops f ↔
    g = f ∧ isReported f = false := by
  rw [Stops, fault?, Option.some.injEq]

theorem readJson_error {text : List Char} (h : readJson text = .error e) : e.fault? = none := by
  unfold readJson at h
  cases hr : Json.read text with
  | ok v =>
      rw [hr] at h
      cases h
  | error cause =>
      rw [hr] at h
      cases h
      rfl

/-- A source with a name is read, or the error is about its content. -/
theorem readSource_error {inputIsRead : Bool} {name : String}
    (h : readSource c inputIsRead (some name) = .error e) : e.fault? = none := by
  unfold readSource at h
  split at h
  · exact readJson_error h
  · rename_i e' hs
    cases h
    unfold sourceText at hs
    dsimp only at hs
    split_ifs at hs
    split at hs
    · cases hs
      rfl
    · split at hs
      · cases hs
      · cases hs
        rfl

theorem readSource_stops {inputIsRead : Bool} {source : Argument}
    (h : readSource c inputIsRead source = .error e) (hs : e.Stops f) :
    source = none ∧ f = noFileName := by
  cases source with
  | none =>
      cases h
      exact ⟨rfl, (CommandError.stops_fault.mp hs).1.symm⟩
  | some name => exact absurd hs (CommandError.stops_of_none (readSource_error h))

theorem readDescriptor_stops {predicate : Argument} (h : readDescriptor predicate = .error e)
    (hs : e.Stops f) : predicate = none ∧ f = noPredicate := by
  cases predicate with
  | none =>
      cases h
      exact ⟨rfl, (CommandError.stops_fault.mp hs).1.symm⟩
  | some text => exact absurd hs (CommandError.stops_of_none (readJson_error h))

/-- What keeps a patch from being built is reported. -/
theorem build_reported {settings : Settings} {withPredicates : Value} {source : Source}
    {cause : BuildError} (h : Patch.build { settings, withPredicates } source = .error cause) :
    ¬ (CommandError.patch (.build cause)).Stops f := by
  cases cause with
  | fault g =>
      rintro ⟨hg, hf⟩
      cases hg
      rcases Patch.build_eq_fault.mp h with h | ⟨ops, -, h⟩
      · obtain ⟨text, n, -, -, rfl⟩ := Source.read_error_iff.mp h
        cases hf
      · rw [Grammar.eq_hugeInteger_of_reports h] at hf
        cases hf
  | _ => exact CommandError.stops_of_none rfl

/-- A patch is read by building it of the value of its source. -/
theorem readPatch_eq {s : Session} {patch : Argument} {predicates : Bool} {ops : Value}
    (h : readSource c false patch = .ok ops) : readPatch c s patch predicates =
      (s.build (fun settings => { settings, withPredicates := given predicates })
        (.value ops)).mapError fun cause => .patch (.build cause) := by
  rw [readPatch, h]
  rfl

theorem readPatch_stops {s : Session} {patch : Argument} {predicates : Bool}
    (h : readPatch c s patch predicates = .error e) (hs : e.Stops f) :
    patch = none ∧ f = noFileName := by
  cases hr : readSource c false patch with
  | error e' =>
      rw [readPatch, hr] at h
      cases h
      exact readSource_stops hr hs
  | ok ops =>
      rw [readPatch_eq hr] at h
      cases hb : s.build (fun settings => { settings, withPredicates := given predicates })
          (.value ops) with
      | ok p =>
          rw [hb] at h
          cases h
      | error cause =>
          rw [hb] at h
          cases h
          exact absurd hs (build_reported hb)

theorem readPatch_eq_ok {s : Session} {patch : Argument} {predicates : Bool} {p : Patch} :
    readPatch c s patch predicates = .ok p ↔ ∃ ops, readSource c false patch = .ok ops ∧
      s.build (fun settings => { settings, withPredicates := given predicates }) (.value ops) =
        .ok p := by
  cases hr : readSource c false patch with
  | error e => simp [readPatch, hr]
  | ok ops =>
      rw [readPatch_eq hr]
      cases hb : s.build (fun settings => { settings, withPredicates := given predicates })
          (.value ops) with
      | ok p' => simp [Except.mapError, hb]
      | error cause => simp [Except.mapError, hb]

theorem readPatch_isStandard {s : Session} {patch : Argument} {predicates : Bool} {p : Patch}
    (h : readPatch c s patch predicates = .ok p) : p.IsStandard := by
  obtain ⟨ops, -, hb⟩ := readPatch_eq_ok.mp h
  exact ⟨_, _, _, hb⟩

/-- Writing fails by an error of the file only. -/
theorem delivered_error {output : Argument} {v : Value} (h : delivered c output v = .error e) :
    e.fault? = none := by
  unfold delivered at h
  split at h
  · cases h
  · cases h
  · split at h
    · cases h
      rfl
    · cases h

/-- The errors of a pointer are reported: it leads nowhere, or it comes to a number that is too
long. -/
theorem valueOrFail_reported {path : String} {doc : Value}
    (h : (Pointer.ofPath path).valueOrFail doc = .error f) : isReported f = true := by
  by_cases hlong : ∃ n, Pointer.ComesToLong path doc n
  · obtain ⟨n, hlong⟩ := hlong
    rw [Pointer.valueOrFail, hlong.leads] at h
    cases h
    rfl
  · have hresolves := Pointer.resolves_of_not_comesToLong (not_exists.mp hlong)
    cases hfound : Pointer.lookup path doc with
    | none =>
        rw [(hresolves.fails hfound).1] at h
        cases h
        rfl
    | some v =>
        rw [(hresolves.succeeds v hfound).1] at h
        cases h

/-! ### Commands -/

/-- A command comes to a source that was taken away, and nothing before it is in the way. -/
inductive Lacks (c : Console) : Command → Fault → Prop where
  | patch (document : Argument) (predicates : Bool) (output : Argument) :
    Lacks c (.apply none document predicates output) noFileName
  | patched {patch : Argument} {predicates : Bool} {p : Patch} (output : Argument)
    (built : readPatch c (starting c.environment) patch predicates = .ok p) :
    Lacks c (.apply patch none predicates output) noFileName
  | pointed (path : String) : Lacks c (.pointer (some path) none) noFileName
  | predicate (document : Argument) : Lacks c (.check none document) noPredicate
  | described {predicate : Argument} {d : Value} (read : readDescriptor predicate = .ok d) :
    Lacks c (.check predicate none) noFileName

/-- A command comes to a pattern that breaks the evaluation of a predicate. -/
inductive Breaks (c : Console) : Command → Pattern.Fault → Prop where
  | run {patch document output : Argument} {predicates : Bool} {p : Patch} {doc : Value}
    {rate : Double} {cause : Pattern.Fault}
    (built : readPatch c (starting c.environment) patch predicates = .ok p)
    (read : readSource c (patch == some inputName) document = .ok doc)
    (traced : samplingRate c.environment = .ok rate) (breaks : p.Breaks doc cause) :
    Breaks c (.apply patch document predicates output) cause
  | evaluation {predicate document : Argument} {d doc : Value} {rate : Double}
    {cause : Pattern.Fault} (described : readDescriptor predicate = .ok d)
    (read : readSource c false document = .ok doc)
    (traced : samplingRate c.environment = .ok rate) (breaks : Predicate.Breaks doc d cause) :
    Breaks c (.check predicate document) cause

/-- One of the two cases in which the program is stopped. -/
def Halts (c : Console) (command : Command) (f : Fault) : Prop :=
  Lacks c command f ∨ ∃ cause, f = .pattern cause ∧ Breaks c command cause

theorem CommandError.stops_run {cause : RunError} : (CommandError.patch (.run cause)).Stops f ↔
    cause = .fault f ∧ isReported f = false := by
  rw [Stops]
  cases cause <;> simp [fault?]

theorem Outcome.stops_error {entries : List Log.Entry} :
    (Outcome.mk (.error e) entries).Stops f ↔ e.Stops f := by
  constructor
  · rintro ⟨e', he, h⟩
    cases he
    exact h
  · intro h
    exact ⟨e, rfl, h⟩

theorem Outcome.not_stops_ok {r : Report} {entries : List Log.Entry} :
    ¬ (Outcome.mk (.ok r) entries).Stops f := by
  rintro ⟨e, he, -⟩
  cases he

/-! ### Runs and evaluations -/

section

variable {p : Patch} {d doc : Value} {rate : Double} {cause : Pattern.Fault}

theorem run_of_breaks (hp : p.IsStandard) (hrate : samplingRate c.environment = .ok rate)
    (h : p.Breaks doc cause) :
    ((starting c.environment).run p doc).run.result = .error (.fault (.pattern cause)) := by
  obtain ⟨t, ht⟩ := Session.currentTracing_starting hrate
  rw [Session.run_of_tracing ht]
  exact (hp.run_fault (f := .pattern cause) nofun).mpr ⟨cause, rfl, h⟩

/-- What stops the program in a run is a pattern that breaks it. -/
theorem breaks_of_run (hp : p.IsStandard)
    (h : ((starting c.environment).run p doc).run.result = .error (.fault f))
    (hf : isReported f = false) : (∃ rate, samplingRate c.environment = .ok rate) ∧
      ∃ cause, f = .pattern cause ∧ p.Breaks doc cause := by
  cases hrate : samplingRate c.environment with
  | error g =>
      rw [Session.run_of_no_tracing (Session.currentTracing_refused hrate)] at h
      cases h
      rw [samplingRate_reported hrate] at hf
      cases hf
  | ok rate =>
      obtain ⟨t, ht⟩ := Session.currentTracing_starting hrate
      rw [Session.run_of_tracing ht] at h
      refine ⟨⟨rate, rfl⟩, (hp.run_fault ?_).mp h⟩
      rintro rfl
      cases hf

theorem evaluate_of_breaks (hrate : samplingRate c.environment = .ok rate)
    (h : Predicate.Breaks doc d cause) :
    ((starting c.environment).evaluate d doc).verdict.answer = .error (.pattern cause) := by
  obtain ⟨t, ht⟩ := Session.currentTracing_starting hrate
  rw [Session.evaluate_of_tracing ht]
  exact Predicate.evaluate_error_iff.mpr ⟨cause, rfl, h⟩

/-- What stops the program in an evaluation is a pattern that breaks it. -/
theorem breaks_of_evaluate
    (h : ((starting c.environment).evaluate d doc).verdict.answer = .error f)
    (hf : isReported f = false) : (∃ rate, samplingRate c.environment = .ok rate) ∧
      ∃ cause, f = .pattern cause ∧ Predicate.Breaks doc d cause := by
  cases hrate : samplingRate c.environment with
  | error g =>
      rw [Session.evaluate_of_no_tracing (Session.currentTracing_refused hrate)] at h
      cases h
      rw [samplingRate_reported hrate] at hf
      cases hf
  | ok rate =>
      obtain ⟨t, ht⟩ := Session.currentTracing_starting hrate
      rw [Session.evaluate_of_tracing ht] at h
      exact ⟨⟨rate, rfl⟩, Predicate.evaluate_error_iff.mp h⟩

end

/-! ### Outcomes -/

theorem Halts.stops {command : Command} (h : Halts c command f) :
    (runCommand c (starting c.environment) command).Stops f := by
  rcases h with hlacks | ⟨cause, rfl, hbreaks⟩
  · cases hlacks with
    | patch => exact ⟨_, rfl, rfl, rfl⟩
    | patched output built =>
        rw [runCommand, runApply, built]
        exact ⟨_, rfl, rfl, rfl⟩
    | pointed => exact ⟨_, rfl, rfl, rfl⟩
    | predicate => exact ⟨_, rfl, rfl, rfl⟩
    | described read =>
        rw [runCommand, runCheck, read]
        exact ⟨_, rfl, rfl, rfl⟩
  · cases hbreaks with
    | run built read traced breaks =>
        rw [runCommand, runApply, built]
        dsimp only
        rw [read]
        dsimp only
        rw [run_of_breaks (readPatch_isStandard built) traced breaks]
        exact ⟨_, rfl, rfl, isReported_pattern breaks.sort⟩
    | evaluation described read traced breaks =>
        rw [runCommand, runCheck, described]
        dsimp only
        rw [read]
        dsimp only
        rw [evaluate_of_breaks traced breaks]
        exact ⟨_, rfl, rfl, isReported_pattern breaks.sort⟩

theorem runApply_halts {patch document output : Argument} {predicates : Bool}
    (h : (runApply c (starting c.environment) patch document predicates output).Stops f) :
    Halts c (.apply patch document predicates output) f := by
  rw [runApply] at h
  cases hp : readPatch c (starting c.environment) patch predicates with
  | error e =>
      rw [hp] at h
      obtain ⟨rfl, rfl⟩ := readPatch_stops hp (Outcome.stops_error.mp h)
      exact .inl (.patch document predicates output)
  | ok p =>
      rw [hp] at h
      dsimp only at h
      cases hdoc : readSource c (patch == some inputName) document with
      | error e =>
          rw [hdoc] at h
          obtain ⟨rfl, rfl⟩ := readSource_stops hdoc (Outcome.stops_error.mp h)
          exact .inl (.patched output hp)
      | ok doc =>
          rw [hdoc] at h
          dsimp only at h
          cases hr : ((starting c.environment).run p doc).run.result with
          | error cause =>
              rw [hr] at h
              obtain ⟨rfl, hf⟩ := CommandError.stops_run.mp (Outcome.stops_error.mp h)
              obtain ⟨⟨rate, hrate⟩, pattern, rfl, hbreaks⟩ :=
                breaks_of_run (readPatch_isStandard hp) hr hf
              exact .inr ⟨pattern, rfl, .run hp hdoc hrate hbreaks⟩
          | ok _ =>
              rw [hr] at h
              obtain ⟨e, he, hs⟩ := h
              exact absurd hs (CommandError.stops_of_none (delivered_error he))

theorem runPointer_halts {path document : Argument} (h : (runPointer c path document).Stops f) :
    Halts c (.pointer path document) f := by
  cases path with
  | none =>
      obtain ⟨rfl, hf⟩ := CommandError.stops_fault.mp (Outcome.stops_error.mp h)
      cases hf
  | some path =>
      unfold runPointer at h
      dsimp only at h
      cases hdoc : readSource c false document with
      | error e =>
          rw [hdoc] at h
          obtain ⟨rfl, rfl⟩ := readSource_stops hdoc (Outcome.stops_error.mp h)
          exact .inl (.pointed path)
      | ok doc =>
          rw [hdoc] at h
          dsimp only at h
          cases hv : (Pointer.ofPath path).valueOrFail doc with
          | ok v =>
              rw [hv] at h
              exact absurd h Outcome.not_stops_ok
          | error g =>
              rw [hv] at h
              obtain ⟨rfl, hf⟩ := CommandError.stops_fault.mp (Outcome.stops_error.mp h)
              rw [valueOrFail_reported hv] at hf
              cases hf

theorem runCheck_halts {predicate document : Argument}
    (h : (runCheck c (starting c.environment) predicate document).Stops f) :
    Halts c (.check predicate document) f := by
  rw [runCheck] at h
  cases hd : readDescriptor predicate with
  | error e =>
      rw [hd] at h
      obtain ⟨rfl, rfl⟩ := readDescriptor_stops hd (Outcome.stops_error.mp h)
      exact .inl (.predicate document)
  | ok d =>
      rw [hd] at h
      dsimp only at h
      cases hdoc : readSource c false document with
      | error e =>
          rw [hdoc] at h
          obtain ⟨rfl, rfl⟩ := readSource_stops hdoc (Outcome.stops_error.mp h)
          exact .inl (.described hd)
      | ok doc =>
          rw [hdoc] at h
          dsimp only at h
          cases hv : ((starting c.environment).evaluate d doc).verdict.answer with
          | ok b =>
              rw [hv] at h
              cases b <;> exact absurd h Outcome.not_stops_ok
          | error g =>
              rw [hv] at h
              obtain ⟨rfl, hf⟩ := CommandError.stops_fault.mp (Outcome.stops_error.mp h)
              obtain ⟨⟨rate, hrate⟩, pattern, rfl, hbreaks⟩ := breaks_of_evaluate hv hf
              exact .inr ⟨pattern, rfl, .evaluation hd hdoc hrate hbreaks⟩

/-- The outcome of a command stops the program in the two cases only. -/
theorem runCommand_stops (command : Command) :
    (runCommand c (starting c.environment) command).Stops f ↔ Halts c command f := by
  refine ⟨fun h => ?_, Halts.stops⟩
  cases command with
  | apply patch document predicates output => exact runApply_halts h
  | pointer path document => exact runPointer_halts h
  | check predicate document => exact runCheck_halts h

end JsonPatch.CommandLine
