import JsonPatch.Proofs.Grammar.Report
import JsonPatch.Proofs.Operation.Registries
import JsonPatch.Proofs.Patch.Turn

/-! # Which handler runs a descriptor

A patch looks the names of its descriptors up in a registry of its own.  That registry starts as a
copy of the one that is passed, or of the core operations; the checks of the predicates are merged
into it, and operations are registered in it later.  Here this is done by programs on registries
that others know too (`Arguments.construct`, `Located.register`).

* `construct_constructs` and `Located.register_outcome`: the programs do what `Patch.build` and
  `Patch.register` say, at the place of a registry that is new.
* `get?_buildRegistry` and `get?_registerEach`: what a name finds in the registry of a patch.
* `runFrom_runsBy`: a run asks the registry for nothing but handlers by name.
* `construct_resolves` puts these together: the order of precedence `Arguments.resolve`, for every
  registry, predicate set and sequence of registrations. -/

namespace JsonPatch.Patch

open Registries (Makes look_of_getElem? look_of_kept kept_set)

/-! ### The programs -/

/-- How a patch is made of a registry that others know by its place. -/
structure Arguments where
  settings : Settings
  /-- Whether predicates are operations too; null leaves it to the settings. -/
  withPredicates : Value := .null
  /-- The place of the registry that is passed; without one the core operations are meant. -/
  registry : Option Nat := none
  /-- The predicates that are passed; without any the built-in ones are meant. -/
  predicates : Option PredicateSet := none

/-- A patch that knows its registry by its place. -/
structure Located where
  operations : List Descriptor
  settings : Settings
  withPredicates : Bool
  registry : Nat

/-- The patch with the registry that is at its place. -/
def Located.patch (p : Located) (all : Registries) : Patch :=
  { p with registry := all.look p.registry }

namespace Arguments

/-- The predicates of a patch. -/
def predicateSet (a : Arguments) : PredicateSet := a.predicates.getD PredicateSet.builtin

/-- The registry that a patch starts from. -/
def base (a : Arguments) (all : Registries) : Registry :=
  match a.registry with
  | some place => all.look place
  | none => Registry.core

/-- The options that say the same with the registry itself and not its place. -/
def options (a : Arguments) (all : Registries) : Options where
  settings := a.settings
  withPredicates := a.withPredicates
  registry := a.base all
  predicates := a.predicateSet

/-- Whether predicates are enabled. -/
def enablesPredicates (a : Arguments) : Bool :=
  Options.enablesPredicates { settings := a.settings, withPredicates := a.withPredicates }

/-- Copy the registry that a patch starts from. -/
def copyBase (a : Arguments) : Registries.Task Nat :=
  match a.registry with
  | some place => Registries.copy place
  | none => do
    let core ← Registries.create Operation.core
    Registries.copy core

/-- Make the registry of a patch. -/
def makeRegistry (a : Arguments) : Registries.Task Nat := do
  let own ← a.copyBase
  if a.enablesPredicates then
    let checks ← Registries.asOperations a.predicateSet
    Registries.merge own checks
  else return own

/-- Make a patch. -/
def construct (a : Arguments) (source : Source) : InPlace BuildError Registries Located := do
  let ops ← MonadExcept.ofExcept source.read
  let ops ← MonadExcept.ofExcept (validate a.settings.validateSchema.isTruthy ops)
  let registry ← ExceptT.adapt .fault a.makeRegistry
  return { operations := descriptors ops, settings := a.settings,
           withPredicates := a.enablesPredicates, registry }

end Arguments

/-- A call that registers an operation; `none` stands for a value that cannot be called. -/
structure Registration where
  name : Value
  handler : Option Handler

/-- Add an operation to the patch, whatever is registered under its name. -/
def Located.register (p : Located) (c : Registration) : Registries.Task Unit :=
  Registries.register p.registry c.name c.handler

/-- All registries after some calls; the ones that fail are passed over. -/
def Located.registerEach (p : Located) (calls : List Registration) (all : Registries) :
    Registries :=
  calls.foldl (fun all c => (InPlace.outcome (p.register c) all).2) all

/-! ### Making a patch -/

section Construct

open InPlace (outcome outcome_bind)

variable (a : Arguments) (source : Source) (all : Registries)

theorem copyBase_makes : Makes all (.ok (a.base all)) (outcome a.copyBase all) := by
  unfold Arguments.copyBase Arguments.base
  cases a.registry with
  | some place => exact Registries.copy_makes place all
  | none =>
      refine (Registries.create_makes Operation.core all).bind (f := .ok)
        fun {g place after} kept holds => ?_
      rw [← look_of_getElem? holds]
      exact Registries.copy_makes place after

theorem buildRegistry_options :
    (a.options all).buildRegistry =
      if a.enablesPredicates then
        .ok (a.base all) >>= fun g => a.predicateSet.asOperations >>= fun s => .ok (g.merge s)
      else .ok (a.base all) := by
  change (if a.enablesPredicates then a.predicateSet.asOperations.map (a.base all).merge else _) = _
  cases a.predicateSet.asOperations <;> rfl

theorem makeRegistry_makes :
    Makes all (a.options all).buildRegistry (outcome a.makeRegistry all) := by
  rw [buildRegistry_options]
  unfold Arguments.makeRegistry
  split_ifs with henables
  · refine (copyBase_makes a all).bind fun {g own after} _ holds => ?_
    refine (Registries.asOperations_makes a.predicateSet after).bind
      fun {s checks after'} kept holds' => ?_
    -- the copy is still what it was when the checks have been made behind it
    rw [← look_of_getElem? (Registries.getElem?_of_kept kept holds), ← look_of_getElem? holds']
    exact Registries.merge_makes (List.getElem?_eq_some_iff.mp holds').1
  · rw [bind_pure]
    exact copyBase_makes a all

/-- The patch has a registry of its own, and the registries that were there before stay as they
are. -/
structure Located.Owns (p : Located) (before all : Registries) : Prop where
  kept : before <+: all
  fresh : before.length ≤ p.registry
  there : p.registry < all.length

/-- A patch is made that has a registry of its own, or there is an error. -/
inductive Constructs (before : Registries) :
    Except BuildError Patch → Except BuildError Located × Registries → Prop
  | done {p : Located} {after : Registries} (owns : p.Owns before after) :
      Constructs before (.ok (p.patch after)) (.ok p, after)
  | failed {e : BuildError} {after : Registries} (kept : before <+: after) :
      Constructs before (.error e) (.error e, after)

theorem construct_constructs :
    Constructs all (build (a.options all) source) (outcome (a.construct source) all) := by
  have hsettings : (a.options all).settings = a.settings := rfl
  unfold build Arguments.construct
  rw [outcome_bind, InPlace.outcome_ofExcept, hsettings]
  cases source.read with
  | error e => exact .failed List.prefix_rfl
  | ok ops =>
      dsimp only
      rw [outcome_bind, InPlace.outcome_ofExcept]
      cases validate a.settings.validateSchema.isTruthy ops with
      | error e => exact .failed List.prefix_rfl
      | ok ops =>
          dsimp only
          rw [outcome_bind, InPlace.outcome_adapt, assemble]
          have h := makeRegistry_makes a all
          generalize (a.options all).buildRegistry = made at h ⊢
          generalize outcome a.makeRegistry all = out at h ⊢
          cases h with
          | failed kept => exact .failed kept
          | @done g place after kept fresh holds =>
              have h : Constructs all (.ok (Located.patch _ after)) (.ok ⟨descriptors ops,
                  a.settings, a.enablesPredicates, place⟩, after) :=
                .done ⟨kept, fresh, (List.getElem?_eq_some_iff.mp holds).1⟩
              rw [Located.patch, look_of_getElem? holds] at h
              exact h

end Construct

/-! ### Registering -/

section Register

open InPlace (outcome)

/-- The name and the handler that a call registers. The call is rejected if its name is no text or
an empty one, or if its handler cannot be called. -/
def Registration.accepted? (c : Registration) : Option (String × Handler) :=
  match c.name with
  | .string n => if n = "" then none else c.handler.map fun h => (n, h)
  | _ => none

/-- The patch after a call, which changes nothing if it fails. -/
def tryRegister (p : Patch) (c : Registration) : Patch :=
  match p.register c.name c.handler with
  | .ok p' => p'
  | .error _ => p

/-- The patch after some calls. -/
def registerEach (p : Patch) (calls : List Registration) : Patch := calls.foldl tryRegister p

variable {c : Registration}

theorem Registration.register_of_accepted {n : String} {h : Handler}
    (hc : c.accepted? = some (n, h)) (r : Registry) :
    r.register c.name c.handler = .ok ⟨Members.put n h r.handlers⟩ := by
  unfold accepted? at hc
  split at hc
  · rename_i m hm
    split_ifs at hc with hn
    obtain ⟨h', hh, heq⟩ := Option.map_eq_some_iff.mp hc
    cases heq
    rw [hm, hh, Registry.register_string hn]
  · cases hc

theorem Registration.register_of_rejected (hc : c.accepted? = none) (r : Registry) :
    ∃ f, r.register c.name c.handler = .error f := by
  unfold accepted? at hc
  split at hc
  · rename_i n hm
    split_ifs at hc with hn
    · subst hn
      rw [hm]
      exact ⟨_, rfl⟩
    · rw [hm, Option.map_eq_none_iff.mp hc, Registry.register_string hn]
      exact ⟨_, rfl⟩
  · rename_i hm
    exact ⟨_, Registry.register_badName fun n hn => absurd hn (hm n)⟩

/-- The accepted calls are merged into the registry of a patch. -/
theorem registerEach_eq (calls : List Registration) (p : Patch) :
    p.registerEach calls =
      { p with registry := p.registry.merge ⟨calls.filterMap Registration.accepted?⟩ } := by
  induction calls generalizing p with
  | nil => rfl
  | cons c rest ih =>
      change (p.tryRegister c).registerEach rest = _
      rw [ih, tryRegister, register]
      cases hc : c.accepted? with
      | none =>
          obtain ⟨f, hf⟩ := Registration.register_of_rejected hc p.registry
          rw [hf, List.filterMap_cons_none hc]
          rfl
      | some e =>
          rw [Registration.register_of_accepted hc, List.filterMap_cons_some hc]
          rfl

/-- Registering in the patch with a place is registering in the patch with the registry there. -/
theorem Located.register_outcome (p : Located) (c : Registration) (all : Registries) :
    outcome (p.register c) all =
      match (p.patch all).register c.name c.handler with
      | .ok q => (.ok (), all.set p.registry q.registry)
      | .error f => (.error f, all) := by
  unfold Located.register Patch.register
  rw [Registries.register_outcome]
  change _ = match ((all.look p.registry).register c.name c.handler).map
      (fun registry => { p.patch all with registry }) with
    | .ok q => _
    | .error f => _
  cases (all.look p.registry).register c.name c.handler <;> rfl

variable {p : Located} {all before : Registries}

/-- A call changes the registry of the patch at most. -/
theorem Located.Owns.register (h : p.Owns before all) (c : Registration) :
    p.Owns before (outcome (p.register c) all).2 ∧
      p.patch (outcome (p.register c) all).2 = (p.patch all).tryRegister c := by
  rw [Located.register_outcome, tryRegister]
  unfold Patch.register
  cases (p.patch all).registry.register c.name c.handler with
  | error f => exact ⟨h, rfl⟩
  | ok g =>
      refine ⟨⟨kept_set h.kept h.fresh g, h.fresh, ?_⟩, ?_⟩
      · exact h.there.trans_eq List.length_set.symm
      · change ({ p with registry := Registries.look (all.set p.registry g) p.registry } : Patch) = _
        rw [Registries.look_set h.there]
        rfl

theorem Located.Owns.registerEach (h : p.Owns before all) (calls : List Registration) :
    p.Owns before (p.registerEach calls all) ∧
      p.patch (p.registerEach calls all) = (p.patch all).registerEach calls := by
  induction calls generalizing all with
  | nil => exact ⟨h, rfl⟩
  | cons c rest ih =>
      obtain ⟨howns, hpatch⟩ := h.register c
      rw [Patch.registerEach, List.foldl_cons, ← hpatch]
      exact ih howns

end Register

/-! ### The order of precedence -/

/-- The handler of the last accepted call for a name. -/
def lastRegistered (calls : List Registration) (name : String) : Option Handler :=
  Members.find? name (calls.filterMap Registration.accepted?).reverse

/-- The check of a predicate, if predicates are enabled and there is one of the name. -/
def Options.check? (o : Options) (name : String) : Option Handler :=
  if o.enablesPredicates && Members.has name o.predicates.rules then
    some (o.predicates.check name)
  else none

theorem get?_registerEach (calls : List Registration) (p : Patch) (n : String) :
    (p.registerEach calls).registry.get? (.string n) =
      (lastRegistered calls n).or (p.registry.get? (.string n)) := by
  rw [registerEach_eq]
  exact Members.find?_foldl_put n _ _

theorem get?_buildRegistry {o : Options} (h : "" ∉ Members.names o.predicates.rules)
    {r : Registry} (hr : o.buildRegistry = .ok r) (n : String) :
    r.get? (.string n) = (o.check? n).or (o.registry.get? (.string n)) := by
  unfold Options.buildRegistry at hr
  unfold Options.check?
  cases henables : o.enablesPredicates with
  | false =>
      rw [henables] at hr
      cases hr
      rfl
  | true =>
      rw [henables, if_pos rfl, PredicateSet.asOperations_eq_ok h] at hr
      cases hr
      rw [Registry.get?_merge _ (PredicateSet.names_checks_nodup _), PredicateSet.get?_checks,
        Bool.true_and]

/-- Predicates with names never keep a patch from being made; only its document may. -/
theorem build_isOk_iff {o : Options} (h : "" ∉ Members.names o.predicates.rules)
    {source : Source} : (∃ p, build o source = .ok p) ↔
      ∃ ops, source.read = .ok ops ∧ validate o.settings.validateSchema.isTruthy ops = .ok ops := by
  constructor
  · rintro ⟨p, hp⟩
    obtain ⟨ops, hread, hvalid, -⟩ := build_eq_ok hp
    exact ⟨ops, hread, hvalid⟩
  · rintro ⟨ops, hread, hvalid⟩
    obtain ⟨r, hr⟩ := exists_buildRegistry h
    refine ⟨⟨descriptors ops, o.settings, o.enablesPredicates, r⟩,
      build_of_assemble hread hvalid ?_⟩
    rw [assemble, hr]
    rfl

/-! ### Runs by handlers -/

/-- A run that asks for handlers by name: of descriptors from an index on and a document, what it
leaves and how it ends.  With `logs` every operation that succeeds is logged. -/
inductive RunsBy (logs : Bool) (resolve : Value → Option Handler) :
    Nat → List Descriptor → Value → Value → Except RunError Unit → Prop
  | done {i : Nat} {doc : Value} : RunsBy logs resolve i [] doc doc (.ok ())
  | unknown {i : Nat} {d : Descriptor} {rest : List Descriptor} {doc : Value}
      (absent : resolve (d.field "op") = none) :
      RunsBy logs resolve i (d :: rest) doc doc (.error (.unknown d i))
  | stopped {i : Nat} {d : Descriptor} {rest : List Descriptor} {doc left : Value}
      {handler : Handler} {trouble : Trouble} (found : resolve (d.field "op") = some handler)
      (carried : (handler (.object d) doc).carryOut doc (fun e => e.apply (d.field "value") doc) =
        ⟨left, some trouble⟩) :
      RunsBy logs resolve i (d :: rest) doc left (.error (troubled i d trouble).1)
  /-- The operation succeeds, but it cannot be logged that it does. -/
  | unlogged {i : Nat} {d : Descriptor} {rest : List Descriptor} {doc left : Value}
      {handler : Handler} (found : resolve (d.field "op") = some handler)
      (carried : (handler (.object d) doc).carryOut doc (fun e => e.apply (d.field "value") doc) =
        ⟨left, none⟩)
      (logged : logs = true) (huge : ¬ d.IsLoggable) :
      RunsBy logs resolve i (d :: rest) doc left (.error (.fault .hugeInteger))
  | goesOn {i : Nat} {d : Descriptor} {rest : List Descriptor} {doc next left : Value}
      {handler : Handler} {result : Except RunError Unit}
      (found : resolve (d.field "op") = some handler)
      (carried : (handler (.object d) doc).carryOut doc (fun e => e.apply (d.field "value") doc) =
        ⟨next, none⟩)
      (loggable : logs = true → d.IsLoggable)
      (later : RunsBy logs resolve (i + 1) rest next left result) :
      RunsBy logs resolve i (d :: rest) doc left result

/-- A run of descriptors with names is led by the handlers in the registry of its patch. -/
theorem runFrom_runsBy (p : Patch) {ds : List Descriptor}
    (hnames : ∀ d ∈ ds, ∃ n, d.field "op" = .string n) (i : Nat) (doc : Value) :
    RunsBy p.settings.logOperations.isTruthy p.registry.get? i ds doc
      (p.runFrom i ds doc).document (p.runFrom i ds doc).result := by
  induction ds generalizing i doc with
  | nil => exact .done
  | cons d rest ih =>
      rw [List.forall_mem_cons] at hnames
      obtain ⟨⟨n, hn⟩, hrest⟩ := hnames
      have hcontent := p.turn_content i d doc doc fun e => e.apply (d.field "value") doc
      have herror := p.turn_error i d doc doc fun e => e.apply (d.field "value") doc
      rw [← turnOn] at hcontent herror
      cases hfound : p.registry.get? (d.field "op") with
      | none =>
          rw [hfound] at hcontent herror
          rw [reported_of_ok (unknownEntry_of_name hn)] at herror
          rw [runFrom_cons_error herror, hcontent]
          exact .unknown hfound
      | some handler =>
          rw [hfound] at hcontent herror
          dsimp only at hcontent herror
          generalize hcarried : (handler (.object d) doc).carryOut doc _ = edited
            at hcontent herror
          obtain ⟨left, trouble⟩ := edited
          cases trouble with
          | some trouble =>
              rw [runFrom_cons_error herror, hcontent]
              exact .stopped hfound hcarried
          | none =>
              dsimp only at herror
              by_cases hlog : p.settings.logOperations.isTruthy = true → d.IsLoggable
              · rw [applied_eq_none.mpr hlog] at herror
                rw [runFrom_cons_ok herror, hcontent]
                exact .goesOn hfound hcarried hlog (ih hrest _ _)
              · obtain ⟨hlogs, hhuge⟩ := Classical.not_imp.mp hlog
                rw [applied_of_not_isLoggable hhuge, if_pos hlogs] at herror
                rw [runFrom_cons_error herror, hcontent]
                exact .unlogged hfound hcarried hlogs hhuge

/-! ### Resolution -/

section Resolve

open InPlace (outcome)

/-- The handler that a name stands for in a patch after some calls: that of the last accepted call
for the name, or else the check of an enabled predicate, or else what the registry that the patch
was made of has under the name. -/
def Arguments.resolve (a : Arguments) (all : Registries) (calls : List Registration) :
    Value → Option Handler
  | .string n =>
    (lastRegistered calls n).or
      (((a.options all).check? n).or ((a.base all).get? (.string n)))
  | _ => none

/-- What a patch that was made when there were `all` registries does after some calls. -/
structure Located.Resolves (p : Located) (a : Arguments) (all : Registries)
    (calls : List Registration) (now : Registries) : Prop where
  /-- A run is led by the handlers that the names stand for. -/
  runs : ∀ doc, RunsBy a.settings.logOperations.isTruthy (a.resolve all calls) 0 p.operations doc
    ((p.patch now).run doc).document ((p.patch now).run doc).result
  /-- An accepted call succeeds. -/
  accepts : ∀ c, c.accepted?.isSome → ∃ later, outcome (p.register c) now = (.ok (), later)
  /-- A rejected call fails and changes nothing. -/
  rejects : ∀ c, c.accepted? = none → ∃ f, outcome (p.register c) now = (.error f, now)
  /-- The registries that were there resolve every name as before. -/
  keeps : ∀ place < all.length, now.look place = all.look place

theorem Constructs.eq_ok {before after : Registries} {made : Except BuildError Patch} {p : Located}
    (h : Constructs before made (.ok p, after)) :
    made = .ok (p.patch after) ∧ p.Owns before after := by
  cases h with
  | done owns => exact ⟨rfl, owns⟩

theorem construct_isOk_iff (a : Arguments) (source : Source) (all : Registries) :
    (∃ p after, outcome (a.construct source) all = (.ok p, after)) ↔
      ∃ q, build (a.options all) source = .ok q := by
  have hcon := construct_constructs a source all
  constructor
  · rintro ⟨p, after, h⟩
    rw [h] at hcon
    exact ⟨_, hcon.eq_ok.1⟩
  · rintro ⟨q, h⟩
    rw [h] at hcon
    generalize outcome (a.construct source) all = out at hcon ⊢
    cases hcon with
    | @done p after owns => exact ⟨p, after, rfl⟩

theorem Arguments.names_predicateSet {a : Arguments}
    (h : ∀ s, a.predicates = some s → "" ∉ Members.names s.rules) :
    "" ∉ Members.names a.predicateSet.rules := by
  unfold Arguments.predicateSet
  cases hp : a.predicates with
  | none => exact PredicateSet.empty_notMem_names_builtin
  | some s => exact h s hp

section Made

variable {a : Arguments} {source : Source} {all after : Registries}

theorem get?_eq_resolve {q : Patch} (hnames : "" ∉ Members.names a.predicateSet.rules)
    (h : build (a.options all) source = .ok q) (calls : List Registration) :
    (q.registerEach calls).registry.get? = a.resolve all calls := by
  obtain ⟨-, -, -, -, -, hr⟩ := build_eq_ok h
  funext name
  cases name with
  | string n =>
      rw [get?_registerEach, get?_buildRegistry hnames hr]
      rfl
  | _ => rfl

theorem Located.Owns.resolves {p : Located} (howns : p.Owns all after)
    (hnames : "" ∉ Members.names a.predicateSet.rules)
    (hbuild : build (a.options all) source = .ok (p.patch after)) (calls : List Registration) :
    p.Resolves a all calls (p.registerEach calls after) := by
  obtain ⟨hnow, hpatch⟩ := howns.registerEach calls
  generalize p.registerEach calls after = now at hnow hpatch ⊢
  refine ⟨fun doc => ?_, fun c hc => ?_, fun c hc => ?_, fun place hp => ?_⟩
  · obtain ⟨-, -, -, -, hsettings, -⟩ := build_eq_ok hbuild
    obtain ⟨-, hnamed⟩ := operations_of_build hbuild
    have hkept : ((p.patch after).registerEach calls).operations = p.operations ∧
        ((p.patch after).registerEach calls).settings = a.settings := by
      rw [registerEach_eq]
      exact ⟨rfl, hsettings⟩
    rw [hpatch, ← get?_eq_resolve hnames hbuild calls, ← hkept.1, ← hkept.2]
    exact runFrom_runsBy _ (hkept.1 ▸ hnamed) 0 doc
  · obtain ⟨e, he⟩ := Option.isSome_iff_exists.mp hc
    rw [Located.register, Registries.register_outcome, Registration.register_of_accepted he]
    exact ⟨_, rfl⟩
  · obtain ⟨f, hf⟩ := Registration.register_of_rejected hc (now.look p.registry)
    rw [Located.register, Registries.register_outcome, hf]
    exact ⟨f, rfl⟩
  · exact look_of_kept hnow.kept hp

end Made

/-- The names of a patch are resolved in one order of precedence, and the registry that it was made
of stays as it is. -/
theorem construct_resolves (a : Arguments) (source : Source) (all : Registries)
    (h : ∀ s, a.predicates = some s → "" ∉ Members.names s.rules) :
    ((∃ p after, outcome (a.construct source) all = (.ok p, after)) ↔
      ∃ ops, source.read = .ok ops ∧
        validate a.settings.validateSchema.isTruthy ops = .ok ops) ∧
      ∀ p after, outcome (a.construct source) all = (.ok p, after) →
        build (a.options all) source = .ok (p.patch after) ∧
        (source.read = .ok (.array (p.operations.map .object)) ∧
          ∀ d ∈ p.operations, ∃ n, d.field "op" = .string n) ∧
        ∀ calls, p.patch (p.registerEach calls after) = (p.patch after).registerEach calls ∧
          p.Resolves a all calls (p.registerEach calls after) := by
  have hnames := a.names_predicateSet h
  refine ⟨(construct_isOk_iff a source all).trans (build_isOk_iff hnames), fun p after h => ?_⟩
  have hcon := construct_constructs a source all
  rw [h] at hcon
  obtain ⟨hbuild, howns⟩ := hcon.eq_ok
  exact ⟨hbuild, operations_of_build hbuild, fun calls =>
    ⟨(howns.registerEach calls).2, howns.resolves hnames hbuild calls⟩⟩

/-- A handler that does nothing. -/
def idle : Handler := fun _ _ => {}

/-- A registry that has an operation of the core and two others. -/
def passed : Registry :=
  ⟨[("add", idle), ("wait", idle), ("remove", Operation.handler Operation.remove)]⟩

/-- A patch with two predicates that have the names of operations. -/
def overlapping : Arguments where
  settings :=
    { enablePredicates := .bool false, logOperations := .bool false, logLevel := "INFO",
      validateSchema := .bool false }
  withPredicates := .bool true
  registry := some 0
  predicates := some ⟨[("add", .host fun _ _ => .ok (.bool true)), ("wait", .combine .all)]⟩

/-- A patch document whose last name stands for nothing. -/
def overlappingSource : Source :=
  .value (.array [.object [("op", .string "add")], .object [("op", .string "wait")],
    .object [("op", .string "move")]])

/-- Calls of which the last two are rejected. -/
def overlappingCalls : List Registration :=
  [⟨.string "wait", some idle⟩, ⟨.string "", some idle⟩, ⟨.string "remove", none⟩]

theorem construct_resolves_overlapping :
    (∀ s, overlapping.predicates = some s → "" ∉ Members.names s.rules) ∧
      ∃ p after, outcome (overlapping.construct overlappingSource) [passed] = (.ok p, after) ∧
        p.Resolves overlapping [passed] overlappingCalls
          (p.registerEach overlappingCalls after) ∧
        ((p.patch (p.registerEach overlappingCalls after)).run (.object [])).result =
          .error (.unknown [("op", .string "move")] 2) := by
  have hnames : ∀ s, overlapping.predicates = some s → "" ∉ Members.names s.rules := by
    intro s hs
    obtain rfl := Option.some.inj hs
    decide
  obtain ⟨hbuilds, hresolves⟩ := construct_resolves overlapping overlappingSource [passed] hnames
  obtain ⟨p, after, h⟩ := hbuilds.mpr ⟨_, rfl, rfl⟩
  obtain ⟨-, -, hcalls⟩ := hresolves p after h
  refine ⟨hnames, p, after, h, (hcalls _).2, ?_⟩
  cases h
  rfl

end Resolve

end JsonPatch.Patch
