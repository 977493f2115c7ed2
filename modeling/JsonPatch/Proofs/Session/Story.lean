import JsonPatch.Proofs.Log.Event
import JsonPatch.Proofs.Patch.FirstFailure
import JsonPatch.Proofs.Session.Observer

/-! # What a run tells

The events of a run, the span that a session records of it and the outcome tell the same story,
unless the run comes to an operation that cannot be told of (`ComesToUntold`).  One turn logs one
event about its operation, or none if it succeeds unlogged or cannot be told of (`turnOn_events`).
By induction on the operations, a run logs the completed ones and then the one that ends it
(`runFrom_events`); if this one cannot be told of, the story breaks off there
(`runFrom_untold`). -/

namespace JsonPatch

open Log (Event Entry)

/-- The lines of a run that are events. -/
def Run.events (r : Run) : List Entry :=
  r.entries.filter fun e => e.logger = Log.eventLogger

namespace Patch

/-- The handler of a descriptor meets no faults but those that make the operation fail. -/
def FailsOnlyAt (p : Patch) (d : Descriptor) : Prop :=
  ∀ handler, p.registry.get? (d.field "op") = some handler →
    ∀ doc f, (handler (.object d) doc).edit = .error (.fault f) → f.failsOperation = true

/-- The handlers of a patch meet no faults but those that make the operation fail. -/
def FailsOnly (p : Patch) : Prop :=
  ∀ d ∈ p.operations, p.FailsOnlyAt d

theorem IsStandard.failsOnly {p : Patch} (hp : p.IsStandard) (hsafe : p.PatternsSafe) :
    p.FailsOnly := by
  intro d hd handler hh doc f hf
  have htrouble : ((handler (.object d) doc).carryOut doc
      fun e => e.apply (d.field "value") doc).trouble = some (.fault f) := by
    simp only [Plan.carryOut, hf]
  exact hp.failsOperation (hsafe d hd) hh htrouble

/-! ### What is told -/

/-- An event about the run as a whole. -/
def aboutRun (p : Patch) (name : String) : Event :=
  ⟨name, [("operations", numberField p.operations.length)]⟩

/-- An event about the operation of an index. -/
def aboutOperation (name : String) (k : Nat) : Event :=
  ⟨name, [("index", numberField k)]⟩

/-- What is told of operations that succeed, of which the first has the given index. -/
def aboutApplied (p : Patch) (i n : Nat) : List Event :=
  if p.settings.logOperations.isTruthy then
    (List.range' i n).map (aboutOperation "patch_operation_applied")
  else []

/-- How a run ends that has completed the first `k` operations, and the last event it tells. -/
inductive Ends (p : Patch) (k : Nat) : Except RunError Unit → Event → Prop where
  | completed (h : k = p.operations.length) :
    Ends p k (.ok ()) (p.aboutRun "patch_apply_completed")
  | unknown {d : Descriptor} (h : p.operations[k]? = some d) :
    Ends p k (.error (.unknown d k)) (aboutOperation "patch_unknown_operation" k)
  | failed {d : Descriptor} {cause : Failure} {index : Int} (h : p.operations[k]? = some d) :
    Ends p k (.error (.failed d cause index)) (aboutOperation "patch_operation_failed" k)

/-- What becomes of the operation of a descriptor cannot be told: the event about it shows a value
that cannot be written. -/
inductive Untold (p : Patch) (d : Descriptor) (doc : Value) : Prop where
  | unknown (absent : p.registry.get? (d.field "op") = none)
    (huge : Json.isWritable (Redaction.scrub (d.field "op")) = false)
  | failed {handler : Handler} {t : Trouble}
    (known : p.registry.get? (d.field "op") = some handler)
    (trouble : ((handler (.object d) doc).carryOut doc
      fun e => e.apply (d.field "value") doc).trouble = some t)
    (huge : ¬ d.IsLoggable)
  | applied {handler : Handler} (known : p.registry.get? (d.field "op") = some handler)
    (done : ((handler (.object d) doc).carryOut doc
      fun e => e.apply (d.field "value") doc).trouble = none)
    (logged : p.settings.logOperations.isTruthy = true) (huge : ¬ d.IsLoggable)

/-- What can be written can be told. -/
theorem not_untold_of_isLoggable {p : Patch} {d : Descriptor} {doc : Value} (h : d.IsLoggable) :
    ¬ p.Untold d doc := by
  intro hu
  cases hu with
  | unknown absent huge =>
      rw [(isLoggable_iff.mp h).1] at huge
      cases huge
  | failed known trouble huge => exact huge h
  | applied known done logged huge => exact huge h

/-- A run comes to an operation that cannot be told of, after others that succeed. -/
structure ComesToUntold (p : Patch) (doc : Value) (k : Nat) (d : Descriptor) : Prop where
  descriptor : p.operations[k]? = some d
  earlier : p.AllSucceed (p.operations.take k) doc
  untold : p.Untold d (p.documentAt doc k)

/-! ### The events -/

section Entries

theorem scrubUnder_numberField {name : String} (h : Redaction.isSensitive name = false) (n : Nat) :
    Redaction.scrubUnder name (numberField n) = numberField n := by
  rw [Redaction.scrubUnder, h]
  rfl

theorem runEntry_reports (p : Patch) {name : String} (h : Log.isPlainName name = true) :
    (p.runEntry name).Reports (p.aboutRun name) := by
  have hopen : Redaction.isSensitive "operations" = false := by decide
  refine Log.line_reports h Log.debug fun m hm => ?_
  obtain rfl := List.mem_singleton.mp hm
  exact ⟨rfl, scrubUnder_numberField hopen _⟩

/-- An event of an operation reports the operation's index. -/
theorem operationEntry_reports {name : String} (h : Log.isPlainName name = true) {level : Int}
    {given own : Members} {k : Nat} {e : Entry} (he : Log.event level name given own = .ok e)
    (hindex : Members.find? "index" (given ++ own) = some (numberField k)) :
    e.Reports (aboutOperation name k) := by
  have hopen : Redaction.isSensitive "index" = false := by decide
  obtain ⟨-, rfl⟩ := Log.event_eq_ok he
  refine Log.line_reports h level fun m hm => ?_
  obtain rfl := List.mem_singleton.mp hm
  exact ⟨hindex, scrubUnder_numberField hopen k⟩

variable {k : Nat} {d : Descriptor} {e : Entry}

theorem appliedEntry_reports (h : appliedEntry k d = .ok e) :
    e.Reports (aboutOperation "patch_operation_applied" k) :=
  operationEntry_reports (by decide) h rfl

theorem failedEntry_reports {message : String} (h : failedEntry k d message = .ok e) :
    e.Reports (aboutOperation "patch_operation_failed" k) :=
  operationEntry_reports (by decide) h rfl

theorem unknownEntry_reports (h : unknownEntry k d = .ok e) :
    e.Reports (aboutOperation "patch_unknown_operation" k) :=
  operationEntry_reports (by decide) h rfl

end Entries

/-- The lines of predicates are no events. -/
theorem filter_notes (notes : List Note) (entries : List Entry) :
    (notes.map Log.ofNote ++ entries).filter (fun e => e.logger = Log.eventLogger) =
      entries.filter fun e => e.logger = Log.eventLogger := by
  have hnotes : (notes.map Log.ofNote).filter (fun e => e.logger = Log.eventLogger) = [] := by
    refine List.filter_eq_nil_iff.mpr fun e he => ?_
    obtain ⟨n, -, rfl⟩ := List.mem_map.mp he
    simp [Log.ofNote, Log.predicateLogger, Log.eventLogger]
  rw [List.filter_append, hnotes, List.nil_append]

/-! ### One turn -/

/-- How a turn ends, and what it tells. -/
inductive TurnTells (p : Patch) (i : Nat) (d : Descriptor) (doc : Value) :
    Option RunError → List Event → Prop where
  | done : TurnTells p i d doc none (p.aboutApplied i 1)
  | unknown : TurnTells p i d doc (some (.unknown d i)) [aboutOperation "patch_unknown_operation" i]
  | failed {cause : Failure} {index : Int} :
    TurnTells p i d doc (some (.failed d cause index)) [aboutOperation "patch_operation_failed" i]
  | untold (h : p.Untold d doc) : TurnTells p i d doc (some (.fault .hugeInteger)) []

section Turn

variable {p : Patch} {d : Descriptor} {doc : Value}

/-- The trouble of a turn makes the operation fail if the faults of its handler do. -/
theorem FailsOnlyAt.of_trouble (hd : p.FailsOnlyAt d) {handler : Handler}
    (hh : p.registry.get? (d.field "op") = some handler) {f : Fault}
    (ht : ((handler (.object d) doc).carryOut doc
      fun e => e.apply (d.field "value") doc).trouble = some (.fault f)) :
    f.failsOperation = true := by
  unfold Plan.carryOut at ht
  cases he : (handler (.object d) doc).edit with
  | error t =>
      rw [he] at ht
      cases ht
      exact hd handler hh doc f he
  | ok e =>
      cases e with
      | none => rw [he] at ht; cases ht
      | some e =>
          rw [he] at ht
          obtain ⟨source, target, rfl⟩ := Edit.apply_trouble ht
          obtain ⟨cause, hcause⟩ := Edit.apply_move_trouble ht
          cases hcause

/-- The trouble of an operation that can be logged is told by one event. -/
theorem troubled_events (hlog : d.IsLoggable) {t : Trouble}
    (ht : ∀ f, t = .fault f → f.failsOperation = true) (i : Nat) :
    ∃ cause index e, troubled i d t = (.failed d cause index, [e]) ∧
      e.Reports (aboutOperation "patch_operation_failed" i) := by
  cases t with
  | failure cause index =>
      obtain ⟨e, he⟩ := failedEntry_of_isLoggable (i := i) hlog (cause.message d)
      refine ⟨cause, index.getD i, e, ?_, failedEntry_reports he⟩
      rw [troubled, he, reported]
  | fault f =>
      obtain ⟨e, he⟩ := failedEntry_of_isLoggable (i := i) hlog f.message
      refine ⟨.fault f, i, e, ?_, failedEntry_reports he⟩
      rw [troubled, if_pos (ht f rfl), he, reported]

/-- A success that can be logged is told by one event, if it is to be logged. -/
theorem applied_events (hlog : p.settings.logOperations.isTruthy = true → d.IsLoggable) (i : Nat) :
    (p.applied i d).1 = none ∧ (∀ e ∈ (p.applied i d).2, e.logger = Log.eventLogger) ∧
      List.Forall₂ Entry.Reports (p.applied i d).2 (p.aboutApplied i 1) := by
  unfold applied aboutApplied
  split_ifs with hlogs
  · obtain ⟨e, he⟩ := appliedEntry_of_isLoggable (i := i) (hlog hlogs)
    have hreports := appliedEntry_reports he
    rw [he]
    exact ⟨rfl, by simpa using hreports.logger, .cons hreports .nil⟩
  · exact ⟨rfl, by simp, .nil⟩

theorem turnOn_events (hd : p.FailsOnlyAt d) (i : Nat) (doc : Value) :
    ∃ told, TurnTells p i d doc (p.turnOn i d doc).error told ∧
      List.Forall₂ Entry.Reports
        ((p.turnOn i d doc).entries.filter fun e => e.logger = Log.eventLogger) told := by
  unfold turnOn turn
  cases hh : p.registry.get? (d.field "op") with
  | none =>
      dsimp only
      cases hop : Json.isWritable (Redaction.scrub (d.field "op")) with
      | true =>
          obtain ⟨e, he⟩ := unknownEntry_of_isWritable (i := i) hop
          have hreports := unknownEntry_reports he
          rw [he, reported, List.filter_cons_of_pos (by simpa using hreports.logger)]
          exact ⟨_, .unknown, .cons hreports .nil⟩
      | false =>
          rw [unknownEntry_of_not_isWritable hop, reported]
          exact ⟨_, .untold (.unknown hh hop), .nil⟩
  | some handler =>
      dsimp only
      cases ht : ((handler (.object d) doc).carryOut doc
          fun e => e.apply (d.field "value") doc).trouble with
      | none =>
          dsimp only
          rw [filter_notes]
          by_cases hlog : p.settings.logOperations.isTruthy = true → d.IsLoggable
          · obtain ⟨hnone, hevents, hreports⟩ := applied_events hlog i
            rw [hnone, List.filter_eq_self.mpr (by simpa using hevents)]
            exact ⟨_, .done, hreports⟩
          · obtain ⟨hlogs, huge⟩ := Classical.not_imp.mp hlog
            rw [applied_of_not_isLoggable huge, if_pos hlogs]
            exact ⟨_, .untold (.applied hh ht hlogs huge), .nil⟩
      | some t =>
          have hsettled : ∀ f, t = .fault f → f.failsOperation = true :=
            fun f hf => hd.of_trouble hh (hf ▸ ht)
          dsimp only
          rw [filter_notes]
          by_cases hlog : d.IsLoggable
          · obtain ⟨cause, index, e, heq, hreports⟩ := troubled_events hlog hsettled i
            rw [heq, List.filter_cons_of_pos (by simpa using hreports.logger)]
            exact ⟨_, .failed, .cons hreports .nil⟩
          · rw [troubled_of_not_isLoggable hlog hsettled]
            exact ⟨_, .untold (.failed hh ht hlog), .nil⟩

end Turn

/-! ### All turns -/

theorem aboutApplied_zero (p : Patch) (i : Nat) : p.aboutApplied i 0 = [] := by
  rw [aboutApplied]
  split_ifs <;> rfl

theorem aboutApplied_succ (p : Patch) (i k : Nat) :
    p.aboutApplied i (k + 1) = p.aboutApplied i 1 ++ p.aboutApplied (i + 1) k := by
  unfold aboutApplied
  split_ifs
  · rfl
  · rfl

/-- How the turns of operations end after the first `k`, and what is told then. -/
inductive TurnsTell (p : Patch) (i k : Nat) (ops : List Descriptor) (doc : Value) :
    Except RunError Unit → List Event → Prop where
  | completed (h : k = ops.length) : TurnsTell p i k ops doc (.ok ()) []
  | unknown {d : Descriptor} (h : ops[k]? = some d) :
    TurnsTell p i k ops doc (.error (.unknown d (i + k)))
      [aboutOperation "patch_unknown_operation" (i + k)]
  | failed {d : Descriptor} {cause : Failure} {index : Int} (h : ops[k]? = some d) :
    TurnsTell p i k ops doc (.error (.failed d cause index))
      [aboutOperation "patch_operation_failed" (i + k)]
  | untold {d : Descriptor} (h : ops[k]? = some d)
    (huntold : p.Untold d (p.documentAfter (ops.take k) doc)) :
    TurnsTell p i k ops doc (.error (.fault .hugeInteger)) []

theorem TurnsTell.cons {p : Patch} {i k : Nat} {c : Descriptor} {ops : List Descriptor} {doc : Value}
    {result : Except RunError Unit} {told : List Event}
    (h : TurnsTell p (i + 1) k ops (p.turnOn i c doc).content result told) :
    TurnsTell p i (k + 1) (c :: ops) doc result told := by
  have hindex : i + 1 + k = i + (k + 1) := by omega
  cases h with
  | completed h => exact .completed (by rw [h, List.length_cons])
  | unknown h =>
      rw [hindex]
      exact .unknown h
  | failed h =>
      rw [hindex]
      exact .failed h
  | untold h huntold =>
      rw [← p.documentAfter_cons i] at huntold
      exact .untold h huntold

theorem events_runFrom_cons {p : Patch} {i : Nat} {c : Descriptor} {ops : List Descriptor}
    {doc : Value} (h : (p.turnOn i c doc).error = none) : (p.runFrom i (c :: ops) doc).events =
      (p.turnOn i c doc).entries.filter (fun e => e.logger = Log.eventLogger) ++
        (p.runFrom (i + 1) ops (p.turnOn i c doc).content).events := by
  rw [runFrom_cons_ok h]
  exact List.filter_append _ _

theorem runFrom_events {p : Patch} (hp : p.FailsOnly) :
    ∀ (ops : List Descriptor) (i : Nat) (doc : Value), (∀ d ∈ ops, d ∈ p.operations) →
      ∃ k told, p.AllSucceed (ops.take k) doc ∧
        TurnsTell p i k ops doc (p.runFrom i ops doc).result told ∧
        List.Forall₂ Entry.Reports (p.runFrom i ops doc).events (p.aboutApplied i k ++ told)
  | [], i, doc, _ => by
      refine ⟨0, [], AllSucceed.nil p doc, .completed rfl, ?_⟩
      rw [aboutApplied_zero]
      exact .nil
  | c :: ops, i, doc, hops => by
      rw [List.forall_mem_cons] at hops
      obtain ⟨told, hturn, hreports⟩ := turnOn_events (hp c hops.1) i doc
      cases he : (p.turnOn i c doc).error with
      | none =>
          obtain ⟨k, later, hsucceed, htell, hlater⟩ :=
            runFrom_events hp ops (i + 1) (p.turnOn i c doc).content hops.2
          rw [he] at hturn
          cases hturn
          rw [events_runFrom_cons he, runFrom_cons_ok he]
          refine ⟨k + 1, later, .cons ((p.succeeds_iff i c doc).mpr he) hsucceed, htell.cons, ?_⟩
          rw [aboutApplied_succ, List.append_assoc]
          exact List.rel_append hreports hlater
      | some e =>
          rw [runFrom_cons_error he]
          rw [he] at hturn
          refine ⟨0, told, AllSucceed.nil p doc, ?_, ?_⟩
          · cases hturn with
            | unknown => exact .unknown rfl
            | failed => exact .failed rfl
            | untold h => exact .untold rfl h
          · rw [aboutApplied_zero]
            exact hreports

/-! ### Stories that break off -/

/-- What cannot be told ends a turn with the fault of the log. -/
theorem Untold.turnOn_error {p : Patch} {d : Descriptor} {doc : Value} (h : p.Untold d doc)
    (hd : p.FailsOnlyAt d) (i : Nat) :
    (p.turnOn i d doc).error = some (.fault .hugeInteger) := by
  rw [turnOn, turn_error]
  cases h with
  | unknown absent huge =>
      rw [absent, unknownEntry_of_not_isWritable huge]
      rfl
  | failed known trouble huge =>
      rw [known]
      dsimp only
      rw [trouble]
      dsimp only
      rw [troubled_of_not_isLoggable huge fun f hf => hd.of_trouble known (hf ▸ trouble)]
  | applied known done logged huge =>
      rw [known]
      dsimp only
      rw [done]
      dsimp only
      rw [applied_of_not_isLoggable huge, if_pos logged]

/-- A run that comes to an operation that cannot be told of tells of the operations before it, and
ends there with the fault of the log. -/
theorem runFrom_untold {p : Patch} (hp : p.FailsOnly) {d : Descriptor} :
    ∀ {ops : List Descriptor} {k : Nat} (i : Nat) (doc : Value), (∀ d ∈ ops, d ∈ p.operations) →
      ops[k]? = some d → p.AllSucceed (ops.take k) doc →
      p.Untold d (p.documentAfter (ops.take k) doc) →
      (p.runFrom i ops doc).result = .error (.fault .hugeInteger) ∧
        List.Forall₂ Entry.Reports (p.runFrom i ops doc).events (p.aboutApplied i k)
  | c :: ops, 0, i, doc, hops, hd, _, huntold => by
      obtain rfl : c = d := Option.some.inj hd
      have hc := hp c (hops c List.mem_cons_self)
      have he : (p.turnOn i c doc).error = some (.fault .hugeInteger) :=
        huntold.turnOn_error hc i
      obtain ⟨told, hturn, hreports⟩ := turnOn_events hc i doc
      rw [he] at hturn
      cases hturn
      rw [runFrom_cons_error he, aboutApplied_zero]
      exact ⟨rfl, hreports⟩
  | c :: ops, k + 1, i, doc, hops, hd, hearlier, huntold => by
      rw [List.forall_mem_cons] at hops
      rw [List.take_succ_cons] at hearlier huntold
      have he : (p.turnOn i c doc).error = none :=
        (p.succeeds_iff i c doc).mp (hearlier 0 c rfl)
      obtain ⟨told, hturn, hreports⟩ := turnOn_events (hp c hops.1) i doc
      rw [he] at hturn
      cases hturn
      rw [p.documentAfter_cons i] at huntold
      obtain ⟨hresult, hlater⟩ := runFrom_untold hp (i + 1) (p.turnOn i c doc).content hops.2 hd
        (hearlier.tail i) huntold
      rw [events_runFrom_cons he, runFrom_cons_ok he, aboutApplied_succ]
      exact ⟨hresult, List.rel_append hreports hlater⟩

/-! ### The whole run -/

theorem framed_events_ok {p : Patch} {r : Run} (h : r.result = .ok ()) :
    (p.framed r).events =
      p.runEntry "patch_apply_started" :: (r.events ++ [p.runEntry "patch_apply_completed"]) := by
  unfold framed Run.events
  rw [h]
  dsimp only
  rw [List.cons_append, List.filter_cons_of_pos rfl, List.filter_append]
  rfl

theorem framed_events_error {p : Patch} {r : Run} {e : RunError} (h : r.result = .error e) :
    (p.framed r).events = p.runEntry "patch_apply_started" :: r.events := by
  unfold framed Run.events
  rw [h]
  dsimp only
  rw [List.append_nil, List.filter_cons_of_pos rfl]

theorem started_reports (p : Patch) :
    (p.runEntry "patch_apply_started").Reports (p.aboutRun "patch_apply_started") :=
  runEntry_reports p (by decide)

theorem completed_reports (p : Patch) :
    (p.runEntry "patch_apply_completed").Reports (p.aboutRun "patch_apply_completed") :=
  runEntry_reports p (by decide)

/-- A whole run tells that it starts, which operations succeed, and how it ends, unless it comes to
an operation that cannot be told of. -/
theorem run_events {p : Patch} (hp : p.FailsOnly) {doc : Value}
    (htold : ¬ ∃ k d, p.ComesToUntold doc k d) :
    ∃ k last, p.AllSucceed (p.operations.take k) doc ∧ p.Ends k (p.run doc).result last ∧
      List.Forall₂ Entry.Reports (p.run doc).events
        (p.aboutRun "patch_apply_started" :: p.aboutApplied 0 k ++ [last]) := by
  obtain ⟨k, told, hsucceed, htell, hreports⟩ :=
    runFrom_events hp p.operations 0 doc fun _ hd => hd
  change ∃ k last, _ ∧ p.Ends k (p.runFrom 0 p.operations doc).result last ∧
    List.Forall₂ _ (p.framed (p.runFrom 0 p.operations doc)).events _
  generalize hr : (p.runFrom 0 p.operations doc).result = result at htell
  cases htell with
  | completed h =>
      refine ⟨k, _, hsucceed, .completed h, ?_⟩
      rw [List.append_nil] at hreports
      rw [framed_events_ok hr, List.cons_append]
      exact .cons p.started_reports (List.rel_append hreports (.cons p.completed_reports .nil))
  | unknown h =>
      rw [Nat.zero_add] at hreports hr ⊢
      refine ⟨k, _, hsucceed, .unknown h, ?_⟩
      rw [framed_events_error hr, List.cons_append]
      exact .cons p.started_reports hreports
  | failed h =>
      rw [Nat.zero_add] at hreports
      refine ⟨k, _, hsucceed, .failed h, ?_⟩
      rw [framed_events_error hr, List.cons_append]
      exact .cons p.started_reports hreports
  | untold h huntold => exact absurd ⟨k, _, h, hsucceed, huntold⟩ htold

/-- A whole run that comes to an operation that cannot be told of tells that it starts and which
operations succeed, and ends with the fault of the log. -/
theorem run_untold {p : Patch} (hp : p.FailsOnly) {doc : Value} {k : Nat} {d : Descriptor}
    (h : p.ComesToUntold doc k d) :
    (p.run doc).result = .error (.fault .hugeInteger) ∧
      List.Forall₂ Entry.Reports (p.run doc).events
        (p.aboutRun "patch_apply_started" :: p.aboutApplied 0 k) := by
  obtain ⟨hresult, hreports⟩ :=
    runFrom_untold hp 0 doc (fun _ hd => hd) h.descriptor h.earlier h.untold
  refine ⟨hresult, ?_⟩
  change List.Forall₂ _ (p.framed (p.runFrom 0 p.operations doc)).events _
  rw [framed_events_error hresult]
  exact .cons p.started_reports hreports

/-- A run does not end in any of the ways that can be told if it ends with the fault of the log. -/
theorem Ends.ne_fault {p : Patch} {k : Nat} {result : Except RunError Unit} {last : Event}
    (h : p.Ends k result last) (f : Fault) : result ≠ .error (.fault f) := by
  cases h <;> exact nofun

theorem Ends.name_completed {p : Patch} {k : Nat} {result : Except RunError Unit} {last : Event}
    (h : p.Ends k result last) : last.name = "patch_apply_completed" ↔ result = .ok () := by
  cases h with
  | completed h => exact ⟨fun _ => rfl, fun _ => rfl⟩
  | unknown h => simp [aboutOperation]
  | failed h => simp [aboutOperation]

theorem Ends.name_unknown {p : Patch} {k : Nat} {result : Except RunError Unit} {last : Event}
    (h : p.Ends k result last) :
    last.name = "patch_unknown_operation" ↔ ∃ d i, result = .error (.unknown d i) := by
  cases h with
  | completed h => simp [aboutRun]
  | unknown h => exact ⟨fun _ => ⟨_, _, rfl⟩, fun _ => rfl⟩
  | failed h => simp [aboutOperation]

/-- The last line is about the last event. -/
theorem eventName_getLast? {entries : List Entry} {told : List Event} {last : Event}
    (h : List.Forall₂ Entry.Reports entries (told ++ [last])) :
    entries.getLast?.map Entry.eventName = some last.name := by
  have hreverse := List.rel_reverse h
  rw [List.reverse_concat] at hreverse
  rw [List.getLast?_eq_head?_reverse]
  generalize entries.reverse = lines at hreverse ⊢
  cases hreverse with
  | cons hline _ => exact congrArg some hline.name

end Patch

/-! ### The span -/

namespace Session

/-- There is one span of a run. It has the run's result, and describes the error if there is one. -/
def Traced.TellsSpan (r : Traced) : Prop :=
  ∃ span, r.spans = [span] ∧ span.name = "jsontools.patch.apply" ∧
    span.result = r.run.result ∧ (span.description = none ↔ r.run.result = .ok ()) ∧
    ∀ e, r.run.result = .error e → span.description = some e.message

/-- The events, the span and the outcome of a run in a session tell the same story. -/
structure TellsOutcome (p : Patch) (doc : Value) (r : Traced) : Prop where
  events : ∃ k last, p.AllSucceed (p.operations.take k) doc ∧ p.Ends k r.run.result last ∧
    List.Forall₂ Entry.Reports r.run.events
      (p.aboutRun "patch_apply_started" :: p.aboutApplied 0 k ++ [last])
  completed : r.run.events.getLast?.map Entry.eventName = some "patch_apply_completed" ↔
    r.run.result = .ok ()
  unknown : r.run.events.getLast?.map Entry.eventName = some "patch_unknown_operation" ↔
    ∃ d i, r.run.result = .error (.unknown d i)
  span : r.TellsSpan

/-- The story of a run in a session breaks off: nothing is told of the operation of an index and
after it, and the run ends with the fault of the log. The span tells of this, too. -/
structure BreaksOff (p : Patch) (k : Nat) (r : Traced) : Prop where
  events : List.Forall₂ Entry.Reports r.run.events
    (p.aboutRun "patch_apply_started" :: p.aboutApplied 0 k)
  result : r.run.result = .error (.fault .hugeInteger)
  span : r.TellsSpan

theorem BreaksOff.not_tellsOutcome {p : Patch} {k : Nat} {doc : Value} {r : Traced}
    (h : BreaksOff p k r) : ¬ TellsOutcome p doc r := by
  intro htells
  obtain ⟨k', last, -, hends, -⟩ := htells.events
  exact hends.ne_fault _ h.result

section Tracing

variable {s : Session} {p : Patch} {t : Tracing.Settings × Session}
  (ht : s.currentTracing = .ok t) (henabled : t.1.enabled.isTruthy = true)
include ht henabled

theorem spans_of_tracing (doc : Value) :
    (s.run p doc).spans = [Tracing.Span.ofRun p (p.run doc)] := by
  obtain ⟨settings, s'⟩ := t
  unfold Session.run trace record
  rw [ht]
  exact if_pos henabled

theorem tellsSpan_of_tracing (doc : Value) : (s.run p doc).TellsSpan := by
  have hrun : (s.run p doc).run = p.run doc := run_of_tracing ht
  unfold Traced.TellsSpan
  rw [hrun]
  refine ⟨_, spans_of_tracing ht henabled doc, rfl, rfl, ?_, fun e he => ?_⟩
  · change Tracing.Span.description ⟨_, _, (p.run doc).result⟩ = none ↔ _
    unfold Tracing.Span.description
    cases (p.run doc).result with
    | ok u => exact ⟨fun _ => rfl, fun _ => rfl⟩
    | error e => simp
  · change Tracing.Span.description ⟨_, _, (p.run doc).result⟩ = _
    unfold Tracing.Span.description
    rw [he]

theorem tellsOutcome_of_told (hp : p.FailsOnly) {doc : Value}
    (htold : ¬ ∃ k d, p.ComesToUntold doc k d) : TellsOutcome p doc (s.run p doc) := by
  have hrun : (s.run p doc).run = p.run doc := run_of_tracing ht
  obtain ⟨k, last, hsucceed, hends, hreports⟩ := Patch.run_events hp htold
  have hlast := Patch.eventName_getLast? hreports
  refine ⟨?_, ?_, ?_, tellsSpan_of_tracing ht henabled doc⟩
  · rw [hrun]
    exact ⟨k, last, hsucceed, hends, hreports⟩
  · rw [hrun, hlast, Option.some.injEq]
    exact hends.name_completed
  · rw [hrun, hlast, Option.some.injEq]
    exact hends.name_unknown

theorem breaksOff_of_untold (hp : p.FailsOnly) {doc : Value} {k : Nat} {d : Descriptor}
    (h : p.ComesToUntold doc k d) : BreaksOff p k (s.run p doc) := by
  have hrun : (s.run p doc).run = p.run doc := run_of_tracing ht
  obtain ⟨hresult, hreports⟩ := Patch.run_untold hp h
  refine ⟨?_, ?_, tellsSpan_of_tracing ht henabled doc⟩
  · rw [hrun]
    exact hreports
  · rw [hrun]
    exact hresult

end Tracing

/-- A patch that logs its operations: an addition, and an operation that nobody knows. -/
def halfKnown : Patch where
  operations := [Patch.adding "/a" .null, [("op", .string "nope"), ("path", .string "")]]
  settings :=
    { enablePredicates := .bool false, logOperations := .bool true, logLevel := "INFO",
      validateSchema := .bool true }
  withPredicates := false
  registry := Registry.core

theorem halfKnown_failsOnly : halfKnown.FailsOnly := by
  have hstandard : halfKnown.IsStandard :=
    ⟨halfKnown.settings, .null, .value (.array (halfKnown.operations.map .object)),
      Patch.build_of_assemble rfl (by cbv) rfl⟩
  refine hstandard.failsOnly fun d hd pattern hpattern => ?_
  simp only [halfKnown, List.mem_cons, List.not_mem_nil, or_false] at hd
  rcases hd with rfl | rfl
  · cases hpattern
  · cases hpattern

theorem halfKnown_told : ¬ ∃ k d, halfKnown.ComesToUntold (.object []) k d := by
  rintro ⟨k, d, h⟩
  have hd := List.mem_of_getElem? h.descriptor
  refine Patch.not_untold_of_isLoggable ?_ h.untold
  simp only [halfKnown, List.mem_cons, List.not_mem_nil, or_false] at hd
  rcases hd with rfl | rfl
  · have hop : Descriptor.field (Patch.adding "/a" .null) "op" = .string "add" := rfl
    exact Patch.isLoggable_of_hasTextPath hop (.inl ⟨_, rfl⟩)
  · have hop : Descriptor.field [("op", .string "nope"), ("path", .string "")] "op" =
        .string "nope" := rfl
    exact Patch.isLoggable_of_hasTextPath hop (.inl ⟨_, rfl⟩)

theorem hugePath_comesToUntold :
    Patch.hugePath.ComesToUntold (.object []) 0 Patch.hugeRemoval := by
  have hknown : Patch.hugePath.registry.get? (Patch.hugeRemoval.field "op") =
      some (Operation.handler Operation.remove) := rfl
  have htrouble : ((Operation.handler Operation.remove (.object Patch.hugeRemoval)
      (.object [])).carryOut (.object []) fun e =>
        e.apply (Patch.hugeRemoval.field "value") (.object [])).trouble =
      some (.failure (.fault (.pointer (.notText "int") none)) none) := rfl
  exact ⟨rfl, Patch.AllSucceed.nil _ _, .failed hknown htrouble Patch.hugeRemoval_not_isLoggable⟩

end Session
end JsonPatch
