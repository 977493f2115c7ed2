import JsonPatch.Proofs.Patch.Turn

/-! # A run ends at the first failure

A run carries out the operations one after the other.  The measure for it is the patch of one
descriptor, `Patch.single`: `documentAt k` is the document after the first `k` descriptors, each
alone in a patch, have been applied in its place.

* `runFrom_cases`, by induction on the operations: either each of them succeeds, or the run ends
  with the error of the first one that does not.
* In a standard patch the trouble of a turn is an unknown name or a failure, and it comes before any
  change, unless the operation is a move (`turnOn_content`).  It is what the run ends with if it can
  be logged (`turnOn_error`); a path with too many digits keeps it from that (`run_hugePath`).
* `run_first_failure` puts these together. -/

namespace JsonPatch

namespace Patch

/-! ### All turns -/

/-- The document after descriptors, each alone in a patch. -/
def documentAfter (p : Patch) (ds : List Descriptor) (doc : Value) : Value :=
  ds.foldl (fun doc d => ((p.single d).run doc).document) doc

/-- The document after the first `k` descriptors, each alone in a patch. -/
def documentAt (p : Patch) (doc : Value) (k : Nat) : Value :=
  p.documentAfter (p.operations.take k) doc

theorem documentAfter_cons (p : Patch) (i : Nat) (d : Descriptor) (ds : List Descriptor)
    (doc : Value) :
    p.documentAfter (d :: ds) doc = p.documentAfter ds (p.turnOn i d doc).content := by
  rw [documentAfter, List.foldl_cons, p.single_run_document i]
  rfl

/-- Each descriptor alone in a patch succeeds on the document that the ones before it leave. -/
def AllSucceed (p : Patch) (ds : List Descriptor) (doc : Value) : Prop :=
  ∀ k d, ds[k]? = some d → p.Succeeds d (p.documentAfter (ds.take k) doc)

theorem AllSucceed.nil (p : Patch) (doc : Value) : p.AllSucceed [] doc := by
  intro k d h
  simp at h

theorem AllSucceed.cons {p : Patch} {i : Nat} {d : Descriptor} {ds : List Descriptor} {doc : Value}
    (hd : p.Succeeds d doc) (hs : p.AllSucceed ds (p.turnOn i d doc).content) :
    p.AllSucceed (d :: ds) doc := by
  intro k d' h
  cases k with
  | zero =>
      cases h
      exact hd
  | succ k =>
      rw [List.take_succ_cons, p.documentAfter_cons i]
      exact hs k d' h

theorem AllSucceed.tail {p : Patch} {d : Descriptor} {ds : List Descriptor} {doc : Value}
    (h : p.AllSucceed (d :: ds) doc) (i : Nat) : p.AllSucceed ds (p.turnOn i d doc).content := by
  intro k d' hd'
  have hlater := h (k + 1) d' hd'
  rwa [List.take_succ_cons, p.documentAfter_cons i] at hlater

theorem allSucceed_pair {p : Patch} {a b : Descriptor} {doc : Value} :
    p.AllSucceed [a, b] doc ↔
      p.Succeeds a doc ∧ p.Succeeds b ((p.single a).run doc).document := by
  constructor
  · intro h
    exact ⟨h 0 a rfl, h 1 b rfl⟩
  · rintro ⟨ha, hb⟩
    rw [p.single_run_document 0] at hb
    exact .cons ha (.cons (i := 0) hb (.nil p _))

/-- The operations of a run split at the first one that does not succeed. -/
structure Stops (p : Patch) (i : Nat) (ops : List Descriptor) (doc : Value) (e : RunError)
    (done : List Descriptor) (d : Descriptor) (rest : List Descriptor) : Prop where
  split : ops = done ++ d :: rest
  earlier : p.AllSucceed done doc
  error : (p.turnOn (i + done.length) d (p.documentAfter done doc)).error = some e
  document : (p.runFrom i ops doc).document =
    (p.turnOn (i + done.length) d (p.documentAfter done doc)).content
  later : ∀ later, p.runFrom i (done ++ d :: later) doc = p.runFrom i ops doc

theorem Stops.head {p : Patch} {i : Nat} {d : Descriptor} {ops : List Descriptor} {doc : Value}
    {e : RunError} (h : (p.turnOn i d doc).error = some e) :
    p.Stops i (d :: ops) doc e [] d ops where
  split := rfl
  earlier := AllSucceed.nil p doc
  error := h
  document := by
    rw [runFrom_cons_error h]
    rfl
  later := by
    intro later
    rw [List.nil_append, runFrom_cons_error h, runFrom_cons_error h]

theorem Stops.cons {p : Patch} {i : Nat} {c : Descriptor} {ops : List Descriptor} {doc : Value}
    {e : RunError} {done : List Descriptor} {d : Descriptor} {rest : List Descriptor}
    (hc : (p.turnOn i c doc).error = none)
    (h : p.Stops (i + 1) ops (p.turnOn i c doc).content e done d rest) :
    p.Stops i (c :: ops) doc e (c :: done) d rest := by
  have hlen : i + (c :: done).length = i + 1 + done.length := by
    rw [List.length_cons]
    omega
  refine ⟨by rw [h.split, List.cons_append],
    AllSucceed.cons ((p.succeeds_iff i c doc).mpr hc) h.earlier, ?_, ?_, ?_⟩
  · rw [hlen, p.documentAfter_cons i]
    exact h.error
  · rw [hlen, p.documentAfter_cons i, runFrom_cons_ok hc]
    exact h.document
  · intro later
    rw [List.cons_append, runFrom_cons_ok hc, runFrom_cons_ok hc, h.later later]

/-- A run carries out every operation, or it ends at the first one that does not succeed. -/
theorem runFrom_cases (p : Patch) : ∀ (ops : List Descriptor) (i : Nat) (doc : Value),
    ((p.runFrom i ops doc).result = .ok () ∧ p.AllSucceed ops doc ∧
        (p.runFrom i ops doc).document = p.documentAfter ops doc) ∨
      ∃ e done d rest, (p.runFrom i ops doc).result = .error e ∧ p.Stops i ops doc e done d rest
  | [], i, doc => .inl ⟨rfl, AllSucceed.nil p doc, rfl⟩
  | c :: ops, i, doc => by
      cases hc : (p.turnOn i c doc).error with
      | some e =>
          refine .inr ⟨e, [], c, ops, ?_, Stops.head hc⟩
          rw [runFrom_cons_error hc]
      | none =>
          rcases p.runFrom_cases ops (i + 1) (p.turnOn i c doc).content with
            ⟨hr, hs, hdoc⟩ | ⟨e, done, d, rest, hr, hs⟩
          · refine .inl ⟨?_, AllSucceed.cons ((p.succeeds_iff i c doc).mpr hc) hs, ?_⟩
            · rw [runFrom_cons_ok hc]
              exact hr
            · rw [runFrom_cons_ok hc, p.documentAfter_cons i]
              exact hdoc
          · refine .inr ⟨e, c :: done, d, rest, ?_, hs.cons hc⟩
            rw [runFrom_cons_ok hc]
            exact hr

/-! ### Turns of standard patches -/

/-- All patterns that the predicates of a patch may use are safe. -/
def PatternsSafe (p : Patch) : Prop :=
  ∀ d ∈ p.operations, ∀ pattern ∈ Predicate.patterns (.object d), Pattern.IsSafe pattern

/-- What a handler of a standard patch does to a document: it has no trouble, or it fails or cannot
even show why it does, and then the document is as it was or the operation is a move. -/
theorem IsStandard.carryOut {p : Patch} (hp : p.IsStandard) {d : Descriptor}
    (hsafe : ∀ pattern ∈ Predicate.patterns (.object d), Pattern.IsSafe pattern) {doc : Value}
    {handler : Handler} (hh : p.registry.get? (d.field "op") = some handler) {t : Trouble}
    (ht : ((handler (.object d) doc).carryOut doc
      fun e => e.apply (d.field "value") doc).trouble = some t) :
    ((∃ cause, t = .failure cause none) ∨ t = .fault .hugeInteger) ∧
      (d.field "op" ≠ .string "move" → ((handler (.object d) doc).carryOut doc
        fun e => e.apply (d.field "value") doc).content = doc) := by
  obtain ⟨name, hname, h⟩ := hp.handler hh
  unfold Plan.carryOut at ht ⊢
  cases he : (handler (.object d) doc).edit with
  | error u =>
      rw [he] at ht
      cases ht
      refine ⟨?_, fun _ => rfl⟩
      rcases h with ⟨operation, hcore, rfl⟩ | rfl
      · exact .inl (Operation.handler_trouble (fun d doc => hcore.settling d doc) he)
      · rcases PredicateSet.check_edit name doc hsafe with hc | hc
        · rw [hc] at he
          cases he
        · rw [hc] at he
          cases he
          exact PredicateSet.refusal_cases name d
  | ok e =>
      cases e with
      | none => rw [he] at ht; cases ht
      | some e =>
          rw [he] at ht
          obtain ⟨source, target, rfl⟩ := Edit.apply_trouble ht
          refine ⟨.inl (Edit.apply_move_trouble ht), fun hmove => absurd ?_ hmove⟩
          rcases h with ⟨operation, hcore, rfl⟩ | rfl
          · rw [hname, hcore.name_of_move (Operation.handler_edit_eq_ok.mp he)]
          · rcases PredicateSet.check_edit name doc hsafe with hc | hc
            · rw [hc] at he
              cases he
            · rw [hc] at he
              cases he

/-- The trouble of a standard patch makes the operation fail. -/
theorem IsStandard.failsOperation {p : Patch} (hp : p.IsStandard) {d : Descriptor}
    (hsafe : ∀ pattern ∈ Predicate.patterns (.object d), Pattern.IsSafe pattern) {doc : Value}
    {handler : Handler} (hh : p.registry.get? (d.field "op") = some handler) {f : Fault}
    (hf : ((handler (.object d) doc).carryOut doc
      fun e => e.apply (d.field "value") doc).trouble = some (.fault f)) :
    f.failsOperation = true := by
  rcases (hp.carryOut hsafe hh hf).1 with ⟨cause, hcause⟩ | hhuge
  · cases hcause
  · cases hhuge
    rfl

/-- An operation of a standard patch that cannot be logged changes nothing. -/
theorem IsStandard.carryOut_unloggable {p : Patch} (hp : p.IsStandard) {d : Descriptor}
    (hsafe : ∀ pattern ∈ Predicate.patterns (.object d), Pattern.IsSafe pattern)
    (hlog : ¬ d.IsLoggable) {doc : Value} {handler : Handler}
    (hh : p.registry.get? (d.field "op") = some handler) :
    ((handler (.object d) doc).carryOut doc
      fun e => e.apply (d.field "value") doc).content = doc := by
  obtain ⟨name, hname, h⟩ := hp.handler hh
  unfold Plan.carryOut
  cases he : (handler (.object d) doc).edit with
  | error u => rfl
  | ok e =>
      rcases h with ⟨operation, hcore, rfl⟩ | rfl
      · have hplan := Operation.handler_edit_eq_ok.mp he
        exact absurd (isLoggable_of_planned hcore hname hplan) hlog
      · rcases PredicateSet.check_edit name doc hsafe with hc | hc
        · rw [hc] at he
          cases he
          rfl
        · rw [hc] at he
          cases he

/-- The errors that the operation of a descriptor can end a run with at an index: the name is
unknown, or the operation fails, or it cannot be logged how it ends. -/
inductive EndsWith (p : Patch) (i : Nat) (d : Descriptor) : RunError → Prop where
  | unknown (absent : p.registry.get? (d.field "op") = none) : EndsWith p i d (.unknown d i)
  | failed {handler : Handler} {cause : Failure}
    (known : p.registry.get? (d.field "op") = some handler) (loggable : d.IsLoggable) :
    EndsWith p i d (.failed d cause i)
  | unlogged {handler : Handler} (known : p.registry.get? (d.field "op") = some handler)
    (huge : ¬ d.IsLoggable) : EndsWith p i d (.fault .hugeInteger)

/-- The error of a turn is of the turn's descriptor and index, if it can be logged. -/
theorem IsStandard.turnOn_error {p : Patch} (hp : p.IsStandard) {d : Descriptor}
    (hd : d ∈ p.operations)
    (hsafe : ∀ pattern ∈ Predicate.patterns (.object d), Pattern.IsSafe pattern) {i : Nat}
    {doc : Value} {e : RunError} (he : (p.turnOn i d doc).error = some e) : p.EndsWith i d e := by
  obtain ⟨name, hname⟩ := hp.exists_name hd
  rw [turnOn, turn_error] at he
  cases hh : p.registry.get? (d.field "op") with
  | none =>
      rw [hh, reported_of_ok (unknownEntry_of_name hname)] at he
      cases he
      exact .unknown hh
  | some handler =>
      rw [hh] at he
      dsimp only at he
      cases ht : ((handler (.object d) doc).carryOut doc
          fun e => e.apply (d.field "value") doc).trouble with
      | none =>
          rw [ht] at he
          by_cases hlog : d.IsLoggable
          · rw [applied_of_isLoggable hlog] at he
            cases he
          · rw [applied_of_not_isLoggable hlog] at he
            split_ifs at he
            cases he
            exact .unlogged hh hlog
      | some t =>
          rw [ht] at he
          cases he
          by_cases hlog : d.IsLoggable
          · rcases (hp.carryOut hsafe hh ht).1 with ⟨cause, rfl⟩ | rfl
            · rw [troubled_failure hlog]
              exact .failed hh hlog
            · rw [troubled_fault hlog rfl]
              exact .failed hh hlog
          · rw [troubled_of_not_isLoggable hlog fun f hf => hp.failsOperation hsafe hh (hf ▸ ht)]
            exact .unlogged hh hlog

/-- An operation that does not succeed changes nothing, unless it is a move. -/
theorem IsStandard.turnOn_content {p : Patch} (hp : p.IsStandard) {d : Descriptor}
    (hsafe : ∀ pattern ∈ Predicate.patterns (.object d), Pattern.IsSafe pattern) {i : Nat}
    {doc : Value} {e : RunError} (he : (p.turnOn i d doc).error = some e)
    (hmove : d.field "op" ≠ .string "move") : (p.turnOn i d doc).content = doc := by
  rw [turnOn, turn_content]
  rw [turnOn, turn_error] at he
  cases hh : p.registry.get? (d.field "op") with
  | none => rfl
  | some handler =>
      rw [hh] at he
      dsimp only at he ⊢
      cases ht : ((handler (.object d) doc).carryOut doc
          fun e => e.apply (d.field "value") doc).trouble with
      | some t => exact (hp.carryOut hsafe hh ht).2 hmove
      | none =>
          rw [ht] at he
          refine hp.carryOut_unloggable hsafe (fun hlog => ?_) hh
          rw [applied_of_isLoggable hlog] at he
          cases he

/-! ### The run -/

/-- A run ends with an error at the descriptor of an index: the error is one of this descriptor and
index, all earlier descriptors succeed and this one does not, the document is what this descriptor
leaves (and, unless it is a move, found), and the run is the same whatever comes later. -/
structure FirstFailure (p : Patch) (doc : Value) (e : RunError) (i : Nat) (d : Descriptor) :
    Prop where
  descriptor : p.operations[i]? = some d
  error : p.EndsWith i d e
  earlier : ∀ k d', k < i → p.operations[k]? = some d' → p.Succeeds d' (p.documentAt doc k)
  fails : ¬ p.Succeeds d (p.documentAt doc i)
  document : (p.run doc).document = p.documentAt doc (i + 1)
  unchanged : d.field "op" ≠ .string "move" → (p.run doc).document = p.documentAt doc i
  later : ∀ later, p.runFrom 0 (p.operations.take (i + 1) ++ later) doc =
    p.runFrom 0 p.operations doc

theorem documentAfter_concat (p : Patch) (i : Nat) (ds : List Descriptor) (d : Descriptor)
    (doc : Value) :
    p.documentAfter (ds ++ [d]) doc = (p.turnOn i d (p.documentAfter ds doc)).content := by
  rw [documentAfter, List.foldl_append, List.foldl_cons, List.foldl_nil,
    p.single_run_document i]
  rfl

/-- The split of a run at the operation that does not succeed, in terms of indexes. -/
theorem Stops.firstFailure {p : Patch} (hp : p.IsStandard) (hsafe : p.PatternsSafe) {doc : Value}
    {e : RunError} {done : List Descriptor} {d : Descriptor} {rest : List Descriptor}
    (h : p.Stops 0 p.operations doc e done d rest) : p.FirstFailure doc e done.length d := by
  have hmem : d ∈ p.operations := by simp [h.split]
  have hd := hsafe d hmem
  have htake : p.operations.take done.length = done := by rw [h.split, List.take_left]
  have htake' : p.operations.take (done.length + 1) = done ++ [d] := by
    rw [h.split, List.take_length_add_append]
    rfl
  have herror := h.error
  rw [Nat.zero_add] at herror
  have hdocument : (p.run doc).document =
      (p.turnOn done.length d (p.documentAfter done doc)).content := by
    have := h.document
    rwa [Nat.zero_add] at this
  refine ⟨by simp [h.split], hp.turnOn_error hmem hd herror, fun k d' hk hd' => ?_, fun hs => ?_, ?_,
    fun hmove => ?_, fun later => ?_⟩
  · have hdone : done[k]? = some d' := by
      rwa [h.split, List.getElem?_append_left hk] at hd'
    have hk' : p.operations.take k = done.take k := by
      rw [h.split, List.take_append_of_le_length (Nat.le_of_lt hk)]
    rw [documentAt, hk']
    exact h.earlier k d' hdone
  · rw [documentAt, htake, p.succeeds_iff done.length] at hs
    rw [hs] at herror
    cases herror
  · rw [documentAt, htake', p.documentAfter_concat done.length]
    exact hdocument
  · rw [documentAt, htake, hdocument]
    exact hp.turnOn_content hd herror hmove
  · rw [htake', List.append_assoc]
    exact h.later later

/-- A run of a standard patch succeeds exactly if every descriptor, alone in a patch, succeeds on
what the ones before it leave, and then the document is what all of them leave; otherwise it ends
with an error of the first descriptor that does not succeed. -/
theorem run_first_failure {p : Patch} (hp : p.IsStandard) (hsafe : p.PatternsSafe) (doc : Value) :
    ((p.run doc).result = .ok () →
      (∀ k d, p.operations[k]? = some d → p.Succeeds d (p.documentAt doc k)) ∧
        (p.run doc).document = p.documentAt doc p.operations.length) ∧
    ∀ e, (p.run doc).result = .error e → ∃ i d, p.FirstFailure doc e i d := by
  change ((p.runFrom 0 p.operations doc).result = .ok () →
      _ ∧ (p.runFrom 0 p.operations doc).document = _) ∧
    ∀ e, (p.runFrom 0 p.operations doc).result = .error e → _
  rcases p.runFrom_cases p.operations 0 doc with ⟨hr, hs, hdoc⟩ | ⟨e, done, d, rest, hr, hs⟩
  · refine ⟨fun _ => ⟨hs, ?_⟩, fun e he => ?_⟩
    · rw [documentAt, List.take_length]
      exact hdoc
    · rw [hr] at he
      cases he
  · refine ⟨fun h => ?_, fun e' he => ?_⟩
    · rw [hr] at h
      cases h
    · rw [hr] at he
      cases he
      exact ⟨done.length, d, hs.firstFailure hp hsafe⟩

/-- A patch that adds a member, asks for a text that is no pattern, and removes a member. -/
def badPattern : Patch where
  operations := [
    [("op", .string "add"), ("path", .string "/b"), ("value", .number (.int 2))],
    [("op", .string "matches"), ("path", .string "/a"), ("value", .string "(")],
    [("op", .string "remove"), ("path", .string "/a")]]
  settings :=
    { enablePredicates := .bool true, logOperations := .bool false, logLevel := "INFO",
      validateSchema := .bool true }
  withPredicates := true
  registry := Registry.checked

theorem isSafe_open_parenthesis : Pattern.IsSafe "(" := by
  intro text ignoreCase cause h
  cases ignoreCase <;> cases h <;> exact .inl rfl

theorem badPattern_isStandard : badPattern.IsStandard :=
  ⟨badPattern.settings, .null, .value (.array (badPattern.operations.map .object)),
    build_of_assemble rfl (by cbv) rfl⟩

theorem badPattern_patternsSafe : badPattern.PatternsSafe := by
  intro d hd pattern hp
  simp only [badPattern, List.mem_cons, List.not_mem_nil, or_false] at hd
  rcases hd with rfl | rfl | rfl
  · cases hp
  · obtain rfl : pattern = "(" := List.mem_singleton.mp hp
    exact isSafe_open_parenthesis
  · cases hp

theorem run_badPattern :
    badPattern.IsStandard ∧ badPattern.PatternsSafe ∧ ∃ d e i d',
      e = .failed d (.predicateFalse "matches" "'/a'") 1 ∧
        badPattern.FirstFailure (.object [("a", .string "x")]) e i d' := by
  have h : (badPattern.run (.object [("a", .string "x")])).result =
      .error (.failed _ (.predicateFalse "matches" "'/a'") 1) := rfl
  obtain ⟨i, d', hd⟩ := (run_first_failure badPattern_isStandard badPattern_patternsSafe _).2 _ h
  exact ⟨badPattern_isStandard, badPattern_patternsSafe, _, _, i, d', rfl, hd⟩

/-- A removal whose path is a number with too many digits to be written. -/
def hugeRemoval : Descriptor :=
  [("op", .string "remove"), ("path", Json.hugeNumber)]

/-- The patch of that removal. The shape of its document is all that has been checked. -/
def hugePath : Patch where
  operations := [hugeRemoval]
  settings :=
    { enablePredicates := .bool false, logOperations := .bool false, logLevel := "INFO",
      validateSchema := .bool false }
  withPredicates := false
  registry := Registry.core

theorem hugePath_isStandard : hugePath.IsStandard :=
  ⟨hugePath.settings, .null, .value (.array (hugePath.operations.map .object)),
    build_of_assemble rfl rfl rfl⟩

theorem hugeRemoval_not_isLoggable : ¬ hugeRemoval.IsLoggable := by
  have hop : hugeRemoval.field "op" = .string "remove" := rfl
  rw [isLoggable_of_name hop]
  exact Bool.eq_false_iff.mp Json.isWritable_hugeNumber

theorem hugePath_patternsSafe : hugePath.PatternsSafe := by
  intro d hd pattern hpattern
  obtain rfl := List.mem_singleton.mp hd
  cases hpattern

/-- The removal fails, for a path has to be a text; but the run ends with the fault of the log. -/
theorem hugePath_result : (hugePath.run (.object [])).result = .error (.fault .hugeInteger) := by
  have hplan : Operation.remove hugeRemoval (.object []) =
      .error (.fault (.pointer (.notText "int") none)) := rfl
  obtain ⟨-, hturn⟩ := hugePath_isStandard.turnOn_refused (i := 0) .remove rfl hplan
  change _ = some (troubled 0 hugeRemoval (.failure _ none)).1 at hturn
  rw [troubled_failure_of_not_isLoggable hugeRemoval_not_isLoggable] at hturn
  have hsingle : hugePath.single hugeRemoval = hugePath := rfl
  rw [← hsingle]
  exact single_run_error hturn

/-- A run that ends with neither of the errors that a run is to end with: its error is the fault of
the log, and says nothing of an operation or an index. -/
theorem run_hugePath :
    hugePath.IsStandard ∧ hugePath.PatternsSafe ∧
      (hugePath.run (.object [])).result = .error (.fault .hugeInteger) :=
  ⟨hugePath_isStandard, hugePath_patternsSafe, hugePath_result⟩

end Patch
end JsonPatch
