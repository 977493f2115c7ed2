import JsonPatch.Proofs.Grammar.Report
import JsonPatch.Proofs.Patch.FirstFailure
import JsonPatch.Proofs.Session

/-! # Predicates as operations

A patch whose operations are all built-in predicates looks at a document and changes nothing.  One
of its turns succeeds if the predicate is true and fails if it is false (`turnOn_check`), so a run
ends at the first false predicate (`runFrom_checks`).  The combinator `and` goes through the same
descriptors in the same order and ends at the same one (`evaluate_conjunction`).  `run_checks` says
that both agree. -/

namespace JsonPatch

open PredicateSet (builtin)

/-- The descriptor that asks for all of the given ones. -/
def Predicate.conjunction (ds : List Descriptor) : Value :=
  .object [("op", .string "and"), ("apply", .array (ds.map .object))]

/-- The descriptors before the first false one, which is the given one: they are all true. -/
structure FirstFalse (ds : List Descriptor) (doc : Value) (before : List Descriptor)
    (d : Descriptor) : Prop where
  split : ∃ after, ds = before ++ d :: after
  earlier : ∀ c ∈ before, (builtin.evaluate (.object c) doc).answer = .ok true
  isFalse : (builtin.evaluate (.object d) doc).answer = .ok false

/-! ### The combinator -/

/-- The conjunction has the answer of its descriptors, taken in order. -/
theorem evaluate_conjunction {ds : List Descriptor} {doc : Value} {b : Bool}
    (h : (Verdict.firstOther true
      ((ds.map .object).map (builtin.rules.judge doc))).answer = .ok b) :
    (builtin.evaluate (Predicate.conjunction ds) doc).answer = .ok b := by
  have hrule : builtin.rules.rule? [("op", .string "and"), ("apply", .array (ds.map .object))] =
      some ("and", .combine .all) := rfl
  have hverdict : (Rule.combine .all).verdict builtin.rules doc
      [("op", .string "and"), ("apply", .array (ds.map .object))] =
        Verdict.firstOther true ((ds.map .object).map (builtin.rules.judge doc)) := rfl
  rw [PredicateSet.evaluate, Predicate.conjunction, Rules.judge_object, hrule]
  dsimp only
  rw [Verdict.conclude_answer, hverdict, h]

theorem conjunction_true {ds : List Descriptor} {doc : Value}
    (h : ∀ d ∈ ds, (builtin.evaluate (.object d) doc).answer = .ok true) :
    (builtin.evaluate (Predicate.conjunction ds) doc).answer = .ok true := by
  refine evaluate_conjunction (Verdict.firstOther_pending.mpr fun v hv => ?_)
  obtain ⟨d, hd, rfl⟩ := List.mem_map.mp hv
  exact h d hd

theorem FirstFalse.conjunction {ds before : List Descriptor} {d : Descriptor} {doc : Value}
    (h : FirstFalse ds doc before d) :
    (builtin.evaluate (Predicate.conjunction ds) doc).answer = .ok false := by
  obtain ⟨⟨after, rfl⟩, hearlier, hfalse⟩ := h
  have hne : (Except.ok false : Except Fault Bool) ≠ .ok true := by simp
  refine evaluate_conjunction ((Verdict.firstOther_settled hne).mpr
    ⟨before.map .object, .object d, after.map .object, by simp, fun v hv => ?_, hfalse⟩)
  obtain ⟨c, hc, rfl⟩ := List.mem_map.mp hv
  exact hearlier c hc

/-! ### The run -/

namespace Patch

/-- The descriptor has the name of a built-in predicate. -/
def IsCheck (d : Descriptor) : Prop :=
  ∃ name ∈ Members.names builtin.rules, d.field "op" = .string name

theorem get?_checked {name : String} (h : name ∈ Members.names builtin.rules) :
    Registry.checked.get? (.string name) = some (builtin.check name) := by
  simp only [Members.names, PredicateSet.builtin, Predicate.tests, PredicateSet.combinators,
    List.map_cons, List.map_nil, List.cons_append, List.nil_append, List.mem_cons,
    List.not_mem_nil, or_false] at h
  rcases h with rfl | rfl | rfl | rfl | rfl | rfl | rfl | rfl | rfl | rfl | rfl | rfl <;> rfl

variable {p : Patch} {i : Nat} {d : Descriptor} {doc : Value} {name : String}

/-- The failure of a predicate that is false shows the path. -/
theorem refusal_eq (hpath : d.HasTextPath) : PredicateSet.refusal name d =
    .failure (.predicateFalse name (d.field "path").display) none := by
  have hshown : (d.field "path").shown = .ok (d.field "path").display := by
    rcases hpath with ⟨path, hpath⟩ | hpath
    · rw [hpath]
      rfl
    · rw [hpath]
      rfl
  rw [PredicateSet.refusal, hshown]

/-- The turn of a predicate leaves the document as it is, and it fails if the predicate is false. -/
theorem turnOn_check (hp : p.registry = Registry.checked)
    (hn : name ∈ Members.names builtin.rules) (hop : d.field "op" = .string name)
    (hpath : d.HasTextPath) {b : Bool} (h : (builtin.evaluate (.object d) doc).answer = .ok b) :
    (p.turnOn i d doc).content = doc ∧
      (p.turnOn i d doc).error = if b then none else
        some (.failed d (.predicateFalse name (d.field "path").display) i) := by
  have hlog := isLoggable_of_hasTextPath hop hpath
  rw [turnOn, turn_content, turn_error, hop, hp, get?_checked hn]
  cases b with
  | true =>
      simp [PredicateSet.check, Handler.ofObject, h, Plan.carryOut, applied_of_isLoggable hlog]
  | false =>
      simp [PredicateSet.check, Handler.ofObject, h, Plan.carryOut, refusal_eq hpath,
        troubled_failure hlog]

/-- A run of predicates ends at the first false one. -/
theorem runFrom_checks (hp : p.registry = Registry.checked) (doc : Value) :
    ∀ (ds : List Descriptor) (i : Nat), (∀ d ∈ ds, IsCheck d) → (∀ d ∈ ds, d.HasTextPath) →
      (∀ d ∈ ds, (builtin.evaluate (.object d) doc).Answers) →
      (p.runFrom i ds doc).document = doc ∧
        (((p.runFrom i ds doc).result = .ok () ∧
            ∀ d ∈ ds, (builtin.evaluate (.object d) doc).answer = .ok true) ∨
          ∃ before d name, FirstFalse ds doc before d ∧ d.field "op" = .string name ∧
            (p.runFrom i ds doc).result =
              .error (.failed d (.predicateFalse name (d.field "path").display)
                (i + before.length : Nat)))
  | [], i, _, _, _ => ⟨rfl, .inl ⟨rfl, by simp⟩⟩
  | d :: ds, i, hchecks, hpaths, hanswers => by
      rw [List.forall_mem_cons] at hchecks hpaths hanswers
      obtain ⟨⟨name, hn, hop⟩, hchecks⟩ := hchecks
      obtain ⟨hpath, hpaths⟩ := hpaths
      obtain ⟨⟨b, hb⟩, hanswers⟩ := hanswers
      obtain ⟨hcontent, herror⟩ := turnOn_check (i := i) hp hn hop hpath hb
      cases b with
      | false =>
          rw [if_neg Bool.false_ne_true] at herror
          rw [runFrom_cons_error herror]
          exact ⟨hcontent, .inr ⟨[], d, name, ⟨⟨ds, rfl⟩, by simp, hb⟩, hop, rfl⟩⟩
      | true =>
          rw [if_pos rfl] at herror
          obtain ⟨hdoc, hrest⟩ := runFrom_checks hp doc ds (i + 1) hchecks hpaths hanswers
          rw [runFrom_cons_ok herror, hcontent]
          refine ⟨hdoc, ?_⟩
          rcases hrest with ⟨hr, htrue⟩ | ⟨before, c, name', hfirst, hop', hr⟩
          · exact .inl ⟨hr, List.forall_mem_cons.mpr ⟨hb, htrue⟩⟩
          · obtain ⟨⟨after, rfl⟩, hearlier, hfalse⟩ := hfirst
            have hindex : i + (d :: before).length = i + 1 + before.length := by
              rw [List.length_cons]
              omega
            refine .inr ⟨d :: before, c, name', ⟨⟨after, rfl⟩, ?_, hfalse⟩, hop', ?_⟩
            · exact List.forall_mem_cons.mpr ⟨hb, hearlier⟩
            · rw [hindex]
              exact hr

/-- A document of predicates that keeps to the grammar makes a patch that knows their checks. -/
theorem build_checks {o : Options} {ds : List Descriptor} (henables : o.enablesPredicates = true)
    (hregistry : o.registry = Registry.core) (hpredicates : o.predicates = builtin)
    (hvalid : validate true (.array (ds.map .object)) = .ok (.array (ds.map .object))) :
    ∃ p, build o (.value (.array (ds.map .object))) = .ok p ∧ p.operations = ds ∧
      p.registry = Registry.checked := by
  have hassemble : assemble o ds = .ok ⟨ds, o.settings, true, Registry.checked⟩ := by
    rw [assemble, Options.buildRegistry, henables, if_pos rfl, hregistry, hpredicates,
      merge_builtin]
    rfl
  have hwhole : ∀ whole,
      validate whole (.array (ds.map .object)) = .ok (.array (ds.map .object)) := by
    intro whole
    cases whole with
    | true => exact hvalid
    | false =>
        have hnone := Grammar.validate_eq_ok.mp hvalid
        exact Grammar.validate_eq_ok.mpr (Grammar.shapeViolations_eq_nil hnone)
  rw [← descriptors_map_object ds] at hassemble
  refine ⟨_, build_of_assemble rfl (hwhole _) hassemble, ?_, rfl⟩
  exact descriptors_map_object ds

end Patch

/-! ### Agreement -/

namespace Session

/-- Predicates carried out as operations agree with their evaluation.  A list of built-in predicates
makes a patch, and running it leaves the document as it is.  The run succeeds if the conjunction of
the list is true; otherwise it fails with the first descriptor that is false, at its index. -/
theorem run_checks {s : Session} {t : Tracing.Settings × Session} (ht : s.currentTracing = .ok t)
    {ds : List Descriptor} (hchecks : ∀ d ∈ ds, Patch.IsCheck d)
    (hvalid : Patch.validate true (.array (ds.map .object)) = .ok (.array (ds.map .object)))
    {doc : Value} (hcaught : ∀ d ∈ ds, ∀ cause, ¬ Predicate.Breaks doc (.object d) cause) :
    ∃ p b, s.build (fun settings => { settings, withPredicates := .bool true })
          (.value (.array (ds.map .object))) = .ok p ∧
      (s.evaluate (Predicate.conjunction ds) doc).verdict.answer = .ok b ∧
      (s.run p doc).run.document = doc ∧
      ((s.run p doc).run.result = .ok () ↔ b = true) ∧
      ∀ e, (s.run p doc).run.result = .error e → ∃ (i : Nat) (d : Descriptor) (name : String),
        ds[i]? = some d ∧ d.field "op" = .string name ∧
        e = .failed d (.predicateFalse name (d.field "path").display) i ∧
        (s.evaluate (.object d) doc).verdict.answer = .ok false ∧
        ∀ j < i, ∀ c, ds[j]? = some c → (s.evaluate (.object c) doc).verdict.answer = .ok true := by
  have hanswers : ∀ d ∈ ds, (builtin.evaluate (.object d) doc).Answers :=
    fun d hd => Rules.answers_of_not_breaks (hcaught d hd)
  have hpaths : ∀ d ∈ ds, d.HasTextPath := fun d hd => Patch.hasTextPath_of_valid hvalid hd
  obtain ⟨p, hbuild, hops, hregistry⟩ :=
    Patch.build_checks (o := { settings := s.currentSettings.1, withPredicates := .bool true })
      rfl rfl rfl hvalid
  obtain ⟨hdoc, hrun⟩ := p.runFrom_checks hregistry doc ds 0 hchecks hpaths hanswers
  have hresult : (s.run p doc).run.result = (p.runFrom 0 ds doc).result := by
    rw [run_of_tracing ht, Patch.run, Patch.framed, hops]
  have hdocument : (s.run p doc).run.document = (p.runFrom 0 ds doc).document := by
    rw [run_of_tracing ht, Patch.run, Patch.framed, hops]
  simp only [evaluate_of_tracing ht]
  rcases hrun with ⟨hr, htrue⟩ | ⟨before, d, name, hfirst, hop, hr⟩
  · refine ⟨p, true, hbuild, conjunction_true htrue, hdocument.trans hdoc, ?_, ?_⟩
    · rw [hresult, hr]
      simp
    · intro e he
      rw [hresult, hr] at he
      cases he
  · refine ⟨p, false, hbuild, hfirst.conjunction, hdocument.trans hdoc, ?_, ?_⟩
    · rw [hresult, hr]
      simp
    · intro e he
      rw [hresult, hr] at he
      cases he
      obtain ⟨⟨after, rfl⟩, hearlier, hfalse⟩ := hfirst
      refine ⟨before.length, d, name, by simp, hop, by simp, hfalse, ?_⟩
      intro j hj c hc
      rw [List.getElem?_append_left hj] at hc
      exact hearlier c (List.mem_of_getElem? hc)

/-- The first predicate is true, since a path that is none makes the one under it false; a pattern
that is none makes the second one false. -/
def faultyChecks : List Descriptor := [
  [("op", .string "not"), ("apply", .array
    [.object [("op", .string "starts"), ("path", .string "a"), ("value", .string "x")]])],
  [("op", .string "matches"), ("path", .string "/a"), ("value", .string "(")]]

/-- A session that has read nothing of an empty environment. -/
def fresh : Session := { environment := [] }

theorem run_faultyChecks :
    (∀ d ∈ faultyChecks, Patch.IsCheck d) ∧
      Patch.validate true (.array (faultyChecks.map .object)) =
        .ok (.array (faultyChecks.map .object)) ∧
      (∀ d ∈ faultyChecks, ∀ cause,
        ¬ Predicate.Breaks (.object [("a", .string "x")]) (.object d) cause) ∧
      ∃ p d, fresh.build (fun settings => { settings, withPredicates := .bool true })
          (.value (.array (faultyChecks.map .object))) = .ok p ∧
        (fresh.run p (.object [("a", .string "x")])).run.document = .object [("a", .string "x")] ∧
        (fresh.run p (.object [("a", .string "x")])).run.result =
          .error (.failed d (.predicateFalse "matches" "'/a'") 1) := by
  have hchecks : ∀ d ∈ faultyChecks, Patch.IsCheck d := by
    intro d hd
    simp only [faultyChecks, List.mem_cons, List.not_mem_nil, or_false] at hd
    rcases hd with rfl | rfl
    · exact ⟨"not", by decide, rfl⟩
    · exact ⟨"matches", by decide, rfl⟩
  have hvalid : Patch.validate true (.array (faultyChecks.map .object)) =
      .ok (.array (faultyChecks.map .object)) := by
    have hnone : Grammar.listViolations [] (.array (faultyChecks.map .object)) = [] := rfl
    refine Grammar.validate_eq_ok.mpr ?_
    rw [Grammar.check, if_pos rfl, Grammar.violations, hnone]
    exact List.mergeSort_nil
  have hcaught : ∀ d ∈ faultyChecks, ∀ cause,
      ¬ Predicate.Breaks (.object [("a", .string "x")]) (.object d) cause := by
    intro d hd cause hbreaks
    obtain ⟨pattern, hpattern, hunsafe⟩ := hbreaks.exists_pattern
    simp only [faultyChecks, List.mem_cons, List.not_mem_nil, or_false] at hd
    rcases hd with rfl | rfl
    · cases hpattern
    · obtain rfl : pattern = "(" := List.mem_singleton.mp hpattern
      exact hunsafe Patch.isSafe_open_parenthesis
  refine ⟨hchecks, hvalid, hcaught, ?_⟩
  obtain ⟨p, b, hbuild, hb, hdoc, hok, herror⟩ :=
    run_checks (s := fresh) rfl hchecks hvalid hcaught
  have hfalse : (fresh.evaluate (Predicate.conjunction faultyChecks)
      (.object [("a", .string "x")])).verdict.answer = .ok false := rfl
  obtain rfl : b = false := Except.ok.inj (hb.symm.trans hfalse)
  cases hr : (fresh.run p (.object [("a", .string "x")])).run.result with
  | ok _ => exact absurd (hok.mp hr) Bool.false_ne_true
  | error e =>
      obtain ⟨i, d, name, hd, hop, rfl, hd_false, -⟩ := herror e hr
      have hi : i < 2 := (List.getElem?_eq_some_iff.mp hd).1
      obtain rfl | rfl : i = 0 ∨ i = 1 := by omega
      · cases hd
        cases hd_false
      · cases hd
        cases hop
        exact ⟨p, _, hbuild, hdoc, hr⟩

end Session
end JsonPatch
