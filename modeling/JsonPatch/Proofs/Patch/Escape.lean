import JsonPatch.Proofs.Patch.Check
import JsonPatch.Proofs.Patch.Fate

/-! # Faults that end a run

Apart from the fault of the log, which ends a run that cannot be logged, a run of a standard patch
ends with a fault that is no failure of an operation only if predicates are operations and one of
them comes to a pattern that breaks its evaluation (`IsStandard.turnOn_fault`).  The operations
before that one succeed (`runFrom_error_iff`), so `Patch.Breaks` says exactly when a run ends so
(`IsStandard.run_fault`).  Such a fault is of a sort that neither makes operations fail nor is
reported (`Predicate.Breaks.sort`). -/

namespace JsonPatch

open PredicateSet (builtin)

/-- The fault that leaves an evaluation is that of a pattern that breaks it. -/
theorem Predicate.evaluate_error_iff {doc v : Value} {f : Fault} :
    (builtin.evaluate v doc).answer = .error f ↔
      ∃ cause, f = .pattern cause ∧ Breaks doc v cause := by
  change (Rules.judge builtin.rules doc v).answer = .error f ↔ _
  rw [Rules.judge_error_iff]
  constructor
  · exact breaks_of_escapes
  · rintro ⟨cause, rfl, h⟩
    exact h.escapes

namespace Predicate.Breaks

variable {doc v : Value} {cause : Pattern.Fault}

/-- A pattern breaks an evaluation with a number out of range, or when it is run. -/
theorem sort (h : Breaks doc v cause) : cause.sort ≠ .mistake ∧ cause.sort ≠ .value := by
  induction h with
  | pattern _ _ _ _ noMistake noValue => exact ⟨noMistake, noValue⟩
  | all _ _ _ _ ih => exact ih
  | any _ _ _ _ ih => exact ih

theorem failsOperation (h : Breaks doc v cause) : (Fault.pattern cause).failsOperation = false := by
  have hstays := Fault.falsifiesPredicate_pattern.mpr h.sort
  rw [← Bool.not_eq_true]
  intro hfails
  rw [Fault.falsifiesPredicate_of_failsOperation hfails] at hstays
  cases hstays

/-- Only a descriptor with the name of a built-in predicate comes to a pattern. -/
theorem isCheck {d : Descriptor} (h : Breaks doc (.object d) cause) : Patch.IsCheck d := by
  have hfield : ∀ {name : String}, Members.find? "op" d = some (.string name) →
      d.field "op" = .string name := by
    intro name hname
    rw [Descriptor.field, hname, Option.getD_some]
  cases h with
  | pattern name => exact ⟨"matches", by decide, hfield name⟩
  | all name => exact ⟨"and", by decide, hfield name⟩
  | any name =>
      rcases name with name | name
      · exact ⟨"or", by decide, hfield name⟩
      · exact ⟨"not", by decide, hfield name⟩

end Predicate.Breaks

namespace Patch

variable {p : Patch} {d : Descriptor} {doc : Value} {i : Nat} {f : Fault}

/-! ### One turn -/

section

variable (hf : f ≠ .hugeInteger)
include hf

/-- The fault of a check is that of the evaluation. -/
theorem check_edit_fault {s : PredicateSet} {name : String} :
    (s.check name (.object d) doc).edit = .error (.fault f) ↔
      (s.evaluate (.object d) doc).answer = .error f := by
  simp only [PredicateSet.check, Handler.ofObject]
  cases (s.evaluate (.object d) doc).answer with
  | error g => simp
  | ok b =>
      cases b with
      | true => simp
      | false =>
          rcases PredicateSet.refusal_cases name d with ⟨cause, hcause⟩ | hhuge
          · simp [hcause]
          · simp [hhuge, hf.symm]

/-- An event that cannot be written ends a run with the fault of the log and no other. -/
theorem reported_ne_fault {level : Int} {name : String} {given own : Members} {error : RunError}
    (herror : error ≠ .fault f) :
    (reported error (Log.event level name given own)).1 ≠ .fault f := by
  unfold Log.event
  split_ifs
  · exact herror
  · exact fun h => hf (RunError.fault.inj h).symm

theorem troubled_eq_fault {t : Trouble} :
    (troubled i d t).1 = .fault f ↔ t = .fault f ∧ f.failsOperation = false := by
  cases t with
  | failure cause index =>
      rw [troubled]
      exact iff_of_false (reported_ne_fault hf (by simp)) (by simp)
  | fault g =>
      rw [troubled]
      split_ifs with hg
      · refine iff_of_false (reported_ne_fault hf (by simp)) ?_
        rintro ⟨heq, hstays⟩
        cases heq
        rw [hg] at hstays
        cases hstays
      · simp only [RunError.fault.injEq, Trouble.fault.injEq]
        constructor
        · rintro rfl
          exact ⟨rfl, by simpa using hg⟩
        · exact And.left

theorem applied_ne_fault : (p.applied i d).1 ≠ some (.fault f) := by
  unfold applied appliedEntry Log.event
  split_ifs
  · exact nofun
  · exact fun h => hf (RunError.fault.inj (Option.some.inj h)).symm
  · exact nofun

end

/-- A core operation has no trouble but failures. -/
theorem core_trouble {name : String} {operation : Descriptor → Value → Operation.Step (Option Edit)}
    (h : Operation.Core name operation) (v : Value) : ((Operation.handler operation (.object d)
      doc).carryOut doc fun e => e.apply v doc).trouble ≠ some (.fault f) := by
  intro ht
  unfold Plan.carryOut at ht
  cases he : (Operation.handler operation (.object d) doc).edit with
  | error t =>
      rw [he] at ht
      cases ht
      obtain ⟨cause, hcause⟩ := Operation.handler_trouble (fun d doc => h.settling d doc) he
      cases hcause
  | ok e =>
      rw [he] at ht
      cases e with
      | none => cases ht
      | some e =>
          obtain ⟨source, target, rfl⟩ := Edit.apply_trouble ht
          obtain ⟨cause, hcause⟩ := Edit.apply_move_trouble ht
          cases hcause

/-- A check has no trouble but false predicates and the faults of evaluations. -/
theorem check_trouble (hf : f ≠ .hugeInteger) {s : PredicateSet} {name : String} {v : Value} (h : ((s.check name (.object d)
    doc).carryOut doc fun e => e.apply v doc).trouble = some (.fault f)) :
    (s.evaluate (.object d) doc).answer = .error f := by
  unfold Plan.carryOut at h
  split at h
  · rename_i e he
    exact absurd he PredicateSet.check_edit_ne
  · cases h
  · rename_i t he
    rw [Option.some.inj h] at he
    exact (check_edit_fault hf).mp he

/-- The turn of an operation ends with a fault, other than that of the log, exactly if predicates are
operations and this one comes to a pattern that breaks its evaluation. -/
theorem IsStandard.turnOn_fault (hp : p.IsStandard) (hf : f ≠ .hugeInteger) :
    (p.turnOn i d doc).error = some (.fault f) ↔ p.registry = Registry.checked ∧
      ∃ cause, f = .pattern cause ∧ Predicate.Breaks doc (.object d) cause := by
  rw [turnOn, turn_error]
  constructor
  · intro h
    cases hh : p.registry.get? (d.field "op") with
    | none =>
        rw [hh] at h
        exact absurd (Option.some.inj h) (reported_ne_fault hf (by simp))
    | some handler =>
        rw [hh] at h
        dsimp only at h
        split at h
        case h_2 => exact absurd h (applied_ne_fault hf)
        rename_i t ht
        obtain ⟨rfl, -⟩ := (troubled_eq_fault hf).mp (Option.some.inj h)
        obtain ⟨name, hname, ⟨operation, hcore, rfl⟩ | rfl⟩ := hp.handler hh
        · exact absurd ht (core_trouble hcore _)
        · refine ⟨?_, Predicate.evaluate_error_iff.mp (check_trouble hf ht)⟩
          -- the core registry has no checks
          refine hp.registry.resolve_left fun hcore => ?_
          rw [hname, hcore] at hh
          obtain ⟨operation, hop, heq⟩ := Operation.mem_core (Members.mem_of_find? hh)
          dsimp only at heq
          rw [heq] at ht
          exact core_trouble hop _ ht
  · rintro ⟨hchecked, cause, rfl, hbreaks⟩
    obtain ⟨name, hn, hop⟩ := hbreaks.isCheck
    have hanswer := Predicate.evaluate_error_iff.mpr ⟨cause, rfl, hbreaks⟩
    rw [hop, hchecked, get?_checked hn]
    dsimp only
    rw [Plan.carryOut, (check_edit_fault hf).mpr hanswer]
    exact congrArg some ((troubled_eq_fault hf).mpr ⟨rfl, hbreaks.failsOperation⟩)

/-! ### Whole runs -/

/-- A run ends with the error of the first operation that does not succeed. -/
theorem runFrom_error_iff {e : RunError} (p : Patch) (ops : List Descriptor) (i : Nat)
    (doc : Value) : (p.runFrom i ops doc).result = .error e ↔
      ∃ done d rest, ops = done ++ d :: rest ∧ p.AllSucceed done doc ∧
        (p.turnOn (i + done.length) d (p.documentAfter done doc)).error = some e := by
  constructor
  · intro h
    rcases p.runFrom_cases ops i doc with ⟨hok, -, -⟩ | ⟨e', done, d, rest, hr, hs⟩
    · rw [hok] at h
      cases h
    · rw [hr] at h
      cases h
      exact ⟨done, d, rest, hs.split, hs.earlier, hs.error⟩
  · rintro ⟨done, d, rest, rfl, hearlier, herror⟩
    induction done generalizing i doc with
    | nil =>
        change (p.turnOn i d doc).error = some e at herror
        rw [List.nil_append, runFrom_cons_error herror]
    | cons c done ih =>
        have hc : (p.turnOn i c doc).error = none :=
          (p.succeeds_iff i c doc).mp (hearlier 0 c rfl)
        rw [List.cons_append, runFrom_cons_ok hc]
        refine ih (i + 1) (p.turnOn i c doc).content (hearlier.tail i) ?_
        rw [p.documentAfter_cons i, List.length_cons] at herror
        rwa [Nat.add_assoc, Nat.add_comm 1]

/-- The run of a patch comes to a predicate as an operation whose evaluation comes to a pattern that
breaks it: all operations before it succeed. -/
structure Breaks (p : Patch) (doc : Value) (cause : Pattern.Fault) : Prop where
  checked : p.registry = Registry.checked
  operation : ∃ done d rest, p.operations = done ++ d :: rest ∧ p.AllSucceed done doc ∧
    Predicate.Breaks (p.documentAfter done doc) (.object d) cause

theorem Breaks.sort {cause : Pattern.Fault} (h : p.Breaks doc cause) :
    cause.sort ≠ .mistake ∧ cause.sort ≠ .value := by
  obtain ⟨done, d, rest, -, -, hbreaks⟩ := h.operation
  exact hbreaks.sort

/-- A run of a standard patch ends with a fault, other than that of the log, exactly if it comes to a
pattern that breaks the evaluation of a predicate, and then with the fault of this pattern. -/
theorem IsStandard.run_fault (hp : p.IsStandard) (hf : f ≠ .hugeInteger) :
    (p.run doc).result = .error (.fault f) ↔
      ∃ cause, f = .pattern cause ∧ p.Breaks doc cause := by
  change (p.runFrom 0 p.operations doc).result = _ ↔ _
  rw [runFrom_error_iff]
  simp only [hp.turnOn_fault hf]
  constructor
  · rintro ⟨done, d, rest, hsplit, hearlier, hchecked, cause, rfl, hbreaks⟩
    exact ⟨cause, rfl, hchecked, done, d, rest, hsplit, hearlier, hbreaks⟩
  · rintro ⟨cause, rfl, hchecked, done, d, rest, hsplit, hearlier, hbreaks⟩
    exact ⟨done, d, rest, hsplit, hearlier, hchecked, cause, rfl, hbreaks⟩

end Patch
end JsonPatch
