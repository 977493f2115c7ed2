import JsonPatch.Predicate.Set
import JsonPatch.Proofs.Operation.Trouble
import JsonPatch.Proofs.Value.Members

/-! # The built-in predicates and their faults

A test that looks at a value meets only faults that make operations fail, and so predicates false
(`plain_compareTexts` up to `plain_hasType`); the test of a pattern meets those and the ones of
trying the pattern (`matchesPattern_stays`).  `Rule.Builtin` sorts the built-in rules by this. -/

namespace JsonPatch

theorem Fault.falsifiesPredicate_of_failsOperation {f : Fault} (h : f.failsOperation = true) :
    f.falsifiesPredicate = true := by
  unfold failsOperation at h
  unfold falsifiesPredicate
  cases hs : f.sort <;> simp [hs] at h ⊢

theorem Fault.falsifiesPredicate_pattern {cause : Pattern.Fault} :
    (Fault.pattern cause).falsifiesPredicate = false ↔
      cause.sort ≠ .mistake ∧ cause.sort ≠ .value := by
  rw [falsifiesPredicate, sort]
  cases cause.sort <;> simp

namespace Predicate

/-! ### Faults of the built-in tests -/

theorem plain_pointerOf (d : Members) : Plain (pointerOf d) := by
  unfold pointerOf
  cases Members.find? "path" d with
  | some path => exact Pointer.plain_parse path
  | none => exact Plain.error rfl

theorem plain_target? (d : Members) (doc : Value) : Plain (target? d doc) := by
  unfold target?
  cases hp : pointerOf d with
  | error f => exact Plain.error (plain_pointerOf d f hp)
  | ok p =>
      dsimp only
      split
      · rename_i f hf
        exact Plain.error (p.plain_leads doc f hf)
      · exact Plain.ok _
      · exact (p.plain_value doc).map _

theorem plain_compareTexts (compare : List Char → List Char → Bool) (d : Members) (doc : Value) :
    Plain (compareTexts compare d doc) :=
  (plain_target? d doc).map _

theorem plain_compareNumbers (compare : Number → Number → Bool) (d : Members) (doc : Value) :
    Plain (compareNumbers compare d doc) :=
  (plain_target? d doc).map _

theorem plain_defined (d : Members) (doc : Value) : Plain (defined d doc) := by
  unfold defined
  cases hp : pointerOf d with
  | error f => exact Plain.error (plain_pointerOf d f hp)
  | ok p => exact p.plain_leads doc

theorem plain_undefined (d : Members) (doc : Value) : Plain (undefined d doc) :=
  (plain_defined d doc).map _

theorem plain_hasType (d : Members) (doc : Value) : Plain (hasType d doc) := by
  unfold hasType
  cases ht : target? d doc with
  | error f => exact Plain.error (plain_target? d doc f ht)
  | ok found =>
      cases found with
      | none => exact Plain.ok _
      | some v =>
          dsimp only
          split
          · split_ifs
            · cases v.kind? with
              | some k => exact Plain.ok _
              | none => exact Plain.error rfl
            · exact Plain.ok _
          · split
            · exact Plain.error rfl
            · exact Plain.ok _

/-- A fault of `matches` that does not make it false is one of the trial of a pattern. -/
theorem matchesPattern_stays {members : Members} {doc : Value} {g : Fault}
    (hg : matchesPattern members doc = .error g) (hstays : g.falsifiesPredicate = false) :
    ∃ text pattern cause, g = .pattern cause ∧ target? members doc = .ok (some (.string text)) ∧
      argument members "value" = .string pattern ∧
      Pattern.search pattern text (ignoresCase members) = .error cause := by
  unfold matchesPattern at hg
  cases ht : target? members doc with
  | error f =>
      rw [ht] at hg
      cases hg
      have hf := Fault.falsifiesPredicate_of_failsOperation (plain_target? members doc g ht)
      rw [hf] at hstays
      cases hstays
  | ok found =>
      rw [ht] at hg
      dsimp only at hg
      split at hg
      · rename_i text pattern hpattern
        cases hs : Pattern.search pattern text (ignoresCase members) with
        | ok b =>
            rw [hs] at hg
            cases hg
        | error cause =>
            rw [hs] at hg
            cases hg
            exact ⟨text, pattern, cause, rfl, rfl, hpattern, hs⟩
      · cases hg

end Predicate

/-! ### The built-in rules -/

/-- What evaluating a descriptor by a built-in rule asks for. -/
inductive Rule.Builtin (name : String) : Rule → Prop where
  /-- A test whose faults all make it false. -/
  | test {f : Predicate.Test} (plain : ∀ d doc, Plain (f d doc)) : Builtin name (.test f)
  /-- The test of a pattern. -/
  | pattern (isMatches : name = "matches") : Builtin name (.test Predicate.matchesPattern)
  /-- A combinator. -/
  | combine (q : Quantifier) (isCombinator : name ∈ ["and", "or", "not"])
      (noPattern : name ≠ "matches") : Builtin name (.combine q)

theorem builtin_rules : ∀ m ∈ PredicateSet.builtin.rules, m.2.Builtin m.1 := by
  intro m hm
  simp only [PredicateSet.builtin, Predicate.tests, PredicateSet.combinators, List.map_cons,
    List.map_nil, List.cons_append, List.nil_append, List.mem_cons, List.not_mem_nil,
    or_false] at hm
  rcases hm with rfl | rfl | rfl | rfl | rfl | rfl | rfl | rfl | rfl | rfl | rfl | rfl
  · exact .test (Predicate.plain_compareTexts _)
  · exact .test Predicate.plain_defined
  · exact .test (Predicate.plain_compareTexts _)
  · exact .test (Predicate.plain_compareNumbers _)
  · exact .pattern rfl
  · exact .test (Predicate.plain_compareNumbers _)
  · exact .test (Predicate.plain_compareTexts _)
  · exact .test Predicate.plain_hasType
  · exact .test Predicate.plain_undefined
  · exact .combine _ (by simp) (by simp)
  · exact .combine _ (by simp) (by simp)
  · exact .combine _ (by simp) (by simp)

theorem builtin_rule {name : String} {rule : Rule}
    (h : Members.find? name PredicateSet.builtin.rules = some rule) : rule.Builtin name :=
  builtin_rules (name, rule) (Members.mem_of_find? h)

end JsonPatch
