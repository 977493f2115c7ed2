import JsonPatch.Proofs.Pointer.Alike
import JsonPatch.Proofs.Predicate.Evaluation

/-! # Predicates on alike documents

No built-in predicate tells alike documents apart: it is true of both, false of both, or meets a
fault in both.  The tests see of a value only what alike values share, which is their text, their
kind, and how they compare with a number; combinators ask nothing but the predicates below them
(`PredicateSet.evaluate_alike`). -/

namespace JsonPatch

open Value (Alike)

/-! ### Tests -/

namespace Predicate

/-- The test answers alike documents in the same way. -/
def Test.Steady (f : Test) : Prop :=
  ∀ (d : Members) (v w : Value), Alike v w → Agree Fault.Like Eq (f d v) (f d w)

/-- The values at the path are alike, or there is none in both documents. -/
theorem target?_alike (d : Members) {v w : Value} (h : Alike v w) :
    Agree Fault.Like (Option.Rel Alike) (target? d v) (target? d w) := by
  unfold target?
  cases pointerOf d with
  | error f => exact .error (.same f)
  | ok p =>
      dsimp only
      have hl := p.leads_alike h
      generalize p.leads v = r, p.leads w = s at hl
      cases hl with
      | error hf => exact .error hf
      | ok hb =>
          subst hb
          split
          · contradiction
          · exact .ok .none
          · exact (p.value_alike h).map fun _ _ hv => .some hv

theorem steady_compareTexts (compare : List Char → List Char → Bool) :
    (compareTexts compare).Steady := by
  intro d v w h
  refine (target?_alike d h).map fun found found' hf => ?_
  cases hf with
  | none => rfl
  | some hv => cases hv <;> rfl

/-- A comparison with a number is steady if it does not tell equal numbers apart. -/
theorem steady_compareNumbers {compare : Number → Number → Bool}
    (hc : ∀ m n bound, m.eq n = true → compare m bound = compare n bound) :
    (compareNumbers compare).Steady := by
  intro d v w h
  refine (target?_alike d h).map fun found found' hf => ?_
  cases hf with
  | none => rfl
  | some hv =>
      cases hv with
      | number equal =>
          cases argument d "value" with
          | number bound => exact hc _ _ bound equal
          | _ => rfl
      | _ => rfl

theorem steady_matchesPattern : matchesPattern.Steady := by
  intro d v w h
  unfold matchesPattern
  have ht := target?_alike d h
  generalize target? d v = r, target? d w = s at ht
  cases ht with
  | error hf => exact .error hf
  | ok hf =>
      cases hf with
      | none => exact .ok rfl
      | some hv =>
          cases hv with
          | string text => exact .self .same _
          | _ => exact .ok rfl

theorem steady_defined : defined.Steady := by
  intro d v w h
  unfold defined
  cases pointerOf d with
  | error f => exact .error (.same f)
  | ok p => exact p.leads_alike h

theorem steady_undefined : undefined.Steady := by
  intro d v w h
  refine (steady_defined d v w h).map ?_
  rintro a _ rfl
  rfl

theorem steady_hasType : hasType.Steady := by
  intro d v w h
  unfold hasType
  have ht := target?_alike d h
  generalize target? d v = r, target? d w = s at ht
  cases ht with
  | error hf => exact .error hf
  | ok hf =>
      cases hf with
      | none => exact .self .same _
      | some hv =>
          -- both have a kind, so the names of their types are not asked for
          obtain ⟨k, hk, hk'⟩ := hv.kind?_eq_some
          simp only [hk, hk']
          exact .self .same _

theorem steady_tests : ∀ t ∈ tests, t.2.Steady := by
  intro t ht
  simp only [tests, List.mem_cons, List.not_mem_nil, or_false] at ht
  rcases ht with rfl | rfl | rfl | rfl | rfl | rfl | rfl | rfl | rfl
  · exact steady_compareTexts fun text part => occursIn part text
  · exact steady_defined
  · exact steady_compareTexts fun text part => part.isSuffixOf text
  · exact steady_compareNumbers fun m n bound hmn => Number.lt_congr_left hmn bound
  · exact steady_matchesPattern
  · exact steady_compareNumbers fun m n bound hmn => Number.lt_congr_right hmn bound
  · exact steady_compareTexts fun text part => part.isPrefixOf text
  · exact steady_hasType
  · exact steady_undefined

end Predicate

/-! ### Rules and verdicts -/

/-- The rule answers alike documents in the same way, as far as it is up to the rule. -/
inductive Rule.Steady : Rule → Prop where
  | test {f : Predicate.Test} (steady : f.Steady) : Steady (.test f)
  | combine (q : Quantifier) : Steady (.combine q)

theorem Rule.steady_builtin {name : String} {rule : Rule}
    (h : Members.find? name PredicateSet.builtin.rules = some rule) : rule.Steady := by
  have hm := Members.mem_of_find? h
  rcases List.mem_append.mp hm with hm | hm
  · obtain ⟨t, ht, hrule⟩ := List.mem_map.mp hm
    cases hrule
    exact .test (Predicate.steady_tests t ht)
  · simp only [PredicateSet.combinators, List.mem_cons, List.not_mem_nil, or_false,
      Prod.mk.injEq] at hm
    rcases hm with ⟨-, rfl⟩ | ⟨-, rfl⟩ | ⟨-, rfl⟩ <;> exact .combine _

/-- The answers are the same, or both are faults. -/
def Verdict.Like (v w : Verdict) : Prop :=
  Agree Fault.Like Eq v.answer w.answer

namespace Verdict.Like

variable {v w : Verdict}

theorem negate (h : v.Like w) : v.negate.Like w.negate := by
  refine Agree.map h ?_
  rintro a _ rfl
  rfl

theorem conclude (h : v.Like w) (name : String) : (v.conclude name).Like (w.conclude name) := by
  obtain ⟨a, notes⟩ := v
  obtain ⟨a', notes'⟩ := w
  change Agree Fault.Like Eq a a' at h
  unfold Verdict.conclude
  cases h with
  | ok hb => exact .ok hb
  | error hf =>
      dsimp only
      rw [hf.falsifiesPredicate]
      split_ifs
      · exact .ok rfl
      · exact .error hf

end Verdict.Like

/-! ### Evaluation -/

theorem Verdict.firstOther_alike {α : Type} {f g : α → Verdict} (b : Bool) {xs : List α}
    (h : ∀ x ∈ xs, (f x).Like (g x)) :
    (firstOther b (xs.map f)).Like (firstOther b (xs.map g)) := by
  induction xs with
  | nil => exact .ok rfl
  | cons x xs ih =>
      rw [List.forall_mem_cons] at h
      obtain ⟨hx, hrest⟩ := h
      have ih := ih hrest
      rw [List.map_cons, List.map_cons, firstOther, firstOther]
      generalize f x = v, g x = w at hx
      obtain ⟨a, notes⟩ := v
      obtain ⟨a', notes'⟩ := w
      cases hx with
      | error hf => exact .error hf
      | @ok a a' ha =>
          subst ha
          dsimp only
          split_ifs
          · exact ih
          · exact .ok rfl

theorem Quantifier.settle_alike {α : Type} {f g : α → Verdict} (q : Quantifier) {xs : List α}
    (h : ∀ x ∈ xs, (f x).Like (g x)) : (q.settle (xs.map f)).Like (q.settle (xs.map g)) := by
  have hfirst := Verdict.firstOther_alike q.pending h
  cases q with
  | none => exact hfirst.negate
  | _ => exact hfirst

namespace Rules

open PredicateSet (builtin)

variable {doc doc' : Value}

theorem verdict_alike (h : Alike doc doc') {rule : Rule} (hrule : rule.Steady) {members : Members}
    (hnested : ∀ items, nested? members = some items → ∀ p ∈ items,
      (judge builtin.rules doc p).Like (judge builtin.rules doc' p)) :
    (rule.verdict builtin.rules doc members).Like (rule.verdict builtin.rules doc' members) := by
  cases hrule with
  | test steady => exact steady members doc doc' h
  | combine q =>
      rw [Rule.verdict, Rule.verdict]
      cases hn : nested? members with
      | none => exact .ok rfl
      | some items => exact q.settle_alike (hnested items hn)

/-- Evaluating a descriptor gives the same answer on alike documents. -/
theorem judge_alike (h : Alike doc doc') (v : Value) :
    (judge builtin.rules doc v).Like (judge builtin.rules doc' v) := by
  induction v using descriptorInduction with
  | other v hv =>
      rw [judge_other hv, judge_other hv]
      exact .ok rfl
  | object members ih =>
      rw [judge_object, judge_object]
      cases hr : builtin.rules.rule? members with
      | none => exact .ok rfl
      | some r =>
          obtain ⟨name, rule⟩ := r
          have hrule := Rule.steady_builtin (rule?_eq_some.mp hr).2
          exact (verdict_alike h hrule ih).conclude name

end Rules

/-- The built-in predicates do not tell alike documents apart. -/
theorem PredicateSet.evaluate_alike (d : Value) {doc doc' : Value} (h : Alike doc doc') :
    (builtin.evaluate d doc).Like (builtin.evaluate d doc') :=
  Rules.judge_alike h d

end JsonPatch
