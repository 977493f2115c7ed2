import JsonPatch.Predicate.Set
import JsonPatch.Proofs.Predicate.Nested

/-! # Evaluation, descriptor by descriptor

Evaluating a descriptor looks up the rule of its name and puts it to the members (`judge_object`).
A combinator goes through the verdicts on its nested descriptors up to the first one that is not the
pending answer, `Verdict.firstOther`: the answer is that one's (`firstOther_settled`), or all are
pending (`firstOther_pending`).

* `Rules.Escapes` is the fault that an evaluation meets and that does not make the predicate false:
  it is that of a test, or of a nested descriptor before which nothing settles the matter.
* `judge_error_iff`: it is the fault that evaluation ends with. -/

namespace JsonPatch

open Predicate (argument)

/-! ### Verdicts -/

namespace Verdict

/-- The first verdict that is not the answer `b`, after the notes of those before it. If there is
none, the answer is `b`. -/
def firstOther (b : Bool) : List Verdict → Verdict
  | [] => .of (.ok b)
  | v :: rest =>
    match v.answer with
    | .ok a => if a = b then (firstOther b rest).after v.notes else v
    | .error _ => v

theorem firstOther_cons_pending {b : Bool} {v : Verdict} (h : v.answer = .ok b)
    (vs : List Verdict) : (firstOther b (v :: vs)).answer = (firstOther b vs).answer := by
  rw [firstOther]
  simp only [h, if_true]
  rfl

theorem firstOther_cons_settled {b : Bool} {v : Verdict} (h : v.answer ≠ .ok b)
    (vs : List Verdict) : firstOther b (v :: vs) = v := by
  rw [firstOther]
  split
  · rename_i a ha
    have hab : a ≠ b := by
      rintro rfl
      exact h ha
    exact if_neg hab
  · rfl

variable {α : Type} {f : α → Verdict} {xs : List α} {b : Bool}

/-- The answer is `b` exactly if all are. -/
theorem firstOther_pending :
    (firstOther b (xs.map f)).answer = .ok b ↔ ∀ x ∈ xs, (f x).answer = .ok b := by
  induction xs with
  | nil => simp [firstOther, of]
  | cons x xs ih =>
      rw [List.map_cons, List.forall_mem_cons]
      by_cases h : (f x).answer = .ok b
      · rw [firstOther_cons_pending h, ih]
        simp [h]
      · rw [firstOther_cons_settled h]
        simp [h]

/-- Any other answer comes from the first verdict that is not `b`. -/
theorem firstOther_settled {r : Except Fault Bool} (hr : r ≠ .ok b) :
    (firstOther b (xs.map f)).answer = r ↔ ∃ before x after, xs = before ++ x :: after ∧
      (∀ w ∈ before, (f w).answer = .ok b) ∧ (f x).answer = r := by
  induction xs with
  | nil =>
      refine ⟨fun h => absurd h.symm hr, ?_⟩
      rintro ⟨before, x, after, h, -⟩
      simp at h
  | cons y xs ih =>
      rw [List.map_cons]
      by_cases hy : (f y).answer = .ok b
      · rw [firstOther_cons_pending hy, ih]
        constructor
        · rintro ⟨before, x, after, rfl, hbefore, hx⟩
          exact ⟨y :: before, x, after, rfl, List.forall_mem_cons.mpr ⟨hy, hbefore⟩, hx⟩
        · rintro ⟨before, x, after, h, hbefore, hx⟩
          cases before with
          | nil =>
              cases h
              exact absurd (hx.symm.trans hy) hr
          | cons w before =>
              cases h
              exact ⟨before, x, after, rfl, (List.forall_mem_cons.mp hbefore).2, hx⟩
      · rw [firstOther_cons_settled hy]
        constructor
        · intro h
          exact ⟨[], y, xs, rfl, by simp, h⟩
        · rintro ⟨before, x, after, h, hbefore, hx⟩
          cases before with
          | nil =>
              cases h
              exact hx
          | cons w before =>
              cases h
              exact absurd (hbefore _ List.mem_cons_self) hy

/-- What becomes of the answer of a rule: a fault makes the predicate false, or it stays. -/
theorem conclude_answer (name : String) (v : Verdict) : (v.conclude name).answer =
    match v.answer with
    | .ok b => .ok b
    | .error f => if f.falsifiesPredicate then .ok false else .error f := by
  unfold conclude
  cases h : v.answer with
  | ok b => exact h
  | error f =>
      dsimp only
      split_ifs
      · rfl
      · exact h

end Verdict

/-- The answer of a nested descriptor that leaves the matter open. -/
def Quantifier.pending : Quantifier → Bool
  | all => true
  | any | none => false

/-- The verdict of a combinator, given those on its nested descriptors. -/
def Quantifier.settle (q : Quantifier) (vs : List Verdict) : Verdict :=
  match q with
  | none => (Verdict.firstOther q.pending vs).negate
  | _ => Verdict.firstOther q.pending vs

theorem Quantifier.settle_error {q : Quantifier} {vs : List Verdict} {f : Fault} :
    (q.settle vs).answer = .error f ↔ (Verdict.firstOther q.pending vs).answer = .error f := by
  cases q with
  | none =>
      change (Verdict.firstOther _ vs).answer.map _ = _ ↔ _
      cases (Verdict.firstOther none.pending vs).answer <;> simp [Except.map]
  | _ => rfl

/-! ### Rules -/

namespace Rules

/-- The rule that a descriptor asks for, and its name. -/
def rule? (rules : Rules) (members : Members) : Option (String × Rule) :=
  match Members.find? "op" members with
  | some (.string name) => (Members.find? name rules).map (name, ·)
  | _ => none

variable {rules : Rules} {doc : Value}

theorem rule?_eq_some {members : Members} {name : String} {rule : Rule} :
    rules.rule? members = some (name, rule) ↔
      Members.find? "op" members = some (.string name) ∧ Members.find? name rules = some rule := by
  unfold rule?
  cases Members.find? "op" members with
  | none => simp
  | some v =>
      cases v with
      | string n =>
          simp only [Option.map_eq_some_iff, Prod.mk.injEq, Option.some.injEq, Value.string.injEq]
          constructor
          · rintro ⟨rule, hrule, rfl, rfl⟩
            exact ⟨rfl, hrule⟩
          · rintro ⟨rfl, hrule⟩
            exact ⟨rule, hrule, rfl, rfl⟩
      | _ => simp

theorem judgeAll_eq (items : List Value) : judgeAll rules doc items =
    Verdict.firstOther true (items.map (judge rules doc)) := by
  induction items with
  | nil => rfl
  | cons d rest ih =>
      rw [judgeAll, List.map_cons, Verdict.firstOther, ih]
      cases h : (judge rules doc d).answer with
      | error f => rfl
      | ok a => cases a <;> rfl

theorem judgeAny_eq (items : List Value) : judgeAny rules doc items =
    Verdict.firstOther false (items.map (judge rules doc)) := by
  induction items with
  | nil => rfl
  | cons d rest ih =>
      rw [judgeAny, List.map_cons, Verdict.firstOther, ih]
      cases h : (judge rules doc d).answer with
      | error f => rfl
      | ok a => cases a <;> rfl

theorem judgeApply_eq (q : Quantifier) (members : Members) : judgeApply rules doc q members =
    match nested? members with
    | some items => q.settle (items.map (judge rules doc))
    | none => .of (.ok false) := by
  induction members with
  | nil => rfl
  | cons m rest ih =>
      rw [judgeApply, nested?, argument, Members.find?]
      split_ifs
      · cases m.2 with
        | array items => cases q <;> simp [judgeNested, Quantifier.settle, judgeAll_eq, judgeAny_eq,
            Quantifier.pending]
        | _ => rfl
      · exact ih

end Rules

/-- The verdict of a rule on the members of a descriptor. -/
def Rule.verdict (rules : Rules) (doc : Value) (members : Members) : Rule → Verdict
  | test f => .of (f members doc)
  | host f => .of ((f members doc).map Value.isTruthy)
  | combine q =>
    match nested? members with
    | some items => q.settle (items.map (rules.judge doc))
    | none => .of (.ok false)

namespace Rules

variable {rules : Rules} {doc : Value}

theorem judge_object (members : Members) : judge rules doc (.object members) =
    match rules.rule? members with
    | some (name, rule) => (rule.verdict rules doc members).conclude name
    | none => .of (.ok false) := by
  rw [judge, rule?]
  cases Members.find? "op" members with
  | none => rfl
  | some v =>
      cases v with
      | string name =>
          dsimp only
          cases Members.find? name rules with
          | none => rfl
          | some rule =>
              cases rule with
              | combine q => exact congrArg (Verdict.conclude name) (judgeApply_eq q members)
              | _ => rfl
      | _ => rfl

theorem judge_other {v : Value} (h : ∀ members, v ≠ .object members) :
    judge rules doc v = .of (.ok false) := by
  cases v with
  | object members => exact absurd rfl (h members)
  | _ => rfl

/-- An evaluation ends with a fault of the rule that does not make the predicate false. -/
theorem judge_object_error {members : Members} {g : Fault} :
    (judge rules doc (.object members)).answer = .error g ↔
      ∃ name rule, rules.rule? members = some (name, rule) ∧
        (rule.verdict rules doc members).answer = .error g ∧ g.falsifiesPredicate = false := by
  rw [judge_object]
  cases rules.rule? members with
  | none => simp [Verdict.of]
  | some r =>
      obtain ⟨name, rule⟩ := r
      dsimp only
      rw [Verdict.conclude_answer]
      cases h : (rule.verdict rules doc members).answer with
      | ok b => simp [h]
      | error f =>
          dsimp only
          split_ifs with hf
          · simp only [Option.some.injEq, Prod.mk.injEq, false_iff]
            rintro ⟨name', rule', ⟨rfl, rfl⟩, hg, hstays⟩
            rw [h] at hg
            cases hg
            rw [hf] at hstays
            cases hstays
          · constructor
            · intro hg
              cases hg
              exact ⟨name, rule, rfl, h, by simpa using hf⟩
            · rintro ⟨name', rule', hr, hg, -⟩
              cases hr
              exact h.symm.trans hg

theorem verdict_host_error {members : Members} {f : Members → Value → Except Fault Value}
    {g : Fault} : ((Rule.host f).verdict rules doc members).answer = .error g ↔
      f members doc = .error g := by
  change (f members doc).map Value.isTruthy = _ ↔ _
  cases f members doc <;> simp [Except.map]

theorem verdict_combine_error {members : Members} {q : Quantifier} {g : Fault} :
    ((Rule.combine q).verdict rules doc members).answer = .error g ↔
      ∃ before p after, nested? members = some (before ++ p :: after) ∧
        (∀ w ∈ before, (judge rules doc w).answer = .ok q.pending) ∧
        (judge rules doc p).answer = .error g := by
  rw [Rule.verdict]
  cases nested? members with
  | none => simp [Verdict.of]
  | some items =>
      simp only [Quantifier.settle_error, Option.some.injEq]
      exact Verdict.firstOther_settled (by simp)

/-! ### Faults that end an evaluation -/

/-- The fault that the evaluation of a descriptor meets and that does not make it false. -/
inductive Escapes (rules : Rules) (doc : Value) : Value → Fault → Prop
  /-- A test meets it. -/
  | test {members : Members} {name : String} {f : Predicate.Test} {g : Fault}
      (rule : rules.rule? members = some (name, .test f)) (met : f members doc = .error g)
      (stays : g.falsifiesPredicate = false) : Escapes rules doc (.object members) g
  /-- A function of the host program meets it. -/
  | host {members : Members} {name : String} {f : Members → Value → Except Fault Value}
      {g : Fault} (rule : rules.rule? members = some (name, .host f))
      (met : f members doc = .error g) (stays : g.falsifiesPredicate = false) :
      Escapes rules doc (.object members) g
  /-- It escapes from a nested descriptor, and none before that one settles the matter. -/
  | combine {members : Members} {name : String} {q : Quantifier} {before : List Value} {p : Value}
      {after : List Value} {g : Fault} (rule : rules.rule? members = some (name, .combine q))
      (nested : nested? members = some (before ++ p :: after))
      (pending : ∀ w ∈ before, (rules.judge doc w).answer = .ok q.pending)
      (escapes : Escapes rules doc p g) : Escapes rules doc (.object members) g

theorem Escapes.stays {v : Value} {g : Fault} (h : Escapes rules doc v g) :
    g.falsifiesPredicate = false := by
  induction h with
  | test _ _ stays => exact stays
  | host _ _ stays => exact stays
  | combine _ _ _ _ ih => exact ih

/-- The fault that an evaluation ends with is the one that escapes. -/
theorem judge_error_iff {v : Value} {g : Fault} :
    (judge rules doc v).answer = .error g ↔ Escapes rules doc v g := by
  constructor
  · intro h
    induction v using descriptorInduction with
    | other v hv =>
        rw [judge_other hv] at h
        cases h
    | object members ih =>
        obtain ⟨name, rule, hrule, hg, hstays⟩ := judge_object_error.mp h
        cases rule with
        | test f => exact .test hrule hg hstays
        | host f => exact .host hrule (verdict_host_error.mp hg) hstays
        | combine q =>
            obtain ⟨before, p, after, hn, hbefore, hp⟩ := verdict_combine_error.mp hg
            exact .combine hrule hn hbefore (ih _ hn p (by simp) hp)
  · intro h
    induction h with
    | test rule met stays => exact judge_object_error.mpr ⟨_, _, rule, met, stays⟩
    | host rule met stays =>
        exact judge_object_error.mpr ⟨_, _, rule, verdict_host_error.mpr met, stays⟩
    | combine rule nested pending escapes ih =>
        exact judge_object_error.mpr ⟨_, _, rule,
          verdict_combine_error.mpr ⟨_, _, _, nested, pending, ih⟩, escapes.stays⟩

end Rules
end JsonPatch
