import JsonPatch.Proofs.Predicate.Builtin
import JsonPatch.Proofs.Predicate.Evaluation

/-! # The truth of predicates

`Rules.Holds` is what a descriptor means, without an order of evaluation, without notes and without
faults: a test that meets a fault, a name without a rule and a combinator without a list are false,
and a combinator asks for all of the nested descriptors, for some or for none.

* `judge_tells`: whenever an evaluation answers, the answer is the truth.
* `IsBoolean.answers`: where all faults make predicates false, an evaluation always answers.
* `evaluate_boolean`: so evaluation is boolean algebra over whole trees of descriptors, and its laws
  are those of the quantifiers. -/

namespace JsonPatch

/-! ### Quantifiers -/

/-- What a combinator asks of the things under it. -/
def Quantifier.Asks {α : Type} (q : Quantifier) (items : List α) (P : α → Prop) : Prop :=
  match q with
  | all => ∀ p ∈ items, P p
  | any => ∃ p ∈ items, P p
  | none => ∀ p ∈ items, ¬ P p

namespace Quantifier

variable {α : Type} {q : Quantifier} {items items' : List α} {P : α → Prop}

theorem asks_attach : (q.Asks items.attach fun p => P p.1) ↔ q.Asks items P := by
  cases q <;> simp [Asks]

/-- Neither the order of things nor how often they occur matters. -/
theorem asks_congr (h : ∀ p, p ∈ items ↔ p ∈ items') : q.Asks items P ↔ q.Asks items' P := by
  cases q <;> simp [Asks, h]

end Quantifier

/-! ### The truth of a descriptor -/

namespace Rules

/-- The truth of a descriptor about a document. -/
def Holds (rules : Rules) (doc : Value) : Value → Prop
  | .object members =>
    match rules.rule? members with
    | some (_, .test f) => f members doc = .ok true
    | some (_, .host f) => ∃ v, f members doc = .ok v ∧ v.isTruthy = true
    | some (_, .combine q) =>
      ∃ items, ∃ _ : nested? members = some items,
        q.Asks items.attach fun p => Holds rules doc p.1
    | none => False
  | _ => False
termination_by v => sizeOf v
decreasing_by exact sizeOf_nested ‹_› p.2

variable {rules : Rules} {doc : Value} {members : Members} {name : String}

theorem not_holds_other {v : Value} (h : ∀ members, v ≠ .object members) :
    ¬ Holds rules doc v := by
  cases v with
  | object members => exact absurd rfl (h members)
  | _ => simp [Holds]

theorem not_holds_of_no_rule (h : rules.rule? members = none) :
    ¬ Holds rules doc (.object members) := by
  rw [Holds]
  simp [h]

theorem holds_test {f : Predicate.Test} (h : rules.rule? members = some (name, .test f)) :
    Holds rules doc (.object members) ↔ f members doc = .ok true := by
  rw [Holds]
  simp [h]

theorem holds_host {f : Members → Value → Except Fault Value}
    (h : rules.rule? members = some (name, .host f)) :
    Holds rules doc (.object members) ↔ ∃ v, f members doc = .ok v ∧ v.isTruthy = true := by
  rw [Holds]
  simp [h]

theorem holds_combine {q : Quantifier} (h : rules.rule? members = some (name, .combine q)) :
    Holds rules doc (.object members) ↔
      ∃ items, nested? members = some items ∧ q.Asks items (Holds rules doc) := by
  rw [Holds]
  simp [h, Quantifier.asks_attach]

end Rules

/-! ### Answers and truth -/

/-- The answer of a verdict, if it is one, is whether something holds. -/
def Verdict.Tells (v : Verdict) (P : Prop) : Prop :=
  ∀ b, v.answer = .ok b → (b = true ↔ P)

namespace Verdict

variable {α : Type} {f : α → Verdict} {items : List α} {P : α → Prop}

theorem tells_false {P : Prop} (h : ¬ P) : (Verdict.of (.ok false)).Tells P := by
  rintro b hb
  cases hb
  simpa using h

theorem Tells.negate {v : Verdict} {P : Prop} (h : v.Tells P) : v.negate.Tells (¬ P) := by
  intro b hb
  change v.answer.map _ = _ at hb
  cases ha : v.answer with
  | error g =>
      rw [ha] at hb
      cases hb
  | ok a =>
      rw [ha] at hb
      obtain rfl : (!a) = b := Except.ok.inj hb
      rw [← h a ha]
      cases a <;> simp

/-- A fault counts as false, so it must not be one of something that holds. -/
theorem Tells.conclude {v : Verdict} {P : Prop} (h : v.Tells P)
    (hfault : ∀ g, v.answer = .error g → g.falsifiesPredicate = true → ¬ P) (name : String) :
    (v.conclude name).Tells P := by
  intro b hb
  rw [conclude_answer] at hb
  cases ha : v.answer with
  | ok a =>
      rw [ha] at hb
      cases hb
      exact h _ ha
  | error g =>
      rw [ha] at hb
      dsimp only at hb
      split_ifs at hb with hg
      cases hb
      simpa using hfault g ha hg

theorem tells_forall (h : ∀ p ∈ items, (f p).Tells (P p)) :
    (firstOther true (items.map f)).Tells (∀ p ∈ items, P p) := by
  intro b hb
  cases b with
  | true =>
      have hall := firstOther_pending.mp hb
      simpa using fun p hp => (h p hp true (hall p hp)).mp rfl
  | false =>
      obtain ⟨before, p, after, rfl, -, hp⟩ := (firstOther_settled (by simp)).mp hb
      have hmem : p ∈ before ++ p :: after := by simp
      have hfalse : ¬ P p := by simpa using h p hmem false hp
      exact ⟨nofun, fun hall => absurd (hall p hmem) hfalse⟩

theorem tells_exists (h : ∀ p ∈ items, (f p).Tells (P p)) :
    (firstOther false (items.map f)).Tells (∃ p ∈ items, P p) := by
  intro b hb
  cases b with
  | false =>
      have hall := firstOther_pending.mp hb
      have hnone : ∀ p ∈ items, ¬ P p := fun p hp => by simpa using h p hp false (hall p hp)
      refine ⟨nofun, ?_⟩
      rintro ⟨p, hp, hP⟩
      exact absurd hP (hnone p hp)
  | true =>
      obtain ⟨before, p, after, rfl, -, hp⟩ := (firstOther_settled (by simp)).mp hb
      have hmem : p ∈ before ++ p :: after := by simp
      exact ⟨fun _ => ⟨p, hmem, (h p hmem true hp).mp rfl⟩, fun _ => rfl⟩

/-- A combinator tells what it asks for. -/
theorem tells_asks (q : Quantifier) (h : ∀ p ∈ items, (f p).Tells (P p)) :
    (q.settle (items.map f)).Tells (q.Asks items P) := by
  cases q with
  | all => exact tells_forall h
  | any => exact tells_exists h
  | none =>
      change (firstOther false (items.map f)).negate.Tells _
      simpa [Quantifier.Asks] using (tells_exists h).negate

end Verdict

namespace Rules

variable {rules : Rules} {doc : Value}

/-- An evaluation that answers tells the truth. -/
theorem judge_tells (v : Value) : (judge rules doc v).Tells (Holds rules doc v) := by
  induction v using descriptorInduction with
  | other v hv =>
      rw [judge_other hv]
      exact Verdict.tells_false (not_holds_other hv)
  | object members ih =>
      rw [judge_object]
      cases hrule : rules.rule? members with
      | none => exact Verdict.tells_false (not_holds_of_no_rule hrule)
      | some r =>
          obtain ⟨name, rule⟩ := r
          cases rule with
          | test f =>
              rw [holds_test hrule]
              refine Verdict.Tells.conclude ?_ ?_ name
              · rintro b (hb : f members doc = .ok b)
                simp [hb]
              · rintro g (hg : f members doc = .error g) -
                simp [hg]
          | host f =>
              rw [holds_host hrule]
              refine Verdict.Tells.conclude ?_ ?_ name
              · rintro b (hb : (f members doc).map Value.isTruthy = .ok b)
                cases hf : f members doc with
                | error g =>
                    rw [hf] at hb
                    cases hb
                | ok w =>
                    rw [hf] at hb
                    cases hb
                    simp
              · intro g hg _
                simp [verdict_host_error.mp hg]
          | combine q =>
              rw [holds_combine hrule]
              refine Verdict.Tells.conclude ?_ ?_ name
              · cases hn : nested? members with
                | none =>
                    rw [Rule.verdict, hn]
                    exact Verdict.tells_false (by simp)
                | some items =>
                    rw [Rule.verdict, hn]
                    simpa using Verdict.tells_asks q (ih items hn)
              · -- a fault from below has made no predicate false there, so it does not here
                intro g hg hfalsifies
                obtain ⟨before, p, after, -, -, hp⟩ := verdict_combine_error.mp hg
                have hstays := (judge_error_iff.mp hp).stays
                rw [hfalsifies] at hstays
                cases hstays

end Rules

/-! ### Boolean algebra -/

/-- The faults of a rule all make the predicate false. -/
def Rule.IsHarmless : Rule → Prop
  | test f => ∀ d doc g, f d doc = .error g → g.falsifiesPredicate = true
  | host f => ∀ d doc g, f d doc = .error g → g.falsifiesPredicate = true
  | combine _ => True

/-- The descriptor combines others under the name of a combinator. -/
def Combines (name : String) (items : List Value) (d : Value) : Prop :=
  ∃ members, d = .object members ∧ Members.find? "op" members = some (.string name) ∧
    Members.find? "apply" members = some (.array items)

namespace PredicateSet

/-- The set has the combinators under their names, and no fault of its other predicates gets out of
an evaluation. -/
structure IsBoolean (s : PredicateSet) : Prop where
  all : Members.find? "and" s.rules = some (.combine .all)
  any : Members.find? "or" s.rules = some (.combine .any)
  none : Members.find? "not" s.rules = some (.combine .none)
  harmless : ∀ name rule, Members.find? name s.rules = some rule → rule.IsHarmless

/-- Evaluation in a set is boolean algebra: it tells the truth of every descriptor, and combinators
are the quantifiers over their descriptors, with the laws of these. -/
structure BooleanAlgebra (s : PredicateSet) (doc : Value) : Prop where
  truth : ∀ d, ∃ b, (s.evaluate d doc).answer = .ok b ∧ (b = true ↔ s.rules.Holds doc d)
  and_iff : ∀ items d, Combines "and" items d → ((s.evaluate d doc).answer = .ok true ↔
    ∀ p ∈ items, (s.evaluate p doc).answer = .ok true)
  or_iff : ∀ items d, Combines "or" items d → ((s.evaluate d doc).answer = .ok true ↔
    ∃ p ∈ items, (s.evaluate p doc).answer = .ok true)
  not_iff : ∀ items d, Combines "not" items d → ((s.evaluate d doc).answer = .ok true ↔
    ∀ p ∈ items, (s.evaluate p doc).answer = .ok false)
  nor : ∀ items d e, Combines "not" items d → Combines "or" items e →
    (s.evaluate d doc).answer = (s.evaluate e doc).answer.map (!·)
  not_not : ∀ p n d, Combines "not" [p] n → Combines "not" [n] d →
    (s.evaluate d doc).answer = (s.evaluate p doc).answer
  flatten : ∀ name ∈ ["and", "or"], ∀ before items after n d e, Combines name items n →
    Combines name (before ++ n :: after) d → Combines name (before ++ items ++ after) e →
    (s.evaluate d doc).answer = (s.evaluate e doc).answer
  sameItems : ∀ name ∈ ["and", "or", "not"], ∀ items items' d e, Combines name items d →
    Combines name items' e → (∀ p, p ∈ items ↔ p ∈ items') →
    (s.evaluate d doc).answer = (s.evaluate e doc).answer

variable {s : PredicateSet} {doc : Value}

/-- No fault escapes if none of the rules lets one through. -/
theorem IsBoolean.answers (hs : s.IsBoolean) (doc d : Value) :
    ∃ b, (s.evaluate d doc).answer = .ok b := by
  have hrule : ∀ {members name rule}, s.rules.rule? members = some (name, rule) →
      rule.IsHarmless := fun h => hs.harmless _ _ (Rules.rule?_eq_some.mp h).2
  have hnone : ∀ {g}, ¬ Rules.Escapes s.rules doc d g := by
    intro g h
    induction h with
    | test rule met stays => simp [hrule rule _ _ _ met] at stays
    | host rule met stays => simp [hrule rule _ _ _ met] at stays
    | combine _ _ _ _ ih => exact ih
  cases h : (s.evaluate d doc).answer with
  | ok b => exact ⟨b, rfl⟩
  | error g => exact absurd (Rules.judge_error_iff.mp h) hnone

theorem IsBoolean.answer_true (hs : s.IsBoolean) (d : Value) :
    (s.evaluate d doc).answer = .ok true ↔ s.rules.Holds doc d := by
  obtain ⟨b, hb⟩ := hs.answers doc d
  rw [hb, ← Rules.judge_tells d b hb, Except.ok.injEq]

theorem IsBoolean.answer_false (hs : s.IsBoolean) (d : Value) :
    (s.evaluate d doc).answer = .ok false ↔ ¬ s.rules.Holds doc d := by
  obtain ⟨b, hb⟩ := hs.answers doc d
  rw [hb, ← Rules.judge_tells d b hb, Except.ok.injEq, Bool.not_eq_true]

theorem IsBoolean.answer_congr (hs : s.IsBoolean) {d e : Value}
    (h : s.rules.Holds doc d ↔ s.rules.Holds doc e) :
    (s.evaluate d doc).answer = (s.evaluate e doc).answer := by
  by_cases he : s.rules.Holds doc e
  · rw [(hs.answer_true d).mpr (h.mpr he), (hs.answer_true e).mpr he]
  · rw [(hs.answer_false d).mpr (mt h.mp he), (hs.answer_false e).mpr he]

/-- A combination holds if what its combinator asks for does. -/
theorem holds_combines {name : String} {q : Quantifier} {items : List Value} {d : Value}
    (hrule : Members.find? name s.rules = some (.combine q)) (h : Combines name items d) :
    s.rules.Holds doc d ↔ q.Asks items (s.rules.Holds doc) := by
  obtain ⟨members, rfl, hname, hitems⟩ := h
  rw [Rules.holds_combine (Rules.rule?_eq_some.mpr ⟨hname, hrule⟩), nested?_of_find? hitems]
  simp

/-- The rule of a combinator's name. -/
theorem IsBoolean.rule (hs : s.IsBoolean) {name : String} (h : name ∈ ["and", "or", "not"]) :
    ∃ q, Members.find? name s.rules = some (.combine q) := by
  simp only [List.mem_cons, List.not_mem_nil, or_false] at h
  rcases h with rfl | rfl | rfl
  · exact ⟨_, hs.all⟩
  · exact ⟨_, hs.any⟩
  · exact ⟨_, hs.none⟩

/-- In a set with the combinators, none of whose other predicates lets a fault through, evaluation
is boolean algebra over whole trees of descriptors. -/
theorem evaluate_boolean (hs : s.IsBoolean) (doc : Value) : s.BooleanAlgebra doc where
  truth d := by
    obtain ⟨b, hb⟩ := hs.answers doc d
    exact ⟨b, hb, Rules.judge_tells d b hb⟩
  and_iff items d h := by
    simp only [hs.answer_true, holds_combines hs.all h, Quantifier.Asks]
  or_iff items d h := by
    simp only [hs.answer_true, holds_combines hs.any h, Quantifier.Asks]
  not_iff items d h := by
    simp only [hs.answer_true, hs.answer_false, holds_combines hs.none h, Quantifier.Asks]
  nor items d e hd he := by
    have hopposite : s.rules.Holds doc d ↔ ¬ s.rules.Holds doc e := by
      rw [holds_combines hs.none hd, holds_combines hs.any he]
      simp [Quantifier.Asks]
    by_cases h : s.rules.Holds doc e
    · rw [(hs.answer_true e).mpr h, (hs.answer_false d).mpr (by simpa [hopposite] using h)]
      rfl
    · rw [(hs.answer_false e).mpr h, (hs.answer_true d).mpr (hopposite.mpr h)]
      rfl
  not_not p n d hn hd := by
    refine hs.answer_congr ?_
    rw [holds_combines hs.none hd]
    simp [Quantifier.Asks, holds_combines hs.none hn]
  flatten name hname before items after n d e hn hd he := by
    refine hs.answer_congr ?_
    simp only [List.mem_cons, List.not_mem_nil, or_false] at hname
    rcases hname with rfl | rfl
    · rw [holds_combines hs.all hd, holds_combines hs.all he]
      simp only [Quantifier.Asks, List.forall_mem_append, List.forall_mem_cons,
        holds_combines hs.all hn, and_assoc]
    · rw [holds_combines hs.any hd, holds_combines hs.any he]
      simp only [Quantifier.Asks, List.mem_append, List.mem_cons, or_and_right, exists_or,
        exists_eq_left, holds_combines hs.any hn, or_assoc]
  sameItems name hname items items' d e hd he hsame := by
    obtain ⟨q, hq⟩ := hs.rule hname
    refine hs.answer_congr ?_
    rw [holds_combines hq hd, holds_combines hq he]
    exact Quantifier.asks_congr hsame

/-- The built-in predicates, with a function of the host program in the place of the test of
patterns: it hands out the argument, which has to be there. -/
def withFlag : PredicateSet :=
  builtin.extend [("matches", .host fun d _ =>
    match Members.find? "value" d with
    | some v => .ok v
    | none => .error (.missingKey (.string "value")))]

theorem withFlag_isBoolean : withFlag.IsBoolean where
  all := rfl
  any := rfl
  none := rfl
  harmless := by
    intro name rule h
    have hput : Members.find? name (Members.put "matches" _ builtin.rules) = some rule := h
    rw [Members.find?_put] at hput
    split_ifs at hput with hname
    · cases hput
      intro d doc g hg
      dsimp only at hg
      split at hg
      · cases hg
      · cases hg
        rfl
    · cases builtin_rule hput with
      | test plain =>
          exact fun d doc g hg => Fault.falsifiesPredicate_of_failsOperation (plain d doc g hg)
      | pattern isMatches => exact absurd isMatches hname
      | combine => trivial

theorem evaluate_withFlag :
    withFlag.IsBoolean ∧ withFlag.BooleanAlgebra (.object [("a", .null)]) :=
  ⟨withFlag_isBoolean, evaluate_boolean withFlag_isBoolean _⟩

end PredicateSet
end JsonPatch
