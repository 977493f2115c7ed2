import JsonPatch.Proofs.Predicate.Break

/-! # Evaluations that answer

A fault met by a built-in predicate makes it false, unless it comes from a pattern beyond what can
be read or run.  `Predicate.patterns v` lists the patterns that the evaluation of a descriptor may
use: the arguments of `matches`, in the descriptor itself and under its combinators.  If all of
them are safe, that is, if their faults are mistakes or bad values, then the evaluation answers
(`judge_answers`), and an operation that checks a predicate succeeds or is refused
(`PredicateSet.check_edit`). -/

namespace JsonPatch

/-- The faults of a pattern are mistakes or bad values, whatever text it is tried on. -/
def Pattern.IsSafe (pattern : String) : Prop :=
  ∀ text ignoreCase cause, Pattern.search pattern text ignoreCase = .error cause →
    cause.sort = .mistake ∨ cause.sort = .value

namespace Predicate

/-! ### The patterns of a descriptor -/

mutual

/-- The patterns that the evaluation of a descriptor may use. -/
def patterns : Value → List String
  | .object members =>
    match Members.find? "op" members with
    | some (.string name) =>
      if name = "matches" then
        match argument members "value" with
        | .string pattern => [pattern]
        | _ => []
      else if name ∈ ["and", "or", "not"] then patternsUnder members
      else []
    | _ => []
  | _ => []

/-- The patterns of the descriptors under `apply`. -/
def patternsUnder : Members → List String
  | [] => []
  | (name, v) :: rest => if name = "apply" then patternsNested v else patternsUnder rest

/-- The patterns of a value that should be a list of descriptors. -/
def patternsNested : Value → List String
  | .array items => patternsOfItems items
  | _ => []

/-- The patterns of the descriptors of a list. -/
def patternsOfItems : List Value → List String
  | [] => []
  | v :: rest => patterns v ++ patternsOfItems rest

end

theorem patternsUnder_nested {members : Members} {items : List Value}
    (h : nested? members = some items) : patternsUnder members = patternsOfItems items := by
  have hfind := find?_of_nested? h
  clear h
  induction members with
  | nil => cases hfind
  | cons m rest ih =>
      obtain ⟨name, v⟩ := m
      rw [Members.find?] at hfind
      rw [patternsUnder]
      split_ifs at hfind ⊢
      · cases hfind
        rfl
      · exact ih hfind

theorem patterns_subset {items : List Value} {v : Value} (h : v ∈ items) {pattern : String}
    (hp : pattern ∈ patterns v) : pattern ∈ patternsOfItems items := by
  induction items with
  | nil => cases h
  | cons w rest ih =>
      rw [patternsOfItems]
      rcases List.mem_cons.mp h with rfl | h
      · exact List.mem_append_left _ hp
      · exact List.mem_append_right _ (ih h)

/-- A pattern that breaks an evaluation is among those of the descriptor, and it is not safe. -/
theorem Breaks.exists_pattern {doc d : Value} {cause : Pattern.Fault} (h : Breaks doc d cause) :
    ∃ pattern ∈ patterns d, ¬ Pattern.IsSafe pattern := by
  have hbelow : ∀ {members : Members} {name : String} {before after : List Value} {p : Value},
      Members.find? "op" members = some (.string name) → name ∈ ["and", "or", "not"] →
      Members.find? "apply" members = some (.array (before ++ p :: after)) →
      (∃ pattern ∈ patterns p, ¬ Pattern.IsSafe pattern) →
      ∃ pattern ∈ patterns (.object members), ¬ Pattern.IsSafe pattern := by
    rintro members name before after p hname hcombinator hitems ⟨pattern, hpattern, hsafe⟩
    have hmatches : name ≠ "matches" := by
      rintro rfl
      simp at hcombinator
    refine ⟨pattern, ?_, hsafe⟩
    simp only [patterns, hname, if_neg hmatches, if_pos hcombinator]
    rw [patternsUnder_nested (nested?_of_find? hitems)]
    exact patterns_subset (by simp) hpattern
  induction h with
  | @pattern members text pattern cause name target value trial noMistake noValue =>
      refine ⟨pattern, by simp [patterns, name, value], fun hsafe => ?_⟩
      rcases hsafe text _ cause trial with h | h
      · exact noMistake h
      · exact noValue h
  | all name items earlier _ ih => exact hbelow name (by simp) items ih
  | any name items earlier _ ih =>
      rcases name with name | name
      · exact hbelow name (by simp) items ih
      · exact hbelow name (by simp) items ih

end Predicate

/-! ### Evaluation -/

/-- The verdict is an answer and no fault. -/
def Verdict.Answers (v : Verdict) : Prop :=
  ∃ b, v.answer = .ok b

/-- Evaluating a descriptor gives an answer, unless it comes to a pattern that breaks it. -/
theorem Rules.answers_of_not_breaks {doc v : Value} (h : ∀ cause, ¬ Predicate.Breaks doc v cause) :
    (judge PredicateSet.builtin.rules doc v).Answers := by
  cases ha : (judge PredicateSet.builtin.rules doc v).answer with
  | ok b => exact ⟨b, ha⟩
  | error f =>
      obtain ⟨cause, -, hbreaks⟩ := Predicate.breaks_of_escapes (judge_error_iff.mp ha)
      exact absurd hbreaks (h cause)

/-- Evaluating a descriptor whose patterns are safe gives an answer. -/
theorem Rules.judge_answers (doc v : Value)
    (hsafe : ∀ p ∈ Predicate.patterns v, Pattern.IsSafe p) :
    (judge PredicateSet.builtin.rules doc v).Answers := by
  refine answers_of_not_breaks fun cause hbreaks => ?_
  obtain ⟨pattern, hpattern, hunsafe⟩ := hbreaks.exists_pattern
  exact hunsafe (hsafe pattern hpattern)

/-- What refuses an operation is a failure without an index, or its path cannot be shown. -/
theorem PredicateSet.refusal_cases (name : String) (d : Descriptor) :
    (∃ cause, refusal name d = .failure cause none) ∨ refusal name d = .fault .hugeInteger := by
  unfold refusal Value.shown
  split_ifs
  · exact .inl ⟨_, rfl⟩
  · exact .inr rfl

/-- The operation that checks a built-in predicate with safe patterns makes no edit. -/
theorem PredicateSet.check_edit (name : String) {d : Descriptor} (doc : Value)
    (hsafe : ∀ p ∈ Predicate.patterns (.object d), Pattern.IsSafe p) :
    (builtin.check name (.object d) doc).edit = .ok none ∨
      (builtin.check name (.object d) doc).edit = .error (refusal name d) := by
  obtain ⟨b, hb⟩ := Rules.judge_answers doc (.object d) hsafe
  change (builtin.evaluate (.object d) doc).answer = .ok b at hb
  cases b with
  | true => exact .inl (by simp [check, Handler.ofObject, hb])
  | false => exact .inr (by simp [check, Handler.ofObject, hb])

end JsonPatch
