import JsonPatch.Proofs.Number.Exact
import JsonPatch.Proofs.Patch.Kind

/-! # Comparisons at a location

Where a path leads to a number, `less`, `more` and a test compare it with a given one, each in its
own way: the predicates by the order of numbers, the test by equality of values.  All three agree
with the exact values, so of two numbers that have a value exactly one of the three holds, and none
if one of the numbers is `nan` (`comparison_trichotomy`).  What is no number is neither less nor
more than anything. -/

namespace JsonPatch

open Pointer (ofPath)
open Predicate (AsksAt answer argument)

variable {d : Descriptor} {name path : String} {doc : Value}

/-! ### Predicates -/

namespace Predicate

/-- A test looks at the value that the path leads to. -/
theorem AsksAt.target?_of_leads (h : AsksAt d name path)
    (hleads : (ofPath path).leads doc = .ok true) {v : Value}
    (hvalue : (ofPath path).value doc = .ok v) : Predicate.target? d doc = .ok (some v) := by
  rw [Predicate.target?, h.pointerOf]
  dsimp only
  rw [hleads]
  dsimp only
  rw [hvalue]
  rfl

/-- What a test looks at is the value of the pointer. -/
theorem AsksAt.value_of_target? (h : AsksAt d name path) {v : Value}
    (ht : Predicate.target? d doc = .ok (some v)) : (ofPath path).value doc = .ok v := by
  rw [Predicate.target?, h.pointerOf] at ht
  dsimp only at ht
  split at ht
  · cases ht
  · cases ht
  · cases hvalue : (ofPath path).value doc with
    | error f =>
        rw [hvalue] at ht
        cases ht
    | ok w =>
        rw [hvalue] at ht
        cases ht
        rfl

/-- The rules of the two comparisons. -/
theorem rule_less : Members.find? "less" PredicateSet.builtin.rules =
    some (.test (compareNumbers fun n bound => n.lt bound)) := rfl

theorem rule_more : Members.find? "more" PredicateSet.builtin.rules =
    some (.test (compareNumbers fun n bound => bound.lt n)) := rfl

section

variable {compare : Number → Number → Bool}
  (hrule : Members.find? name PredicateSet.builtin.rules = some (.test (compareNumbers compare)))
include hrule

/-- Two numbers are compared. -/
theorem AsksAt.answer_numbers (h : AsksAt d name path)
    (hleads : (ofPath path).leads doc = .ok true) {a b : Number}
    (hvalue : (ofPath path).value doc = .ok (.number a))
    (hbound : Members.find? "value" d = some (.number b)) : answer d doc = .ok (compare a b) := by
  have hargument : argument d "value" = .number b := by
    rw [argument, hbound, Option.getD_some]
  refine (answer_of_test hrule h.op (plain_compareNumbers compare d doc)).1 _ ?_
  rw [compareNumbers, h.target?_of_leads hleads hvalue, hargument]
  rfl

/-- What is no number compares with nothing. -/
theorem AsksAt.answer_noNumber (h : AsksAt d name path)
    (hnone : (∀ a, (ofPath path).value doc ≠ .ok (.number a)) ∨
      ∀ b, argument d "value" ≠ .number b) : answer d doc = .ok false := by
  have htest := answer_of_test hrule h.op (plain_compareNumbers compare d doc)
  cases ht : Predicate.target? d doc with
  | error f => exact htest.2 f (by rw [compareNumbers, ht]; rfl)
  | ok found =>
      refine htest.1 _ ?_
      rw [compareNumbers, ht]
      refine congrArg Except.ok ?_
      dsimp only
      split
      · rename_i a b hb
        rcases hnone with hvalue | hargument
        · exact absurd (h.value_of_target? ht) (hvalue a)
        · exact absurd hb (hargument b)
      · rfl

end

end Predicate

/-! ### Tests -/

/-- A test succeeds if the value at its path is equal to the expected one. -/
theorem Patch.IsStandard.succeeds_test {p : Patch} (hp : p.IsStandard) (h : AsksAt d "test" path)
    {expected actual : Value} (hexpected : Members.find? "value" d = some expected)
    (hleads : (ofPath path).leads doc = .ok true) (hvalue : (ofPath path).value doc = .ok actual) :
    p.Succeeds d doc ↔ actual.equals expected = .ok true := by
  constructor
  · intro hs
    obtain ⟨expected', actual', hexpected', -, hactual', hsame⟩ := hp.test_found h hs
    obtain rfl := Option.some.inj (hexpected.symm.trans hexpected')
    obtain rfl := Except.ok.inj (hvalue.symm.trans hactual')
    exact hsame
  · intro hsame
    have hplan : Operation.test d doc = .ok none := by
      have hpointer : Operation.pointerOf d "path" = .ok (ofPath path) :=
        Operation.pointerOf_eq_ok.mpr ⟨path, h.path, rfl⟩
      have hvalueOf : Operation.valueOf d = .ok expected := Operation.valueOf_eq_ok.mpr hexpected
      rw [Operation.test, hpointer, hvalueOf]
      change (do
        let found ← Operation.ofFault ((ofPath path).leads doc)
        _) = _
      rw [hleads]
      change (do
        let actual ← Operation.ofFault ((ofPath path).value doc)
        _) = _
      rw [hvalue]
      change (do
        let same ← Operation.ofFault (actual.equals expected)
        _) = _
      rw [hsame]
      rfl
    exact (p.succeeds_iff 0 d doc).mpr (hp.turnOn_idle .test h.field hplan).2

theorem Value.equals_number (a b : Number) :
    (Value.number a).equals (.number b) = .ok (a.eq b) := by
  simp [equals, kind, kind?, equalLeaves]

/-! ### Trichotomy -/

/-- The outcomes of the three comparisons of what is at a path with a number. -/
structure Compares (path : String) (doc : Value) (b : Number) (less more test : Bool) : Prop where
  less : ∀ d, AsksAt d "less" path → Members.find? "value" d = some (.number b) →
    answer d doc = .ok less
  more : ∀ d, AsksAt d "more" path → Members.find? "value" d = some (.number b) →
    answer d doc = .ok more
  test : ∀ (p : Patch) d, p.IsStandard → AsksAt d "test" path →
    Members.find? "value" d = some (.number b) → (p.Succeeds d doc ↔ test = true)

/-- The number at the path is compared as it is with the given one. -/
theorem compares_number (hleads : (ofPath path).leads doc = .ok true) {a : Number}
    (hvalue : (ofPath path).value doc = .ok (.number a)) (b : Number) :
    Compares path doc b (a.lt b) (b.lt a) (a.eq b) where
  less _ hd hbound := hd.answer_numbers Predicate.rule_less hleads hvalue hbound
  more _ hd hbound := hd.answer_numbers Predicate.rule_more hleads hvalue hbound
  test p d hp hd hbound := by
    rw [hp.succeeds_test hd hbound hleads hvalue, Value.equals_number, Except.ok.injEq]

/-- The comparisons of a number at a path with another number. -/
structure Trichotomy (path : String) (doc : Value) (a b : Number) : Prop where
  /-- They are those of the exact values. -/
  exact_values : ∀ x y, a.exactValue? = some x → b.exactValue? = some y →
    Compares path doc b (decide (x < y)) (decide (y < x)) (decide (x = y))
  /-- Exactly one of them holds. -/
  one : a.isNan = false → b.isNan = false → ∃ less more test,
    Compares path doc b less more test ∧ [less, more, test].count true = 1
  /-- None of them holds. -/
  none : a.isNan = true ∨ b.isNan = true → Compares path doc b false false false

theorem count_trichotomy (x y : Exact) :
    [decide (x < y), decide (y < x), decide (x = y)].count true = 1 := by
  rcases lt_trichotomy x y with h | h | h
  · simp [h, h.not_gt, h.ne]
  · simp [h]
  · simp [h, h.not_gt, h.ne']

/-- At a path that leads to a number, exactly one of `less`, `more` and a test holds of it and a
given number, the one that the exact values ask for, and none if one of the two is `nan`.  And
`less` and `more` are false wherever one of the two values is no number. -/
theorem comparison_trichotomy (path : String) (doc : Value) :
    (∀ a, (ofPath path).leads doc = .ok true → (ofPath path).value doc = .ok (.number a) →
      ∀ b, Trichotomy path doc a b) ∧
    ∀ d, AsksAt d "less" path ∨ AsksAt d "more" path →
      (∀ a, (ofPath path).value doc ≠ .ok (.number a)) ∨ (∀ b, argument d "value" ≠ .number b) →
      answer d doc = .ok false := by
  refine ⟨fun a hleads hvalue b => ?_, fun d hd hnone => ?_⟩
  · have hcompares := compares_number hleads hvalue b
    have hexact : ∀ x y, a.exactValue? = some x → b.exactValue? = some y →
        Compares path doc b (decide (x < y)) (decide (y < x)) (decide (x = y)) := by
      intro x y hx hy
      rw [Number.lt_eq_decide hx hy, Number.lt_eq_decide hy hx, Number.eq_eq_decide hx hy]
        at hcompares
      exact hcompares
    refine ⟨hexact, fun ha hb => ?_, fun hnan => ?_⟩
    · exact ⟨_, _, _, hexact _ _ (Number.exactValue?_eq ha) (Number.exactValue?_eq hb),
        count_trichotomy _ _⟩
    · obtain ⟨hless, hmore, htest⟩ := Number.compare_nan hnan
      rw [hless, hmore, htest] at hcompares
      exact hcompares
  · rcases hd with hd | hd
    · exact hd.answer_noNumber Predicate.rule_less hnone
    · exact hd.answer_noNumber Predicate.rule_more hnone

/-- An integer beyond the precision of doubles, and the double next to it. -/
theorem comparison_trichotomy_beyond :
    let doc : Value := .array [.number (.int 9007199254740993), .bool true]
    (ofPath "/0").leads doc = .ok true ∧
      (ofPath "/0").value doc = .ok (.number (.int 9007199254740993)) ∧
      Trichotomy "/0" doc (.int 9007199254740993)
        (.double (.finite false (9007199254740992 * Nat.pow 2 Double.unitBits))) ∧
      answer [("op", .string "less"), ("path", .string "/1"), ("value", .number (.int 2))] doc =
        .ok false := by
  intro doc
  have hleads : (ofPath "/0").leads doc = .ok true := rfl
  have hvalue : (ofPath "/0").value doc = .ok (.number (.int 9007199254740993)) := rfl
  have hbool : (ofPath "/1").value doc = .ok (.bool true) := rfl
  refine ⟨hleads, hvalue, (comparison_trichotomy "/0" doc).1 _ hleads hvalue _, ?_⟩
  refine (comparison_trichotomy "/1" doc).2 _ (.inl ⟨rfl, rfl⟩) (.inl fun a ha => ?_)
  rw [hbool] at ha
  cases ha

end JsonPatch
