import JsonPatch.Proofs.Pointer.LongIndex
import JsonPatch.Proofs.Predicate.Builtin
import JsonPatch.Proofs.Predicate.Evaluation

/-! # Predicates of a location

What `defined`, `undefined` and `type` say of a path is what the plain lookup says.  A number that
is too long makes all three false: the fault that it is for a pointer makes any predicate false. -/

namespace JsonPatch

open Pointer (ComesToLong lookup)

namespace Predicate

/-- The descriptor asks for a predicate or an operation at a path. -/
structure AsksAt (d : Members) (name path : String) : Prop where
  op : Members.find? "op" d = some (.string name)
  path : Members.find? "path" d = some (.string path)

/-- The answer of the built-in predicates to a descriptor. -/
def answer (d : Members) (doc : Value) : Except Fault Bool :=
  (PredicateSet.builtin.evaluate (.object d) doc).answer

variable {d : Members} {name path : String} {doc : Value}

/-- A built-in test answers, and its faults make it false, if none of them breaks an evaluation. -/
theorem answer_of_test {f : Test}
    (hrule : Members.find? name PredicateSet.builtin.rules = some (.test f))
    (hop : Members.find? "op" d = some (.string name)) (hplain : Plain (f d doc)) :
    (∀ b, f d doc = .ok b → answer d doc = .ok b) ∧
      ∀ g, f d doc = .error g → answer d doc = .ok false := by
  have hanswer : answer d doc = ((Verdict.of (f d doc)).conclude name).answer := by
    simp only [answer, PredicateSet.evaluate, Rules.judge, hop, hrule]
  refine ⟨fun b hb => ?_, fun g hg => ?_⟩
  · rw [hanswer, Verdict.conclude_answer, hb, Verdict.of]
  · have hfalse := Fault.falsifiesPredicate_of_failsOperation (hplain g hg)
    rw [hanswer, Verdict.conclude_answer, hg, Verdict.of]
    exact if_pos hfalse

theorem AsksAt.pointerOf (h : AsksAt d name path) : pointerOf d = .ok (Pointer.ofPath path) := by
  rw [Predicate.pointerOf, h.path]
  rfl

/-! ### Answers -/

/-- What a test looks at is what the plain lookup finds. -/
theorem AsksAt.target? (h : AsksAt d name path) (hpass : ∀ n, ¬ ComesToLong path doc n) :
    target? d doc = .ok (lookup path doc) := by
  have hresolves := Pointer.resolves_of_not_comesToLong hpass
  rw [Predicate.target?, h.pointerOf]
  dsimp only
  rw [hresolves.leads]
  cases hfound : lookup path doc with
  | none => rfl
  | some v =>
      have hvalue := hresolves.value
      rw [hfound] at hvalue
      dsimp only [Option.isSome_some]
      rw [hvalue]
      rfl

theorem AsksAt.answer_defined (h : AsksAt d "defined" path)
    (hpass : ∀ n, ¬ ComesToLong path doc n) : answer d doc = .ok (lookup path doc).isSome := by
  refine (answer_of_test (f := defined) rfl h.op (plain_defined d doc)).1 _ ?_
  rw [defined, h.pointerOf]
  exact (Pointer.resolves_of_not_comesToLong hpass).leads

theorem AsksAt.answer_undefined (h : AsksAt d "undefined" path)
    (hpass : ∀ n, ¬ ComesToLong path doc n) : answer d doc = .ok (lookup path doc).isNone := by
  refine (answer_of_test (f := undefined) rfl h.op (plain_undefined d doc)).1 _ ?_
  rw [undefined, defined, h.pointerOf]
  dsimp only
  rw [(Pointer.resolves_of_not_comesToLong hpass).leads]
  cases lookup path doc <;> rfl

/-- The name of the kind of what is at a place, or the one of absent values. -/
def kindName : Option Value → String
  | none => absentKind
  | some v => (v.kind?.map Kind.name).getD absentKind

theorem kindName_of_kind? {v : Value} {k : Kind} (h : v.kind? = some k) :
    kindName (some v) = k.name := by
  rw [kindName, h, Option.map_some, Option.getD_some]

/-- No kind has the name of absent values. -/
theorem name_ne_absentKind (k : Kind) : k.name ≠ absentKind := by
  cases k <;> decide

theorem mem_all (k : Kind) : k ∈ Kind.all := by
  cases k <;> decide

/-- Only one name is right for a location. -/
theorem AsksAt.answer_type (h : AsksAt d "type" path) {expected : String}
    (hvalue : Members.find? "value" d = some (.string expected)) (hdoc : ∀ v,
      lookup path doc = some v → ∃ k, v.kind? = some k) (hpass : ∀ n, ¬ ComesToLong path doc n) :
    answer d doc = .ok (decide (expected = kindName (lookup path doc))) := by
  have hargument : argument d "value" = .string expected := by
    rw [argument, hvalue, Option.getD_some]
  refine (answer_of_test (f := hasType) rfl h.op (plain_hasType d doc)).1 _ ?_
  rw [hasType, h.target? hpass]
  cases hfound : lookup path doc with
  | none =>
      simp only [hargument, kindName]
      rfl
  | some v =>
      obtain ⟨k, hk⟩ := hdoc v hfound
      simp only [hargument, hk, kindName_of_kind? hk]
      split_ifs with hall
      · exact congrArg Except.ok (decide_eq_decide.mpr eq_comm)
      · -- a name that is no kind's is not the name of this one
        have hne : expected ≠ k.name := by
          rintro rfl
          exact hall (List.any_eq_true.mpr ⟨k, mem_all k, beq_self_eq_true _⟩)
        rw [decide_eq_false hne]

/-! ### Numbers that are too long -/

theorem AsksAt.target?_error (h : AsksAt d name path) {n : Nat} (hlong : ComesToLong path doc n) :
    Predicate.target? d doc = .error (.longNumber n) := by
  rw [Predicate.target?, h.pointerOf]
  dsimp only
  rw [hlong.leads]

theorem AsksAt.answer_defined_long (h : AsksAt d "defined" path) {n : Nat}
    (hlong : ComesToLong path doc n) : answer d doc = .ok false := by
  refine (answer_of_test (f := defined) rfl h.op (plain_defined d doc)).2 (.longNumber n) ?_
  rw [defined, h.pointerOf]
  exact hlong.leads

theorem AsksAt.answer_undefined_long (h : AsksAt d "undefined" path) {n : Nat}
    (hlong : ComesToLong path doc n) : answer d doc = .ok false := by
  refine (answer_of_test (f := undefined) rfl h.op (plain_undefined d doc)).2 (.longNumber n) ?_
  rw [undefined, defined, h.pointerOf]
  dsimp only
  rw [hlong.leads]
  rfl

theorem AsksAt.answer_type_long (h : AsksAt d "type" path) {n : Nat}
    (hlong : ComesToLong path doc n) : answer d doc = .ok false := by
  refine (answer_of_test (f := hasType) rfl h.op (plain_hasType d doc)).2 (.longNumber n) ?_
  rw [hasType, h.target?_error hlong]

end Predicate
end JsonPatch
