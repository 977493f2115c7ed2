import JsonPatch.Fault
import Mathlib.Tactic.Common

/-! # Outcomes that agree

Two computations agree if both succeed with related results or both fail with related errors.
Agreement passes through the steps of a computation (`Agree.map`, `Agree.bind`).  For options there
is `Option.Rel` of the library.  For faults the relation is `Fault.Like`: the same fault, or two
faults of pointers, whose wording may speak of values that are alike but not the same. -/

namespace JsonPatch

/-- Both outcomes are results, and related, or both are errors, and related. -/
inductive Agree {ε α β : Type} (E : ε → ε → Prop) (R : α → β → Prop) :
    Except ε α → Except ε β → Prop where
  | ok {a : α} {b : β} (h : R a b) : Agree E R (.ok a) (.ok b)
  | error {e e' : ε} (h : E e e') : Agree E R (.error e) (.error e')

namespace Agree

variable {ε ε' α β γ δ : Type} {E : ε → ε → Prop} {R : α → β → Prop} {S : γ → δ → Prop}
  {r : Except ε α} {s : Except ε β}

/-- A computation agrees with itself. -/
theorem self (h : ∀ e, E e e) (r : Except ε α) : Agree E Eq r r := by
  cases r with
  | ok a => exact .ok rfl
  | error e => exact .error (h e)

theorem eq {r s : Except ε α} (h : Agree Eq Eq r s) : r = s := by
  cases h with
  | ok h => rw [h]
  | error h => rw [h]

theorem map (h : Agree E R r s) {f : α → γ} {g : β → δ} (hf : ∀ a b, R a b → S (f a) (g b)) :
    Agree E S (r.map f) (s.map g) := by
  cases h with
  | ok h => exact .ok (hf _ _ h)
  | error h => exact .error h

theorem mapError (h : Agree E R r s) {E' : ε' → ε' → Prop} {f : ε → ε'}
    (hf : ∀ e e', E e e' → E' (f e) (f e')) : Agree E' R (r.mapError f) (s.mapError f) := by
  cases h with
  | ok h => exact .ok h
  | error h => exact .error (hf _ _ h)

theorem bind (h : Agree E R r s) {f : α → Except ε γ} {g : β → Except ε δ}
    (hf : ∀ a b, R a b → Agree E S (f a) (g b)) : Agree E S (r >>= f) (s >>= g) := by
  cases h with
  | ok h => exact hf _ _ h
  | error h => exact .error h

theorem ite {c : Prop} [Decidable c] {r' : Except ε α} {s' : Except ε β} (h : Agree E R r s)
    (h' : Agree E R r' s') : Agree E R (if c then r else r') (if c then s else s') := by
  split_ifs
  · exact h
  · exact h'

end Agree

/-! ### Options -/

section Rel

variable {α β : Type} {R : α → α → Prop} {S : β → β → Prop}

/-- Two options are related if both are there or neither is, and what is there is related. -/
theorem rel_iff {x y : Option α} :
    Option.Rel R x y ↔ x.isSome = y.isSome ∧ ∀ a b, x = some a → y = some b → R a b := by
  constructor
  · rintro (h | _)
    · refine ⟨rfl, ?_⟩
      rintro _ _ ⟨⟩ ⟨⟩
      exact h
    · refine ⟨rfl, ?_⟩
      intro a b ha
      cases ha
  · rintro ⟨hs, h⟩
    cases x with
    | none =>
        cases y with
        | none => exact .none
        | some b => cases hs
    | some a =>
        cases y with
        | none => cases hs
        | some b => exact .some (h a b rfl rfl)

theorem rel_map {x y : Option α} (h : Option.Rel R x y) {f g : α → β}
    (hf : ∀ a b, R a b → S (f a) (g b)) : Option.Rel S (x.map f) (y.map g) := by
  cases h with
  | none => exact .none
  | some h => exact .some (hf _ _ h)

/-- Lists that are related at every index have the same length. -/
theorem length_eq_of_rel {l r : List α} (h : ∀ i : Nat, Option.Rel R l[i]? r[i]?) :
    l.length = r.length := by
  have hs : ∀ i : Nat, i < l.length ↔ i < r.length := fun i => by
    have hi := (rel_iff.mp (h i)).1
    rw [Bool.eq_iff_iff, isSome_getElem?, isSome_getElem?] at hi
    exact hi
  have hl := hs l.length
  have hr := hs r.length
  omega

end Rel

/-! ### Faults -/

/-- The faults are the same, or both are about pointers. -/
inductive Fault.Like : Fault → Fault → Prop where
  | same (f : Fault) : Like f f
  | pointer (cause cause' : PointerFault) (path path' : Option String) :
    Like (.pointer cause path) (.pointer cause' path')

namespace Fault.Like

variable {f g : Fault}

theorem sort (h : f.Like g) : f.sort = g.sort := by
  cases h <;> rfl

theorem failsOperation (h : f.Like g) : f.failsOperation = g.failsOperation := by
  rw [Fault.failsOperation, Fault.failsOperation, h.sort]

theorem falsifiesPredicate (h : f.Like g) : f.falsifiesPredicate = g.falsifiesPredicate := by
  rw [Fault.falsifiesPredicate, Fault.falsifiesPredicate, h.sort]

end Fault.Like
end JsonPatch
