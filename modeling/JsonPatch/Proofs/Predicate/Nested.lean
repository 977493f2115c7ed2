import JsonPatch.Predicate.Builtin
import JsonPatch.Proofs.Value.Members

/-! # Nested descriptors

A descriptor may hold others in a list under `apply`.  They are smaller than the descriptor
(`sizeOf_nested`), so what is to be shown of all descriptors is shown by induction on how deep they
are nested (`descriptorInduction`). -/

namespace JsonPatch

open Predicate (argument)

/-- The descriptors under a combinator; there are none if it has no list of them. -/
def nested? (members : Members) : Option (List Value) :=
  match argument members "apply" with
  | .array items => some items
  | _ => none

theorem find?_of_nested? {members : Members} {items : List Value}
    (h : nested? members = some items) : Members.find? "apply" members = some (.array items) := by
  unfold nested? argument at h
  cases hf : Members.find? "apply" members with
  | none =>
      rw [hf] at h
      cases h
  | some v =>
      rw [hf] at h
      cases v with
      | array items' =>
          cases h
          rfl
      | _ => cases h

theorem nested?_of_find? {members : Members} {items : List Value}
    (h : Members.find? "apply" members = some (.array items)) : nested? members = some items := by
  rw [nested?, argument, h]
  rfl

theorem sizeOf_nested {members : Members} {items : List Value} (h : nested? members = some items)
    {p : Value} (hp : p ∈ items) : sizeOf p < sizeOf (Value.object members) := by
  have hmember := List.sizeOf_lt_of_mem (Members.mem_of_find? (find?_of_nested? h))
  have hitem := List.sizeOf_lt_of_mem hp
  simp only [Prod.mk.sizeOf_spec, Value.array.sizeOf_spec] at hmember
  simp only [Value.object.sizeOf_spec]
  omega

/-- What holds of a descriptor if it holds of those nested in it holds of every value. -/
@[elab_as_elim]
theorem descriptorInduction {motive : Value → Prop}
    (object : ∀ members : Members,
      (∀ items, nested? members = some items → ∀ p ∈ items, motive p) → motive (.object members))
    (other : ∀ v : Value, (∀ members, v ≠ .object members) → motive v) (v : Value) : motive v := by
  induction hn : sizeOf v using Nat.strong_induction_on generalizing v with
  | _ n ih =>
      subst hn
      cases v with
      | object members =>
          exact object members fun items h p hp => ih _ (sizeOf_nested h hp) p rfl
      | _ => exact other _ (by intro members h; cases h)

end JsonPatch
