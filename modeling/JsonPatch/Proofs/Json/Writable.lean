import JsonPatch.Json.Text
import JsonPatch.Proofs.Value.Members
import JsonPatch.Value.Path

/-! # Values that can be written

A list or an object can be written exactly if all its parts can.  The number `hugeNumber` cannot. -/

namespace JsonPatch

namespace Json

theorem isWritableItems_iff {items : List Value} :
    isWritableItems items = true ↔ ∀ v ∈ items, isWritable v = true := by
  induction items with
  | nil => exact iff_of_true rfl (List.forall_mem_nil _)
  | cons v rest ih =>
      rw [List.forall_mem_cons, ← ih]
      exact Bool.and_eq_true_iff

theorem isWritableMembers_iff {members : Members} :
    isWritableMembers members = true ↔ ∀ m ∈ members, isWritable m.2 = true := by
  induction members with
  | nil => exact iff_of_true rfl (List.forall_mem_nil _)
  | cons m rest ih =>
      rw [List.forall_mem_cons, ← ih]
      exact Bool.and_eq_true_iff

theorem isWritableMembers_append (members more : Members) :
    isWritableMembers (members ++ more) =
      (isWritableMembers members && isWritableMembers more) := by
  rw [Bool.eq_iff_iff, Bool.and_eq_true_iff]
  simp only [isWritableMembers_iff, List.forall_mem_append]

section Parts

variable {v w : Value} {k : Key}

theorem isWritable_child? (h : isWritable v = true) (hw : v.child? k = some w) :
    isWritable w = true := by
  cases v with
  | array items =>
      cases k with
      | index i => exact isWritableItems_iff.mp h w (List.mem_of_getElem? hw)
      | member name => cases hw
  | object members =>
      cases k with
      | index i => cases hw
      | member name => exact isWritableMembers_iff.mp h _ (Members.mem_of_find? hw)
  | _ => cases hw

/-- What is in a value that can be written can be written. -/
theorem isWritable_at? {place : List Key} (h : isWritable v = true) (hw : v.at? place = some w) :
    isWritable w = true := by
  induction place generalizing v with
  | nil =>
      cases hw
      exact h
  | cons k place ih =>
      rw [Value.at?] at hw
      split at hw
      · rename_i u hu
        exact ih (isWritable_child? h hu) hw
      · cases hw

end Parts

/-- A number with more digits than are written. -/
def hugeNumber : Value := .number (.int (Nat.pow 10 5000))

theorem isWritable_hugeNumber : isWritable hugeNumber = false := by
  decide +kernel

end Json

namespace Value

theorem shown_of_isWritable {v : Value} (h : Json.isWritable v = true) : v.shown = .ok v.display :=
  if_pos h

theorem shown_of_not_isWritable {v : Value} (h : Json.isWritable v = false) :
    v.shown = .error .hugeInteger := by
  rw [shown, h]
  rfl

end Value
end JsonPatch
