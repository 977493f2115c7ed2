import JsonPatch.Operation.Basic
import Mathlib.Tactic.Common

/-! # The trouble of core operations

Whatever keeps a core operation from being planned is a failure of that operation: it is one at
once, or it is a fault of a sort that makes operations fail.  `Plain r` says that all faults of a
computation are of such a sort; it holds of everything that pointers and containers are asked
(`plain_descend` up to `plain_equals`).  `Settling r` says that all trouble of a planning step
settles to a failure; it is kept by the steps of a plan (`Settling.bind`), and with it each core
operation has a plan whose trouble is a failure without an index of its own
(`handler_trouble`). -/

namespace JsonPatch

/-- All faults of a computation are of sorts that make operations fail. -/
def Plain {α : Type} (r : Except Fault α) : Prop :=
  ∀ f, r = .error f → f.failsOperation = true

namespace Plain

variable {α β : Type}

theorem ok (a : α) : Plain (.ok a : Except Fault α) := by
  intro f h
  cases h

theorem error {f : Fault} (h : f.failsOperation = true) : Plain (.error f : Except Fault α) := by
  intro g hg
  cases hg
  exact h

theorem map {r : Except Fault α} (h : Plain r) (g : α → β) : Plain (r.map g) := by
  cases r with
  | ok a => exact ok (g a)
  | error f => exact error (h f rfl)

end Plain

/-! ### Faults of pointers and containers -/

theorem plain_indexOfText (s : String) : Plain (Value.indexOfText s) := by
  unfold Value.indexOfText
  dsimp only
  split_ifs
  · exact Plain.ok _
  · exact Plain.error rfl
  · exact Plain.error rfl

theorem plain_parseIndex (key : Value) : Plain (Value.parseIndex key) := by
  unfold Value.parseIndex
  split
  · exact plain_indexOfText _
  · exact Plain.ok _
  · exact Plain.error rfl

theorem plain_indexBelow (bound : Nat) (key : Value) : Plain (Value.indexBelow bound key) := by
  unfold Value.indexBelow
  cases h : Value.parseIndex key with
  | ok i =>
      dsimp only
      split_ifs
      · exact Plain.ok _
      · exact Plain.error rfl
  | error f => exact Plain.error (plain_parseIndex key f h)

theorem plain_existingKey (c key : Value) : Plain (c.existingKey key) := by
  unfold Value.existingKey
  split
  · split_ifs
    · exact Plain.ok _
    · exact Plain.error rfl
  · exact (plain_indexBelow _ _).map _
  · exact Plain.error rfl

theorem plain_insertionKey (c key : Value) : Plain (c.insertionKey key) := by
  unfold Value.insertionKey
  split
  · exact Plain.ok _
  · split_ifs
    · exact Plain.ok _
    · exact (plain_indexBelow _ _).map _
  · exact (plain_indexBelow _ _).map _
  · exact Plain.error rfl

/-- A key that cannot be shown makes an operation fail, like one that does not fit. -/
theorem misfit_failsOperation (cause : String → PointerFault) (key : Value) :
    (misfit cause key).failsOperation = true := by
  unfold misfit Value.shown
  split_ifs <;> rfl

theorem plain_fixKey (c key : Value) : Plain (fixKey c key) := by
  unfold fixKey
  split
  · cases h : Value.parseIndex key with
    | ok i =>
        dsimp only
        split_ifs
        · exact Plain.ok _
        · exact Plain.error (misfit_failsOperation _ _)
    | error f =>
        have hf := plain_parseIndex key f h
        cases f <;> first | exact Plain.error (misfit_failsOperation _ _) | exact Plain.error hf
  · exact Plain.ok _
  · exact Plain.error (misfit_failsOperation _ _)

namespace Pointer

theorem plain_descend (path : String) :
    ∀ (parts : List String) (v : Value), Plain (descend path parts v)
  | [], v => Plain.ok v
  | s :: rest, v => by
      cases v with
      | array items =>
          simp only [descend]
          split
          · exact plain_descend path rest _
          · exact plain_descend path rest _
          · rename_i f hf
            exact Plain.error (plain_fixKey _ _ f hf)
      | object members => exact plain_descend path rest _
      | _ => exact Plain.error rfl

theorem plain_parent (p : Pointer) (root : Value) : Plain (p.parent root) := by
  unfold parent
  split_ifs
  · exact Plain.error rfl
  · exact Plain.error rfl
  · exact plain_descend _ _ _

theorem plain_locate (p : Pointer) (root : Value) : Plain (p.locate root) := by
  unfold locate
  cases p.last with
  | none => exact Plain.ok _
  | some last =>
      dsimp only
      split
      · exact Plain.ok _
      · rename_i f _ hf
        exact Plain.error (plain_parent p root f hf)
      · rename_i c _
        split
        · exact Plain.ok _
        · exact Plain.ok _
        · rename_i f _ hf
          exact Plain.error (plain_existingKey c _ f hf)

theorem plain_parse (v : Value) : Plain (parse v) := by
  cases v with
  | string path => exact Plain.ok _
  | _ => exact Plain.error rfl

theorem plain_leads (p : Pointer) (root : Value) : Plain (p.leads root) :=
  (plain_locate p root).map _

theorem plain_value (p : Pointer) (root : Value) : Plain (p.value root) := by
  unfold value
  split_ifs
  · exact Plain.ok _
  · exact (plain_locate p root).map _

theorem plain_insertionSlot (p : Pointer) (doc : Value) : Plain (p.insertionSlot doc) := by
  unfold insertionSlot
  cases h : p.parent doc with
  | error f => exact Plain.error (plain_parent p doc f h)
  | ok c =>
      dsimp only
      split_ifs
      · exact (plain_insertionKey _ _).map _
      · exact Plain.error rfl

theorem plain_existingSlot? (p : Pointer) (doc : Value) : Plain (p.existingSlot? doc) :=
  (plain_locate p doc).map _

end Pointer

namespace Value

theorem plain_kind (v : Value) : Plain v.kind := by
  unfold kind
  cases v.kind? with
  | some k => exact Plain.ok k
  | none => exact Plain.error rfl

/-- Values that are not both objects or both arrays are compared by their kinds and as leaves. -/
theorem plain_equals_of_unlike {l r : Value} (ho : ∀ a b, l = object a → r = object b → False)
    (ha : ∀ a b, l = array a → r = array b → False) : Plain (equals l r) := by
  rw [equals.eq_3 l r ho ha]
  cases hl : kind l with
  | error f => exact Plain.error (plain_kind l f hl)
  | ok a =>
      cases hr : kind r with
      | error f => exact Plain.error (plain_kind r f hr)
      | ok b => exact Plain.ok _

mutual

theorem plain_equals : ∀ l r : Value, Plain (equals l r)
  | .object l, r => by
      cases r with
      | object r =>
          rw [equals]
          split_ifs
          · exact plain_equalMembers l r
          · exact Plain.ok _
      | _ => exact plain_equals_of_unlike (by simp) (by simp)
  | .array l, r => by
      cases r with
      | array r =>
          rw [equals]
          split_ifs
          · exact plain_equalItems l r
          · exact Plain.ok _
      | _ => exact plain_equals_of_unlike (by simp) (by simp)
  | .null, _ | .bool _, _ | .number _, _ | .string _, _ | .tuple _, _ | .bytes _, _
  | .foreign _, _ => plain_equals_of_unlike (by simp) (by simp)

theorem plain_equalMembers : ∀ l r : Members, Plain (equalMembers l r)
  | [], r => Plain.ok _
  | (name, v) :: rest, r => by
      rw [equalMembers]
      split
      · exact plain_equalMembers rest r
      · exact plain_equals v _

theorem plain_equalItems : ∀ l r : List Value, Plain (equalItems l r)
  | a :: l, b :: r => by
      rw [equalItems]
      split
      · exact plain_equalItems l r
      · exact plain_equals a b
  | [], _ => Plain.ok _
  | _ :: _, [] => Plain.ok _

end

end Value

/-! ### Planning steps -/

/-- Trouble that settles to a failure without an index of its own. -/
def Trouble.Settles (t : Trouble) : Prop :=
  ∃ cause, t.settle = .failure cause none

namespace Operation

variable {α β : Type}

/-- All trouble of a planning step settles to a failure. -/
def Settling (r : Step α) : Prop :=
  ∀ t, r = .error t → t.Settles

namespace Settling

theorem ok (a : α) : Settling (.ok a : Step α) := by
  intro t h
  cases h

theorem fail (cause : Failure) : Settling (Operation.fail cause : Step α) := by
  intro t h
  cases h
  exact ⟨cause, rfl⟩

/-- A plain fault is made a failure of the operation. -/
theorem ofFault {r : Except Fault α} (h : Plain r) : Settling (Operation.ofFault r) := by
  intro t ht
  cases r with
  | ok a => cases ht
  | error f =>
      cases ht
      refine ⟨.fault f, ?_⟩
      rw [Trouble.settle, if_pos (h f rfl)]

theorem bind {r : Step α} {f : α → Step β} (hr : Settling r) (hf : ∀ a, Settling (f a)) :
    Settling (r >>= f) := by
  cases r with
  | ok a => exact hf a
  | error t =>
      intro u hu
      cases hu
      exact hr t rfl

theorem ite {c : Prop} [Decidable c] {r s : Step α} (hr : Settling r) (hs : Settling s) :
    Settling (if c then r else s) := by
  split_ifs
  · exact hr
  · exact hs

end Settling

theorem settling_pointerOf (d : Descriptor) (field : String) : Settling (pointerOf d field) := by
  unfold pointerOf
  cases Members.find? field d with
  | none => exact Settling.fail _
  | some v => exact Settling.ofFault (Pointer.plain_parse v)

theorem settling_valueOf (d : Descriptor) : Settling (valueOf d) := by
  unfold valueOf
  cases Members.find? "value" d with
  | none => exact Settling.fail _
  | some v => exact Settling.ok v

theorem settling_add (d : Descriptor) (doc : Value) : Settling (add d doc) := by
  unfold add
  refine (settling_pointerOf d _).bind fun p => (settling_valueOf d).bind fun _ => ?_
  exact (Settling.ofFault (p.plain_insertionSlot doc)).bind fun slot => Settling.ok _

theorem settling_remove (d : Descriptor) (doc : Value) : Settling (remove d doc) := by
  unfold remove
  refine (settling_pointerOf d _).bind fun p => Settling.ite (Settling.fail _) ?_
  exact (Settling.ofFault (p.plain_existingSlot? doc)).bind fun slot => Settling.ok _

theorem settling_replace (d : Descriptor) (doc : Value) : Settling (replace d doc) := by
  unfold replace
  refine (settling_pointerOf d _).bind fun p => (settling_valueOf d).bind fun _ => ?_
  refine (Settling.ofFault (p.plain_existingSlot? doc)).bind fun slot => ?_
  cases slot with
  | some slot => exact Settling.ok _
  | none => exact Settling.fail _

theorem settling_test (d : Descriptor) (doc : Value) : Settling (test d doc) := by
  unfold test
  refine (settling_pointerOf d _).bind fun p => (settling_valueOf d).bind fun expected => ?_
  refine (Settling.ofFault (p.plain_leads doc)).bind fun _ => Settling.ite (Settling.fail _) ?_
  refine (Settling.ofFault (p.plain_value doc)).bind fun actual => ?_
  refine (Settling.ofFault (Value.plain_equals actual expected)).bind fun _ => ?_
  exact Settling.ite (Settling.ok _) (Settling.fail _)

theorem settling_transfer (d : Descriptor) (doc : Value) (moves : Bool) :
    Settling (transfer d doc moves) := by
  unfold transfer targetOf
  refine (settling_pointerOf d _).bind fun source => (settling_pointerOf d _).bind fun target => ?_
  refine (Settling.ofFault (source.plain_existingSlot? doc)).bind fun slot => ?_
  cases slot with
  | none => exact Settling.fail _
  | some slot =>
      refine Settling.ite (Settling.fail _) ?_
      refine (Settling.ofFault (target.plain_parent doc)).bind fun c => ?_
      exact Settling.ite (Settling.ok _) (Settling.fail _)

theorem settling_copy (d : Descriptor) (doc : Value) : Settling (copy d doc) := by
  unfold copy
  refine (settling_transfer d doc false).bind fun places => ?_
  exact (Settling.ofFault (places.2.plain_insertionSlot doc)).bind fun place => Settling.ok _

theorem settling_move (d : Descriptor) (doc : Value) : Settling (move d doc) := by
  unfold move
  exact (settling_transfer d doc true).bind fun places => Settling.ok _

/-- What keeps a core operation from being planned is a failure without an index. -/
theorem handler_trouble {operation : Descriptor → Value → Step (Option Edit)}
    (h : ∀ d doc, Settling (operation d doc)) {d : Descriptor} {doc : Value} {t : Trouble}
    (ht : (handler operation (.object d) doc).edit = .error t) :
    ∃ cause, t = .failure cause none := by
  have hs := h d doc
  change (operation d doc).mapError Trouble.settle = .error t at ht
  cases hop : operation d doc with
  | ok e => rw [hop] at ht; cases ht
  | error u =>
      rw [hop] at ht
      cases ht
      exact hs u hop

end Operation
end JsonPatch
