import JsonPatch.Proofs.Value.Node
import Mathlib.Tactic.Abel

/-! # Leaves

The scalars of a document, each as often as it stands there.  Arrays and objects count by their
parts, so the leaves of a container are the sum of the leaves of its parts (`leaves_value`), and a
change of one container adds and takes away as much from the leaves of the document as from its own
(`leaves_modifyAt`). -/

namespace JsonPatch

namespace Value

mutual

/-- The scalars in a value.  What the operations do not look into counts as one. -/
def leaves : Value → Multiset Value
  | array items => leavesOfItems items
  | object members => leavesOfMembers members
  | v => {v}

/-- The scalars in the values of a list. -/
def leavesOfItems : List Value → Multiset Value
  | [] => 0
  | v :: rest => leaves v + leavesOfItems rest

/-- The scalars in the values of members. -/
def leavesOfMembers : Members → Multiset Value
  | [] => 0
  | (_, v) :: rest => leaves v + leavesOfMembers rest

end

theorem leaves_array (items : List Value) :
    (array items).leaves = ((items : Multiset Value).map leaves).sum := by
  rw [leaves]
  induction items with
  | nil => rfl
  | cons v rest ih => simp [leavesOfItems, ih]

theorem leaves_object (members : Members) :
    (object members).leaves = ((Members.values members).map leaves).sum := by
  rw [leaves, Members.values]
  induction members with
  | nil => rfl
  | cons m rest ih =>
      simp only [leavesOfMembers, ih, List.map_cons, Multiset.map_coe, Multiset.sum_coe,
        List.sum_cons]

/-! ### Containers -/

/-- The leaves of a container are those of its parts. -/
theorem leaves_value (n : Node Value) : n.value.leaves = (n.parts.map leaves).sum := by
  cases n with
  | array items => exact leaves_array items
  | object members => exact leaves_object members

theorem exists_node {c w : Value} {k : Key} (h : c.child? k = some w) :
    ∃ n : Node Value, c = n.value ∧ n.child? k = some w := by
  cases c with
  | array items =>
      cases k with
      | index i => exact ⟨.array items, rfl, h⟩
      | member name => cases h
  | object members =>
      cases k with
      | index i => cases h
      | member name => exact ⟨.object members, rfl, h⟩
  | _ => cases h

variable {c v w : Value} {k : Key}

theorem leaves_deleteAt (h : c.child? k = some v) :
    c.leaves = v.leaves + (c.deleteAt k).leaves := by
  obtain ⟨n, rfl, hn⟩ := exists_node h
  obtain ⟨kept, hc⟩ := Node.deleteAt_changes hn
  rw [Node.value_deleteAt, leaves_value, leaves_value, hc.before, hc.after]
  simp

theorem leaves_modifyChild (h : c.child? k = some w) (f : Value → Value) :
    (modifyChild k f c).leaves + w.leaves = c.leaves + (f w).leaves := by
  obtain ⟨n, rfl, hn⟩ := exists_node h
  obtain ⟨kept, hc⟩ := Node.assignAt_changes hn (f w)
  rw [Node.modifyChild_value hn, leaves_value, leaves_value, hc.before, hc.after]
  simp only [Multiset.map_add, Multiset.sum_add, Option.toList_some, Multiset.coe_singleton,
    Multiset.map_singleton, Multiset.sum_singleton]
  abel

theorem leaves_insertIdx {items : List Value} {i : Nat} (h : i ≤ items.length) (x : Value) :
    (array (items.insertIdx i x)).leaves = x.leaves + (array items).leaves := by
  have hperm : (items.insertIdx i x : Multiset Value) = x ::ₘ items :=
    Multiset.coe_eq_coe.mpr (List.perm_insertIdx x items h)
  rw [leaves_array, leaves_array, hperm, Multiset.map_cons, Multiset.sum_cons]

/-- Setting a member does away with the leaves of the member of that name, if there was one. -/
theorem leaves_put (name : String) (x : Value) (members : Members) :
    x.leaves + (object members).leaves =
      (Members.find? name members).elim 0 leaves + (object (Members.put name x members)).leaves := by
  rw [leaves_object, leaves_object, Members.values_put, Members.values_erase name members,
    Multiset.map_add, Multiset.sum_add, Multiset.map_cons, Multiset.sum_cons]
  cases Members.find? name members with
  | none => simp
  | some y => simp [add_left_comm]

/-! ### Documents -/

/-- The leaves of a document change as those of the value that is changed. -/
theorem leaves_modifyAt {place : List Key} {doc : Value} (h : doc.at? place = some c)
    (f : Value → Value) : (modifyAt place f doc).leaves + c.leaves = doc.leaves + (f c).leaves := by
  induction place generalizing doc with
  | nil =>
      cases h
      exact add_comm _ _
  | cons k place ih =>
      rw [at?_cons] at h
      obtain ⟨u, hu, hc⟩ := Option.bind_eq_some_iff.mp h
      -- what the change does to the part at the first key, and this to the whole
      have hpart := ih hc
      have hwhole := leaves_modifyChild hu (modifyAt place f)
      rw [modifyAt]
      refine add_right_cancel (b := u.leaves) ?_
      calc (modifyChild k (modifyAt place f) doc).leaves + c.leaves + u.leaves
          = (modifyChild k (modifyAt place f) doc).leaves + u.leaves + c.leaves := by abel
        _ = doc.leaves + ((modifyAt place f u).leaves + c.leaves) := by rw [hwhole]; abel
        _ = doc.leaves + (f c).leaves + u.leaves := by rw [hpart]; abel

end Value
end JsonPatch
