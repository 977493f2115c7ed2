import JsonPatch.Live.Cell
import JsonPatch.Proofs.Pointer.Slot
import Mathlib.Algebra.BigOperators.Group.Multiset.Basic
import Mathlib.Data.List.InsertIdx

/-! # Arrays and objects of any parts

A value and a cell have the same shape, with values or parts inside.  A `Node` is that shape for
parts of any type, so that what a change at one key does to the other keys is said once: `Changes`
lists the parts that go, stay and come, and follows each part that stays to its new key. -/

namespace JsonPatch

namespace Key

/-- The key of a part after something has been inserted at `k`; a member of that name goes. -/
def afterInsert (k : Key) : Key → Option Key
  | index j =>
    match k with
    | index i => some (index (if j < i then j else j + 1))
    | member _ => some (index j)
  | member name => if member name = k then none else some (member name)

/-- The key of a part after the one at `k` has been overwritten. -/
def afterAssign (k k' : Key) : Option Key :=
  if k' = k then none else some k'

/-- The key of a part after the one at `k` has been taken out. -/
def afterDelete (k : Key) : Key → Option Key
  | index j =>
    match k with
    | index i => if j = i then none else some (index (if j < i then j else j - 1))
    | member _ => some (index j)
  | member name => if member name = k then none else some (member name)

end Key

/-- An array or an object with parts of some type. -/
inductive Node (α : Type) where
  | array (items : List α)
  | object (members : List (String × α))

namespace Node

variable {α β : Type}

/-- The node with other parts. -/
def map (f : α → β) : Node α → Node β
  | array items => array (items.map f)
  | object members => object (members.map fun m => (m.1, f m.2))

/-- The parts, in no order. -/
def parts : Node α → Multiset α
  | array items => items
  | object members => Members.values members

/-- The part at one key. -/
def child? (n : Node α) (k : Key) : Option α :=
  match n, k with
  | object members, .member name => Members.find? name members
  | array items, .index i => items[i]?
  | _, _ => none

/-- Set a member, or put an element before an index. -/
def insertAt (n : Node α) (k : Key) (new : α) : Node α :=
  match n, k with
  | object members, .member name => object (Members.put name new members)
  | array items, .index i => array (items.insertIdx i new)
  | _, _ => n

/-- Overwrite a member or an element. -/
def assignAt (n : Node α) (k : Key) (new : α) : Node α :=
  match n, k with
  | object members, .member name => object (Members.put name new members)
  | array items, .index i => array (items.set i new)
  | _, _ => n

/-- Take out a member or an element. -/
def deleteAt (n : Node α) (k : Key) : Node α :=
  match n, k with
  | object members, .member name => object (Members.erase name members)
  | array items, .index i => array (items.eraseIdx i)
  | _, _ => n

/-- The key is one at which the node can take a new part. -/
def Takes : Node α → Key → Prop
  | object _, .member _ => True
  | array items, .index i => i ≤ items.length
  | _, _ => False

/-! ### Other parts -/

theorem child?_map (f : α → β) (n : Node α) (k : Key) :
    (n.map f).child? k = (n.child? k).map f := by
  cases n with
  | array items =>
      cases k with
      | index i => exact List.getElem?_map
      | member name => rfl
  | object members =>
      cases k with
      | index i => rfl
      | member name => exact Members.find?_map f name members

theorem map_insertAt (f : α → β) (n : Node α) (k : Key) (x : α) :
    (n.insertAt k x).map f = (n.map f).insertAt k (f x) := by
  cases n with
  | array items =>
      cases k with
      | index i => exact congrArg array (List.map_insertIdx f items i x)
      | member name => rfl
  | object members =>
      cases k with
      | index i => rfl
      | member name => exact congrArg object (Members.map_put f name x members)

theorem map_assignAt (f : α → β) (n : Node α) (k : Key) (x : α) :
    (n.assignAt k x).map f = (n.map f).assignAt k (f x) := by
  cases n with
  | array items =>
      cases k with
      | index i => exact congrArg array List.map_set
      | member name => rfl
  | object members =>
      cases k with
      | index i => rfl
      | member name => exact congrArg object (Members.map_put f name x members)

theorem map_deleteAt (f : α → β) (n : Node α) (k : Key) :
    (n.deleteAt k).map f = (n.map f).deleteAt k := by
  cases n with
  | array items =>
      cases k with
      | index i => exact congrArg array (List.eraseIdx_map ..).symm
      | member name => rfl
  | object members =>
      cases k with
      | index i => rfl
      | member name => exact congrArg object (Members.map_erase f name members)

theorem takes_map (f : α → β) (n : Node α) (k : Key) : (n.map f).Takes k ↔ n.Takes k := by
  cases n with
  | array items =>
      cases k with
      | index i => simp [map, Takes]
      | member name => rfl
  | object members => cases k <;> rfl

theorem mem_parts {n : Node α} {k : Key} {x : α} (h : n.child? k = some x) : x ∈ n.parts := by
  cases n with
  | array items =>
      cases k with
      | index i => exact List.mem_of_getElem? h
      | member name => cases h
  | object members =>
      cases k with
      | index i => cases h
      | member name => exact List.mem_map.mpr ⟨_, Members.mem_of_find? h, rfl⟩

theorem assignAt_self {n : Node α} {k : Key} {x : α} (h : n.child? k = some x) :
    n.assignAt k x = n := by
  cases n with
  | array items =>
      cases k with
      | index i =>
          obtain ⟨hi, rfl⟩ := List.getElem?_eq_some_iff.mp h
          exact congrArg array (List.set_getElem_self hi)
      | member name => rfl
  | object members =>
      cases k with
      | index i => rfl
      | member name => exact congrArg object (Members.put_of_find? h)

/-! ### Changes -/

/-- One node becomes another by a change at a key: some parts go, the others stay and move to the
keys that `carry` says, and a new part may come at the key itself. -/
structure Changes (n n' : Node α) (k : Key) (carry : Key → Option Key) (new : Option α)
    (gone kept : Multiset α) : Prop where
  before : n.parts = gone + kept
  after : n'.parts = new.toList + kept
  follows : ∀ {k' x}, n.child? k' = some x →
    (∃ k'', carry k' = some k'' ∧ n'.child? k'' = some x) ∨ carry k' = none ∧ x ∈ gone
  comes : ∀ {x}, new = some x → n'.child? k = some x

/-- A part that stays is found at the key to which it has moved. -/
theorem Changes.carried {n n' : Node α} {k : Key} {carry : Key → Option Key} {new : Option α}
    {gone kept : Multiset α} (h : Changes n n' k carry new gone kept) {a b : Key} {x : α}
    (hx : n.child? a = some x) (hb : carry a = some b) : n'.child? b = some x := by
  obtain ⟨b', hb', hx'⟩ | ⟨hnone, -⟩ := h.follows hx
  · obtain rfl : b = b' := Option.some.inj (hb.symm.trans hb')
    exact hx'
  · rw [hb] at hnone
    cases hnone

theorem insertAt_changes {n : Node α} {k : Key} (h : n.Takes k) (x : α) :
    ∃ gone kept, Changes n (n.insertAt k x) k k.afterInsert (some x) gone kept := by
  cases n with
  | array items =>
      cases k with
      | member name => cases h
      | index i =>
          refine ⟨0, items, (zero_add _).symm, ?_, ?_, ?_⟩
          · exact Multiset.coe_eq_coe.mpr (List.perm_insertIdx x items h)
          · intro k' y hy
            cases k' with
            | member name => cases hy
            | index j =>
                refine .inl ⟨_, rfl, ?_⟩
                change (items.insertIdx i x)[if j < i then j else j + 1]? = some y
                rw [List.getElem?_insertIdx]
                split_ifs with hj hj' hj'
                · exact hy
                · omega
                · omega
                · omega
                · exact hy
          · intro y hy
            cases hy
            change (items.insertIdx i x)[i]? = some x
            rw [List.getElem?_insertIdx, if_neg (Nat.lt_irrefl i), if_pos rfl]
            exact if_pos h
  | object members =>
      cases k with
      | index i => cases h
      | member name =>
          refine ⟨_, _, Members.values_erase name members, Members.values_put name x members,
            ?_, ?_⟩
          · intro k' y hy
            cases k' with
            | index j => cases hy
            | member name' =>
                rw [Key.afterInsert]
                by_cases hn : name' = name
                · subst hn
                  refine .inr ⟨if_pos rfl, ?_⟩
                  have hy : Members.find? name' members = some y := hy
                  simp [hy]
                · refine .inl ⟨.member name', if_neg (by simp [hn]), ?_⟩
                  exact (Members.find?_put_ne hn x members).trans hy
          · intro y hy
            cases hy
            exact Members.find?_put_self name x members

theorem assignAt_changes {n : Node α} {k : Key} {y : α} (h : n.child? k = some y) (x : α) :
    ∃ kept, Changes n (n.assignAt k x) k k.afterAssign (some x) {y} kept := by
  cases n with
  | array items =>
      cases k with
      | member name => cases h
      | index i =>
          obtain ⟨hi, rfl⟩ := List.getElem?_eq_some_iff.mp h
          have hi' : i < (items.set i x).length := by rwa [List.length_set]
          refine ⟨items.eraseIdx i, ?_, ?_, ?_, ?_⟩
          · exact Multiset.coe_eq_coe.mpr (List.getElem_cons_eraseIdx_perm hi).symm
          · have hp := List.getElem_cons_eraseIdx_perm hi'
            rw [List.getElem_set_self, List.eraseIdx_set_eq] at hp
            exact Multiset.coe_eq_coe.mpr hp.symm
          · intro k' z hz
            rw [Key.afterAssign]
            split_ifs with hk
            · subst hk
              rw [hz] at h
              cases h
              exact .inr ⟨rfl, Multiset.mem_singleton_self _⟩
            · refine .inl ⟨k', rfl, ?_⟩
              cases k' with
              | member name => cases hz
              | index j =>
                  have hij : i ≠ j := fun e => hk (by rw [e])
                  exact (List.getElem?_set_ne hij).trans hz
          · intro z hz
            cases hz
            exact List.getElem?_set_self hi
  | object members =>
      cases k with
      | index i => cases h
      | member name =>
          have h : Members.find? name members = some y := h
          refine ⟨Members.values (Members.erase name members), ?_,
            Members.values_put name x members, ?_, ?_⟩
          · have hv := Members.values_erase name members
            rw [h] at hv
            exact hv
          · intro k' z hz
            rw [Key.afterAssign]
            split_ifs with hk
            · subst hk
              have hz : Members.find? name members = some z := hz
              rw [hz] at h
              cases h
              exact .inr ⟨rfl, Multiset.mem_singleton_self _⟩
            · refine .inl ⟨k', rfl, ?_⟩
              cases k' with
              | index j => cases hz
              | member name' =>
                  have hn : name' ≠ name := fun e => hk (by rw [e])
                  exact (Members.find?_put_ne hn x members).trans hz
          · intro z hz
            cases hz
            exact Members.find?_put_self name x members

theorem deleteAt_changes {n : Node α} {k : Key} {y : α} (h : n.child? k = some y) :
    ∃ kept, Changes n (n.deleteAt k) k k.afterDelete none {y} kept := by
  cases n with
  | array items =>
      cases k with
      | member name => cases h
      | index i =>
          obtain ⟨hi, rfl⟩ := List.getElem?_eq_some_iff.mp h
          refine ⟨items.eraseIdx i, ?_, (zero_add _).symm, ?_, nofun⟩
          · exact Multiset.coe_eq_coe.mpr (List.getElem_cons_eraseIdx_perm hi).symm
          · intro k' z hz
            cases k' with
            | member name => cases hz
            | index j =>
                simp only [Key.afterDelete]
                by_cases hj : j = i
                · subst hj
                  rw [hz] at h
                  cases h
                  exact .inr ⟨if_pos rfl, Multiset.mem_singleton_self _⟩
                · refine .inl ⟨_, if_neg hj, ?_⟩
                  have hz : items[j]? = some z := hz
                  change (items.eraseIdx i)[if j < i then j else j - 1]? = some z
                  rw [List.getElem?_eraseIdx]
                  split_ifs with hlt hlt'
                  · exact hz
                  · omega
                  · have : j - 1 + 1 = j := by omega
                    rw [this]
                    exact hz
  | object members =>
      cases k with
      | index i => cases h
      | member name =>
          have h : Members.find? name members = some y := h
          refine ⟨Members.values (Members.erase name members), ?_, (zero_add _).symm, ?_, nofun⟩
          · have hv := Members.values_erase name members
            rw [h] at hv
            exact hv
          · intro k' z hz
            cases k' with
            | index j => cases hz
            | member name' =>
                simp only [Key.afterDelete, Key.member.injEq]
                have hz : Members.find? name' members = some z := hz
                by_cases hn : name' = name
                · subst hn
                  rw [hz] at h
                  cases h
                  exact .inr ⟨if_pos rfl, Multiset.mem_singleton_self _⟩
                · exact .inl ⟨_, if_neg hn, (Members.find?_erase_ne hn members).trans hz⟩

/-- Parts at two keys are two of the parts. -/
theorem parts_eq_cons_cons {n : Node α} {k k' : Key} {x y : α} (h : n.child? k = some x)
    (h' : n.child? k' = some y) (hk : k' ≠ k) : ∃ rest, n.parts = x ::ₘ y ::ₘ rest := by
  obtain ⟨kept, hc⟩ := deleteAt_changes h
  obtain ⟨k'', -, hk''⟩ | ⟨hk', -⟩ := hc.follows h'
  · have hy : y ∈ kept := by
      have hy := mem_parts hk''
      rw [hc.after] at hy
      simpa using hy
    obtain ⟨rest, rfl⟩ := Multiset.exists_cons_of_mem hy
    exact ⟨rest, hc.before⟩
  · cases k' with
    | member name' =>
        rw [Key.afterDelete, if_neg hk] at hk'
        cases hk'
    | index j =>
        cases k with
        | member name => cases hk'
        | index i =>
            have hij : j ≠ i := fun e => hk (by rw [e])
            simp [Key.afterDelete, hij] at hk'

/-! ### Values and cells -/

/-- The value of a node of values. -/
def value : Node Value → Value
  | array items => .array items
  | object members => .object members

/-- The cell of a node of parts. -/
def cell : Node Live.Part → Live.Cell
  | array items => .array items
  | object members => .object members

@[simp] theorem value_child? (n : Node Value) (k : Key) : n.value.child? k = n.child? k := by
  cases n <;> cases k <;> rfl

@[simp] theorem value_insertAt (n : Node Value) (k : Key) (x : Value) :
    n.value.insertAt k x = (n.insertAt k x).value := by
  cases n <;> cases k <;> rfl

@[simp] theorem value_assignAt (n : Node Value) (k : Key) (x : Value) :
    n.value.assignAt k x = (n.assignAt k x).value := by
  cases n <;> cases k <;> rfl

@[simp] theorem value_deleteAt (n : Node Value) (k : Key) :
    n.value.deleteAt k = (n.deleteAt k).value := by
  cases n <;> cases k <;> rfl

@[simp] theorem value_takes (n : Node Value) (k : Key) : n.value.Takes k ↔ n.Takes k := by
  cases n <;> cases k <;> rfl

@[simp] theorem cell_child? (n : Node Live.Part) (k : Key) : n.cell.child? k = n.child? k := by
  cases n <;> cases k <;> rfl

@[simp] theorem cell_insertAt (n : Node Live.Part) (k : Key) (x : Live.Part) :
    n.cell.insertAt k x = (n.insertAt k x).cell := by
  cases n <;> cases k <;> rfl

@[simp] theorem cell_assignAt (n : Node Live.Part) (k : Key) (x : Live.Part) :
    n.cell.assignAt k x = (n.assignAt k x).cell := by
  cases n <;> cases k <;> rfl

@[simp] theorem cell_deleteAt (n : Node Live.Part) (k : Key) :
    n.cell.deleteAt k = (n.deleteAt k).cell := by
  cases n <;> cases k <;> rfl

/-- Nodes with the same cell have parts that agree in everything the parts of the cell tell. -/
theorem map_eq_of_cell_eq {γ : Type} {n n' : Node α} {f : α → Live.Part} {g : α → γ}
    (h : (n.map f).cell = (n'.map f).cell)
    (hg : ∀ x ∈ n.parts, ∀ y ∈ n'.parts, f x = f y → g x = g y) :
    n.parts.map g = n'.parts.map g := by
  have hlist : ∀ {l l' : List α}, l.map f = l'.map f →
      (∀ x ∈ l, ∀ y ∈ l', f x = f y → g x = g y) → l.map g = l'.map g := by
    intro l
    induction l with
    | nil =>
        intro l' hl _
        rw [List.map_nil, eq_comm, List.map_eq_nil_iff] at hl
        rw [hl]
    | cons x l ih =>
        intro l' hl hg
        cases l' with
        | nil => cases hl
        | cons y l' =>
            obtain ⟨hxy, hl⟩ := List.cons.inj hl
            rw [List.map_cons, List.map_cons, hg x (by simp) y (by simp) hxy,
              ih hl fun a ha b hb => hg a (by simp [ha]) b (by simp [hb])]
  cases n with
  | array items =>
      cases n' with
      | object members => cases h
      | array items' => exact congrArg Multiset.ofList (hlist (Live.Cell.array.inj h) hg)
  | object members =>
      cases n' with
      | array items => cases h
      | object members' =>
          have hsnd := congrArg (List.map Prod.snd) (Live.Cell.object.inj h)
          rw [List.map_map, List.map_map] at hsnd
          have hparts : (members.map (·.2)).map f = (members'.map (·.2)).map f := by
            rw [List.map_map, List.map_map]
            exact hsnd
          exact congrArg Multiset.ofList (hlist hparts hg)

/-- Changing what is at a key is to overwrite it. -/
theorem modifyChild_value {n : Node Value} {k : Key} {w : Value} (h : n.child? k = some w)
    (f : Value → Value) : Value.modifyChild k f n.value = (n.assignAt k (f w)).value := by
  cases n with
  | array items =>
      cases k with
      | member name => cases h
      | index i =>
          have h : items[i]? = some w := h
          change Value.array (items.modify i f) = .array (items.set i (f w))
          rw [List.modify_eq_set_getElem?, h]
          rfl
  | object members =>
      cases k with
      | index i => cases h
      | member name => exact congrArg Value.object (Members.modify_of_find? h f)

end Node
end JsonPatch
