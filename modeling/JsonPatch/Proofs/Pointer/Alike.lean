import JsonPatch.Proofs.Outcome
import JsonPatch.Proofs.Value.Alike

/-! # Pointers in alike documents

A pointer leads to alike values in alike documents, at the same place and under the same key, or it
cannot be followed in either of them.  So it finds the same slots, and whatever is done to the slot
leaves alike documents. -/

namespace JsonPatch

open Value (Alike)

/-! ### Keys -/

namespace Value.Alike

variable {v w : Value}

/-- A key names the same place in alike containers. -/
theorem existingKey (h : Alike v w) (key : Value) : v.existingKey key = w.existingKey key := by
  cases h with
  | array length => simp only [Value.existingKey, length]
  | object _ _ names =>
      cases key with
      | string name => simp only [Value.existingKey, names]
      | _ => rfl
  | _ => rfl

/-- A key names the same place for a new value in alike containers. -/
theorem insertionKey (h : Alike v w) (key : Value) : v.insertionKey key = w.insertionKey key := by
  cases h with
  | array length => cases key <;> simp only [Value.insertionKey, length]
  | object => cases key <;> rfl
  | _ => rfl

theorem items_getD {l r : List Value} (h : Alike (.array l) (.array r)) (i : Nat) :
    Alike (l.getD i .null) (r.getD i .null) := by
  rw [List.getD_eq_getElem?_getD, List.getD_eq_getElem?_getD]
  exact getD (alike_array.mp h i)

theorem find?_getD {l r : Members} (h : Alike (.object l) (.object r)) (name : String) :
    Alike ((Members.find? name l).getD .null) ((Members.find? name r).getD .null) :=
  getD ((alike_object.mp h).2.2 name)

end Value.Alike

/-! ### Parents and locations -/

/-- The locations have the same key and lie in alike containers. -/
structure Location.Like (x y : Location) : Prop where
  container : Alike x.container y.container
  key : x.key = y.key
  found : x.found = y.found

namespace Pointer

variable {v w : Value}

theorem descend_alike (path : String) (parts : List String) (h : Alike v w) :
    Agree Fault.Like Alike (descend path parts v) (descend path parts w) := by
  induction parts generalizing v w with
  | nil => exact .ok h
  | cons s rest ih =>
      have hc := h
      cases h with
      | array length =>
          simp only [descend, fixKey, length]
          cases Value.parseIndex (.string s) with
          | ok i =>
              dsimp only
              split_ifs
              · exact ih (hc.items_getD _)
              · exact .error (.same _)
          | error f => cases f <;> exact .error (.same _)
      | object =>
          rw [descend, descend]
          exact ih (hc.find?_getD s)
      | _ => exact .error (.pointer ..)

/-- The parents are alike, or something is in the way in both documents. -/
theorem parent_alike (p : Pointer) (h : Alike v w) :
    Agree Fault.Like Alike (p.parent v) (p.parent w) :=
  .ite (.error (.same _)) (.ite (.error (.same _)) (descend_alike p.path p.parts h))

theorem locate_alike (p : Pointer) (h : Alike v w) :
    Agree Fault.Like Location.Like (p.locate v) (p.locate w) := by
  unfold locate
  cases p.last with
  | none => exact .ok ⟨.null, rfl, rfl⟩
  | some last =>
      dsimp only
      have hp := p.parent_alike h
      generalize p.parent v = r, p.parent w = s at hp
      cases hp with
      | error hf =>
          cases hf with
          | pointer => exact .ok ⟨.null, rfl, rfl⟩
          | same =>
              split
              · exact .ok ⟨.null, rfl, rfl⟩
              · exact .error (.same _)
              · contradiction
      | ok hc =>
          dsimp only
          rw [hc.existingKey]
          split
          · exact .ok ⟨hc, rfl, rfl⟩
          · exact .ok ⟨hc, rfl, rfl⟩
          · exact .error (.same _)

theorem leads_alike (p : Pointer) (h : Alike v w) :
    Agree Fault.Like Eq (p.leads v) (p.leads w) :=
  (p.locate_alike h).map fun _ _ hxy => hxy.found

theorem valueAt_alike {x y : Location} (h : x.Like y) : Alike (valueAt x) (valueAt y) := by
  unfold valueAt
  rw [h.key]
  cases y.key with
  | none => exact .null
  | some k => exact Alike.getD (h.container.child? k)

/-- The values that a pointer leads to are alike. -/
theorem value_alike (p : Pointer) (h : Alike v w) :
    Agree Fault.Like Alike (p.value v) (p.value w) :=
  .ite (.ok h) ((p.locate_alike h).map fun _ _ => valueAt_alike)

/-! ### Slots -/

theorem keysAlong_alike (parts : List String) (h : Alike v w) :
    keysAlong parts v = keysAlong parts w := by
  induction parts generalizing v w with
  | nil => rw [keysAlong, keysAlong]
  | cons s rest ih =>
      have hc := h
      cases h with
      | array =>
          rw [keysAlong, keysAlong]
          cases Value.indexOfText s with
          | ok i => exact congrArg _ (ih (hc.items_getD i))
          | error f => rfl
      | object =>
          rw [keysAlong, keysAlong]
          exact congrArg _ (ih (hc.find?_getD s))
      | _ => rfl

theorem parentPlace_alike (p : Pointer) (h : Alike v w) : p.parentPlace v = p.parentPlace w :=
  keysAlong_alike p.parts h

/-- A pointer would put a new value into the same slot of alike documents. -/
theorem insertionSlot_alike (p : Pointer) (h : Alike v w) :
    Agree Fault.Like Eq (p.insertionSlot v) (p.insertionSlot w) := by
  unfold insertionSlot
  rw [p.parentPlace_alike h]
  have hp := p.parent_alike h
  generalize p.parent v = r, p.parent w = s at hp
  cases hp with
  | error hf => exact .error hf
  | ok hc =>
      dsimp only
      rw [hc.isContainer, hc.insertionKey]
      exact .self .same _

/-- A pointer leads to the same slot of alike documents. -/
theorem existingSlot?_alike (p : Pointer) (h : Alike v w) :
    Agree Fault.Like Eq (p.existingSlot? v) (p.existingSlot? w) :=
  (p.locate_alike h).map fun x y hxy => by rw [hxy.key, p.parentPlace_alike h]

end Pointer

namespace Slot

variable {v w x y : Value}

theorem read?_alike (s : Slot) (h : Alike v w) : Option.Rel Alike (s.read? v) (s.read? w) :=
  h.at? s.place

theorem insert_alike (s : Slot) (hx : Alike x y) (h : Alike v w) :
    Alike (s.insert x v) (s.insert y w) :=
  h.modifyAt s.container fun _ _ hc => hc.insertAt s.key hx

theorem assign_alike (s : Slot) (hx : Alike x y) (h : Alike v w) :
    Alike (s.assign x v) (s.assign y w) :=
  h.modifyAt s.container fun _ _ hc => hc.assignAt s.key hx

theorem delete_alike (s : Slot) (h : Alike v w) : Alike (s.delete v) (s.delete w) :=
  h.modifyAt s.container fun _ _ hc => hc.deleteAt s.key

end Slot
end JsonPatch
