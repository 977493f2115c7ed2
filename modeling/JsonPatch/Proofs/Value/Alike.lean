import JsonPatch.Operation.Slot
import JsonPatch.Proofs.Number.Order
import JsonPatch.Proofs.Outcome
import JsonPatch.Proofs.Value.Parts
import JsonPatch.Proofs.Value.Place

/-! # Values that are alike

Two JSON values are alike if they have the same shape and equal leaves, the members of objects in
any order and numbers by their values.  No name comes twice in an object of such a value, and no
number in it is `nan`; on values of this sort being alike is an equivalence (`refl`, `symm`,
`trans`).

What is read at a key or at a place of alike values is alike, or absent in both, and changing them
in the same way gives alike values again.  All of this rests on `alike_array` and `alike_object`:
containers are alike if they are alike at every key. -/

namespace JsonPatch.Value

/-- The values have the same shape and equal leaves, with members in any order. -/
inductive Alike : Value → Value → Prop where
  | null : Alike null null
  | bool (b : Bool) : Alike (bool b) (bool b)
  | number {m n : Number} (equal : m.eq n = true) : Alike (number m) (number n)
  | string (s : String) : Alike (string s) (string s)
  | array {l r : List Value} (length : l.length = r.length)
      (items : ∀ (i : Nat) a b, l[i]? = some a → r[i]? = some b → Alike a b) :
      Alike (array l) (array r)
  | object {l r : Members} (left : (Members.names l).Nodup) (right : (Members.names r).Nodup)
      (names : ∀ name, Members.has name l = Members.has name r)
      (values : ∀ name a b, Members.find? name l = some a → Members.find? name r = some b →
        Alike a b) : Alike (object l) (object r)

/-! ### Containers -/

theorem alike_array {l r : List Value} :
    Alike (array l) (array r) ↔ ∀ i : Nat, Option.Rel Alike l[i]? r[i]? := by
  constructor
  · rintro (_ | _ | _ | _ | ⟨length, items⟩ | _) i
    refine rel_iff.mpr ⟨?_, items i⟩
    rw [Bool.eq_iff_iff, isSome_getElem?, isSome_getElem?, length]
  · intro h
    exact .array (length_eq_of_rel h) fun i => (rel_iff.mp (h i)).2

theorem alike_object {l r : Members} : Alike (object l) (object r) ↔
    (Members.names l).Nodup ∧ (Members.names r).Nodup ∧
      ∀ name, Option.Rel Alike (Members.find? name l) (Members.find? name r) := by
  constructor
  · rintro (_ | _ | _ | _ | _ | ⟨left, right, names, values⟩)
    exact ⟨left, right, fun name => rel_iff.mpr ⟨names name, values name⟩⟩
  · rintro ⟨left, right, h⟩
    exact .object left right (fun name => (rel_iff.mp (h name)).1) fun name =>
      (rel_iff.mp (h name)).2

/-- An element has another one at its index in a list of the same length. -/
theorem exists_element {l r : List Value} (h : l.length = r.length) {a : Value} (ha : a ∈ l) :
    ∃ (i : Nat) (b : Value), l[i]? = some a ∧ r[i]? = some b := by
  obtain ⟨i, hi, ha⟩ := List.getElem_of_mem ha
  have hi' : i < r.length := h ▸ hi
  exact ⟨i, _, List.getElem?_eq_some_iff.mpr ⟨hi, ha⟩, List.getElem?_eq_getElem hi'⟩

/-- A member has another one of its name in an object of the same names. -/
theorem exists_member {l r : Members} (left : (Members.names l).Nodup)
    (names : ∀ name, Members.has name l = Members.has name r) {m : String × Value} (hm : m ∈ l) :
    Members.find? m.1 l = some m.2 ∧ ∃ b, Members.find? m.1 r = some b := by
  have ha := Members.find?_of_mem left hm
  have hr : Members.has m.1 r = true := by rw [← names, Members.has, ha, Option.isSome_some]
  exact ⟨ha, Option.isSome_iff_exists.mp hr⟩

namespace Alike

variable {v w x y : Value}

/-! ### An equivalence -/

/-- Every JSON value is like itself, except for repeated names and `nan`. -/
theorem refl (hj : v.IsJson) (hd : v.HasDistinctNames) (hn : v.IsNanFree) : Alike v v := by
  induction v using partsInduction with
  | null => exact .null
  | bool b => exact .bool b
  | number n => exact .number (Number.eq_refl (isNanFree_number.mp hn))
  | string s => exact .string s
  | array items ih =>
      rw [isJson_array] at hj
      rw [hasDistinctNames_array] at hd
      rw [isNanFree_array] at hn
      refine .array rfl fun i a b ha hb => ?_
      obtain rfl : a = b := Option.some.inj (ha.symm.trans hb)
      have hm := List.mem_of_getElem? ha
      exact ih a hm (hj a hm) (hd a hm) (hn a hm)
  | object members ih =>
      rw [isJson_object] at hj
      rw [hasDistinctNames_object] at hd
      rw [isNanFree_object] at hn
      refine .object hd.1 hd.1 (fun _ => rfl) fun name a b ha hb => ?_
      obtain rfl : a = b := Option.some.inj (ha.symm.trans hb)
      have hm := Members.mem_of_find? ha
      exact ih _ hm (hj _ hm) (hd.2 _ hm) (hn _ hm)
  | tuple items _ => cases hj
  | bytes content => cases hj
  | foreign type => cases hj

theorem symm (h : Alike v w) : Alike w v := by
  induction h with
  | null => exact .null
  | bool b => exact .bool b
  | number equal => exact .number (Number.eq_symm equal)
  | string s => exact .string s
  | array length _ ih => exact .array length.symm fun i a b ha hb => ih i b a hb ha
  | object left right names _ ih =>
      exact .object right left (fun name => (names name).symm) fun name a b ha hb =>
        ih name b a hb ha

theorem trans (h : Alike v w) (h' : Alike w x) : Alike v x := by
  induction h generalizing x with
  | null => exact h'
  | bool b => exact h'
  | number equal =>
      cases h' with
      | number equal' => exact .number (Number.eq_trans equal equal')
  | string s => exact h'
  | @array l m length _ ih =>
      cases h' with
      | array length' items' =>
          refine .array (length.trans length') fun i a c ha hc => ?_
          have hi : i < m.length := length' ▸ (List.getElem?_eq_some_iff.mp hc).1
          have hb := List.getElem?_eq_getElem hi
          exact ih i a _ ha hb (items' i _ c hb hc)
  | @object l m left _ names _ ih =>
      cases h' with
      | object _ right names' values' =>
          refine .object left right (fun name => (names name).trans (names' name)) ?_
          intro name a c ha hc
          have hm : Members.has name m = true := by rw [names', Members.has, hc, Option.isSome_some]
          obtain ⟨b, hb⟩ := Option.isSome_iff_exists.mp hm
          exact ih name a b ha hb (values' name b c hb hc)

/-- A value that is like another one is a JSON value without repeated names. -/
theorem regular (h : Alike v w) : v.IsJson ∧ v.HasDistinctNames := by
  induction h with
  | null => exact ⟨rfl, rfl⟩
  | bool b => exact ⟨rfl, rfl⟩
  | number equal => exact ⟨rfl, rfl⟩
  | string s => exact ⟨rfl, rfl⟩
  | @array l r length _ ih =>
      have hparts : ∀ a ∈ l, a.IsJson ∧ a.HasDistinctNames := by
        intro a ha
        obtain ⟨i, b, ha, hb⟩ := exists_element length ha
        exact ih i a b ha hb
      exact ⟨isJson_array.mpr fun a ha => (hparts a ha).1,
        hasDistinctNames_array.mpr fun a ha => (hparts a ha).2⟩
  | @object l r left _ names _ ih =>
      have hparts : ∀ m ∈ l, m.2.IsJson ∧ m.2.HasDistinctNames := by
        intro m hm
        obtain ⟨ha, b, hb⟩ := exists_member left names hm
        exact ih m.1 _ b ha hb
      exact ⟨isJson_object.mpr fun m hm => (hparts m hm).1,
        hasDistinctNames_object.mpr ⟨left, fun m hm => (hparts m hm).2⟩⟩

/-! ### Reading -/

theorem isContainer (h : Alike v w) : v.isContainer = w.isContainer := by
  cases h <;> rfl

/-- Alike values have the same kind. -/
theorem kind?_eq_some (h : Alike v w) : ∃ k, v.kind? = some k ∧ w.kind? = some k := by
  cases h <;> exact ⟨_, rfl, rfl⟩

/-- What is there is alike, and what is missing counts as null. -/
theorem getD {a b : Option Value} (h : Option.Rel Alike a b) :
    Alike (a.getD .null) (b.getD .null) := by
  cases h with
  | none => exact .null
  | some h => exact h

theorem child? (h : Alike v w) (k : Key) : Option.Rel Alike (v.child? k) (w.child? k) := by
  have hc := h
  cases h with
  | array =>
      cases k with
      | index i => exact alike_array.mp hc i
      | member name => exact .none
  | object =>
      cases k with
      | index i => exact .none
      | member name => exact (alike_object.mp hc).2.2 name
  | _ => exact .none

theorem at? (h : Alike v w) (place : List Key) : Option.Rel Alike (v.at? place) (w.at? place) := by
  induction place generalizing v w with
  | nil => exact .some h
  | cons k place ih =>
      have hk := h.child? k
      rw [at?_cons, at?_cons]
      generalize v.child? k = a, w.child? k = b at hk
      cases hk with
      | none => exact .none
      | some hk => exact ih hk

/-! ### Changes -/

theorem put {l r : Members} (h : Alike (.object l) (.object r)) (name : String) (hx : Alike x y) :
    Alike (.object (Members.put name x l)) (.object (Members.put name y r)) := by
  obtain ⟨left, right, values⟩ := alike_object.mp h
  refine alike_object.mpr ⟨Members.nodup_put left name x, Members.nodup_put right name y, ?_⟩
  intro name'
  rw [Members.find?_put, Members.find?_put]
  split_ifs
  · exact .some hx
  · exact values name'

theorem erase {l r : Members} (h : Alike (.object l) (.object r)) (name : String) :
    Alike (.object (Members.erase name l)) (.object (Members.erase name r)) := by
  obtain ⟨left, right, values⟩ := alike_object.mp h
  refine alike_object.mpr ⟨Members.nodup_erase left name, Members.nodup_erase right name, ?_⟩
  intro name'
  rw [Members.find?_erase left, Members.find?_erase right]
  split_ifs
  · exact .none
  · exact values name'

theorem length_eq {l r : List Value} (h : Alike (.array l) (.array r)) : l.length = r.length :=
  length_eq_of_rel (alike_array.mp h)

theorem insertAt (h : Alike v w) (k : Key) (hx : Alike x y) :
    Alike (v.insertAt k x) (w.insertAt k y) := by
  have hc := h
  cases h with
  | array length =>
      cases k with
      | member name => exact hc
      | index i =>
          refine alike_array.mpr fun j => ?_
          rw [List.getElem?_insertIdx, List.getElem?_insertIdx, length]
          split_ifs
          · exact alike_array.mp hc j
          · exact .some hx
          · exact .none
          · exact alike_array.mp hc (j - 1)
  | object =>
      cases k with
      | index i => exact hc
      | member name => exact hc.put name hx
  | _ => exact hc

theorem assignAt (h : Alike v w) (k : Key) (hx : Alike x y) :
    Alike (v.assignAt k x) (w.assignAt k y) := by
  have hc := h
  cases h with
  | array length =>
      cases k with
      | member name => exact hc
      | index i =>
          refine alike_array.mpr fun j => ?_
          rw [List.getElem?_set, List.getElem?_set, length]
          split_ifs
          · exact .some hx
          · exact .none
          · exact alike_array.mp hc j
  | object =>
      cases k with
      | index i => exact hc
      | member name => exact hc.put name hx
  | _ => exact hc

theorem deleteAt (h : Alike v w) (k : Key) : Alike (v.deleteAt k) (w.deleteAt k) := by
  have hc := h
  cases h with
  | array =>
      cases k with
      | member name => exact hc
      | index i =>
          refine alike_array.mpr fun j => ?_
          rw [List.getElem?_eraseIdx, List.getElem?_eraseIdx]
          split_ifs
          · exact alike_array.mp hc j
          · exact alike_array.mp hc (j + 1)
  | object =>
      cases k with
      | index i => exact hc
      | member name => exact hc.erase name
  | _ => exact hc

variable {f g : Value → Value}

theorem modifyChild (h : Alike v w) (k : Key) (hf : ∀ c d, Alike c d → Alike (f c) (g d)) :
    Alike (v.modifyChild k f) (w.modifyChild k g) := by
  have hc := h
  cases h with
  | array =>
      cases k with
      | member name => exact hc
      | index i =>
          refine alike_array.mpr fun j => ?_
          have hj := alike_array.mp hc j
          rw [List.getElem?_modify, List.getElem?_modify]
          by_cases hij : i = j
          · simpa [hij] using rel_map hj hf
          · simpa [hij] using hj
  | object =>
      cases k with
      | index i => exact hc
      | member name =>
          obtain ⟨left, right, values⟩ := alike_object.mp hc
          refine alike_object.mpr ⟨?_, ?_, fun name' => ?_⟩
          · rw [Members.names_modify]
            exact left
          · rw [Members.names_modify]
            exact right
          · rw [Members.find?_modify, Members.find?_modify]
            split_ifs
            · exact rel_map (values name') hf
            · exact values name'
  | _ => exact hc

/-- Alike values stay alike if what is at one place of them is changed in the same way. -/
theorem modifyAt (h : Alike v w) (place : List Key) (hf : ∀ c d, Alike c d → Alike (f c) (g d)) :
    Alike (v.modifyAt place f) (w.modifyAt place g) := by
  induction place generalizing v w with
  | nil => exact hf v w h
  | cons k place ih => exact h.modifyChild k fun c d hcd => ih hcd

end Alike
end JsonPatch.Value
