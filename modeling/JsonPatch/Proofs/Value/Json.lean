import JsonPatch.Value.Path
import JsonPatch.Proofs.Value.Members

/-! # JSON values

An array or an object is a JSON value if all its parts are, and stays one when a member is set or a
part is changed into a JSON value. -/

namespace JsonPatch.Value

theorem isJsonItems_iff {items : List Value} :
    isJsonItems items = true ↔ ∀ v ∈ items, v.isJson = true := by
  induction items with
  | nil => exact iff_of_true rfl (List.forall_mem_nil _)
  | cons v rest ih =>
      rw [List.forall_mem_cons, ← ih]
      exact Bool.and_eq_true_iff

theorem isJsonMembers_iff {members : Members} :
    isJsonMembers members = true ↔ ∀ m ∈ members, m.2.isJson = true := by
  induction members with
  | nil => exact iff_of_true rfl (List.forall_mem_nil _)
  | cons m rest ih =>
      rw [List.forall_mem_cons, ← ih]
      exact Bool.and_eq_true_iff

theorem isJson_find? {members : Members} (h : isJsonMembers members = true) {name : String}
    {v : Value} (hv : Members.find? name members = some v) : v.isJson = true :=
  isJsonMembers_iff.mp h _ (Members.mem_of_find? hv)

variable {v w : Value} {k : Key}

theorem isJson_child? (h : v.IsJson) (hw : v.child? k = some w) : w.IsJson := by
  cases v with
  | array items =>
      cases k with
      | index i => exact isJsonItems_iff.mp h w (List.mem_of_getElem? hw)
      | member name => cases hw
  | object members =>
      cases k with
      | index i => cases hw
      | member name => exact isJson_find? h hw
  | _ => cases hw

theorem isJson_modifyChild {f : Value → Value} (h : v.IsJson)
    (hf : ∀ w, w.IsJson → (f w).IsJson) : (v.modifyChild k f).IsJson := by
  cases v with
  | array items =>
      cases k with
      | index i =>
          refine isJsonItems_iff.mpr fun u hu => ?_
          obtain ⟨j, hj⟩ := List.mem_iff_getElem?.mp hu
          rw [List.getElem?_modify] at hj
          obtain ⟨w, hw, rfl⟩ := Option.map_eq_some_iff.mp hj
          have hw := isJsonItems_iff.mp h w (List.mem_of_getElem? hw)
          split_ifs
          · exact hf w hw
          · exact hw
      | member name => exact h
  | object members =>
      cases k with
      | index i => exact h
      | member name =>
          refine isJsonMembers_iff.mpr fun m hm => ?_
          rcases Members.mem_modify hm with ⟨w, hw, heq⟩ | hm
          · rw [heq]
            exact hf w (isJson_find? h hw)
          · exact isJsonMembers_iff.mp h m hm
  | _ => exact h

theorem isJson_modifyAt {place : List Key} {f : Value → Value} (h : v.IsJson)
    (hf : ∀ w, w.IsJson → (f w).IsJson) : (v.modifyAt place f).IsJson := by
  induction place generalizing v with
  | nil => exact hf v h
  | cons k place ih => exact isJson_modifyChild h fun w hw => ih hw

end JsonPatch.Value
