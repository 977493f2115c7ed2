import JsonPatch.Proofs.Value.Parts
import JsonPatch.Proofs.Value.Place
import Mathlib.Data.List.InsertIdx

/-! # Distinct names in changed values

That no object has two members of one name is kept by every change of one container, and by a
change at a place that keeps it of what is there (`HasDistinctNames.modifyAt`). -/

namespace JsonPatch.Value.HasDistinctNames

variable {v w new : Value} {k : Key}

/-! ### Parts -/

theorem child? (h : v.HasDistinctNames) (hw : v.child? k = some w) : w.HasDistinctNames := by
  cases v with
  | array items =>
      cases k with
      | index i => exact hasDistinctNames_array.mp h w (List.mem_of_getElem? hw)
      | member name => cases hw
  | object members =>
      cases k with
      | index i => cases hw
      | member name => exact (hasDistinctNames_object.mp h).2 _ (Members.mem_of_find? hw)
  | _ => cases hw

theorem at? {place : List Key} (h : v.HasDistinctNames) (hw : v.at? place = some w) :
    w.HasDistinctNames := by
  induction place generalizing v with
  | nil =>
      cases hw
      exact h
  | cons k place ih =>
      rw [at?_cons] at hw
      obtain ⟨u, hu, hw⟩ := Option.bind_eq_some_iff.mp hw
      exact ih (h.child? hu) hw

/-! ### Changes -/

theorem put {name : String} {members : Members} (h : (object members).HasDistinctNames)
    (hnew : new.HasDistinctNames) : (object (Members.put name new members)).HasDistinctNames := by
  obtain ⟨hnodup, hparts⟩ := hasDistinctNames_object.mp h
  refine hasDistinctNames_object.mpr ⟨Members.nodup_put hnodup name new, fun m hm => ?_⟩
  rcases Members.mem_put hm with heq | hm
  · rw [heq]
    exact hnew
  · exact hparts m hm

theorem insertAt (h : v.HasDistinctNames) (hnew : new.HasDistinctNames) :
    (v.insertAt k new).HasDistinctNames := by
  cases v with
  | array items =>
      cases k with
      | index i =>
          refine hasDistinctNames_array.mpr fun u hu => ?_
          rcases List.eq_or_mem_of_mem_insertIdx hu with rfl | hu
          · exact hnew
          · exact hasDistinctNames_array.mp h u hu
      | member name => exact h
  | object members =>
      cases k with
      | index i => exact h
      | member name => exact h.put hnew
  | _ => exact h

theorem assignAt (h : v.HasDistinctNames) (hnew : new.HasDistinctNames) :
    (v.assignAt k new).HasDistinctNames := by
  cases v with
  | array items =>
      cases k with
      | index i =>
          refine hasDistinctNames_array.mpr fun u hu => ?_
          rcases List.mem_or_eq_of_mem_set hu with hu | rfl
          · exact hasDistinctNames_array.mp h u hu
          · exact hnew
      | member name => exact h
  | object members =>
      cases k with
      | index i => exact h
      | member name => exact h.put hnew
  | _ => exact h

theorem deleteAt (h : v.HasDistinctNames) : (v.deleteAt k).HasDistinctNames := by
  cases v with
  | array items =>
      cases k with
      | index i =>
          exact hasDistinctNames_array.mpr fun u hu =>
            hasDistinctNames_array.mp h u (List.mem_of_mem_eraseIdx hu)
      | member name => exact h
  | object members =>
      cases k with
      | index i => exact h
      | member name =>
          obtain ⟨hnodup, hparts⟩ := hasDistinctNames_object.mp h
          exact hasDistinctNames_object.mpr ⟨Members.nodup_erase hnodup name,
            fun m hm => hparts m (Members.mem_of_mem_erase hm)⟩
  | _ => exact h

theorem modifyChild (h : v.HasDistinctNames) {f : Value → Value}
    (hf : ∀ w, v.child? k = some w → (f w).HasDistinctNames) :
    (modifyChild k f v).HasDistinctNames := by
  cases v with
  | array items =>
      cases k with
      | index i =>
          refine hasDistinctNames_array.mpr fun u hu => ?_
          obtain ⟨j, hj⟩ := List.mem_iff_getElem?.mp hu
          rw [List.getElem?_modify] at hj
          obtain ⟨w, hw, rfl⟩ := Option.map_eq_some_iff.mp hj
          split_ifs with hij
          · exact hf w (hij ▸ hw)
          · exact hasDistinctNames_array.mp h _ (List.mem_of_getElem? hw)
      | member name => exact h
  | object members =>
      cases k with
      | index i => exact h
      | member name =>
          obtain ⟨hnodup, hparts⟩ := hasDistinctNames_object.mp h
          refine hasDistinctNames_object.mpr ⟨?_, fun m hm => ?_⟩
          · rw [Members.names_modify]
            exact hnodup
          · rcases Members.mem_modify hm with ⟨w, hw, heq⟩ | hm
            · rw [heq]
              exact hf w hw
            · exact hparts m hm
  | _ => exact h

theorem modifyAt {place : List Key} (h : v.HasDistinctNames) {f : Value → Value}
    (hf : ∀ w, w.HasDistinctNames → (f w).HasDistinctNames) :
    (modifyAt place f v).HasDistinctNames := by
  induction place generalizing v with
  | nil => exact hf v h
  | cons k place ih => exact h.modifyChild fun w hw => ih (h.child? hw)

end JsonPatch.Value.HasDistinctNames
