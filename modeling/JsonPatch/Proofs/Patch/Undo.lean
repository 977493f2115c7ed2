import JsonPatch.Proofs.Patch.FirstFailure
import JsonPatch.Proofs.Patch.Write

/-! # Additions and removals undo each other

The second operation follows the path again, in the changed document.  It comes to the container
that the first one has changed, and there the token stands for the same key (`Meets.undo`).  What is
left to be seen is what the two changes make of the container, one after the other. -/

namespace JsonPatch

open Value (appendMarker)

namespace Value

variable {c v : Value} {k : Key}

theorem deleteAt_insertAt (h : c.Takes k) (hfresh : ∀ name, k = .member name → c.child? k = none)
    (v : Value) : (c.insertAt k v).deleteAt k = c := by
  cases c with
  | array items =>
      cases k with
      | index i => exact congrArg array (List.eraseIdx_insertIdx_self ..)
      | member name => cases h
  | object members =>
      cases k with
      | index i => cases h
      | member name =>
          have hnot : name ∉ Members.names members := Members.find?_eq_none_iff.mp (hfresh name rfl)
          have herase := Members.erase_append_cons hnot v []
          rw [List.append_nil, ← Members.put_of_not_mem hnot] at herase
          exact congrArg object herase
  | _ => cases h

theorem insertAt_deleteAt_index {i : Nat} (h : c.child? (.index i) = some v) :
    (c.deleteAt (.index i)).insertAt (.index i) v = c := by
  cases c with
  | array items =>
      obtain ⟨hi, rfl⟩ := List.getElem?_eq_some_iff.mp h
      exact congrArg array (List.insertIdx_eraseIdx_getElem hi)
  | _ => cases h

end Value

namespace Change

variable {w w' : Change} {q : Pointer} {doc c v : Value} {token : String} {k : Key} {p : Patch}

/-- A change and then another one at the same key of the same container. -/
theorem Meets.pair (hp : p.IsStandard) {d d' : Descriptor} (hd : w.Asks d q) (hd' : w'.Asks d' q)
    (h : w.Meets q doc token c k) (hkey : w'.key (w.apply k c) token = .ok k) :
    p.AllSucceed [d, d'] doc ∧ p.documentAfter [d, d'] doc =
      Value.modifyAt (q.parentPlace doc) (fun c => w'.apply k (w.apply k c)) doc := by
  obtain ⟨hafter, hplace⟩ := h.after hkey
  obtain ⟨hs, hdoc⟩ := hd.succeeds hp h
  obtain ⟨hs', hdoc'⟩ := hd'.succeeds hp hafter
  rw [hplace, Value.modifyAt_modifyAt] at hdoc'
  rw [← hdoc] at hs' hdoc'
  exact ⟨Patch.allSucceed_pair.mpr ⟨hs, hs'⟩, hdoc'⟩

/-- The token of a member or element still names a place to insert at when this has been taken
out. -/
theorem insertionKey_deleteAt (h : c.existingKey (.string token) = .ok k) :
    (c.deleteAt k).insertionKey (.string token) = .ok k := by
  cases c with
  | object members =>
      obtain ⟨rfl, -⟩ := Value.existingKey_object.mp h
      rfl
  | array items =>
      obtain ⟨i, rfl, hi, hlt⟩ := Value.existingKey_array.mp h
      have hlength := List.length_eraseIdx_of_lt hlt
      exact Value.insertionKey_array.mpr
        (.inr ⟨Value.ne_appendMarker hi, i, rfl, hi, by omega⟩)
  | _ => cases h

theorem Meets.child? (h : remove.Meets q doc token c k) (hv : q.valueOrFail doc = .ok v) :
    c.child? k = some v := by
  obtain ⟨u, hu⟩ := Value.existingKey_eq_ok h.key
  have hread := Pointer.valueOrFail_of_existingKey h.last h.parent h.key hu
  obtain rfl : v = u := Except.ok.inj (hv.symm.trans hread)
  exact hu

/-- The token names nothing in the container: this is an array, and the token not the append marker,
or an object without a member of that name. -/
inductive Vacant (token : String) : Value → Prop where
  | array (items : List Value) (h : token ≠ appendMarker) : Vacant token (.array items)
  | object {members : Members} (h : Members.has token members = false) :
    Vacant token (.object members)

theorem Vacant.deleteAt_insertAt (h : Vacant token c) (hkey : (add v).key c token = .ok k) :
    (c.insertAt k v).deleteAt k = c := by
  refine Value.deleteAt_insertAt (Value.insertionKey_eq_ok hkey) ?_ v
  cases h with
  | array items hmarker =>
      rintro name rfl
      rfl
  | @object members hhas =>
      rintro name rfl
      obtain ⟨rfl⟩ := key_object hkey
      exact Option.isNone_iff_eq_none.mp (Option.isSome_eq_false_iff.mp hhas)

theorem Vacant.existingKey (h : Vacant token c) (hkey : (add v).key c token = .ok k) :
    (c.insertAt k v).existingKey (.string token) = .ok k := by
  refine (existingKey_apply (v := v) hkey rfl ?_).1
  rintro rfl items rfl
  cases h with
  | array _ hmarker => exact hmarker rfl

/-- A member is taken out of an object and put in again as the last one. -/
theorem insertAt_deleteAt_member {members : Members}
    (hn : (Members.names members).Nodup) (hv : Members.find? token members = some v) :
    ∃ before after, members = before ++ (token, v) :: after ∧
      ((Value.object members).deleteAt (.member token)).insertAt (.member token) v =
        .object (before ++ after ++ [(token, v)]) := by
  obtain ⟨before, after, rfl, hbefore⟩ := Members.split_of_find? hv
  refine ⟨before, after, rfl, ?_⟩
  have herase := Members.erase_append_cons hbefore v after
  have hnot : token ∉ Members.names (before ++ after) := by
    rw [← herase, Members.names_erase]
    exact hn.not_mem_erase
  change Value.object (Members.put token v (Members.erase token _)) = _
  rw [herase, Members.put_of_not_mem hnot]

end Change

namespace Patch

/-- An addition that has put in something new is undone by a removal at the same path.  A removal is
undone by adding the value again; in an object its member then is the last one. -/
theorem run_undo {p : Patch} (hp : p.IsStandard) {q : Pointer} {v : Value} {a r : Descriptor}
    (ha : (Change.add v).Asks a q) (hr : Change.remove.Asks r q) {doc : Value}
    (hn : doc.HasDistinctNames) :
    (p.Succeeds a doc →
      (∀ token c, q.last = some token → q.parent doc = .ok c → Change.Vacant token c) →
      p.AllSucceed [a, r] doc ∧ p.documentAfter [a, r] doc = doc) ∧
    (q.isRoot = false → q.valueOrFail doc = .ok v →
      p.AllSucceed [r, a] doc ∧
      (∀ items, q.parent doc = .ok (.array items) → p.documentAfter [r, a] doc = doc) ∧
      ∀ members, q.parent doc = .ok (.object members) →
        ∃ token before after, q.last = some token ∧ members = before ++ (token, v) :: after ∧
          p.documentAfter [r, a] doc = Value.modifyAt (q.parentPlace doc)
            (fun _ => .object (before ++ after ++ [(token, v)])) doc) := by
  constructor
  · intro hs hvacant
    obtain ⟨token, c, k, hm⟩ := ha.meets hp hs (by intro h; cases h)
    have hv := hvacant token c hm.last hm.parent
    obtain ⟨hall, hdoc⟩ := hm.pair hp ha hr (hv.existingKey hm.key)
    refine ⟨hall, hdoc.trans ?_⟩
    exact (Value.modifyAt_congr hm.at? (hv.deleteAt_insertAt hm.key)).trans
      (Value.modifyAt_id _ doc)
  · intro hroot hv
    obtain ⟨slot, hslot, -⟩ := Pointer.existingSlot?_of_valueOrFail hroot hv
    obtain ⟨token, c, hlast, hparent, hkey⟩ := Change.meets_of_existingSlot? hslot
    have hm : Change.remove.Meets q doc token c slot.key := ⟨hlast, hparent, hkey⟩
    have hchild := hm.child? hv
    obtain ⟨hall, hdoc⟩ := hm.pair hp hr ha (Change.insertionKey_deleteAt hkey)
    refine ⟨hall, ?_, ?_⟩
    · intro items hitems
      obtain rfl : Value.array items = c := Except.ok.inj (hitems.symm.trans hparent)
      obtain ⟨i, hi, -, -⟩ := Value.existingKey_array.mp hkey
      rw [hi] at hdoc hchild
      have hback := Value.insertAt_deleteAt_index hchild
      refine hdoc.trans ?_
      exact (Value.modifyAt_congr hm.at? (g := fun c => c) hback).trans (Value.modifyAt_id _ doc)
    · intro members hmembers
      obtain rfl : Value.object members = c := Except.ok.inj (hmembers.symm.trans hparent)
      rw [(Value.existingKey_object.mp hkey).1] at hdoc hchild
      have hnodup := (Value.hasDistinctNames_object.mp (hn.at? hm.at?)).1
      obtain ⟨before, after, hsplit, hput⟩ := Change.insertAt_deleteAt_member hnodup hchild
      exact ⟨token, before, after, hlast, hsplit, hdoc.trans (Value.modifyAt_congr hm.at? hput)⟩

/-- In an array inside an object, an element is added and removed again; the first member of the
object is removed and added again. -/
theorem run_undo_first :
    let x : Value := .number (.int 1)
    let items : Value := .array [x, .null]
    let doc : Value := .object [("a", items), ("b", .null)]
    (ofCore []).IsStandard ∧ doc.HasDistinctNames ∧
      (Change.add x).Asks (adding "/a/1" x) (Pointer.ofPath "/a/1") ∧
      Change.remove.Asks (removing "/a/1") (Pointer.ofPath "/a/1") ∧
      (ofCore []).Succeeds (adding "/a/1" x) doc ∧
      (ofCore []).documentAfter [adding "/a/1" x, removing "/a/1"] doc = doc ∧
      (Change.add items).Asks (adding "/a" items) (Pointer.ofPath "/a") ∧
      Change.remove.Asks (removing "/a") (Pointer.ofPath "/a") ∧
      (Pointer.ofPath "/a").valueOrFail doc = .ok items ∧
      (ofCore []).AllSucceed [removing "/a", adding "/a" items] doc ∧
      (ofCore []).documentAfter [removing "/a", adding "/a" items] doc =
        .object [("b", .null), ("a", items)] := by
  intro x items doc
  have hp : (ofCore []).IsStandard := ofCore_isStandard (by cbv)
  have hn : doc.HasDistinctNames := by decide
  have ha : (Change.add x).Asks (adding "/a/1" x) (Pointer.ofPath "/a/1") := .add rfl rfl rfl
  have hr : Change.remove.Asks (removing "/a/1") (Pointer.ofPath "/a/1") := .remove rfl rfl
  have ha' : (Change.add items).Asks (adding "/a" items) (Pointer.ofPath "/a") := .add rfl rfl rfl
  have hr' : Change.remove.Asks (removing "/a") (Pointer.ofPath "/a") := .remove rfl rfl
  have hvacant : ∀ token c, (Pointer.ofPath "/a/1").last = some token →
      (Pointer.ofPath "/a/1").parent doc = .ok c → Change.Vacant token c := by
    intro token c hlast hc
    cases hlast
    cases hc
    exact .array _ (by decide)
  exact ⟨hp, hn, ha, hr, rfl, ((run_undo hp ha hr hn).1 rfl hvacant).2, ha', hr', rfl,
    ((run_undo hp ha' hr' hn).2 rfl rfl).1, rfl⟩

end Patch
end JsonPatch
