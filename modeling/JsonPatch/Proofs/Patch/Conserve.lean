import JsonPatch.Proofs.Patch.Relocate
import JsonPatch.Proofs.Value.Leaves

/-! # What a move keeps

A move loses no scalar and doubles none: the leaves of the value that is taken out are those that
are put in, wherever that is.  Only the leaves of a member that is overwritten go
(`Relocates.leaves`). Inside one array the other elements stay in their order
(`Relocates.element`). -/

namespace JsonPatch

open Value (modifyAt leaves)

/-- The member of an object that a pointer leads to, if there is one. -/
def Pointer.member? (q : Pointer) (doc : Value) : Option Value :=
  match q.parent doc, q.last with
  | .ok (.object members), some token => Members.find? token members
  | _, _ => none

namespace Change

variable {q source target : Pointer} {doc c v rest doc' : Value} {token : String} {k : Key}

theorem Meets.leaves_remove (h : remove.Meets q doc token c k) (hv : c.child? k = some v) :
    doc.leaves = v.leaves + (modifyAt (q.parentPlace doc) (remove.apply k) doc).leaves := by
  have hdoc := Value.leaves_modifyAt h.at? (remove.apply k)
  have hc : c.leaves = v.leaves + (remove.apply k c).leaves := Value.leaves_deleteAt hv
  refine add_right_cancel (b := (remove.apply k c).leaves) ?_
  rw [← hdoc, hc]
  abel

theorem Meets.leaves_add (h : (add v).Meets q doc token c k) :
    v.leaves + doc.leaves = (q.member? doc).elim 0 leaves +
      (modifyAt (q.parentPlace doc) ((add v).apply k) doc).leaves := by
  have hdoc := Value.leaves_modifyAt h.at? ((add v).apply k)
  have hc : v.leaves + c.leaves = (q.member? doc).elim 0 leaves + ((add v).apply k c).leaves := by
    have hkey := h.key
    cases c with
    | array items =>
        have hnone : q.member? doc = none := by rw [Pointer.member?, h.parent]
        obtain ⟨i, rfl, hi⟩ := key_array hkey
        rw [hnone, Option.elim_none, zero_add]
        exact (Value.leaves_insertIdx (Nat.le_of_lt_succ hi.lt_room) v).symm
    | object members =>
        have hmember : q.member? doc = Members.find? token members := by
          rw [Pointer.member?, h.parent, h.last]
        obtain rfl := key_object hkey
        rw [hmember]
        exact Value.leaves_put token v members
    | _ => cases hkey
  refine add_right_cancel (b := c.leaves) ?_
  calc v.leaves + doc.leaves + c.leaves
      = doc.leaves + (v.leaves + c.leaves) := by abel
    _ = (q.member? doc).elim 0 leaves + (doc.leaves + ((add v).apply k c).leaves) := by
        rw [hc]
        abel
    _ = _ := by rw [← hdoc, add_assoc]

/-- The leaves of the moved value are taken away and added again. -/
theorem Relocates.leaves (h : Relocates source target doc v rest doc') :
    doc.leaves = (target.member? rest).elim 0 Value.leaves + doc'.leaves := by
  obtain ⟨token, c, k, hm, hv, rfl⟩ := h.removed
  obtain ⟨token', c', k', hm', rfl⟩ := h.added
  rw [hm.leaves_remove hv, hm'.leaves_add]

/-- Inside one array an element is taken out and put at another position. -/
theorem Relocates.element (h : Relocates source target doc v rest doc') {place : List Key}
    {items : List Value} {i j : Nat} {x : Value} (hitems : doc.at? place = some (.array items))
    (hx : items[i]? = some x) (hi : source.existingSlot? doc = .ok (some ⟨place, .index i⟩))
    (hj : target.existingSlot? doc = .ok (some ⟨place, .index j⟩)) :
    doc' = modifyAt place (fun _ => .array ((items.eraseIdx i).insertIdx j x)) doc := by
  obtain rfl : place = source.parentPlace doc := container_of_existingSlot? hi
  have hplace : source.parentPlace doc = target.parentPlace doc := container_of_existingSlot? hj
  -- the source is the element, and the value moved is what it holds
  obtain ⟨token, c, hlast, hparent, hkey⟩ := meets_of_existingSlot? hi
  have hm : remove.Meets source doc token c (.index i) := ⟨hlast, hparent, hkey⟩
  obtain rfl : c = .array items := Option.some.inj (hm.at?.symm.trans hitems)
  obtain ⟨_, _, _, hm₁, hv, rfl⟩ := h.removed
  obtain ⟨rfl, rfl, rfl⟩ := hm.unique hm₁
  obtain rfl : v = x := Option.some.inj (hv.symm.trans hx)
  -- the target comes to the same array without it, and has the same index there
  obtain ⟨token', c', hlast', hparent', hkey'⟩ := meets_of_existingSlot? hj
  have hm' : remove.Meets target doc token' c' (.index j) := ⟨hlast', hparent', hkey'⟩
  obtain rfl : c' = .array items := by
    have hat := hm'.at?
    rw [← hplace, hitems] at hat
    exact (Option.some.inj hat).symm
  obtain ⟨hafter, hplace'⟩ :=
    Pointer.parent_modifyAt hparent' hm'.isContainer (remove.apply (.index i))
  rw [← hplace] at hafter hplace'
  obtain ⟨token₂, c₂, k₂, hm₂, rfl⟩ := h.added
  obtain rfl : token' = token₂ := Option.some.inj (hlast'.symm.trans hm₂.last)
  obtain rfl := Except.ok.inj (hafter.symm.trans hm₂.parent)
  obtain rfl : k₂ = .index j := by
    obtain ⟨j', hj', hindex, -⟩ := Value.existingKey_array.mp hkey'
    obtain rfl : j = j' := Key.index.inj hj'
    obtain ⟨rfl, -⟩ | ⟨-, _, rfl, hindex', -⟩ := Value.insertionKey_array.mp hm₂.key
    · exact absurd rfl (Value.ne_appendMarker hindex)
    · exact congrArg Key.index (Except.ok.inj (hindex'.symm.trans hindex))
  rw [hplace', Value.modifyAt_modifyAt]
  exact Value.modifyAt_congr hitems rfl

end Change

namespace Patch

open Operation (AsksMove)

/-- A move that succeeds keeps the leaves of the document, but for those of a member that is there
at the target when the value has been taken out.  If both pointers name elements of one array, the
moved element stands at the index of the target then, among the other ones in their old order. -/
theorem run_move_leaves {p : Patch} (hp : p.IsStandard) {d : Descriptor} {source target : Pointer}
    (hd : AsksMove d source target) {doc : Value} (hs : p.Succeeds d doc) :
    doc.leaves =
        (target.member? (p.documentAfter [removing source.path] doc)).elim 0 Value.leaves +
          ((p.single d).run doc).document.leaves ∧
      ∀ place items i j x, doc.at? place = some (.array items) → items[i]? = some x →
        source.existingSlot? doc = .ok (some ⟨place, .index i⟩) →
        target.existingSlot? doc = .ok (some ⟨place, .index j⟩) →
        ((p.single d).run doc).document =
          modifyAt place (fun _ => .array ((items.eraseIdx i).insertIdx j x)) doc := by
  obtain ⟨v, rest, h⟩ := hp.relocates hd hs
  have hrest : p.documentAfter [removing source.path] doc = rest := h.rest_eq hp hd.source
  rw [hrest]
  exact ⟨h.leaves, fun place items i j x hitems hx hi hj => h.element hitems hx hi hj⟩

/-- An element is moved over a member, whose leaf goes. -/
theorem run_move_leaves_overwritten :
    let doc : Value := .object
      [("a", .array [.null, .object [("b", .bool true)]]), ("c", .object [("d", .string "x")])]
    let doc' : Value := .object [("a", .array [.null]), ("c", .object [("b", .bool true)])]
    (ofCore []).IsStandard ∧
      AsksMove (moving "/a/1" "/c") (Pointer.ofPath "/a/1") (Pointer.ofPath "/c") ∧
      (ofCore []).Succeeds (moving "/a/1" "/c") doc ∧
      (((ofCore []).single (moving "/a/1" "/c")).run doc).document = doc' ∧
      doc.leaves = {.string "x"} + doc'.leaves := by
  intro doc doc'
  have hp : (ofCore []).IsStandard := ofCore_isStandard (by cbv)
  have hd : AsksMove (moving "/a/1" "/c") (Pointer.ofPath "/a/1") (Pointer.ofPath "/c") :=
    ⟨rfl, rfl, rfl⟩
  have hs : (ofCore []).Succeeds (moving "/a/1" "/c") doc := rfl
  exact ⟨hp, hd, hs, rfl, (run_move_leaves hp hd hs).1⟩

end Patch
end JsonPatch
