import JsonPatch.Proofs.Patch.Relocate
import JsonPatch.Proofs.Patch.Undo

/-! # Moving there and back

Two moves, there and back, are four changes, and these cancel from the inside.  The second move
takes out what the first one has put in, so it comes to the same rest of the document
(`Relocates.back`); and there the value is put where it has been taken out, which fills the gap
again (`Meets.refilled`).  So no index has to be followed through the shifts in between. -/

namespace JsonPatch

namespace Change

variable {q source target : Pointer} {doc c v rest doc' : Value} {token : String} {k : Key}

/-- A document is as it was before, but if a pointer leads to a member of an object, this is the
last one now. -/
inductive Restored (q : Pointer) (doc : Value) : Value → Prop where
  | element {items : List Value} (parent : q.parent doc = .ok (.array items)) : Restored q doc doc
  | member {token : String} {v : Value} {before after : Members} (last : q.last = some token)
    (parent : q.parent doc = .ok (.object (before ++ (token, v) :: after))) :
    Restored q doc (Value.modifyAt (q.parentPlace doc)
      (fun _ => .object (before ++ after ++ [(token, v)])) doc)

/-- A value is put back into the container that it has been taken out of. -/
theorem Meets.refilled (h : remove.Meets q doc token c k) (hv : c.child? k = some v)
    (hn : doc.HasDistinctNames) :
    Restored q doc (Value.modifyAt (q.parentPlace doc)
      (fun c => (add v).apply k (remove.apply k c)) doc) := by
  have hkey := h.key
  cases c with
  | array items =>
      obtain ⟨i, rfl, -, -⟩ := Value.existingKey_array.mp hkey
      have hback : (add v).apply (.index i) (remove.apply (.index i) (.array items)) =
          .array items := Value.insertAt_deleteAt_index hv
      rw [Value.modifyAt_congr h.at? (g := fun c => c) hback, Value.modifyAt_id]
      exact .element h.parent
  | object members =>
      obtain ⟨rfl, -⟩ := Value.existingKey_object.mp hkey
      have hnodup := (Value.hasDistinctNames_object.mp (hn.at? h.at?)).1
      obtain ⟨before, after, rfl, hput⟩ := insertAt_deleteAt_member hnodup hv
      rw [Value.modifyAt_congr h.at? (g := fun _ => .object (before ++ after ++ [(token, v)])) hput]
      exact .member h.last h.parent
  | _ => cases hkey

/-- After a value has been put in where nothing was, taking out what is there gives that value and
the document without it. -/
theorem Relocates.back (h : Relocates source target doc v rest doc')
    (hvacant : ∀ token c, target.last = some token → target.parent rest = .ok c → Vacant token c)
    {v' rest' doc'' : Value} (h' : Relocates target source doc' v' rest' doc'') :
    v' = v ∧ rest' = rest := by
  obtain ⟨token, c, k, hm, rfl⟩ := h.added
  have hnew := hvacant token c hm.last hm.parent
  have hfound : remove.key ((add v).apply k c) token = .ok k := hnew.existingKey hm.key
  obtain ⟨hback, hplace⟩ := hm.after hfound
  obtain ⟨token', c', k', hm', hv', rfl⟩ := h'.removed
  obtain ⟨rfl, rfl, rfl⟩ := hback.unique hm'
  have hchild : ((add v).apply k c).child? k = some v := by
    refine (existingKey_apply hm.key rfl ?_).2
    rintro rfl items rfl
    cases hnew with
    | array _ hmarker => exact hmarker rfl
  refine ⟨Option.some.inj (hv'.symm.trans hchild), ?_⟩
  rw [hplace, Value.modifyAt_modifyAt]
  exact (Value.modifyAt_congr hm.at? (hnew.deleteAt_insertAt hm.key)).trans
    (Value.modifyAt_id _ rest)

/-- Moving a value there and back restores the document. -/
theorem Relocates.restored (h : Relocates source target doc v rest doc')
    (hvacant : ∀ token c, target.last = some token → target.parent rest = .ok c → Vacant token c)
    {v' rest' doc'' : Value} (h' : Relocates target source doc' v' rest' doc'')
    (hn : doc.HasDistinctNames) : Restored source doc doc'' := by
  obtain ⟨rfl, rfl⟩ := h.back hvacant h'
  obtain ⟨token, c, k, hm, hv, rfl⟩ := h.removed
  have hfound : (add v').key (remove.apply k c) token = .ok k :=
    insertionKey_deleteAt hm.key
  obtain ⟨hagain, hplace⟩ := hm.after hfound
  obtain ⟨token', c', k', hm', rfl⟩ := h'.added
  obtain ⟨rfl, rfl, rfl⟩ := hagain.unique hm'
  rw [hplace, Value.modifyAt_modifyAt]
  exact hm.refilled hv hn

end Change

namespace Patch

open Operation (AsksMove)

/-- A value is moved to a place where nothing was, and then moved back.  If both moves succeed, the
document is as it was before, but a member of an object comes back as the last one.  Whether the
target is vacant is asked in the document without the value. -/
theorem run_move_back {p : Patch} (hp : p.IsStandard) {source target : Pointer}
    {there back : Descriptor} (hthere : AsksMove there source target)
    (hback : AsksMove back target source) {doc : Value} (hn : doc.HasDistinctNames)
    (hs : p.AllSucceed [there, back] doc)
    (hvacant : ∀ token c, target.last = some token →
      target.parent (p.documentAfter [removing source.path] doc) = .ok c →
      Change.Vacant token c) :
    Change.Restored source doc (p.documentAfter [there, back] doc) := by
  obtain ⟨hs, hs'⟩ := allSucceed_pair.mp hs
  obtain ⟨v, rest, h⟩ := hp.relocates hthere hs
  obtain ⟨v', rest', h'⟩ := hp.relocates hback hs'
  refine h.restored ?_ h' hn
  rw [← h.rest_eq hp hthere.source]
  exact hvacant

/-- An element is moved into an array that lies in an element behind it, which moves up and then
down again. -/
theorem run_move_back_shifted :
    let doc : Value :=
      .array [.null, .object [("a", .array [])], .object [("a", .array [.bool true])]]
    (ofCore []).IsStandard ∧ doc.HasDistinctNames ∧
      AsksMove (moving "/0" "/1/a/0") (Pointer.ofPath "/0") (Pointer.ofPath "/1/a/0") ∧
      AsksMove (moving "/1/a/0" "/0") (Pointer.ofPath "/1/a/0") (Pointer.ofPath "/0") ∧
      (ofCore []).AllSucceed [moving "/0" "/1/a/0", moving "/1/a/0" "/0"] doc ∧
      (ofCore []).documentAfter [moving "/0" "/1/a/0"] doc =
        .array [.object [("a", .array [])], .object [("a", .array [.null, .bool true])]] ∧
      Change.Restored (Pointer.ofPath "/0") doc
        ((ofCore []).documentAfter [moving "/0" "/1/a/0", moving "/1/a/0" "/0"] doc) := by
  intro doc
  have hp : (ofCore []).IsStandard := ofCore_isStandard (by cbv)
  have hn : doc.HasDistinctNames := by decide
  have hthere : AsksMove (moving "/0" "/1/a/0") (Pointer.ofPath "/0") (Pointer.ofPath "/1/a/0") :=
    ⟨rfl, rfl, rfl⟩
  have hback : AsksMove (moving "/1/a/0" "/0") (Pointer.ofPath "/1/a/0") (Pointer.ofPath "/0") :=
    ⟨rfl, rfl, rfl⟩
  have hs : (ofCore []).AllSucceed [moving "/0" "/1/a/0", moving "/1/a/0" "/0"] doc :=
    allSucceed_pair.mpr ⟨rfl, rfl⟩
  have hvacant : ∀ token c, (Pointer.ofPath "/1/a/0").last = some token →
      (Pointer.ofPath "/1/a/0").parent ((ofCore []).documentAfter [removing "/0"] doc) = .ok c →
      Change.Vacant token c := by
    intro token c hlast hc
    cases hlast
    cases hc
    exact .array _ (by decide)
  exact ⟨hp, hn, hthere, hback, hs, rfl, run_move_back hp hthere hback hn hs hvacant⟩

end Patch
end JsonPatch
