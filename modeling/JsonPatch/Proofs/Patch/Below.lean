import JsonPatch.Proofs.Patch.Relocate
import JsonPatch.Proofs.Pointer.Below

/-! # Moves below the source

A move is refused if its path goes on below the source as a text.  A path can also lie below the
source by its segments only, since a tilde that begins no escape is read as one that is written as
`~0`.  Then the target is looked up once with the value in its place and once without it.  A member
is missing the second time; an element has the next one in its place, and if this can take the value
the move succeeds (`EntersNext`, `run_move_below`). -/

namespace JsonPatch.Patch

open Operation (AsksMove Transfers)
open Pointer (GoesOn)
open Segment (Escaped)

/-- The path below the source is not spelled as one, the source is an element of an array, and the
further segments lead to a container both from this element and from the next one, which takes a
value there. -/
structure EntersNext (source target : Pointer) (rest : List String) (doc : Value) : Prop where
  wellFormed : target.wellFormed = true
  spelling : ∀ more, target.path ≠ source.path ++ "/" ++ more
  next : ∃ place items i v w, source.existingSlot? doc = .ok (some ⟨place, .index i⟩) ∧
    source.parent doc = .ok (.array items) ∧ items[i]? = some v ∧ items[i + 1]? = some w ∧
    (∃ c, (Pointer.ofSegments rest).parent v = .ok c ∧ c.isContainer = true) ∧
    ∃ slot, (Pointer.ofSegments rest).insertionSlot w = .ok slot

section Below

variable {p : Patch} (hp : p.IsStandard) {d : Descriptor} {source target : Pointer}
  {rest : List String} (hd : AsksMove d source target) (hbelow : target.GoesOn source rest)
  {doc : Value}
include hp hd hbelow

theorem IsStandard.entersNext (hs : p.Succeeds d doc) (hn : doc.HasDistinctNames) :
    EntersNext source target rest doc := by
  obtain ⟨slot, place, ht, hplace⟩ := (hp.succeeds_move_iff hd).mp hs
  obtain ⟨source', hsource', hslot, hspelling⟩ := ht.hasSource
  obtain rfl : source = source' := Except.ok.inj (hd.source.symm.trans hsource')
  obtain ⟨path, -, htarget⟩ := Operation.pointerOf_eq_ok.mp hd.target
  obtain ⟨c', hc', hcontainer'⟩ := ht.hasParent
  have hwell := Pointer.wellFormed_of_parent hc'
  refine ⟨hwell, Operation.goesBelow_eq_false.mp (hspelling rfl), ?_⟩
  obtain ⟨token, c, hlast, hc, hkey⟩ := Change.meets_of_existingSlot? hslot
  have hm : Change.remove.Meets source doc token c slot.key := ⟨hlast, hc, hkey⟩
  -- the first look, with the value in its place
  obtain ⟨k, v, hv, hinto⟩ := (hbelow.parent_iff htarget hwell hlast hc c').mp hc'
  -- the second look, without the value
  obtain ⟨hrest, -⟩ := Pointer.parent_modifyAt hc hm.isContainer fun c => c.deleteAt slot.key
  rw [← Change.container_of_existingSlot? hslot] at hrest
  obtain ⟨k', w, hw, hfree⟩ :=
    (hbelow.insertionSlot_iff htarget hwell hlast hrest).mp ⟨place, hplace⟩
  cases c with
  | array items =>
      obtain ⟨i, hi, hindex, hlt⟩ := Value.existingKey_array.mp hkey
      obtain ⟨-, hv⟩ := (Pointer.enter?_index hindex items k v).mp hv
      rw [hi] at hw
      obtain ⟨-, hw⟩ := (Pointer.enter?_deleteAt_index hindex items k' w).mp hw
      obtain ⟨container, key⟩ := slot
      obtain rfl : key = .index i := hi
      exact ⟨container, items, i, v, w, hslot, hc, hv, hw, ⟨c', hinto, hcontainer'⟩, hfree⟩
  | object members =>
      obtain ⟨hmember, -⟩ := Value.existingKey_object.mp hkey
      have hnames := (Value.hasDistinctNames_object.mp (hn.at? hm.at?)).1
      rw [hmember, Pointer.enter?_deleteAt_member hnames token] at hw
      cases hw
      obtain ⟨slot', hslot'⟩ := hfree
      exact absurd hslot' (Pointer.insertionSlot_null _ slot')
  | _ => cases hkey

theorem IsStandard.succeeds_of_entersNext (h : EntersNext source target rest doc) :
    p.Succeeds d doc := by
  obtain ⟨place, items, i, v, w, hslot, hc, hv, hw, ⟨c', hinto, hcontainer⟩, hfree⟩ := h.next
  obtain ⟨path, -, htarget⟩ := Operation.pointerOf_eq_ok.mp hd.target
  obtain ⟨token, c, hlast, hc', hkey⟩ := Change.meets_of_existingSlot? hslot
  obtain rfl : Value.array items = c := Except.ok.inj (hc.symm.trans hc')
  obtain ⟨j, hj, hindex, hlt⟩ := Value.existingKey_array.mp hkey
  obtain rfl : i = j := Key.index.inj hj
  have hparent : ∃ c, target.parent doc = .ok c ∧ c.isContainer = true := by
    refine ⟨c', (hbelow.parent_iff htarget h.wellFormed hlast hc c').mpr ⟨.index i, v, ?_, hinto⟩,
      hcontainer⟩
    exact (Pointer.enter?_index hindex items _ v).mpr ⟨rfl, hv⟩
  have ht : Transfers d doc true ⟨place, .index i⟩ target :=
    ⟨⟨source, hd.source, hslot, fun _ => Operation.goesBelow_eq_false.mpr h.spelling⟩, hd.target,
      hparent⟩
  obtain ⟨hrest, -⟩ := Pointer.parent_modifyAt hc rfl fun c => c.deleteAt (.index i)
  rw [← Change.container_of_existingSlot? hslot] at hrest
  obtain ⟨slot, hplace⟩ : ∃ slot, target.insertionSlot (Slot.delete ⟨place, .index i⟩ doc) =
      .ok slot := by
    refine (hbelow.insertionSlot_iff htarget h.wellFormed hlast hrest).mpr
      ⟨.index i, w, ?_, hfree⟩
    exact (Pointer.enter?_deleteAt_index hindex items _ w).mpr ⟨rfl, hw⟩
  exact (hp.succeeds_move_iff hd).mpr ⟨_, slot, ht, hplace⟩

end Below

/-- A move to a path that lies below the source by its segments succeeds exactly if it is not
spelled so and enters the next element; otherwise it fails.  If the tildes of both paths begin
escapes, it fails in every document. -/
theorem run_move_below {p : Patch} (hp : p.IsStandard) {d : Descriptor} {source target : Pointer}
    (hd : AsksMove d source target) {rest : List String} (hbelow : target.GoesOn source rest)
    {doc : Value} (hn : doc.HasDistinctNames) :
    (p.Succeeds d doc ↔ EntersNext source target rest doc) ∧
      (¬ p.Succeeds d doc →
        ∃ cause, ((p.single d).run doc).result = .error (.failed d cause 0)) ∧
      (Escaped source.path.toList → Escaped target.path.toList → ¬ p.Succeeds d doc) := by
  refine ⟨⟨fun hs => hp.entersNext hd hbelow hs hn, hp.succeeds_of_entersNext hd hbelow⟩,
    hp.failed_move hd, ?_⟩
  intro hescaped hescaped' hs
  have h := hp.entersNext hd hbelow hs hn
  obtain ⟨_, _, _, _, _, -, hc, -⟩ := h.next
  have hwell := h.wellFormed
  obtain ⟨path, -, rfl⟩ := Operation.pointerOf_eq_ok.mp hd.source
  obtain ⟨path', -, rfl⟩ := Operation.pointerOf_eq_ok.mp hd.target
  rw [Pointer.ofPath_path] at hescaped hescaped'
  obtain ⟨more, hmore⟩ :=
    hbelow.path_eq (Pointer.wellFormed_of_parent hc) hwell hescaped hescaped'
  apply h.spelling more
  rw [Pointer.ofPath_path, Pointer.ofPath_path, hmore]

/-- A path below a member, spelled as one. -/
theorem run_move_below_member :
    let doc : Value := .object [("a", .object [("b", .object [])])]
    (ofCore []).IsStandard ∧ doc.HasDistinctNames ∧
      AsksMove (moving "/a" "/a/b/c") (Pointer.ofPath "/a") (Pointer.ofPath "/a/b/c") ∧
      (Pointer.ofPath "/a/b/c").GoesOn (Pointer.ofPath "/a") ["b", "c"] ∧
      ∃ cause, (((ofCore []).single (moving "/a" "/a/b/c")).run doc).result =
        .error (.failed (moving "/a" "/a/b/c") cause 0) := by
  intro doc
  have hp : (ofCore []).IsStandard := ofCore_isStandard (by cbv)
  have hn : doc.HasDistinctNames := by decide
  have hd : AsksMove (moving "/a" "/a/b/c") (Pointer.ofPath "/a") (Pointer.ofPath "/a/b/c") :=
    ⟨rfl, rfl, rfl⟩
  have hbelow : (Pointer.ofPath "/a/b/c").GoesOn (Pointer.ofPath "/a") ["b", "c"] :=
    ⟨by simp, rfl⟩
  obtain ⟨-, hfails, hescaped⟩ := run_move_below hp hd hbelow hn
  exact ⟨hp, hn, hd, hbelow, hfails (hescaped (by decide) (by decide))⟩

/-- A tilde and an escaped one are the same member.  The first of two elements is moved below
itself, and is put into the second one. -/
theorem run_move_into_next :
    (ofCore []).IsStandard ∧
      (Pointer.ofPath "/~0/0/x").GoesOn (Pointer.ofPath "/~/0") ["x"] ∧
      AsksMove (moving "/~/0" "/~0/0/x") (Pointer.ofPath "/~/0") (Pointer.ofPath "/~0/0/x") ∧
      (ofCore []).Succeeds (moving "/~/0" "/~0/0/x")
        (.object [("~", .array [.object [], .object []])]) ∧
      (((ofCore []).single (moving "/~/0" "/~0/0/x")).run
        (.object [("~", .array [.object [], .object []])])).document =
        .object [("~", .array [.object [("x", .object [])]])] :=
  ⟨ofCore_isStandard (by cbv), ⟨by simp, rfl⟩, ⟨rfl, rfl, rfl⟩, rfl, rfl⟩

end JsonPatch.Patch
