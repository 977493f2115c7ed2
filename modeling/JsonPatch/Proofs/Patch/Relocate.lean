import JsonPatch.Proofs.Patch.FirstFailure
import JsonPatch.Proofs.Patch.Move
import JsonPatch.Proofs.Patch.Write

/-! # Moves that succeed

A move that gets past its checks and finds its target again succeeds (`succeeds_move_iff`).  Then it
is a removal and an addition: it takes a value out of one container and puts it into another one,
which it finds in the document without the value (`Relocates`, `IsStandard.relocates`). -/

namespace JsonPatch

namespace Change

/-- A value is taken out of the container of one pointer, and put into the container of another one
in the rest of the document. -/
structure Relocates (source target : Pointer) (doc v rest doc' : Value) : Prop where
  removed : ∃ token c k, remove.Meets source doc token c k ∧ c.child? k = some v ∧
    rest = Value.modifyAt (source.parentPlace doc) (remove.apply k) doc
  added : ∃ token c k, (add v).Meets target rest token c k ∧
    doc' = Value.modifyAt (target.parentPlace rest) ((add v).apply k) rest

end Change

namespace Operation

/-- A descriptor asks for a move from one pointer to another. -/
structure AsksMove (d : Descriptor) (source target : Pointer) : Prop where
  op : d.field "op" = .string "move"
  source : pointerOf d "from" = .ok source
  target : targetOf d = .ok target

end Operation

namespace Patch

open Operation (AsksMove Transfers)

variable {p : Patch} (hp : p.IsStandard) {d : Descriptor} {source target : Pointer}
  (hd : AsksMove d source target) {doc : Value}
include hp hd

/-- A move succeeds if it gets past its checks and its target takes a value in the rest of the
document. -/
theorem IsStandard.succeeds_move_iff :
    p.Succeeds d doc ↔ ∃ slot place, Transfers d doc true slot target ∧
      target.insertionSlot (slot.delete doc) = .ok place := by
  rw [p.succeeds_iff 0]
  constructor
  · intro hs
    by_cases ht : ∃ slot target, Transfers d doc true slot target
    · obtain ⟨slot, target', ht⟩ := ht
      obtain rfl : target = target' := Except.ok.inj (hd.target.symm.trans ht.hasTarget)
      cases hplace : target.insertionSlot (slot.delete doc) with
      | ok place => exact ⟨slot, place, ht, hplace⟩
      | error f =>
          obtain ⟨-, he⟩ := hp.turnOn_move_lost hd.op (i := 0) ht hplace
          rw [hs] at he
          cases he
    · exact absurd hs
        (hp.turnOn_move_refused hd.op fun slot target h => ht ⟨slot, target, h⟩).2
  · rintro ⟨slot, place, ht, hplace⟩
    exact (hp.turnOn_move hd.op ht hplace).2

/-- A move that does not succeed fails. -/
theorem IsStandard.failed_move (hs : ¬ p.Succeeds d doc) :
    ∃ cause, ((p.single d).run doc).result = .error (.failed d cause 0) := by
  cases hm : Operation.move d doc with
  | error t =>
      obtain ⟨cause, hcause⟩ := Operation.settling_move d doc t hm
      obtain ⟨-, he⟩ := hp.turnOn_refused (i := 0) .move hd.op hm
      have hlog := isLoggable_of_hasTextPath hd.op (Operation.hasTextPath_of_targetOf hd.target)
      rw [hcause, troubled_failure hlog] at he
      exact ⟨cause, single_run_error he⟩
  | ok e =>
      obtain ⟨slot, target', ht, -⟩ := Operation.move_eq_ok.mp hm
      cases hplace : target'.insertionSlot (slot.delete doc) with
      | ok place =>
          obtain ⟨-, he⟩ := hp.turnOn_move hd.op (i := 0) ht hplace
          exact absurd ((p.succeeds_iff 0 d doc).mpr he) hs
      | error f =>
          obtain ⟨-, he⟩ := hp.turnOn_move_lost hd.op (i := 0) ht hplace
          exact ⟨.fault f, single_run_error he⟩

/-- What a move that succeeds does. -/
theorem IsStandard.relocates (hs : p.Succeeds d doc) :
    ∃ v rest, Change.Relocates source target doc v rest ((p.single d).run doc).document := by
  obtain ⟨slot, place, ht, hplace⟩ := (hp.succeeds_move_iff hd).mp hs
  obtain ⟨source', hsource', hslot, -⟩ := ht.hasSource
  obtain rfl : source = source' := Except.ok.inj (hd.source.symm.trans hsource')
  obtain ⟨token, c, hlast, hparent, hkey⟩ := Change.meets_of_existingSlot? hslot
  have hm : Change.remove.Meets source doc token c slot.key := ⟨hlast, hparent, hkey⟩
  obtain ⟨v, hv⟩ := Value.existingKey_eq_ok hkey
  have hcontainer := Change.container_of_existingSlot? hslot
  have hread : slot.read? doc = some v := Slot.read?_of_child? (hcontainer ▸ hm.at?) hv
  have hrest : slot.delete doc =
      Value.modifyAt (source.parentPlace doc) (Change.remove.apply slot.key) doc := by
    rw [Slot.delete, hcontainer]
    rfl
  obtain ⟨hinto, token', c', hm'⟩ := Change.meets_of_insertionSlot (v := v) hplace
  obtain ⟨hdoc, -⟩ := hp.turnOn_move hd.op (i := 0) ht hplace
  refine ⟨v, slot.delete doc, ⟨token, c, slot.key, hm, hv, hrest⟩, token', c', place.key, hm', ?_⟩
  rw [p.single_run_document 0, hdoc, hread, Option.getD_some, Slot.insert, hinto]
  rfl

end Patch

namespace Change

variable {source target : Pointer} {doc v rest doc' : Value} {p : Patch} {d : Descriptor}

/-- What is left without the value is what a removal at the source leaves. -/
theorem Relocates.rest_eq (h : Relocates source target doc v rest doc') (hp : p.IsStandard)
    (hsource : Operation.pointerOf d "from" = .ok source) :
    ((p.single (Patch.removing source.path)).run doc).document = rest := by
  obtain ⟨token, c, k, hm, -, rfl⟩ := h.removed
  exact ((Asks.remove rfl (Patch.pointerOf_path hsource _ rfl)).succeeds hp hm).2

end Change
end JsonPatch
