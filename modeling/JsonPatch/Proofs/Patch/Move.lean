import JsonPatch.Proofs.Patch.Turn
import JsonPatch.Proofs.Pointer.Segment
import JsonPatch.Proofs.Pointer.Slot

/-! # Moves

A move looks its target up twice: the parent in the document as it is, and the whole path in the
document without the moved value.  What the first look refuses leaves the document as it was; what
the second one refuses is lost.

* `run_move_failed` says when a move that fails has changed nothing.
* `run_move_replay` compares a move with a removal and an addition after it, which look the target
  up once only, in the document without the value. -/

namespace JsonPatch

theorem Operation.goesBelow_eq_false {target source : String} :
    Operation.goesBelow target source = false ↔ ∀ rest, target ≠ source ++ "/" ++ rest := by
  rw [Operation.goesBelow, ← Bool.not_eq_true, List.isPrefixOf_iff_prefix]
  constructor
  · rintro h rest rfl
    refine h ⟨rest.toList, ?_⟩
    simp
  · rintro h ⟨rest, hrest⟩
    refine h (String.ofList rest) (String.toList_injective ?_)
    simp [← hrest]

/-! ### The turn of a move -/

namespace Patch

open Operation (Transfers)

section Turn

variable {p : Patch} (hp : p.IsStandard) {d : Descriptor} (hop : d.field "op" = .string "move")
  {i : Nat} {doc : Value} {slot : Slot} {target : Pointer}
include hp hop

/-- A move that finds its target again puts the value there. -/
theorem IsStandard.turnOn_move (ht : Transfers d doc true slot target) {place : Slot}
    (hplace : target.insertionSlot (slot.delete doc) = .ok place) :
    (p.turnOn i d doc).content = place.insert ((slot.read? doc).getD .null) (slot.delete doc) ∧
      (p.turnOn i d doc).error = none := by
  obtain ⟨hc, he⟩ := hp.turnOn_edit (i := i) .move hop
    (Operation.move_eq_ok.mpr ⟨slot, target, ht, rfl⟩)
  simp only [Edit.apply, hplace] at hc he
  exact ⟨hc, he⟩

/-- A move that does not find its target again has taken the value out. -/
theorem IsStandard.turnOn_move_lost (ht : Transfers d doc true slot target) {f : Fault}
    (hplace : target.insertionSlot (slot.delete doc) = .error f) :
    (p.turnOn i d doc).content = slot.delete doc ∧
      (p.turnOn i d doc).error = some (.failed d (.fault f) i) := by
  have hplan := Operation.move_eq_ok.mpr ⟨slot, target, ht, rfl⟩
  obtain ⟨hc, he⟩ := hp.turnOn_edit (i := i) .move hop hplan
  simp only [Edit.apply, hplace] at hc he
  rw [Trouble.settle, if_pos (target.plain_insertionSlot _ f hplace), Option.map_some,
    troubled_failure (isLoggable_of_planned .move hop hplan)] at he
  exact ⟨hc, he⟩

/-- A move without its places is refused before anything is changed. -/
theorem IsStandard.turnOn_move_refused (ht : ∀ slot target, ¬ Transfers d doc true slot target) :
    (p.turnOn i d doc).content = doc ∧ (p.turnOn i d doc).error ≠ none := by
  cases hm : Operation.move d doc with
  | ok e =>
      cases e with
      | none =>
          obtain ⟨_, _, _, h⟩ := Operation.move_eq_ok.mp hm
          cases h
      | some e =>
          obtain ⟨slot, target, h, _⟩ := Operation.move_eq_ok.mp hm
          exact absurd h (ht slot target)
  | error t =>
      obtain ⟨hc, he⟩ := hp.turnOn_refused (i := i) .move hop hm
      exact ⟨hc, by rw [he]; simp⟩

end Turn

/-! ### Moves that fail -/

/-- A failing move leaves the document as it was, on exactly those documents in which the target,
if the move gets past its checks, takes a value also when the source has been taken out. -/
theorem run_move_failed {p : Patch} (hp : p.IsStandard) {d : Descriptor}
    (hop : d.field "op" = .string "move") (doc : Value) :
    (∀ cause i, ((p.single d).run doc).result = .error (.failed d cause i) →
        ((p.single d).run doc).document = doc) ↔
      ∀ slot target, Transfers d doc true slot target →
        ∃ place, target.insertionSlot (slot.delete doc) = .ok place := by
  rw [p.single_run_document 0 d doc]
  constructor
  · intro h slot target ht
    cases hplace : target.insertionSlot (slot.delete doc) with
    | ok place => exact ⟨place, rfl⟩
    | error f =>
        obtain ⟨hc, he⟩ := hp.turnOn_move_lost hop (i := 0) ht hplace
        have hrun := single_run_error he
        obtain ⟨source, -, hs, -⟩ := ht.hasSource
        have hfilled := (Pointer.existingSlot?_eq_some hs).1
        exact absurd (hc.symm.trans (h _ _ hrun)) hfilled.delete_ne
  · intro h cause i hr
    by_cases ht : ∃ slot target, Transfers d doc true slot target
    · obtain ⟨slot, target, ht⟩ := ht
      obtain ⟨place, hplace⟩ := h slot target ht
      obtain ⟨-, he⟩ := hp.turnOn_move hop (i := 0) ht hplace
      have hok : p.Succeeds d doc := (p.succeeds_iff 0 d doc).mpr he
      rw [Succeeds, hr] at hok
      cases hok
    · exact (hp.turnOn_move_refused hop fun slot target h => ht ⟨slot, target, h⟩).1

/-- A move to a place whose parent is missing is refused before anything is changed. -/
theorem run_move_unreachable :
    (ofCore []).IsStandard ∧
      ∃ cause i, (((ofCore []).single (moving "/a" "/b/x")).run
          (.object [("a", .number (.int 1))])).result =
        .error (.failed (moving "/a" "/b/x") cause i) ∧
      (((ofCore []).single (moving "/a" "/b/x")).run
        (.object [("a", .number (.int 1))])).document = .object [("a", .number (.int 1))] := by
  refine ⟨ofCore_isStandard (by cbv), .badTarget "/b/x", 0, rfl, ?_⟩
  refine (run_move_failed (ofCore_isStandard (by cbv)) rfl _).mpr ?_ (.badTarget "/b/x") 0 rfl
  intro slot target ht
  have h : Operation.transfer (moving "/a" "/b/x") (.object [("a", .number (.int 1))]) true =
      .error (.failure (.badTarget "/b/x") none) := rfl
  rw [Operation.transfer_eq_ok.mpr ht] at h
  cases h

/-- The end of an array moves forward when an element is taken out: the move fails, and the
element is lost. -/
theorem run_move_past_end :
    (ofCore [moving "/0" "/2"]).IsStandard ∧
      ((ofCore [moving "/0" "/2"]).run (.array [.number (.int 1), .number (.int 2)])).result =
        .error (.failed (moving "/0" "/2") (.fault (.missingKey (.string "2"))) 0) ∧
      ((ofCore [moving "/0" "/2"]).run (.array [.number (.int 1), .number (.int 2)])).document =
        .array [.number (.int 2)] :=
  ⟨ofCore_isStandard (by cbv), rfl, rfl⟩

/-! ### Moves as removals and additions -/

/-- The patch that removes what is at the source and then adds a value at the target. -/
def replay (p : Patch) (source target : Pointer) (v : Value) : Patch :=
  { p with operations := [removing source.path, adding target.path v] }

theorem pointerOf_path {d : Descriptor} {field : String} {p : Pointer}
    (h : Operation.pointerOf d field = .ok p) (e : Descriptor)
    (he : Members.find? "path" e = some (.string p.path)) :
    Operation.pointerOf e "path" = .ok p := by
  obtain ⟨path, -, rfl⟩ := Operation.pointerOf_eq_ok.mp h
  rw [Pointer.ofPath_path] at he
  exact Operation.pointerOf_eq_ok.mpr ⟨path, he, rfl⟩

/-- A run of two operations of which the first succeeds ends as the second one does. -/
theorem run_pair {p : Patch} {a b : Descriptor} {doc : Value}
    (h : (p.turnOn 0 a doc).error = none) :
    ((({ p with operations := [a, b] } : Patch).run doc).result = .ok () ↔
        (p.turnOn 1 b (p.turnOn 0 a doc).content).error = none) ∧
      (({ p with operations := [a, b] } : Patch).run doc).document =
        (p.turnOn 1 b (p.turnOn 0 a doc).content).content := by
  change ((p.runFrom 0 [a, b] doc).result = _ ↔ _) ∧ (p.runFrom 0 [a, b] doc).document = _
  rw [runFrom_cons_ok h]
  cases hb : (p.turnOn 1 b (p.turnOn 0 a doc).content).error with
  | none =>
      rw [runFrom_cons_ok hb]
      exact ⟨⟨fun _ => rfl, fun _ => rfl⟩, rfl⟩
  | some e =>
      rw [runFrom_cons_error hb]
      exact ⟨⟨nofun, nofun⟩, rfl⟩

section Replay

variable {p : Patch} (hp : p.IsStandard) {source target : Pointer} {v doc : Value}
include hp

theorem IsStandard.turnOn_removing
    (hpath : Operation.pointerOf (removing source.path) "path" = .ok source)
    (hr : source.isRoot = false) {slot : Slot} (hs : source.existingSlot? doc = .ok (some slot)) :
    (p.turnOn 0 (removing source.path) doc).content = slot.delete doc ∧
      (p.turnOn 0 (removing source.path) doc).error = none :=
  hp.turnOn_edit .remove rfl (Operation.remove_eq_ok.mpr ⟨source, some slot, hpath, hr, hs, rfl⟩)

theorem IsStandard.turnOn_adding
    (hpath : Operation.pointerOf (adding target.path v) "path" = .ok target) {place : Slot}
    (hs : target.insertionSlot doc = .ok place) :
    (p.turnOn 1 (adding target.path v) doc).content = place.insert v doc ∧
      (p.turnOn 1 (adding target.path v) doc).error = none :=
  hp.turnOn_edit .add rfl (Operation.add_eq_ok.mpr ⟨target, v, place, hpath, rfl, hs, rfl⟩)

theorem IsStandard.turnOn_adding_refused
    (hpath : Operation.pointerOf (adding target.path v) "path" = .ok target) {f : Fault}
    (hs : target.insertionSlot doc = .error f) :
    (p.turnOn 1 (adding target.path v) doc).error ≠ none := by
  cases ha : Operation.add (adding target.path v) doc with
  | ok e =>
      obtain ⟨q, _, place, hq, -, hplace, -⟩ := Operation.add_eq_ok.mp ha
      rw [hpath] at hq
      cases hq
      rw [hs] at hplace
      cases hplace
  | error t =>
      obtain ⟨-, he⟩ := hp.turnOn_refused (i := 1) .add rfl ha
      rw [he]
      simp

end Replay

/-- A move whose source is there and whose path does not go on below it succeeds exactly if the
path's parent is a container of the document as it is, and removing the source and then adding its
value at the path succeeds; the documents are then the same. -/
theorem run_move_replay {p : Patch} (hp : p.IsStandard) {d : Descriptor}
    (hop : d.field "op" = .string "move") {source target : Pointer}
    (hsource : Operation.pointerOf d "from" = .ok source)
    (htarget : Operation.targetOf d = .ok target)
    (hbelow : ∀ rest, target.path ≠ source.path ++ "/" ++ rest) {doc v : Value}
    (hroot : source.isRoot = false) (hv : source.valueOrFail doc = .ok v) :
    (((p.single d).run doc).result = .ok () ↔
        (∃ c, target.parent doc = .ok c ∧ c.isContainer = true) ∧
          ((p.replay source target v).run doc).result = .ok ()) ∧
      (((p.single d).run doc).result = .ok () →
        ((p.single d).run doc).document = ((p.replay source target v).run doc).document) := by
  obtain ⟨slot, hslot, hread⟩ := Pointer.existingSlot?_of_valueOrFail hroot hv
  have hto : Operation.pointerOf (adding target.path v) "path" = .ok target :=
    pointerOf_path htarget _ rfl
  obtain ⟨hdeleted, hdelete⟩ := hp.turnOn_removing (pointerOf_path hsource _ rfl) hroot hslot
  obtain ⟨hreplay, hreplayed⟩ := run_pair (b := adding target.path v) hdelete
  rw [hdeleted] at hreplay hreplayed
  have hmove := p.succeeds_iff 0 d doc
  have hgoes := Operation.goesBelow_eq_false.mpr hbelow
  rw [replay, hreplay, hreplayed, p.single_run_document 0 d doc]
  rw [Succeeds] at hmove
  rw [hmove]
  by_cases hparent : ∃ c, target.parent doc = .ok c ∧ c.isContainer = true
  · -- the move gets past its checks: both put the value into the document without it
    have ht : Transfers d doc true slot target :=
      ⟨⟨source, hsource, hslot, fun _ => hgoes⟩, htarget, hparent⟩
    cases hplace : target.insertionSlot (slot.delete doc) with
    | ok place =>
        obtain ⟨hc, he⟩ := hp.turnOn_move hop (i := 0) ht hplace
        obtain ⟨hc', he'⟩ := hp.turnOn_adding (v := v) hto hplace
        refine ⟨⟨fun _ => ⟨hparent, he'⟩, fun _ => he⟩, fun _ => ?_⟩
        rw [hc, hc', hread]
        rfl
    | error f =>
        obtain ⟨-, he⟩ := hp.turnOn_move_lost hop (i := 0) ht hplace
        have he' := hp.turnOn_adding_refused (v := v) hto hplace
        rw [he]
        exact ⟨⟨nofun, fun h => absurd h.2 he'⟩, nofun⟩
  · -- the move is refused
    have ht : ∀ slot target', ¬ Transfers d doc true slot target' := by
      intro slot target' h
      obtain ⟨rfl⟩ : target = target' := by
        have := htarget.symm.trans h.hasTarget
        injection this
      exact hparent h.hasParent
    obtain ⟨-, he⟩ := hp.turnOn_move_refused hop (i := 0) ht
    exact ⟨⟨fun h => absurd h he, fun h => absurd h.1 hparent⟩, fun h => absurd h he⟩

theorem run_move_swap :
    (ofCore []).IsStandard ∧
      (((ofCore []).single (moving "/a/0" "/a/1")).run
        (.object [("a", .array [.number (.int 5), .number (.int 6)])])).result = .ok () ∧
      (((ofCore []).single (moving "/a/0" "/a/1")).run
        (.object [("a", .array [.number (.int 5), .number (.int 6)])])).document =
        (((ofCore []).replay (Pointer.ofPath "/a/0") (Pointer.ofPath "/a/1")
          (.number (.int 5))).run
        (.object [("a", .array [.number (.int 5), .number (.int 6)])])).document := by
  have hbelow : ∀ rest, (Pointer.ofPath "/a/1").path ≠ (Pointer.ofPath "/a/0").path ++ "/" ++ rest :=
    Operation.goesBelow_eq_false.mp rfl
  refine ⟨ofCore_isStandard (by cbv), rfl, ?_⟩
  exact (run_move_replay (d := moving "/a/0" "/a/1") (ofCore_isStandard (by cbv)) rfl rfl rfl
    hbelow rfl rfl).2 rfl

/-- The parent of the path is checked before the source is taken out. In this document it is a
number then, and an object when the elements have moved up: the move fails, and the removal and
the addition succeed. -/
theorem run_move_shifted :
    (ofCore []).IsStandard ∧
      (Pointer.ofPath "/a/0").isRoot = false ∧
      (Pointer.ofPath "/a/0").valueOrFail
        (.object [("a", .array [.number (.int 5), .number (.int 6), .object []])]) =
        .ok (.number (.int 5)) ∧
      (∀ rest, (Pointer.ofPath "/a/1/x").path ≠ (Pointer.ofPath "/a/0").path ++ "/" ++ rest) ∧
      (((ofCore []).single (moving "/a/0" "/a/1/x")).run
        (.object [("a", .array [.number (.int 5), .number (.int 6), .object []])])).result =
        .error (.failed (moving "/a/0" "/a/1/x") (.badTarget "/a/1/x") 0) ∧
      (((ofCore []).replay (Pointer.ofPath "/a/0") (Pointer.ofPath "/a/1/x")
          (.number (.int 5))).run
        (.object [("a", .array [.number (.int 5), .number (.int 6), .object []])])).result =
        .ok () :=
  ⟨ofCore_isStandard (by cbv), rfl, rfl, Operation.goesBelow_eq_false.mp rfl, rfl, rfl⟩

end Patch
end JsonPatch
