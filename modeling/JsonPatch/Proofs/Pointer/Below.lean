import JsonPatch.Proofs.Pointer.Frame
import JsonPatch.Proofs.Pointer.Segment

/-! # Pointers that go on below others

A pointer has the segments of another one and then some more.  It takes the steps of the other one
up to the container of this, one more step, and goes on from there as the pointer of the further
segments alone (`GoesOn.parent_iff`, `GoesOn.insertionSlot_iff`).  If both paths keep to the
escapes, the one path also goes on below the other one as a text (`GoesOn.path_eq`). -/

namespace JsonPatch

open Segment (Escaped)

namespace Segment

theorem toPath_cons (s : String) (segments : List String) :
    toPath (s :: segments) = "/" ++ escape s ++ toPath segments := by
  rw [toPath, List.map_cons, String.join_cons]
  rfl

theorem toPath_append (segments more : List String) :
    toPath (segments ++ more) = toPath segments ++ toPath more := by
  induction segments with
  | nil => exact String.empty_append.symm
  | cons s segments ih =>
      rw [List.cons_append, toPath_cons, ih, toPath_cons, String.append_assoc, String.append_assoc,
        String.append_assoc]

end Segment

namespace Pointer

/-! ### Segments -/

theorem exists_last {path : String} (h : (ofPath path).segments ≠ []) :
    ∃ last, (ofPath path).last = some last := by
  unfold ofPath at h ⊢
  split_ifs at h ⊢
  · exact absurd rfl h
  · exact ⟨_, rfl⟩

theorem ofSegments_parts {segments : List String} (h : segments ≠ []) :
    (ofSegments segments).parts = segments.dropLast ∧
      (ofSegments segments).last = segments.getLast? := by
  have hof := Segment.ofPath_toPath segments
  have hne : Segment.ofPath (Segment.toPath segments) ≠ [] := by rwa [hof]
  obtain ⟨hparts, hlast, -⟩ := ofPath_segments hne
  rw [hof] at hparts hlast
  exact ⟨hparts, hlast⟩

/-- A path that keeps to the escapes is the one that is written of its segments. -/
theorem path_eq_toPath {path : String} (hwell : (ofPath path).wellFormed = true)
    (h : Escaped path.toList) : path = Segment.toPath (ofPath path).segments := by
  by_cases hempty : path = ""
  · subst hempty
    rfl
  · have hroot : path.toList.head? = some '/' := by simpa [ofPath, hempty] using hwell
    have hback := Segment.toPath_ofPath hroot h
    have hne : Segment.ofPath path ≠ [] := by
      intro hnil
      rw [hnil] at hback
      exact hempty hback.symm
    rw [(ofPath_segments hne).2.2, hback]

/-! ### Steps -/

section Steps

variable {path path' : String} {parts : List String} {v c : Value}

/-- The path is there for the faults only. -/
theorem descend_of_descend (h : descend path parts v = .ok c) (path' : String) :
    descend path' parts v = .ok c := by
  induction parts generalizing v with
  | nil => exact h
  | cons s parts ih =>
      cases he : enter? s v with
      | none => exact absurd h (descend_stuck he path parts c)
      | some step =>
          obtain ⟨k, w⟩ := step
          rw [descend_cons path parts he] at h
          rw [descend_cons path' parts he]
          exact ih h

theorem descend_append (h : descend path parts v = .ok c) (more : List String) :
    descend path (parts ++ more) v = descend path more c := by
  induction parts generalizing v with
  | nil =>
      cases h
      rfl
  | cons s parts ih =>
      cases he : enter? s v with
      | none => exact absurd h (descend_stuck he path parts c)
      | some step =>
          obtain ⟨k, w⟩ := step
          rw [descend_cons path parts he] at h
          rw [List.cons_append, descend_cons path _ he]
          exact ih h

theorem descend_cons_iff {s : String} :
    descend path (s :: parts) v = .ok c ↔
      ∃ k w, enter? s v = some (k, w) ∧ descend path parts w = .ok c := by
  cases he : enter? s v with
  | none => simp [descend_stuck he path parts c]
  | some step =>
      obtain ⟨k, w⟩ := step
      rw [descend_cons path parts he]
      constructor
      · intro h
        exact ⟨k, w, rfl, h⟩
      · rintro ⟨k', w', hstep, h⟩
        cases hstep
        exact h

/-- One step into an array whose index the segment is. -/
theorem enter?_index {s : String} {i : Nat} (hi : Value.indexOfText s = .ok i)
    (items : List Value) (k : Key) (w : Value) :
    enter? s (.array items) = some (k, w) ↔ k = .index i ∧ items[i]? = some w := by
  simp only [enter?_of_index hi, Option.map_eq_some_iff, Prod.mk.injEq]
  constructor
  · rintro ⟨u, hu, rfl, rfl⟩
    exact ⟨rfl, hu⟩
  · rintro ⟨rfl, hw⟩
    exact ⟨w, hw, rfl, rfl⟩

/-- Null leads to no container. -/
theorem descend_null (h : descend path parts .null = .ok c) : c.isContainer = false := by
  cases parts with
  | nil =>
      cases h
      rfl
  | cons s parts => cases h

theorem wellFormed_of_parent {p : Pointer} (h : p.parent v = .ok c) : p.wellFormed = true := by
  unfold parent at h
  split_ifs at h with hwell
  simpa using hwell

/-- Null takes nothing. -/
theorem insertionSlot_null (p : Pointer) (slot : Slot) : p.insertionSlot .null ≠ .ok slot := by
  intro h
  obtain ⟨c, hc, hcontainer, -, -⟩ := insertionSlot_eq_ok.mp h
  unfold parent at hc
  split_ifs at hc
  rw [descend_null hc] at hcontainer
  cases hcontainer

/-- Where an element has been taken out, its segment leads to the next one. -/
theorem enter?_deleteAt_index {s : String} {i : Nat} (hi : Value.indexOfText s = .ok i)
    (items : List Value) (k : Key) (w : Value) :
    enter? s ((Value.array items).deleteAt (.index i)) = some (k, w) ↔
      k = .index i ∧ items[i + 1]? = some w := by
  rw [Value.deleteAt, enter?_index hi, List.getElem?_eraseIdx_of_ge (Nat.le_refl i)]

/-- Where a member has been taken out, its segment leads to null. -/
theorem enter?_deleteAt_member {members : Members} (hn : (Members.names members).Nodup)
    (s : String) :
    enter? s ((Value.object members).deleteAt (.member s)) = some (.member s, .null) := by
  rw [Value.deleteAt, enter?_object, Members.find?_erase hn, if_pos rfl]
  rfl

theorem ofSegments_parent (rest : List String) (hne : rest ≠ []) (v : Value) :
    (ofSegments rest).parent v = descend (ofSegments rest).path (ofSegments rest).parts v := by
  have hlast := (ofSegments_parts hne).2
  rw [List.getLast?_eq_some_getLast hne] at hlast
  simp [parent, ofSegments_wellFormed, hlast]

end Steps

/-! ### Going on -/

/-- The segments of a pointer are those of another one and then some more. -/
structure GoesOn (target source : Pointer) (rest : List String) : Prop where
  more : rest ≠ []
  segments : target.segments = source.segments ++ rest

namespace GoesOn

variable {source target : Pointer} {rest : List String} {token : String} {doc c : Value}

/-- The parts and the last segment of the longer pointer. -/
theorem parts (h : GoesOn target source rest) {path : String} (htarget : target = ofPath path)
    (hlast : source.last = some token) :
    target.parts = source.parts ++ token :: (ofSegments rest).parts ∧
      target.last = (ofSegments rest).last := by
  obtain ⟨hparts, hlast'⟩ := ofSegments_parts h.more
  have hsegments := h.segments
  obtain ⟨last, htlast⟩ : ∃ last, target.last = some last := by
    rw [htarget] at hsegments ⊢
    exact exists_last (by simp [hsegments, h.more])
  have hsplit : target.parts ++ [last] = (source.parts ++ [token]) ++ rest := by
    simpa only [Pointer.segments, htlast, hlast, Option.toList_some] using hsegments
  constructor
  · have hdrop := congrArg List.dropLast hsplit
    rw [List.dropLast_concat, List.dropLast_append_of_ne_nil h.more] at hdrop
    rw [hdrop, hparts, List.append_assoc]
    rfl
  · have hget := congrArg List.getLast? hsplit
    rw [List.getLast?_concat, List.getLast?_append, List.getLast?_eq_some_getLast h.more,
      Option.some_or] at hget
    rw [htlast, hget, hlast', List.getLast?_eq_some_getLast h.more]

/-- The longer pointer takes one step in the container of the shorter one, and goes on from there.
-/
theorem parent_iff (h : GoesOn target source rest) {path : String} (htarget : target = ofPath path)
    (hwell : target.wellFormed = true) (hlast : source.last = some token)
    (hc : source.parent doc = .ok c) (c' : Value) :
    target.parent doc = .ok c' ↔
      ∃ k w, enter? token c = some (k, w) ∧ (ofSegments rest).parent w = .ok c' := by
  obtain ⟨hparts, hlast'⟩ := h.parts htarget hlast
  obtain ⟨-, hrest⟩ := ofSegments_parts h.more
  rw [List.getLast?_eq_some_getLast h.more] at hrest
  have hsource : descend source.path source.parts doc = .ok c := by
    unfold parent at hc
    split_ifs at hc
    exact hc
  have hparent : target.parent doc = descend target.path (token :: (ofSegments rest).parts) c := by
    rw [← descend_append (descend_of_descend hsource target.path), ← hparts]
    simp [parent, hwell, hlast', hrest]
  simp only [hparent, descend_cons_iff, ofSegments_parent rest h.more]
  constructor
  · rintro ⟨k, w, he, hd⟩
    exact ⟨k, w, he, descend_of_descend hd _⟩
  · rintro ⟨k, w, he, hd⟩
    exact ⟨k, w, he, descend_of_descend hd _⟩

/-- The longer pointer takes a new value where the pointer of the further segments takes one after
the step. -/
theorem insertionSlot_iff (h : GoesOn target source rest) {path : String}
    (htarget : target = ofPath path) (hwell : target.wellFormed = true)
    (hlast : source.last = some token) (hc : source.parent doc = .ok c) :
    (∃ slot, target.insertionSlot doc = .ok slot) ↔
      ∃ k w, enter? token c = some (k, w) ∧
        ∃ slot, (ofSegments rest).insertionSlot w = .ok slot := by
  have hsame := (h.parts htarget hlast).2
  have hparent := h.parent_iff htarget hwell hlast hc
  constructor
  · rintro ⟨slot, hslot⟩
    obtain ⟨c', hc', hcontainer, hkey, -⟩ := insertionSlot_eq_ok.mp hslot
    obtain ⟨k, w, he, hd⟩ := (hparent c').mp hc'
    rw [hsame] at hkey
    exact ⟨k, w, he, ⟨(ofSegments rest).parentPlace w, slot.key⟩,
      insertionSlot_eq_ok.mpr ⟨c', hd, hcontainer, hkey, rfl⟩⟩
  · rintro ⟨k, w, he, slot, hslot⟩
    obtain ⟨c', hd, hcontainer, hkey, -⟩ := insertionSlot_eq_ok.mp hslot
    rw [← hsame] at hkey
    exact ⟨⟨target.parentPlace doc, slot.key⟩,
      insertionSlot_eq_ok.mpr ⟨c', (hparent c').mpr ⟨k, w, he, hd⟩, hcontainer, hkey, rfl⟩⟩

/-- If both paths keep to the escapes, the longer one goes on after the shorter one. -/
theorem path_eq {path path' : String} (h : GoesOn (ofPath path') (ofPath path) rest)
    (hwell : (ofPath path).wellFormed = true) (hwell' : (ofPath path').wellFormed = true)
    (hescaped : Escaped path.toList) (hescaped' : Escaped path'.toList) :
    ∃ more, path' = path ++ "/" ++ more := by
  obtain ⟨s, more, rfl⟩ := List.exists_cons_of_ne_nil h.more
  refine ⟨Segment.escape s ++ Segment.toPath more, ?_⟩
  have hpath := path_eq_toPath hwell' hescaped'
  rw [h.segments, Segment.toPath_append, ← path_eq_toPath hwell hescaped, Segment.toPath_cons]
    at hpath
  rw [hpath, String.append_assoc, String.append_assoc]

end GoesOn

end Pointer
end JsonPatch
