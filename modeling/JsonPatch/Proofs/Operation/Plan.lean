import JsonPatch.Proofs.Operation.Trouble

/-! # What the core operations plan

For each core operation the exact condition under which it plans an edit, and that edit
(`add_eq_ok` up to `move_eq_ok`).  The conditions speak of pointers and slots only, so later proofs
need not open the operations.  Of all edits only a move can still fail (`apply_trouble`), and only
the operation of that name plans a move. -/

namespace JsonPatch.Operation

variable {α β : Type}

theorem bind_eq_ok {r : Step α} {f : α → Step β} {b : β} :
    (r >>= f) = .ok b ↔ ∃ a, r = .ok a ∧ f a = .ok b := by
  cases r with
  | ok a => simp [bind, Except.bind]
  | error t => simp [bind, Except.bind]

theorem ofFault_eq_ok {r : Except Fault α} {a : α} : ofFault r = .ok a ↔ r = .ok a := by
  cases r with
  | ok b => simp [ofFault, Except.mapError]
  | error f => simp [ofFault, Except.mapError]

theorem fail_ne_ok {cause : Failure} {a : α} : (fail cause : Step α) ≠ .ok a := by
  intro h
  cases h

theorem pure_eq_ok {a b : α} : (pure a : Step α) = .ok b ↔ a = b := by
  change (Except.ok a : Step α) = .ok b ↔ a = b
  rw [Except.ok.injEq]

theorem pointerOf_eq_ok {d : Descriptor} {field : String} {p : Pointer} :
    pointerOf d field = .ok p ↔ ∃ path, Members.find? field d = some (.string path) ∧
      p = Pointer.ofPath path := by
  unfold pointerOf
  cases h : Members.find? field d with
  | none => simp [fail]
  | some v =>
      dsimp only
      rw [ofFault_eq_ok]
      cases v with
      | string path => simp [Pointer.parse, eq_comm]
      | _ => simp [Pointer.parse]

theorem valueOf_eq_ok {d : Descriptor} {v : Value} :
    valueOf d = .ok v ↔ Members.find? "value" d = some v := by
  unfold valueOf
  cases Members.find? "value" d with
  | none => simp [fail]
  | some w => simp

/-! ### Edits planned -/

theorem add_eq_ok {d : Descriptor} {doc : Value} {e : Option Edit} :
    add d doc = .ok e ↔ ∃ p v slot, pointerOf d "path" = .ok p ∧
      Members.find? "value" d = some v ∧ p.insertionSlot doc = .ok slot ∧
      e = some (.insert slot) := by
  simp only [add, bind_eq_ok, valueOf_eq_ok, ofFault_eq_ok, pure_eq_ok]
  constructor
  · rintro ⟨p, hp, v, hv, slot, hs, rfl⟩
    exact ⟨p, v, slot, hp, hv, hs, rfl⟩
  · rintro ⟨p, v, slot, hp, hv, hs, rfl⟩
    exact ⟨p, hp, v, hv, slot, hs, rfl⟩

theorem remove_eq_ok {d : Descriptor} {doc : Value} {e : Option Edit} :
    remove d doc = .ok e ↔ ∃ p slot, pointerOf d "path" = .ok p ∧ p.isRoot = false ∧
      p.existingSlot? doc = .ok slot ∧ e = slot.map .delete := by
  simp only [remove, bind_eq_ok]
  constructor
  · rintro ⟨p, hp, h⟩
    split_ifs at h with hr
    · exact absurd h fail_ne_ok
    · simp only [bind_eq_ok, ofFault_eq_ok, pure_eq_ok] at h
      obtain ⟨slot, hs, rfl⟩ := h
      exact ⟨p, slot, hp, by simpa using hr, hs, rfl⟩
  · rintro ⟨p, slot, hp, hr, hs, rfl⟩
    refine ⟨p, hp, ?_⟩
    rw [hr, if_neg (by simp)]
    simp only [bind_eq_ok, ofFault_eq_ok, pure_eq_ok]
    exact ⟨slot, hs, rfl⟩

theorem replace_eq_ok {d : Descriptor} {doc : Value} {e : Option Edit} :
    replace d doc = .ok e ↔ ∃ p v slot, pointerOf d "path" = .ok p ∧
      Members.find? "value" d = some v ∧ p.existingSlot? doc = .ok (some slot) ∧
      e = some (.assign slot .own) := by
  simp only [replace, bind_eq_ok, valueOf_eq_ok, ofFault_eq_ok]
  constructor
  · rintro ⟨p, hp, v, hv, slot, hs, h⟩
    cases slot with
    | none => exact absurd h fail_ne_ok
    | some slot =>
        rw [pure_eq_ok] at h
        exact ⟨p, v, slot, hp, hv, hs, h.symm⟩
  · rintro ⟨p, v, slot, hp, hv, hs, rfl⟩
    exact ⟨p, hp, v, hv, some slot, hs, rfl⟩

theorem test_eq_ok {d : Descriptor} {doc : Value} {e : Option Edit} (h : test d doc = .ok e) :
    e = none := by
  simp only [test, bind_eq_ok] at h
  obtain ⟨p, -, expected, -, found, -, h⟩ := h
  split_ifs at h
  · exact absurd h fail_ne_ok
  · simp only [bind_eq_ok] at h
    obtain ⟨actual, -, same, -, h⟩ := h
    split_ifs at h
    · rw [pure_eq_ok] at h
      exact h.symm
    · exact absurd h fail_ne_ok

/-- A test that succeeds has found a value that is equal to the expected one. -/
theorem test_succeeds {d : Descriptor} {doc : Value} {e : Option Edit} (h : test d doc = .ok e) :
    ∃ p expected actual, pointerOf d "path" = .ok p ∧ Members.find? "value" d = some expected ∧
      p.leads doc = .ok true ∧ p.value doc = .ok actual ∧ actual.equals expected = .ok true := by
  simp only [test, bind_eq_ok, valueOf_eq_ok, ofFault_eq_ok] at h
  obtain ⟨p, hp, expected, hexpected, found, hfound, h⟩ := h
  split_ifs at h with hf
  · exact absurd h fail_ne_ok
  · simp only [bind_eq_ok, ofFault_eq_ok] at h
    obtain ⟨actual, hactual, same, hsame, h⟩ := h
    split_ifs at h with hs
    · obtain rfl : found = true := by simpa using hf
      obtain rfl : same = true := hs
      exact ⟨p, expected, actual, hp, hexpected, hfound, hactual, hsame⟩
    · exact absurd h fail_ne_ok

/-- The places of a move or copy: the source is there, the target does not lie below it as a text,
and its parent is a container of the document as it is. -/
structure Transfers (d : Descriptor) (doc : Value) (moves : Bool) (slot : Slot)
    (target : Pointer) : Prop where
  hasSource : ∃ p, pointerOf d "from" = .ok p ∧ p.existingSlot? doc = .ok (some slot) ∧
    (moves = true → goesBelow target.path p.path = false)
  hasTarget : targetOf d = .ok target
  hasParent : ∃ c, target.parent doc = .ok c ∧ c.isContainer = true

theorem transfer_eq_ok {d : Descriptor} {doc : Value} {moves : Bool} {slot : Slot}
    {target : Pointer} :
    transfer d doc moves = .ok (slot, target) ↔ Transfers d doc moves slot target := by
  simp only [transfer, bind_eq_ok, ofFault_eq_ok]
  constructor
  · rintro ⟨p, hp, t, ht, found, hs, h⟩
    cases found with
    | none => exact absurd h fail_ne_ok
    | some found =>
        dsimp only at h
        split_ifs at h with hb
        · exact absurd h fail_ne_ok
        simp only [bind_eq_ok, ofFault_eq_ok] at h
        obtain ⟨c, hc, h⟩ := h
        split_ifs at h with hcont
        · rw [pure_eq_ok] at h
          cases h
          exact ⟨⟨p, hp, hs, fun hm => by simpa [hm] using hb⟩, ht, c, hc, hcont⟩
        · exact absurd h fail_ne_ok
  · rintro ⟨⟨p, hp, hs, hb⟩, ht, c, hc, hcont⟩
    refine ⟨p, hp, target, ht, some slot, hs, ?_⟩
    have hb' : ¬ (moves && goesBelow target.path p.path) = true := by
      cases moves with
      | false => simp
      | true => simp [hb rfl]
    dsimp only
    rw [if_neg hb']
    simp only [bind_eq_ok, ofFault_eq_ok]
    refine ⟨c, hc, ?_⟩
    rw [if_pos hcont]
    rfl

theorem copy_eq_ok {d : Descriptor} {doc : Value} {e : Option Edit} :
    copy d doc = .ok e ↔ ∃ slot target place, Transfers d doc false slot target ∧
      target.insertionSlot doc = .ok place ∧ e = some (.copy slot place) := by
  simp only [copy, bind_eq_ok, ofFault_eq_ok, pure_eq_ok, ← transfer_eq_ok]
  constructor
  · rintro ⟨⟨slot, target⟩, ht, place, hs, rfl⟩
    exact ⟨slot, target, place, ht, hs, rfl⟩
  · rintro ⟨slot, target, place, ht, hs, rfl⟩
    exact ⟨(slot, target), ht, place, hs, rfl⟩

theorem move_eq_ok {d : Descriptor} {doc : Value} {e : Option Edit} :
    move d doc = .ok e ↔ ∃ slot target, Transfers d doc true slot target ∧
      e = some (.move slot target) := by
  simp only [move, bind_eq_ok, pure_eq_ok, ← transfer_eq_ok]
  constructor
  · rintro ⟨⟨slot, target⟩, ht, rfl⟩
    exact ⟨slot, target, ht, rfl⟩
  · rintro ⟨slot, target, ht, rfl⟩
    exact ⟨(slot, target), ht, rfl⟩

end JsonPatch.Operation

namespace JsonPatch

/-- Only a move can fail once it has been planned. -/
theorem Edit.apply_trouble {e : Edit} {own doc : Value} {t : Trouble}
    (h : (e.apply own doc).trouble = some t) : ∃ source target, e = .move source target := by
  cases e with
  | move source target => exact ⟨source, target, rfl⟩
  | _ => cases h

/-- A move fails only by a fault that is a failure of the operation. -/
theorem Edit.apply_move_trouble {source : Slot} {target : Pointer} {own doc : Value} {t : Trouble}
    (h : ((Edit.move source target).apply own doc).trouble = some t) :
    ∃ cause, t = .failure cause none := by
  simp only [Edit.apply] at h
  split at h
  · cases h
  · rename_i f hf
    cases h
    refine ⟨.fault f, ?_⟩
    rw [Trouble.settle, if_pos (target.plain_insertionSlot _ f hf)]

end JsonPatch
