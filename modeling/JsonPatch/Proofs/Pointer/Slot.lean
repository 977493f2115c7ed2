import JsonPatch.Operation.Slot
import JsonPatch.Proofs.Value.Place

/-! # Where pointers lead

A pointer that has been followed leads to a place of the document (`parent_place`).  The slot that
it finds there is *filled* if something has to be there, and *open* if it is to take a new value;
then reading, filling and emptying the slot do to the document what their names say. -/

namespace JsonPatch

namespace Value

/-- The key is one at which the container can take a new value. -/
def Takes : Value → Key → Prop
  | object _, .member _ => True
  | array items, .index i => i ≤ items.length
  | _, _ => False

theorem indexBelow_iff {bound i : Nat} {key : Value} :
    indexBelow bound key = .ok i ↔ parseIndex key = .ok i ∧ i < bound := by
  rw [indexBelow]
  cases parseIndex key with
  | error f => simp
  | ok j =>
      dsimp only
      rw [Except.ok.injEq]
      split_ifs with hj
      · rw [Except.ok.injEq]
        exact ⟨fun h => ⟨h, h ▸ hj⟩, And.left⟩
      · constructor
        · intro h
          cases h
        · rintro ⟨rfl, hi⟩
          exact absurd hi hj

theorem indexBelow_key {bound : Nat} {key : Value} {k : Key} :
    (indexBelow bound key).map Key.index = .ok k ↔
      ∃ i, k = .index i ∧ parseIndex key = .ok i ∧ i < bound := by
  simp only [← indexBelow_iff]
  cases indexBelow bound key with
  | error f => simp [Except.map]
  | ok j => simp [Except.map, eq_comm]

theorem existingKey_eq_ok {c key : Value} {k : Key} (h : c.existingKey key = .ok k) :
    ∃ v, c.child? k = some v := by
  unfold existingKey at h
  split at h
  · split_ifs at h with hm
    cases h
    exact Option.isSome_iff_exists.mp hm
  · obtain ⟨i, rfl, -, hi⟩ := indexBelow_key.mp h
    exact ⟨_, List.getElem?_eq_getElem hi⟩
  · cases h

theorem insertionKey_eq_ok {c key : Value} {k : Key} (h : c.insertionKey key = .ok k) :
    c.Takes k := by
  have hindex : ∀ {items : List Value},
      (indexBelow (items.length + 1) key).map Key.index = .ok k → (array items).Takes k := by
    intro items h
    obtain ⟨i, rfl, -, hi⟩ := indexBelow_key.mp h
    exact Nat.le_of_lt_succ hi
  unfold insertionKey at h
  split at h
  · cases h
    trivial
  · split_ifs at h
    · cases h
      exact Nat.le_refl _
    · exact hindex h
  · exact hindex h
  · cases h

section Token

variable {token : String} {k : Key}

/-- The key of an element that is there. -/
theorem existingKey_array {items : List Value} :
    (array items).existingKey (.string token) = .ok k ↔
      ∃ i, k = .index i ∧ indexOfText token = .ok i ∧ i < items.length :=
  indexBelow_key

/-- The key of a member that is there. -/
theorem existingKey_object {members : Members} :
    (object members).existingKey (.string token) = .ok k ↔
      k = .member token ∧ Members.has token members = true := by
  rw [existingKey]
  split_ifs with h
  · simp [h, eq_comm]
  · simp [h]

/-- The key of a place in an array: its end, or an index up to its end. -/
theorem insertionKey_array {items : List Value} :
    (array items).insertionKey (.string token) = .ok k ↔
      token = appendMarker ∧ k = .index items.length ∨
        token ≠ appendMarker ∧
          ∃ i, k = .index i ∧ indexOfText token = .ok i ∧ i < items.length + 1 := by
  rw [insertionKey]
  split_ifs with h
  · simp [h, eq_comm]
  · rw [indexBelow_key]
    simp [h, parseIndex]

/-- The append marker is no index. -/
theorem ne_appendMarker {i : Nat} (h : indexOfText token = .ok i) : token ≠ appendMarker := by
  rintro rfl
  cases h

end Token

theorem isContainer_of_child? {c v : Value} {k : Key} (h : c.child? k = some v) :
    c.isContainer = true := by
  cases c with
  | array items => rfl
  | object members => rfl
  | _ => cases h

theorem Takes.isContainer {c : Value} {k : Key} (h : c.Takes k) : c.isContainer = true := by
  cases c with
  | array items => rfl
  | object members => rfl
  | _ => cases h

end Value

/-! ### Slots of a document -/

namespace Slot

/-- There is a value in the slot. -/
def Filled (s : Slot) (doc : Value) : Prop :=
  ∃ c v, Value.at? s.container doc = some c ∧ c.child? s.key = some v

/-- The slot can take a new value. -/
def Open (s : Slot) (doc : Value) : Prop :=
  ∃ c, Value.at? s.container doc = some c ∧ c.Takes s.key

variable {s : Slot} {doc : Value}

theorem read?_of_child? {c v : Value} (hc : Value.at? s.container doc = some c)
    (hv : c.child? s.key = some v) : s.read? doc = some v := by
  rw [read?, place, Value.at?_append, hc, Option.bind_some, Value.at?_cons, hv]
  rfl

theorem at?_delete (s : Slot) (doc : Value) :
    Value.at? s.container (s.delete doc) =
      (Value.at? s.container doc).map fun c => c.deleteAt s.key :=
  Value.at?_modifyAt_self _ _ _

/-- Taking something out changes the document. -/
theorem Filled.delete_ne (h : s.Filled doc) : s.delete doc ≠ doc := by
  obtain ⟨c, v, hc, hv⟩ := h
  intro e
  have hd := s.at?_delete doc
  rw [e, hc, Option.map_some, Option.some.injEq] at hd
  exact Value.deleteAt_ne hv hd.symm

end Slot

/-! ### Slots of pointers -/

namespace Pointer

section Segment

variable (path s : String) (rest : List String) (items : List Value) (members : Members)

/-- A text can be shown, so what is wrong with it is the fault of the pointer. -/
theorem fixKey_array : fixKey (.array items) (.string s) =
    match Value.indexOfText s with
    | .ok i =>
      if i < items.length then .ok (.number (.int i))
      else .error (.pointer (.outOfRange (Text.quoted s)) none)
    | .error (.missingKey _) => .error (.pointer (.badIndex (Text.quoted s)) none)
    | .error f => .error f := rfl

theorem descend_fixKey : descend path (s :: rest) (.array items) =
    match fixKey (.array items) (.string s) with
    | .ok (.number (.int i)) => descend path rest (items.getD i.toNat .null)
    | .ok _ => descend path rest .null
    | .error f => .error f := rfl

/-- In front of an array a segment has to be the index of an element. -/
theorem descend_array : descend path (s :: rest) (.array items) =
    match Value.indexOfText s with
    | .ok i =>
      if i < items.length then descend path rest (items.getD i .null)
      else .error (.pointer (.outOfRange (Text.quoted s)) none)
    | .error (.missingKey _) => .error (.pointer (.badIndex (Text.quoted s)) none)
    | .error f => .error f := by
  rw [descend_fixKey, fixKey_array]
  cases Value.indexOfText s with
  | error f => cases f <;> rfl
  | ok i =>
      dsimp only
      split_ifs <;> rfl

theorem descend_object : descend path (s :: rest) (.object members) =
    descend path rest ((Members.find? s members).getD .null) := rfl

theorem keysAlong_nil (v : Value) : keysAlong [] v = [] := rfl

theorem keysAlong_array : keysAlong (s :: rest) (.array items) =
    match Value.indexOfText s with
    | .ok i => .index i :: keysAlong rest (items.getD i .null)
    | .error _ => [] := rfl

theorem keysAlong_object : keysAlong (s :: rest) (.object members) =
    .member s :: keysAlong rest ((Members.find? s members).getD .null) := rfl

end Segment

/-- Segments lead to the value at their keys; a member that is missing counts as null. -/
theorem at?_keysAlong {path : String} {c : Value} : ∀ {parts : List String} {v : Value},
    descend path parts v = .ok c → (Value.at? (keysAlong parts v) v).getD .null = c
  | [], v, h => by
      cases h
      rfl
  | s :: rest, .array items, h => by
      rw [descend_array] at h
      rw [keysAlong_array]
      cases hi : Value.indexOfText s with
      | error f =>
          rw [hi] at h
          cases f <;> contradiction
      | ok i =>
          rw [hi] at h
          dsimp only at h ⊢
          split_ifs at h with hlt
          rw [Value.at?_cons]
          have hc : (Value.array items).child? (.index i) = some (items.getD i .null) := by
            simp [Value.child?, hlt]
          rw [hc]
          exact at?_keysAlong h
  | s :: rest, .object members, h => by
      rw [descend_object] at h
      rw [keysAlong_object, Value.at?_cons]
      cases hm : Members.find? s members with
      | none =>
          rw [hm] at h
          have hc : (Value.object members).child? (.member s) = none := hm
          rw [hc]
          cases rest with
          | nil =>
              cases h
              rfl
          | cons s' rest => cases h
      | some w =>
          rw [hm] at h
          have hc : (Value.object members).child? (.member s) = some w := hm
          rw [hc]
          exact at?_keysAlong h
  | s :: rest, .null, h | s :: rest, .bool _, h | s :: rest, .number _, h
  | s :: rest, .string _, h | s :: rest, .tuple _, h | s :: rest, .bytes _, h
  | s :: rest, .foreign _, h => by cases h

/-- The parent of a pointer, if it is a container, is at its place. -/
theorem parent_place {p : Pointer} {doc c : Value} (h : p.parent doc = .ok c)
    (hc : c.isContainer = true) : Value.at? (p.parentPlace doc) doc = some c := by
  unfold parent at h
  split_ifs at h
  have hd := at?_keysAlong h
  unfold parentPlace
  cases ha : Value.at? (keysAlong p.parts doc) doc with
  | none =>
      rw [ha] at hd
      cases hd
      cases hc
  | some w =>
      rw [ha] at hd
      exact congrArg some hd

theorem insertionSlot_eq_ok {p : Pointer} {doc : Value} {slot : Slot} :
    p.insertionSlot doc = .ok slot ↔ ∃ c, p.parent doc = .ok c ∧ c.isContainer = true ∧
      c.insertionKey (.string (p.last.getD "")) = .ok slot.key ∧
      slot.container = p.parentPlace doc := by
  unfold insertionSlot
  constructor
  · intro h
    cases hp : p.parent doc with
    | error f => rw [hp] at h; cases h
    | ok c =>
        rw [hp] at h
        dsimp only at h
        split_ifs at h with hc
        cases hk : c.insertionKey (.string (p.last.getD "")) with
        | error f => rw [hk] at h; cases h
        | ok k =>
            rw [hk] at h
            cases h
            exact ⟨c, rfl, hc, hk, rfl⟩
  · rintro ⟨c, hp, hc, hk, hs⟩
    rw [hp]
    dsimp only
    rw [if_pos hc, hk, ← hs]
    rfl

/-- A place for a new value is open. -/
theorem open_of_insertionSlot {p : Pointer} {doc : Value} {slot : Slot}
    (h : p.insertionSlot doc = .ok slot) : slot.Open doc := by
  obtain ⟨c, hp, hc, hk, hs⟩ := insertionSlot_eq_ok.mp h
  exact ⟨c, hs ▸ parent_place hp hc, Value.insertionKey_eq_ok hk⟩

theorem locate_eq_ok {p : Pointer} {doc : Value} {place : Location} {k : Key}
    (h : p.locate doc = .ok place) (hk : place.key = some k) :
    ∃ last, p.last = some last ∧ p.parent doc = .ok place.container ∧
      place.container.existingKey (.string last) = .ok k := by
  unfold locate at h
  split at h
  · cases h
    cases hk
  · rename_i last hl
    split at h
    · cases h
      cases hk
    · cases h
    · rename_i c hp
      split at h
      · rename_i k' hk'
        cases h
        cases hk
        exact ⟨last, hl, hp, hk'⟩
      · cases h
        cases hk
      · cases h

theorem locate_of_existingKey {p : Pointer} {doc c : Value} {last : String} {k : Key}
    (hlast : p.last = some last) (hc : p.parent doc = .ok c)
    (hk : c.existingKey (.string last) = .ok k) : p.locate doc = .ok ⟨c, some k, true⟩ := by
  unfold locate
  rw [hlast]
  dsimp only
  rw [hc]
  dsimp only
  rw [hk]

theorem valueOrFail_of_existingKey {p : Pointer} {doc c v : Value} {last : String} {k : Key}
    (hlast : p.last = some last) (hc : p.parent doc = .ok c)
    (hk : c.existingKey (.string last) = .ok k) (hv : c.child? k = some v) :
    p.valueOrFail doc = .ok v := by
  have hlocate := locate_of_existingKey hlast hc hk
  have hroot : p.isRoot = false := by simp [isRoot, hlast]
  unfold valueOrFail leads value
  rw [hlocate, hroot]
  change Except.ok (valueAt ⟨c, some k, true⟩) = _
  rw [valueAt]
  dsimp only
  rw [hv]
  rfl

/-- What is found in a slot is the value of the pointer. -/
theorem existingSlot?_eq_some {p : Pointer} {doc : Value} {slot : Slot}
    (h : p.existingSlot? doc = .ok (some slot)) :
    slot.Filled doc ∧ ∃ v, slot.read? doc = some v ∧ p.value doc = .ok v := by
  unfold existingSlot? at h
  cases hl : p.locate doc with
  | error f => rw [hl] at h; cases h
  | ok place =>
      rw [hl] at h
      injection h with h
      dsimp only at h
      cases hk : place.key with
      | none => rw [hk] at h; cases h
      | some k =>
          rw [hk] at h
          cases h
          obtain ⟨last, hlast, hp, hkey⟩ := locate_eq_ok hl hk
          obtain ⟨v, hv⟩ := Value.existingKey_eq_ok hkey
          have hc := parent_place hp (Value.isContainer_of_child? hv)
          refine ⟨⟨_, v, hc, hv⟩, v, Slot.read?_of_child? hc hv, ?_⟩
          have hr : p.isRoot = false := by simp [isRoot, hlast]
          unfold value
          rw [hr, hl, if_neg (by simp)]
          change Except.ok (valueAt place) = _
          rw [valueAt, hk]
          dsimp only
          rw [hv]
          rfl

/-- A pointer that leads somewhere else than to the document itself leads to a slot. -/
theorem existingSlot?_of_leads {p : Pointer} {doc : Value} (hr : p.isRoot = false)
    (h : p.leads doc = .ok true) : ∃ slot, p.existingSlot? doc = .ok (some slot) := by
  unfold leads at h
  cases hl : p.locate doc with
  | error f => rw [hl] at h; cases h
  | ok place =>
      rw [hl] at h
      injection h with h
      unfold existingSlot?
      rw [hl]
      cases hk : place.key with
      | some k => exact ⟨⟨p.parentPlace doc, k⟩, by simp [Except.map, hk]⟩
      | none =>
          unfold locate at hl
          split at hl
          · rename_i hlast
            cases hl
            simp [isRoot, hlast] at hr
            simp [hr] at h
          · split at hl
            · cases hl
              cases h
            · cases hl
            · split at hl
              · cases hl
                cases hk
              · cases hl
                cases h
              · cases hl

/-- A pointer that leads nowhere leads to no slot. -/
theorem existingSlot?_of_absent {p : Pointer} {doc : Value} (h : p.leads doc = .ok false) :
    p.existingSlot? doc = .ok none := by
  unfold leads at h
  cases hl : p.locate doc with
  | error f => rw [hl] at h; cases h
  | ok place =>
      rw [hl] at h
      injection h with h
      cases hk : place.key with
      | none => simp [existingSlot?, hl, Except.map, hk]
      | some k =>
          obtain ⟨last, hlast, hc, hkey⟩ := locate_eq_ok hl hk
          rw [locate_of_existingKey hlast hc hkey] at hl
          have hfound := congrArg Location.found (Except.ok.inj hl)
          cases hfound.trans h

/-- A pointer to a value that is there leads to its slot. -/
theorem existingSlot?_of_valueOrFail {p : Pointer} {doc v : Value} (hr : p.isRoot = false)
    (h : p.valueOrFail doc = .ok v) :
    ∃ slot, p.existingSlot? doc = .ok (some slot) ∧ slot.read? doc = some v := by
  unfold valueOrFail at h
  split at h
  · cases h
  · cases h
  · rename_i hl
    obtain ⟨slot, hs⟩ := existingSlot?_of_leads hr hl
    obtain ⟨-, w, hw, hp⟩ := existingSlot?_eq_some hs
    rw [hp] at h
    cases h
    exact ⟨slot, hs, hw⟩

end Pointer
end JsonPatch
