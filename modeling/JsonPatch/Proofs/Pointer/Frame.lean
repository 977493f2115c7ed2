import JsonPatch.Proofs.Outcome
import JsonPatch.Proofs.Pointer.Slot

/-! # Pointers in a changed document

A pointer is followed again after the value at one place has been changed.  If its parent is the
changed container, it leads to what this has become, at the same place (`parent_modifyAt`).  If its
keys part from the place before the place ends, it finds exactly what it has found before
(`Leaves.resolvesAlike`).

Both go by the single steps to a parent: `enter?` is such a step, and a change at another key, or
further down, lets the step through. -/

namespace JsonPatch

namespace Value

/-- What has a part further down is a container. -/
theorem isContainer_of_at? {place : List Key} {v w : Value} (h : v.at? place = some w)
    (hne : place ≠ []) : v.isContainer = true := by
  cases place with
  | nil => exact absurd rfl hne
  | cons k rest =>
      rw [at?_cons] at h
      obtain ⟨u, hu, -⟩ := Option.bind_eq_some_iff.mp h
      exact isContainer_of_child? hu

/-- A container has the same keys after one of its parts has been changed. -/
theorem existingKey_modifyChild (k : Key) (f : Value → Value) (c key : Value) :
    (modifyChild k f c).existingKey key = c.existingKey key := by
  cases c with
  | array items =>
      cases k with
      | index i => simp only [modifyChild, existingKey, List.length_modify]
      | member name => rfl
  | object members =>
      cases k with
      | index i => rfl
      | member name =>
          cases key with
          | string name' =>
              have hhas : Members.has name' (Members.modify name f members) =
                  Members.has name' members := by
                rw [Bool.eq_iff_iff, Members.has_iff, Members.has_iff, Members.names_modify]
              simp only [modifyChild, existingKey, hhas]
          | _ => rfl
  | _ => rfl

end Value

namespace Pointer

/-! ### Single steps -/

/-- One step on the way to a parent: the key that a segment stands for, and what is there.  A member
that is missing counts as null. -/
def enter? (s : String) : Value → Option (Key × Value)
  | .array items =>
    match Value.indexOfText s with
    | .ok i => (items[i]?).map fun w => (.index i, w)
    | .error _ => none
  | .object members => some (.member s, (Members.find? s members).getD .null)
  | _ => none

section Step

variable {path s : String} {rest : List String} {v w : Value} {k : Key}

theorem enter?_object (s : String) (members : Members) :
    enter? s (.object members) = some (.member s, (Members.find? s members).getD .null) := rfl

theorem enter?_items (s : String) (items : List Value) : enter? s (.array items) =
    match Value.indexOfText s with
    | .ok i => (items[i]?).map fun w => (.index i, w)
    | .error _ => none := rfl

theorem enter?_of_index {i : Nat} (hi : Value.indexOfText s = .ok i) (items : List Value) :
    enter? s (.array items) = (items[i]?).map fun w => (.index i, w) := by
  rw [enter?_items, hi]

theorem enter?_of_no_index {f : Fault} (hi : Value.indexOfText s = .error f) (items : List Value) :
    enter? s (.array items) = none := by
  rw [enter?_items, hi]

theorem enter?_array {items : List Value} (h : enter? s (.array items) = some (k, w)) :
    ∃ i, Value.indexOfText s = .ok i ∧ k = .index i ∧ items[i]? = some w := by
  cases hi : Value.indexOfText s with
  | error f => rw [enter?_of_no_index hi] at h; cases h
  | ok i =>
      rw [enter?_of_index hi] at h
      obtain ⟨w', hw', he⟩ := Option.map_eq_some_iff.mp h
      cases he
      exact ⟨i, rfl, rfl, hw'⟩

/-- What a step enters is the part at its key, if there is one. -/
theorem eq_of_enter? (h : enter? s v = some (k, w)) {u : Value} (hu : v.child? k = some u) :
    w = u := by
  cases v with
  | array items =>
      obtain ⟨i, -, rfl, hw⟩ := enter?_array h
      exact Option.some.inj (hw.symm.trans hu)
  | object members =>
      cases h
      have hu : Members.find? s members = some u := hu
      rw [hu, Option.getD_some]
  | _ => cases h

theorem descend_cons (path : String) (rest : List String) (h : enter? s v = some (k, w)) :
    descend path (s :: rest) v = descend path rest w := by
  cases v with
  | array items =>
      obtain ⟨i, hi, rfl, hw⟩ := enter?_array h
      obtain ⟨hlt, -⟩ := List.getElem?_eq_some_iff.mp hw
      rw [descend_array, hi]
      dsimp only
      rw [if_pos hlt, List.getD_eq_getElem?_getD, hw, Option.getD_some]
  | object members =>
      cases h
      rfl
  | _ => cases h

theorem keysAlong_cons (rest : List String) (h : enter? s v = some (k, w)) :
    keysAlong (s :: rest) v = k :: keysAlong rest w := by
  cases v with
  | array items =>
      obtain ⟨i, hi, rfl, hw⟩ := enter?_array h
      have hget : items.getD i .null = w := by rw [List.getD_eq_getElem?_getD, hw, Option.getD_some]
      rw [keysAlong_array, hi]
      exact congrArg (fun w => Key.index i :: keysAlong rest w) hget
  | object members =>
      cases h
      rfl
  | _ => cases h

theorem descend_stuck (h : enter? s v = none) (path : String) (rest : List String) (c : Value) :
    descend path (s :: rest) v ≠ .ok c := by
  intro hd
  cases v with
  | array items =>
      rw [descend_array] at hd
      cases hi : Value.indexOfText s with
      | error f =>
          rw [hi] at hd
          cases f <;> contradiction
      | ok i =>
          rw [hi] at hd
          rw [enter?_of_index hi, Option.map_eq_none_iff, List.getElem?_eq_none_iff] at h
          dsimp only at hd
          rw [if_neg (Nat.not_lt_of_le h)] at hd
          cases hd
  | object members => cases h
  | _ => cases hd

/-- Where no step is possible, none is possible after a change of a part. -/
theorem stuck_modifyChild (h : enter? s v = none) (path : String) (rest : List String) (k : Key)
    (f : Value → Value) :
    descend path (s :: rest) (Value.modifyChild k f v) = descend path (s :: rest) v ∧
      keysAlong (s :: rest) (Value.modifyChild k f v) = keysAlong (s :: rest) v := by
  cases v with
  | array items =>
      cases k with
      | member name => exact ⟨rfl, rfl⟩
      | index j =>
          simp only [Value.modifyChild, descend_array, keysAlong_array, List.length_modify]
          cases hi : Value.indexOfText s with
          | error e => cases e <;> exact ⟨rfl, rfl⟩
          | ok i =>
              rw [enter?_of_index hi, Option.map_eq_none_iff, List.getElem?_eq_none_iff] at h
              simp [Nat.not_lt_of_le h]
  | object members => cases h
  | _ => exact ⟨rfl, rfl⟩

/-- A step to a container leads to what this has become. -/
theorem enter?_modifyChild_self (h : enter? s v = some (k, w)) (hw : w.isContainer = true)
    (f : Value → Value) : enter? s (Value.modifyChild k f v) = some (k, f w) := by
  cases v with
  | array items =>
      obtain ⟨i, hi, rfl, hget⟩ := enter?_array h
      simp [Value.modifyChild, enter?_of_index hi, hget]
  | object members =>
      cases h
      cases hm : Members.find? s members with
      | none => rw [hm] at hw; cases hw
      | some x => simp [Value.modifyChild, enter?_object, Members.find?_modify_self, hm]
  | _ => cases h

theorem enter?_modifyChild_ne (h : enter? s v = some (k, w)) {k' : Key} (hk : k ≠ k')
    (f : Value → Value) : enter? s (Value.modifyChild k' f v) = some (k, w) := by
  cases v with
  | array items =>
      obtain ⟨i, hi, rfl, hget⟩ := enter?_array h
      cases k' with
      | member name => exact h
      | index j =>
          have hij : j ≠ i := fun e => hk (by rw [e])
          simp [Value.modifyChild, enter?_of_index hi, hget, hij]
  | object members =>
      cases h
      cases k' with
      | index j => rfl
      | member name =>
          have hn : s ≠ name := fun e => hk (by rw [e])
          simp [Value.modifyChild, enter?_object, Members.find?_modify_ne hn]
  | _ => cases h

/-- What leads to a container starts in one. -/
theorem isContainer_of_descend {parts : List String} {c : Value}
    (h : descend path parts v = .ok c) (hc : c.isContainer = true) : v.isContainer = true := by
  cases parts with
  | nil =>
      cases h
      exact hc
  | cons s rest =>
      cases v with
      | array items => rfl
      | object members => rfl
      | _ => cases h

end Step

/-! ### The parent itself changed -/

section Parent

variable {c : Value}

/-- Segments that lead to a container lead to what it has become. -/
theorem descend_modifyAt {path : String} {parts : List String} {v : Value}
    (h : descend path parts v = .ok c) (hc : c.isContainer = true) (f : Value → Value) :
    descend path parts (Value.modifyAt (keysAlong parts v) f v) = .ok (f c) ∧
      keysAlong parts (Value.modifyAt (keysAlong parts v) f v) = keysAlong parts v := by
  induction parts generalizing v with
  | nil =>
      cases h
      exact ⟨rfl, rfl⟩
  | cons s rest ih =>
      cases he : enter? s v with
      | none => exact absurd h (descend_stuck he path rest c)
      | some step =>
          obtain ⟨k, w⟩ := step
          rw [descend_cons path rest he] at h
          have he' := enter?_modifyChild_self he (isContainer_of_descend h hc)
            (Value.modifyAt (keysAlong rest w) f)
          obtain ⟨hd, hk⟩ := ih h
          rw [keysAlong_cons rest he, Value.modifyAt, descend_cons path rest he',
            keysAlong_cons rest he', hk]
          exact ⟨hd, rfl⟩

/-- When the parent of a pointer has been changed, the pointer leads to what it has become, at the
same place. -/
theorem parent_modifyAt {p : Pointer} {doc : Value} (h : p.parent doc = .ok c)
    (hc : c.isContainer = true) (f : Value → Value) :
    p.parent (Value.modifyAt (p.parentPlace doc) f doc) = .ok (f c) ∧
      p.parentPlace (Value.modifyAt (p.parentPlace doc) f doc) = p.parentPlace doc := by
  unfold parent at h ⊢
  split_ifs at h ⊢
  exact descend_modifyAt h hc f

end Parent

/-! ### Pointers that part from the change -/

/-- The keys that all segments of a pointer stand for. -/
def keys (p : Pointer) (root : Value) : List Key :=
  keysAlong p.segments root

/-- The pointer leaves the way to a place before its end: after some keys in common it has a further
segment, and this does not stand for the next key of the place. -/
def Leaves (p : Pointer) (place : List Key) (root : Value) : Prop :=
  ∃ common more k rest, p.keys root = common ++ more ∧ place = common ++ k :: rest ∧
    common.length < p.segments.length ∧ more.head? ≠ some k

/-- What a last segment is looked up as is the key that it stands for. -/
theorem keysAlong_of_existingKey {last : String} {c : Value} {k : Key}
    (h : c.existingKey (.string last) = .ok k) : keysAlong [last] c = [k] := by
  cases c with
  | array items =>
      obtain ⟨i, rfl, hi, -⟩ := Value.existingKey_array.mp h
      rw [keysAlong_array, hi]
      rfl
  | object members =>
      obtain ⟨rfl, -⟩ := Value.existingKey_object.mp h
      rfl
  | _ => cases h

/-- On a way that leaves the way to the changed place, the parent is as it was, or it has been
changed at a key that is not the last one of the way. -/
theorem descend_leaving (path : String) {last : String} (f : Value → Value) {k : Key}
    {more : List Key} (hk : more.head? ≠ some k) (rest : List Key) {c : Value} :
    ∀ (common : List Key) (parts : List String) (v : Value),
      keysAlong (parts ++ [last]) v = common ++ more → common.length ≤ parts.length →
      v.at? (common ++ k :: rest) = some c →
      keysAlong parts (Value.modifyAt (common ++ k :: rest) f v) = keysAlong parts v ∧
        (descend path parts (Value.modifyAt (common ++ k :: rest) f v) = descend path parts v ∨
          ∃ w g, descend path parts v = .ok w ∧
            descend path parts (Value.modifyAt (common ++ k :: rest) f v) =
              .ok (Value.modifyChild k g w) ∧
            ∀ key, w.existingKey (.string last) = .ok key → key ≠ k)
  | [], [], v, h, _, _ => by
      refine ⟨rfl, .inr ⟨v, Value.modifyAt rest f, rfl, rfl, ?_⟩⟩
      rintro key hkey rfl
      rw [List.nil_append, List.nil_append, keysAlong_of_existingKey hkey] at h
      rw [← h] at hk
      exact hk rfl
  | _ :: _, [], _, _, hlength, _ => absurd hlength (Nat.not_succ_le_zero _)
  | [], s :: parts, v, h, _, _ => by
      cases he : enter? s v with
      | none =>
          obtain ⟨hd, hkeys⟩ := stuck_modifyChild he path parts k (Value.modifyAt rest f)
          exact ⟨hkeys, .inl hd⟩
      | some step =>
          obtain ⟨k₀, w⟩ := step
          rw [List.cons_append, keysAlong_cons _ he, List.nil_append] at h
          have hne : k₀ ≠ k := by
            rintro rfl
            rw [← h] at hk
            exact hk rfl
          have he' := enter?_modifyChild_ne he hne (Value.modifyAt rest f)
          rw [List.nil_append, Value.modifyAt, keysAlong_cons parts he', keysAlong_cons parts he,
            descend_cons path parts he', descend_cons path parts he]
          exact ⟨rfl, .inl rfl⟩
  | k₀ :: common, s :: parts, v, h, hlength, hat => by
      cases he : enter? s v with
      | none =>
          obtain ⟨hd, hkeys⟩ := stuck_modifyChild he path parts k₀
            (Value.modifyAt (common ++ k :: rest) f)
          exact ⟨hkeys, .inl hd⟩
      | some step =>
          obtain ⟨k₁, w⟩ := step
          rw [List.cons_append, keysAlong_cons _ he, List.cons_append] at h
          obtain ⟨rfl, hrest⟩ := List.cons.inj h
          rw [List.cons_append, Value.at?_cons] at hat
          obtain ⟨u, hu, hat⟩ := Option.bind_eq_some_iff.mp hat
          obtain rfl := eq_of_enter? he hu
          have he' := enter?_modifyChild_self he (Value.isContainer_of_at? hat (by simp))
            (Value.modifyAt (common ++ k :: rest) f)
          obtain ⟨hkeys, hd⟩ :=
            descend_leaving path f hk rest common parts w hrest (Nat.le_of_succ_le_succ hlength) hat
          rw [List.cons_append, Value.modifyAt, keysAlong_cons parts he', keysAlong_cons parts he,
            descend_cons path parts he', descend_cons path parts he, hkeys]
          exact ⟨rfl, hd⟩

end Pointer

/-- The locations have the same key and the same value. -/
structure Location.Agrees (x y : Location) : Prop where
  key : x.key = y.key
  found : x.found = y.found
  value : Pointer.valueAt x = Pointer.valueAt y

theorem Location.Agrees.refl (x : Location) : x.Agrees x :=
  ⟨rfl, rfl, rfl⟩

namespace Pointer

/-- A pointer finds the same in two documents, or fails in both with the same fault. -/
structure ResolvesAlike (p : Pointer) (doc doc' : Value) : Prop where
  leads : p.leads doc' = p.leads doc
  value : p.value doc' = p.value doc
  valueOrFail : p.valueOrFail doc' = p.valueOrFail doc
  slot : p.existingSlot? doc' = p.existingSlot? doc

section Leaves

variable {p : Pointer} {last : String} {doc doc' : Value} {place : List Key}

theorem locate_leaving (hlast : p.last = some last) {c : Value} (hat : doc.at? place = some c)
    (h : p.Leaves place doc) (f : Value → Value) :
    p.parentPlace (Value.modifyAt place f doc) = p.parentPlace doc ∧
      Agree Eq Location.Agrees (p.locate (Value.modifyAt place f doc)) (p.locate doc) := by
  obtain ⟨common, more, k, rest, hkeys, rfl, hlength, hk⟩ := h
  have hsegments : p.segments = p.parts ++ [last] := by
    rw [segments, hlast]
    rfl
  rw [keys, hsegments] at hkeys
  rw [hsegments, List.length_append, List.length_singleton] at hlength
  obtain ⟨hplace, hdescend⟩ := descend_leaving p.path f hk rest common p.parts doc hkeys
    (Nat.le_of_lt_succ hlength) hat
  refine ⟨hplace, ?_⟩
  have hself : ∀ r : Except Fault Location, Agree Eq Location.Agrees r r := by
    intro r
    cases r with
    | ok x => exact .ok (.refl x)
    | error f => exact .error rfl
  unfold locate parent
  rw [hlast]
  dsimp only
  cases p.wellFormed with
  | false => exact hself _
  | true =>
      rcases hdescend with hd | ⟨w, g, hw, hd, hne⟩
      · simp only [hd]
        exact hself _
      · simp only [hd, hw, Bool.not_true, Bool.false_eq_true, if_false, Option.isNone_some,
          Value.existingKey_modifyChild]
        cases hkey : w.existingKey (.string last) with
        | ok key =>
            refine .ok ⟨rfl, rfl, ?_⟩
            simp only [valueAt, Value.child?_modifyChild_ne (hne key hkey)]
        | error e =>
            cases e with
            | missingKey _ => exact .ok ⟨rfl, rfl, rfl⟩
            | _ => exact .error rfl

theorem resolvesAlike_of_locate (hlast : p.last = some last)
    (hplace : p.parentPlace doc' = p.parentPlace doc)
    (h : Agree Eq Location.Agrees (p.locate doc') (p.locate doc)) : p.ResolvesAlike doc doc' := by
  have hroot : p.isRoot = false := by simp [isRoot, hlast]
  have hleads : p.leads doc' = p.leads doc := (h.map fun _ _ h => h.found).eq
  have hvalue : p.value doc' = p.value doc := by
    unfold value
    rw [hroot]
    exact (h.map fun _ _ h => h.value).eq
  refine ⟨hleads, hvalue, ?_, ?_⟩
  · unfold valueOrFail
    rw [hleads, hvalue]
  · unfold existingSlot?
    rw [hplace]
    exact (h.map fun _ _ h => by rw [h.key]).eq

/-- A pointer that leaves the way to the changed place finds what it has found before. -/
theorem Leaves.resolvesAlike {path : String} (h : (ofPath path).Leaves place doc) {c : Value}
    (hat : doc.at? place = some c) (f : Value → Value) :
    (ofPath path).ResolvesAlike doc (Value.modifyAt place f doc) := by
  cases hlast : (ofPath path).last with
  | some last =>
      obtain ⟨hplace, hlocate⟩ := locate_leaving hlast hat h f
      exact resolvesAlike_of_locate hlast hplace hlocate
  | none =>
      -- only the empty path has no last segment, and it has no other one either
      obtain ⟨common, -, -, -, -, -, hlength, -⟩ := h
      unfold ofPath at hlast hlength
      split_ifs at hlast hlength
      · exact absurd hlength (Nat.not_lt_zero _)

end Leaves

end Pointer
end JsonPatch
