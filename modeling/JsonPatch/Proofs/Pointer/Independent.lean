import JsonPatch.Proofs.Pointer.Frame

/-! # Changes beside the way of a pointer

A change of a container may touch what is at one key only (`Touches`): all other tokens stand for
the keys that they have stood for, and other parts can be changed before it or after it.  A pointer
whose keys do not go through the touched one finds its container again, perhaps changed inside, and
its key there (`parent_beside`).  Two changes at keys of which neither go through the others
commute (`modifyAt_comm`). -/

namespace JsonPatch

open Value (modifyAt modifyChild)

/-- A change of a container touches nothing but what is at a key. -/
structure Touches (k : Key) (g : Value → Value) (c : Value) : Prop where
  enters : ∀ {s j w}, Pointer.enter? s c = some (j, w) → j ≠ k →
    Pointer.enter? s (g c) = some (j, w)
  existing : ∀ {token j}, c.existingKey (.string token) = .ok j → j ≠ k →
    (g c).existingKey (.string token) = .ok j
  insertion : ∀ {token j}, c.insertionKey (.string token) = .ok j → j ≠ k →
    (g c).insertionKey (.string token) = .ok j
  commutes : ∀ {j} (f : Value → Value), j ≠ k → g (modifyChild j f c) = modifyChild j f (g c)

namespace Value

theorem insertionKey_modifyChild (k : Key) (f : Value → Value) (c : Value) (token : String) :
    (modifyChild k f c).insertionKey (.string token) = c.insertionKey (.string token) := by
  cases c with
  | array items =>
      cases k with
      | index i => simp only [modifyChild, insertionKey, List.length_modify]
      | member name => rfl
  | object members => cases k <;> rfl
  | _ => rfl

theorem touches_modifyChild (k : Key) (f : Value → Value) (c : Value) :
    Touches k (modifyChild k f) c where
  enters h hj := Pointer.enter?_modifyChild_ne h hj f
  existing h _ := (existingKey_modifyChild k f c _).trans h
  insertion h _ := (insertionKey_modifyChild k f c _).trans h
  commutes g hj := modifyChild_comm (Ne.symm hj) f g c

/-- What changes the members of an object and leaves all but one as they are. -/
theorem touches_members {name : String} {g : Value → Value} {h : Members → Members}
    {members : Members} (hg : ∀ members, g (object members) = object (h members))
    (hfind : ∀ name', name' ≠ name →
      Members.find? name' (h members) = Members.find? name' members)
    (hmodify : ∀ name' f, name ≠ name' →
      h (Members.modify name' f members) = Members.modify name' f (h members)) :
    Touches (.member name) g (object members) where
  enters := by
    intro s j w hs hj
    cases hs
    rw [hg, Pointer.enter?_object, hfind s fun e => hj (by rw [e])]
  existing := by
    intro token j ht hj
    obtain ⟨rfl, hhas⟩ := existingKey_object.mp ht
    rw [hg]
    refine existingKey_object.mpr ⟨rfl, ?_⟩
    rw [Members.has, hfind token fun e => hj (by rw [e])]
    exact hhas
  insertion := by
    intro token j ht _
    rw [hg]
    exact ht
  commutes := by
    intro j f hj
    cases j with
    | index i => simp only [modifyChild, hg]
    | member name' => simp only [modifyChild, hg, hmodify name' f fun e => hj (by rw [e])]

/-- A change that touches one key, and one at keys that neither go through it nor end before it, can
be made in either order. -/
theorem modifyAt_comm {g : Value → Value} {k : Key} {c : Value} (hg : Touches k g c)
    (f : Value → Value) :
    ∀ (place keys : List Key) (v : Value), v.at? place = some c → ¬ keys <+: place ++ [k] →
      ¬ place ++ [k] <+: keys →
      modifyAt keys f (modifyAt place g v) = modifyAt place g (modifyAt keys f v)
  | place, [], _, _, hshort, _ => absurd List.nil_prefix hshort
  | [], j :: keys, v, hat, _, hlong => by
      cases hat
      have hj : j ≠ k := fun e => hlong (List.cons_prefix_cons.mpr ⟨e.symm, List.nil_prefix⟩)
      exact (hg.commutes (modifyAt keys f) hj).symm
  | i :: place, j :: keys, v, hat, hshort, hlong => by
      rw [modifyAt, modifyAt, modifyAt, modifyAt]
      by_cases hij : j = i
      · subst hij
        rw [at?_cons] at hat
        obtain ⟨u, hu, hat⟩ := Option.bind_eq_some_iff.mp hat
        rw [modifyChild_modifyChild, modifyChild_modifyChild]
        refine modifyChild_congr hu (modifyAt_comm hg f place keys u hat ?_ ?_)
        · exact fun h => hshort (List.cons_prefix_cons.mpr ⟨rfl, h⟩)
        · exact fun h => hlong (List.cons_prefix_cons.mpr ⟨rfl, h⟩)
      · exact modifyChild_comm hij _ _ v

end Value

namespace Pointer

section Beside

variable {k k' : Key} {g : Value → Value} {o c : Value}

/-- A container that is found again after a change elsewhere, with the same key in it. -/
structure SameKey (c c' : Value) (k : Key) : Prop where
  existing : ∀ token, c.existingKey (.string token) = .ok k → c'.existingKey (.string token) = .ok k
  insertion : ∀ token, c.insertionKey (.string token) = .ok k →
    c'.insertionKey (.string token) = .ok k

/-- Segments that do not go through the touched key lead to their container again. -/
theorem descend_beside {path : String} (ht : Touches k' g o) (hc : c.isContainer = true) :
    ∀ (place : List Key) (parts : List String) (v : Value), descend path parts v = .ok c →
      v.at? place = some o → ¬ place ++ [k'] <+: keysAlong parts v ++ [k] →
      keysAlong parts (modifyAt place g v) = keysAlong parts v ∧
        ∃ c', descend path parts (modifyAt place g v) = .ok c' ∧ SameKey c c' k
  | [], [], v, hd, hat, hapart => by
      cases hd
      cases hat
      have hk : k ≠ k' := by
        rintro rfl
        exact hapart (by simp [keysAlong_nil])
      exact ⟨rfl, _, rfl, fun _ h => ht.existing h hk,
        fun _ h => ht.insertion h hk⟩
  | i :: place, [], v, hd, hat, hapart => by
      cases hd
      refine ⟨rfl, _, rfl, fun token h => ?_, fun token h => ?_⟩
      · exact (Value.existingKey_modifyChild i (modifyAt place g) c _).trans h
      · exact (Value.insertionKey_modifyChild i (modifyAt place g) c _).trans h
  | place, s :: parts, v, hd, hat, hapart => by
      cases he : enter? s v with
      | none => exact absurd hd (descend_stuck he path parts c)
      | some step =>
          obtain ⟨j, w⟩ := step
          rw [descend_cons path parts he] at hd
          rw [keysAlong_cons parts he] at hapart ⊢
          cases place with
          | nil =>
              cases hat
              have hj : j ≠ k' := by
                rintro rfl
                exact hapart (by simp)
              have he' := ht.enters he hj
              rw [modifyAt, keysAlong_cons parts he', descend_cons path parts he']
              exact ⟨rfl, c, hd, fun _ h => h, fun _ h => h⟩
          | cons i place =>
              rw [modifyAt]
              by_cases hji : j = i
              · subst hji
                rw [Value.at?_cons] at hat
                obtain ⟨u, hu, hat⟩ := Option.bind_eq_some_iff.mp hat
                obtain rfl := eq_of_enter? he hu
                have he' := enter?_modifyChild_self he (isContainer_of_descend hd hc)
                  (modifyAt place g)
                obtain ⟨hkeys, c', hd', hsame⟩ := descend_beside ht hc place parts w hd hat
                  fun h => hapart (List.cons_prefix_cons.mpr ⟨rfl, h⟩)
                rw [keysAlong_cons parts he', descend_cons path parts he', hkeys]
                exact ⟨rfl, c', hd', hsame⟩
              · have he' := enter?_modifyChild_ne he hji (modifyAt place g)
                rw [keysAlong_cons parts he', descend_cons path parts he']
                exact ⟨rfl, c, hd, fun _ h => h, fun _ h => h⟩

variable {p : Pointer} {doc : Value} {place : List Key}

/-- A pointer that does not go through the touched key finds its container again. -/
theorem parent_beside (ht : Touches k' g o) (hat : doc.at? place = some o)
    (h : p.parent doc = .ok c) (hc : c.isContainer = true)
    (hapart : ¬ place ++ [k'] <+: p.parentPlace doc ++ [k]) :
    p.parentPlace (modifyAt place g doc) = p.parentPlace doc ∧
      ∃ c', p.parent (modifyAt place g doc) = .ok c' ∧ SameKey c c' k := by
  unfold parent at h ⊢
  split_ifs at h ⊢
  exact descend_beside ht hc place p.parts doc h hat hapart

/-- The keys on the way to a container, and then those of further segments. -/
theorem keysAlong_append {path : String} (more : List String) {parts : List String} {v : Value}
    (h : descend path parts v = .ok c) :
    keysAlong (parts ++ more) v = keysAlong parts v ++ keysAlong more c := by
  induction parts generalizing v with
  | nil =>
      cases h
      rfl
  | cons s parts ih =>
      cases he : enter? s v with
      | none => exact absurd h (descend_stuck he path parts c)
      | some step =>
          obtain ⟨j, w⟩ := step
          rw [descend_cons path parts he] at h
          rw [List.cons_append, keysAlong_cons _ he, keysAlong_cons _ he, ih h, List.cons_append]

/-- The keys of a pointer are the place of its container and the key that its last segment stands
for. -/
theorem keys_of_parent {last : String} (hlast : p.last = some last) (h : p.parent doc = .ok c) :
    p.keys doc = p.parentPlace doc ++ keysAlong [last] c := by
  unfold parent at h
  split_ifs at h
  rw [keys, segments, hlast]
  exact keysAlong_append [last] h

end Beside

end Pointer
end JsonPatch
