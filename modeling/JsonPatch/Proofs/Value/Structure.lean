import JsonPatch.Proofs.Live.Copy
import JsonPatch.Proofs.Number.Exact
import JsonPatch.Proofs.Value.Distinct
import JsonPatch.Proofs.Value.Equal

/-! # Equality as structure

Two JSON values are equal if they are the same tree up to the order of members: `SameTree` says so
without a word of how values are compared, with numbers by their exact values.  Comparison decides
it, so it is symmetric and transitive, and reflexive but for `nan`; it does not see in which order
members come, at whatever place, nor does it take a truth value for a number (`equals_laws`). -/

namespace JsonPatch.Value

/-- A JSON value in whose objects no name comes twice. -/
structure IsRegular (v : Value) : Prop where
  json : v.IsJson
  distinct : v.HasDistinctNames

instance (v : Value) : Decidable v.IsRegular :=
  decidable_of_iff (v.IsJson ∧ v.HasDistinctNames)
    ⟨fun h => ⟨h.1, h.2⟩, fun h => ⟨h.json, h.distinct⟩⟩

/-- The values have the same shape, with elements in order and members in any order, and equal
content in their leaves. -/
inductive SameTree : Value → Value → Prop where
  | null : SameTree null null
  | bool (b : Bool) : SameTree (bool b) (bool b)
  | number {m n : Number} {q : Exact} (left : m.exactValue? = some q)
      (right : n.exactValue? = some q) : SameTree (number m) (number n)
  | string (s : String) : SameTree (string s) (string s)
  | array {l r : List Value} (length : l.length = r.length)
      (items : ∀ (i : Nat) a b, l[i]? = some a → r[i]? = some b → SameTree a b) :
      SameTree (array l) (array r)
  | object {l r : Members} (names : ∀ name, name ∈ Members.names l ↔ name ∈ Members.names r)
      (values : ∀ name a b, (name, a) ∈ l → (name, b) ∈ r → SameTree a b) :
      SameTree (object l) (object r)

variable {u v w : Value}

theorem Alike.sameTree (h : Alike v w) : SameTree v w := by
  induction h with
  | null => exact .null
  | bool b => exact .bool b
  | number equal =>
      obtain ⟨q, hm, hn⟩ := Number.eq_iff_exact.mp equal
      exact .number hm hn
  | string s => exact .string s
  | array length _ ih => exact .array length ih
  | object left right names _ ih =>
      refine .object (fun name => ?_) fun name a b ha hb => ?_
      · rw [← Members.has_iff, ← Members.has_iff, names]
      · exact ih name a b (Members.find?_of_mem left ha) (Members.find?_of_mem right hb)

theorem SameTree.alike (h : SameTree v w) (hv : v.HasDistinctNames) (hw : w.HasDistinctNames) :
    Alike v w := by
  induction h with
  | null => exact .null
  | bool b => exact .bool b
  | number left right => exact .number (Number.eq_iff_exact.mpr ⟨_, left, right⟩)
  | string s => exact .string s
  | array length _ ih =>
      rw [hasDistinctNames_array] at hv hw
      exact .array length fun i a b ha hb =>
        ih i a b ha hb (hv a (List.mem_of_getElem? ha)) (hw b (List.mem_of_getElem? hb))
  | object names _ ih =>
      rw [hasDistinctNames_object] at hv hw
      refine .object hv.1 hw.1 (fun name => ?_) fun name a b ha hb => ?_
      · rw [Bool.eq_iff_iff, Members.has_iff, Members.has_iff, names]
      · have ha := Members.mem_of_find? ha
        have hb := Members.mem_of_find? hb
        exact ih name a b ha hb (hv.2 _ ha) (hw.2 _ hb)

/-- Values that are alike have no `nan` in them. -/
theorem Alike.isNanFree (h : Alike v w) : v.IsNanFree := by
  induction h with
  | null => rfl
  | bool b => rfl
  | number equal => exact isNanFree_number.mpr (Number.eq_iff.mp equal).1
  | string s => rfl
  | array length _ ih =>
      refine isNanFree_array.mpr fun a ha => ?_
      obtain ⟨i, b, ha, hb⟩ := exists_element length ha
      exact ih i a b ha hb
  | object left _ names _ ih =>
      refine isNanFree_object.mpr fun m hm => ?_
      obtain ⟨ha, b, hb⟩ := exists_member left names hm
      exact ih m.1 _ b ha hb

/-! ### Other orders -/

/-- The same members in another order are alike to the same values. -/
theorem alike_perm {l r : Members} (hperm : l.Perm r) (hl : (Members.names l).Nodup) (x : Value) :
    Alike (object l) x ↔ Alike (object r) x := by
  have hr : (Members.names r).Nodup := (hperm.map _).nodup_iff.mp hl
  have hfind : ∀ name, Members.find? name l = Members.find? name r := by
    intro name
    cases hv : Members.find? name l with
    | some a =>
        have hmem := hperm.mem_iff.mp (Members.mem_of_find? hv)
        exact (Members.find?_of_mem hr hmem).symm
    | none =>
        rw [Members.find?_eq_none_iff] at hv
        have hnot : name ∉ Members.names r := fun hin => hv ((hperm.map _).mem_iff.mpr hin)
        exact (Members.find?_eq_none_iff.mpr hnot).symm
  cases x with
  | object members => simp only [alike_object, hl, hr, hfind]
  | _ => exact iff_of_false (fun h => by cases h) fun h => by cases h

theorem rel_some_left {a : Value} {y : Option Value} :
    Option.Rel Alike (some a) y ↔ ∃ b, y = some b ∧ Alike a b := by
  constructor
  · rintro (h | _)
    exact ⟨_, rfl, h⟩
  · rintro ⟨b, rfl, h⟩
    exact .some h

/-- A part may give way to one that is alike to the same values. -/
theorem alike_modifyChild {k : Key} {c : Value} {f : Value → Value} (hc : v.child? k = some c)
    (hf : ∀ x, Alike c x ↔ Alike (f c) x) (x : Value) :
    Alike v x ↔ Alike (v.modifyChild k f) x := by
  cases v with
  | array items =>
      cases k with
      | member name => cases hc
      | index i =>
          have hi : items[i]? = some c := hc
          cases x with
          | array r =>
              rw [modifyChild, alike_array, alike_array]
              refine forall_congr' fun j => ?_
              rw [List.getElem?_modify]
              by_cases hij : i = j
              · subst hij
                simp only [hi, if_true, Option.map_eq_map, Option.map_some, rel_some_left]
                exact exists_congr fun b => and_congr_right fun _ => hf b
              · simp [hij]
          | _ => exact iff_of_false (fun h => by cases h) fun h => by cases h
  | object members =>
      cases k with
      | index i => cases hc
      | member name =>
          have hm : Members.find? name members = some c := hc
          cases x with
          | object r =>
              rw [modifyChild, alike_object, alike_object, Members.names_modify]
              refine and_congr_right fun _ => and_congr_right fun _ => forall_congr' fun name' => ?_
              rw [Members.find?_modify]
              split_ifs with hn
              · subst hn
                rw [hm, Option.map_some, rel_some_left, rel_some_left]
                exact exists_congr fun b => and_congr_right fun _ => hf b
              · exact Iff.rfl
          | _ => exact iff_of_false (fun h => by cases h) fun h => by cases h
  | _ => cases hc

theorem alike_modifyAt {place : List Key} {c : Value} {f : Value → Value}
    (hc : v.at? place = some c) (hf : ∀ x, Alike c x ↔ Alike (f c) x) (x : Value) :
    Alike v x ↔ Alike (v.modifyAt place f) x := by
  induction place generalizing v x with
  | nil =>
      cases hc
      exact hf x
  | cons k place ih =>
      rw [at?_cons] at hc
      obtain ⟨u, hu, hrest⟩ := Option.bind_eq_some_iff.mp hc
      exact alike_modifyChild hu (fun y => ih hrest y) x

/-! ### Regular values -/

theorem isJson_at? {place : List Key} (h : v.IsJson) (hw : v.at? place = some w) : w.IsJson := by
  induction place generalizing v with
  | nil =>
      cases hw
      exact h
  | cons k place ih =>
      rw [at?_cons] at hw
      obtain ⟨u, hu, hw⟩ := Option.bind_eq_some_iff.mp hw
      exact ih (isJson_child? h hu) hw

namespace IsRegular

/-- Regular values are equal exactly if they are alike, and comparing them is no fault. -/
theorem equals (hv : v.IsRegular) (hw : w.IsRegular) :
    ∃ b, v.equals w = .ok b ∧ (b = true ↔ Alike v w) := by
  obtain ⟨b, hb⟩ := equals_answers hv.json hw.json
  have hiff := equals_iff hv.distinct hw.distinct
  rw [hb, Except.ok.injEq] at hiff
  exact ⟨b, hb, hiff⟩

/-- Comparisons that come to the same have the same answer. -/
theorem equals_congr {v' w' : Value} (hv : v.IsRegular) (hw : w.IsRegular) (hv' : v'.IsRegular)
    (hw' : w'.IsRegular) (h : Alike v w ↔ Alike v' w') : v.equals w = v'.equals w' := by
  obtain ⟨b, hb, hiff⟩ := hv.equals hw
  obtain ⟨b', hb', hiff'⟩ := hv'.equals hw'
  rw [hb, hb', Except.ok.injEq, Bool.eq_iff_iff, hiff, hiff', h]

theorem alike_comm : Alike v w ↔ Alike w v :=
  ⟨Alike.symm, Alike.symm⟩

/-- An object with its members in another order is a regular value, and so is the value around
it. -/
theorem reorder (h : v.IsRegular) {place : List Key} {l r : Members}
    (hat : v.at? place = some (.object l)) (hperm : l.Perm r) :
    (v.modifyAt place fun _ => .object r).IsRegular := by
  have hj := isJson_object.mp (isJson_at? h.json hat)
  obtain ⟨hn, hparts⟩ := hasDistinctNames_object.mp (h.distinct.at? hat)
  have hjson : (object r).IsJson := isJson_object.mpr fun m hm => hj m (hperm.mem_iff.mpr hm)
  have hdistinct : (object r).HasDistinctNames :=
    hasDistinctNames_object.mpr
      ⟨(hperm.map _).nodup_iff.mp hn, fun m hm => hparts m (hperm.mem_iff.mpr hm)⟩
  exact ⟨isJson_modifyAt h.json fun _ _ => hjson, h.distinct.modifyAt fun _ _ => hdistinct⟩

theorem alike_reorder (h : v.IsRegular) {place : List Key} {l r : Members}
    (hat : v.at? place = some (.object l)) (hperm : l.Perm r) (x : Value) :
    Alike v x ↔ Alike (v.modifyAt place fun _ => .object r) x :=
  alike_modifyAt hat
    (fun y => alike_perm hperm (hasDistinctNames_object.mp (h.distinct.at? hat)).1 y) x

end IsRegular

/-! ### The laws -/

/-- What comparing three JSON values says about them. -/
structure EqualsLaws (u v w : Value) : Prop where
  decides : ∃ b, u.equals v = .ok b ∧ (b = true ↔ SameTree u v)
  symm : u.equals v = v.equals u
  trans : u.equals v = .ok true → v.equals w = .ok true → u.equals w = .ok true
  refl : u.equals u = .ok true ↔ u.IsNanFree
  order : ∀ place l r, u.at? place = some (.object l) → l.Perm r →
    (u.modifyAt place fun _ => .object r).equals v = u.equals v ∧
      v.equals (u.modifyAt place fun _ => .object r) = v.equals u
  kinds : ∀ place b n, u.at? place = some (.bool b) → v.at? place = some (.number n) →
    u.equals v = .ok false ∧ v.equals u = .ok false
  copy : ∀ (cells : Live.Cells) p, cells.read? p = some u → u.IsNanFree →
    ∃ p' cells' u', cells.copy? p = some (p', cells') ∧ cells'.read? p' = some u' ∧
      u.equals u' = .ok true

/-- Equality of JSON values is that of trees up to the order of members: symmetric, transitive and,
where there is no `nan`, reflexive. The order of members is of no account, wherever they are, a
truth value is never a number, and a copy, in whatever cells, is equal to what has been copied. -/
theorem equals_laws (hu : u.IsRegular) (hv : v.IsRegular) (hw : w.IsRegular) :
    EqualsLaws u v w := by
  have hrefl : u.equals u = .ok true ↔ u.IsNanFree := by
    rw [equals_iff hu.distinct hu.distinct]
    exact ⟨Alike.isNanFree, Alike.refl hu.json hu.distinct⟩
  have hsymm : u.equals v = v.equals u := hu.equals_congr hv hv hu IsRegular.alike_comm
  refine ⟨?_, hsymm, fun huv hvw => ?_, hrefl, fun place l r hat hperm => ?_,
    fun place b n hb hn => ?_, fun cells p hread hnan => ?_⟩
  · obtain ⟨b, hb, hiff⟩ := hu.equals hv
    exact ⟨b, hb, hiff.trans ⟨Alike.sameTree, fun h => h.alike hu.distinct hv.distinct⟩⟩
  · rw [equals_iff hu.distinct hv.distinct] at huv
    rw [equals_iff hv.distinct hw.distinct] at hvw
    exact (equals_iff hu.distinct hw.distinct).mpr (huv.trans hvw)
  · have hreordered := hu.reorder hat hperm
    have hsame := hu.alike_reorder hat hperm v
    refine ⟨hreordered.equals_congr hv hu hv hsame.symm, hv.equals_congr hreordered hv hu ?_⟩
    rw [IsRegular.alike_comm, ← hsame, IsRegular.alike_comm]
  · have hunlike : ¬ Alike u v := by
      intro h
      have hparts := h.at? place
      rw [hb, hn] at hparts
      cases hparts with
      | some hpart => cases hpart
    obtain ⟨b, hb, hiff⟩ := hu.equals hv
    have hfalse : b = false := Bool.eq_false_iff.mpr (mt hiff.mp hunlike)
    rw [← hsymm, hb, hfalse]
    exact ⟨rfl, rfl⟩
  · obtain ⟨p', cells', hcopy, hread'⟩ := Live.Cells.copy?_read? hread
    exact ⟨p', cells', u, hcopy, hread', hrefl.mpr hnan⟩

/-- One as an integer and as a double, in objects with their members in different orders. -/
theorem equals_laws_mixed :
    let one : Number := .double (.finite false (1 * Nat.pow 2 Double.unitBits))
    let u := object [("a", number (.int 1)), ("b", array [bool true])]
    let v := object [("b", array [bool true]), ("a", number (.int 1))]
    let w := object [("b", array [bool true]), ("a", number one)]
    u.IsRegular ∧ v.IsRegular ∧ w.IsRegular ∧ EqualsLaws u v w ∧ u.equals w = .ok true := by
  intro one u v w
  have hu : u.IsRegular := ⟨rfl, by decide⟩
  have hregular : ∀ n, (object [("b", array [bool true]), ("a", number n)]).IsRegular :=
    fun n => ⟨rfl, rfl⟩
  have hv : v.IsRegular := hregular (.int 1)
  have hw : w.IsRegular := hregular one
  have hone : (Number.int 1).eq one = true := Number.int_eq_double 1
  have hsame : (Number.int 1).eq (.int 1) = true := Number.eq_refl rfl
  have huv : u.equals v = .ok true := by
    simp [u, v, equals, sameNames, equalMembers, equalItems, Members.has, Members.find?, kind,
      kind?, equalLeaves, hsame]
  have hvw : v.equals w = .ok true := by
    simp [v, w, equals, sameNames, equalMembers, equalItems, Members.has, Members.find?, kind,
      kind?, equalLeaves, hone]
  have hlaws := equals_laws hu hv hw
  exact ⟨hu, hv, hw, hlaws, hlaws.trans huv hvw⟩

end JsonPatch.Value
