import JsonPatch.Proofs.Patch.FirstFailure
import JsonPatch.Proofs.Patch.Write
import JsonPatch.Proofs.Pointer.Independent

/-! # Independent writes commute

A replacement, and any change inside an object, touches nothing but its own key
(`Change.touches`).  So a change at a pointer whose keys part from the touched ones meets its
container again (`Meets.beside`), and as the two changes commute on the document as well, their
order does not matter (`run_commute`).  Additions and removals inside an array are left out: they
shift the keys of other elements. -/

namespace JsonPatch

open Value (modifyAt modifyChild)

namespace Value

theorem assignAt_eq_modifyChild {c w : Value} {k : Key} (h : c.child? k = some w) (v : Value) :
    c.assignAt k v = modifyChild k (fun _ => v) c := by
  cases c with
  | array items =>
      cases k with
      | member name => rfl
      | index i =>
          have h : items[i]? = some w := h
          change array (items.set i v) = array (items.modify i fun _ => v)
          rw [List.modify_eq_set_getElem?, h]
          rfl
  | object members =>
      cases k with
      | index i => rfl
      | member name => exact congrArg object (Members.modify_of_find? h fun _ => v).symm
  | _ => rfl

/-- Overwriting an element touches nothing but this element. -/
theorem touches_assignAt (i : Nat) (v : Value) (items : List Value) :
    Touches (.index i) (fun c => c.assignAt (.index i) v) (array items) := by
  have hg : (fun c : Value => c.assignAt (.index i) v) = modifyChild (.index i) fun _ => v := by
    funext c
    cases c with
    | array items =>
        change array (items.set i v) = array (items.modify i fun _ => v)
        rw [List.modify_eq_set_getElem?]
        cases h : items[i]? with
        | some w => rfl
        | none => exact congrArg array (List.set_eq_of_length_le (List.getElem?_eq_none_iff.mp h))
    | _ => rfl
  rw [hg]
  exact touches_modifyChild _ _ _

end Value

namespace Change

variable {w : Change} {q : Pointer} {doc c o : Value} {token : String} {k k' : Key}

/-- A change other than an addition or a removal inside an array. -/
def StaysInPlace (w : Change) (c : Value) : Prop :=
  (∃ v, w = replace v) ∨ ∃ members, c = .object members

/-- Such a change touches nothing but its own key. -/
theorem touches (h : w.StaysInPlace c) (hkey : w.key c token = .ok k) :
    Touches k (w.apply k) c := by
  cases c with
  | object members =>
      obtain rfl := key_object hkey
      cases w with
      | add v | replace v =>
          exact Value.touches_members (h := Members.put token v) (fun _ => rfl)
            (fun name hname => Members.find?_put_ne hname v members)
            fun name f hname => Members.put_modify_comm hname v f members
      | remove =>
          exact Value.touches_members (h := Members.erase token) (fun _ => rfl)
            (fun name hname => Members.find?_erase_ne hname members)
            fun name f hname => Members.erase_modify_comm hname f members
  | array items =>
      obtain ⟨v, rfl⟩ | ⟨members, hc⟩ := h
      · obtain ⟨i, rfl, -⟩ := key_array hkey
        exact Value.touches_assignAt i v items
      · cases hc
  | _ => cases w <;> cases hkey

/-- The keys of a pointer at which a change stays in its place. -/
theorem Meets.keys (h : w.Meets q doc token c k) (hw : w.StaysInPlace c) :
    q.keys doc = q.parentPlace doc ++ [k] := by
  have hkey := h.key
  have hkeys : Pointer.keysAlong [token] c = [k] := by
    obtain ⟨v, rfl⟩ | ⟨members, rfl⟩ := hw
    · exact Pointer.keysAlong_of_existingKey hkey
    · obtain rfl := key_object hkey
      rfl
  rw [Pointer.keys_of_parent h.last h.parent, hkeys]

/-- A change meets its container again after another one at a key that its own keys do not go
through. -/
theorem Meets.beside (h : w.Meets q doc token c k) {place : List Key} {g : Value → Value}
    (ht : Touches k' g o) (hat : doc.at? place = some o)
    (hapart : ¬ place ++ [k'] <+: q.parentPlace doc ++ [k]) :
    q.parentPlace (modifyAt place g doc) = q.parentPlace doc ∧
      ∃ c', w.Meets q (modifyAt place g doc) token c' k := by
  obtain ⟨hplace, c', hparent, hsame⟩ := Pointer.parent_beside ht hat h.parent h.isContainer hapart
  refine ⟨hplace, c', h.last, hparent, ?_⟩
  have hkey := h.key
  cases w with
  | add v => exact hsame.insertion token hkey
  | replace v => exact hsame.existing token hkey
  | remove => exact hsame.existing token hkey

/-- A replacement overwrites what is at its keys. -/
theorem Meets.replaced {v : Value} (h : (replace v).Meets q doc token c k) :
    modifyAt (q.parentPlace doc) ((replace v).apply k) doc =
      modifyAt (q.parentPlace doc ++ [k]) (fun _ => v) doc := by
  obtain ⟨u, hu⟩ := Value.existingKey_eq_ok h.key
  rw [Value.modifyAt_append]
  exact Value.modifyAt_congr h.at? (Value.assignAt_eq_modifyChild hu v)

end Change

namespace Patch

/-- A replacement at one pointer, and at another one a replacement, or an addition to an object, or
a removal of a member that is there, can be made in either order if the keys of neither pointer go
through those of the other. -/
theorem run_commute {p : Patch} (hp : p.IsStandard) {a b : Pointer} {v : Value} {w : Change}
    {d e : Descriptor} (hd : (Change.replace v).Asks d a) (he : w.Asks e b) {doc : Value}
    (hw : (∃ u, w = .replace u) ∨ ∃ members, b.parent doc = .ok (.object members))
    (hsd : p.Succeeds d doc) (hse : p.Succeeds e doc)
    (hthere : w = .remove → b.leads doc = .ok true)
    (hab : ¬ a.keys doc <+: b.keys doc) (hba : ¬ b.keys doc <+: a.keys doc) :
    p.AllSucceed [d, e] doc ∧ p.AllSucceed [e, d] doc ∧
      p.documentAfter [d, e] doc = p.documentAfter [e, d] doc := by
  obtain ⟨s, c, k, hm⟩ := hd.meets hp hsd (by intro h; cases h)
  obtain ⟨t, o, j, hm'⟩ := he.meets hp hse hthere
  have hstays : (Change.replace v).StaysInPlace c := .inl ⟨v, rfl⟩
  have hstays' : w.StaysInPlace o := by
    refine hw.imp_right ?_
    rintro ⟨members, hparent⟩
    exact ⟨members, Except.ok.inj (hm'.parent.symm.trans hparent)⟩
  have ht := Change.touches hstays hm.key
  have ht' := Change.touches hstays' hm'.key
  rw [hm.keys hstays, hm'.keys hstays'] at hab hba
  -- each change meets its container again after the other one
  obtain ⟨hplace, _, hm₁⟩ := hm.beside ht' hm'.at? hba
  obtain ⟨hplace', _, hm₁'⟩ := hm'.beside ht hm.at? hab
  obtain ⟨-, hdoc⟩ := hd.succeeds hp hm
  obtain ⟨-, hdoc'⟩ := he.succeeds hp hm'
  obtain ⟨hsecond, hdoc₂⟩ := hd.succeeds hp hm₁
  obtain ⟨hsecond', hdoc₂'⟩ := he.succeeds hp hm₁'
  rw [← hdoc'] at hsecond hdoc₂
  rw [← hdoc] at hsecond' hdoc₂'
  refine ⟨allSucceed_pair.mpr ⟨hsd, hsecond'⟩, allSucceed_pair.mpr ⟨hse, hsecond⟩, ?_⟩
  calc p.documentAfter [d, e] doc
      = modifyAt (b.parentPlace doc) (w.apply j)
          (modifyAt (a.parentPlace doc ++ [k]) (fun _ => v) doc) := by
        refine hdoc₂'.trans ?_
        rw [hdoc, hplace', hm.replaced]
    _ = modifyAt (a.parentPlace doc ++ [k]) (fun _ => v)
          (modifyAt (b.parentPlace doc) (w.apply j) doc) :=
        (Value.modifyAt_comm ht' _ _ _ doc hm'.at? hab hba).symm
    _ = p.documentAfter [e, d] doc := by
        refine Eq.symm (hdoc₂.trans ?_)
        rw [hdoc', hm₁.replaced, hplace]

/-- An element is replaced, and a member is added to the object beside it. -/
theorem run_commute_sibling :
    let doc : Value := .array [.object [("a", .null)], .object []]
    let x : Value := .number (.int 1)
    let replacing : Descriptor :=
      [("op", .string "replace"), ("path", .string "/0/a"), ("value", x)]
    (ofCore []).IsStandard ∧
      (Change.replace x).Asks replacing (Pointer.ofPath "/0/a") ∧
      (Change.add x).Asks (adding "/0/b" x) (Pointer.ofPath "/0/b") ∧
      (Pointer.ofPath "/0/b").parent doc = .ok (.object [("a", .null)]) ∧
      (ofCore []).Succeeds replacing doc ∧ (ofCore []).Succeeds (adding "/0/b" x) doc ∧
      (Pointer.ofPath "/0/a").keys doc = [.index 0, .member "a"] ∧
      (Pointer.ofPath "/0/b").keys doc = [.index 0, .member "b"] ∧
      (ofCore []).AllSucceed [replacing, adding "/0/b" x] doc ∧
      (ofCore []).AllSucceed [adding "/0/b" x, replacing] doc ∧
      (ofCore []).documentAfter [replacing, adding "/0/b" x] doc =
        (ofCore []).documentAfter [adding "/0/b" x, replacing] doc := by
  intro doc x replacing
  have hp : (ofCore []).IsStandard := ofCore_isStandard (by cbv)
  have hd : (Change.replace x).Asks replacing (Pointer.ofPath "/0/a") := .replace rfl rfl rfl
  have he : (Change.add x).Asks (adding "/0/b" x) (Pointer.ofPath "/0/b") := .add rfl rfl rfl
  have hparent : (Pointer.ofPath "/0/b").parent doc = .ok (.object [("a", .null)]) := rfl
  have hkeys : (Pointer.ofPath "/0/a").keys doc = [.index 0, .member "a"] := rfl
  have hkeys' : (Pointer.ofPath "/0/b").keys doc = [.index 0, .member "b"] := rfl
  refine ⟨hp, hd, he, hparent, rfl, rfl, hkeys, hkeys', ?_⟩
  exact run_commute hp hd he (.inr ⟨_, hparent⟩) rfl rfl (by intro h; cases h)
    (by rw [hkeys, hkeys']; decide) (by rw [hkeys, hkeys']; decide)

end Patch
end JsonPatch
