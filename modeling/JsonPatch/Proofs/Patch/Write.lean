import JsonPatch.Proofs.Patch.Turn
import JsonPatch.Proofs.Pointer.Frame
import JsonPatch.Proofs.Value.Distinct
import JsonPatch.Proofs.Value.Node

/-! # What one operation writes

Additions, replacements and removals change one container, the parent of their path.  `Change` says
which of them is asked for; where it finds its key (`Meets`), it succeeds, and the document is the
old one with that container changed (`succeeds_of_meets`).  `run_writes` says what can be read then:
at the path itself, inside the container (`Change.Inside`), and by every pointer that leaves the
path before its last key. -/

namespace JsonPatch

open Value (appendMarker indexOfText)

/-- A change of what is at one path. -/
inductive Change where
  | add (v : Value)
  | replace (v : Value)
  | remove

namespace Change

/-- The value that is put in. -/
def value? : Change → Option Value
  | add v => some v
  | replace v => some v
  | remove => none

/-- The key that a token stands for in the container to be changed. -/
def key (w : Change) (c : Value) (token : String) : Except Fault Key :=
  match w with
  | add _ => c.insertionKey (.string token)
  | replace _ => c.existingKey (.string token)
  | remove => c.existingKey (.string token)

/-- The container after the change. -/
def apply (w : Change) (k : Key) (c : Value) : Value :=
  match w with
  | add v => c.insertAt k v
  | replace v => c.assignAt k v
  | remove => c.deleteAt k

/-- A descriptor asks for a change at a pointer. -/
inductive Asks (d : Descriptor) (q : Pointer) : Change → Prop where
  | add {v : Value} (op : d.field "op" = .string "add")
    (path : Operation.pointerOf d "path" = .ok q) (value : Members.find? "value" d = some v) :
    Asks d q (.add v)
  | replace {v : Value} (op : d.field "op" = .string "replace")
    (path : Operation.pointerOf d "path" = .ok q) (value : Members.find? "value" d = some v) :
    Asks d q (.replace v)
  | remove (op : d.field "op" = .string "remove") (path : Operation.pointerOf d "path" = .ok q) :
    Asks d q .remove

/-- The change finds its container at the parent of a pointer, and its key there. -/
structure Meets (w : Change) (q : Pointer) (doc : Value) (token : String) (c : Value) (k : Key) :
    Prop where
  last : q.last = some token
  parent : q.parent doc = .ok c
  key : w.key c token = .ok k

/-! ### Carrying a change out -/

section Run

variable {w : Change} {q : Pointer} {doc c : Value} {token : String} {k : Key} {p : Patch}
  {d : Descriptor}

theorem Meets.isContainer (h : w.Meets q doc token c k) : c.isContainer = true := by
  have hkey := h.key
  cases w with
  | add v => exact (Value.insertionKey_eq_ok hkey).isContainer
  | replace v =>
      obtain ⟨u, hu⟩ := Value.existingKey_eq_ok hkey
      exact Value.isContainer_of_child? hu
  | remove =>
      obtain ⟨u, hu⟩ := Value.existingKey_eq_ok hkey
      exact Value.isContainer_of_child? hu

theorem Meets.at? (h : w.Meets q doc token c k) : doc.at? (q.parentPlace doc) = some c :=
  Pointer.parent_place h.parent h.isContainer

/-- The container that a change meets is settled by its pointer. -/
theorem Meets.container_eq {w' : Change} {c' : Value} {token' : String} {k' : Key}
    (h : w.Meets q doc token c k) (h' : w'.Meets q doc token' c' k') : token = token' ∧ c = c' :=
  ⟨Option.some.inj (h.last.symm.trans h'.last), Except.ok.inj (h.parent.symm.trans h'.parent)⟩

/-- So is its key. -/
theorem Meets.unique {c' : Value} {token' : String} {k' : Key}
    (h : w.Meets q doc token c k) (h' : w.Meets q doc token' c' k') :
    token = token' ∧ c = c' ∧ k = k' := by
  obtain ⟨rfl, rfl⟩ := h.container_eq h'
  exact ⟨rfl, rfl, Except.ok.inj (h.key.symm.trans h'.key)⟩

/-- After a change another one of the same pointer meets the changed container, at the same
place. -/
theorem Meets.after {w' : Change} {k' : Key} (h : w.Meets q doc token c k)
    (hkey : w'.key (w.apply k c) token = .ok k') :
    w'.Meets q (Value.modifyAt (q.parentPlace doc) (w.apply k) doc) token (w.apply k c) k' ∧
      q.parentPlace (Value.modifyAt (q.parentPlace doc) (w.apply k) doc) = q.parentPlace doc := by
  obtain ⟨hparent, hplace⟩ := Pointer.parent_modifyAt h.parent h.isContainer (w.apply k)
  exact ⟨⟨h.last, hparent, hkey⟩, hplace⟩

theorem existingSlot?_of_key (hlast : q.last = some token) (hc : q.parent doc = .ok c)
    (hk : c.existingKey (.string token) = .ok k) :
    q.existingSlot? doc = .ok (some ⟨q.parentPlace doc, k⟩) := by
  unfold Pointer.existingSlot?
  rw [Pointer.locate_of_existingKey hlast hc hk]
  rfl

/-- A change that finds its key succeeds, and nothing but its container is another one then. -/
theorem Asks.succeeds (hp : p.IsStandard) (h : Asks d q w) (hm : w.Meets q doc token c k) :
    p.Succeeds d doc ∧
      ((p.single d).run doc).document = Value.modifyAt (q.parentPlace doc) (w.apply k) doc := by
  have hkey := hm.key
  have hroot : q.isRoot = false := by simp [Pointer.isRoot, hm.last]
  rw [p.succeeds_iff 0, p.single_run_document 0]
  cases h with
  | @add v hop hpath hvalue =>
      have hslot : q.insertionSlot doc = .ok ⟨q.parentPlace doc, k⟩ := by
        refine Pointer.insertionSlot_eq_ok.mpr ⟨c, hm.parent, hm.isContainer, ?_, rfl⟩
        rw [hm.last]
        exact hkey
      have hown : d.field "value" = v := by rw [Descriptor.field, hvalue, Option.getD_some]
      obtain ⟨hdoc, herror⟩ := hp.turnOn_edit (i := 0) .add hop
        (Operation.add_eq_ok.mpr ⟨q, v, _, hpath, hvalue, hslot, rfl⟩)
      rw [hown] at hdoc
      exact ⟨herror, hdoc⟩
  | @replace v hop hpath hvalue =>
      have hslot := existingSlot?_of_key hm.last hm.parent hkey
      have hown : d.field "value" = v := by rw [Descriptor.field, hvalue, Option.getD_some]
      obtain ⟨hdoc, herror⟩ := hp.turnOn_edit (i := 0) .replace hop
        (Operation.replace_eq_ok.mpr ⟨q, v, _, hpath, hvalue, hslot, rfl⟩)
      rw [hown] at hdoc
      exact ⟨herror, hdoc⟩
  | remove hop hpath =>
      have hslot := existingSlot?_of_key hm.last hm.parent hkey
      obtain ⟨hdoc, herror⟩ := hp.turnOn_edit (i := 0) .remove hop
        (Operation.remove_eq_ok.mpr ⟨q, _, hpath, hroot, hslot, rfl⟩)
      exact ⟨herror, hdoc⟩

theorem meets_of_existingSlot? {slot : Slot} (h : q.existingSlot? doc = .ok (some slot)) :
    ∃ token c, q.last = some token ∧ q.parent doc = .ok c ∧
      c.existingKey (.string token) = .ok slot.key := by
  unfold Pointer.existingSlot? at h
  cases hl : q.locate doc with
  | error f => rw [hl] at h; cases h
  | ok x =>
      rw [hl] at h
      injection h with h
      obtain ⟨k, hk, rfl⟩ := Option.map_eq_some_iff.mp h
      obtain ⟨token, hlast, hc, hkey⟩ := Pointer.locate_eq_ok hl hk
      exact ⟨token, x.container, hlast, hc, hkey⟩

theorem container_of_existingSlot? {slot : Slot} (h : q.existingSlot? doc = .ok (some slot)) :
    slot.container = q.parentPlace doc := by
  obtain ⟨token, c, hlast, hc, hkey⟩ := meets_of_existingSlot? h
  rw [existingSlot?_of_key hlast hc hkey] at h
  injection h with h
  rw [← Option.some.inj h]

theorem meets_of_insertionSlot {v : Value} {slot : Slot} (h : q.insertionSlot doc = .ok slot) :
    slot.container = q.parentPlace doc ∧ ∃ token c, (add v).Meets q doc token c slot.key := by
  obtain ⟨c, hc, -, hkey, hplace⟩ := Pointer.insertionSlot_eq_ok.mp h
  refine ⟨hplace, ?_⟩
  cases hlast : q.last with
  | some token =>
      rw [hlast] at hkey
      exact ⟨token, c, hlast, hc, hkey⟩
  | none =>
      unfold Pointer.parent at hc
      rw [hlast] at hc
      split_ifs at hc
      contradiction

/-- A change that succeeds has found its key; a removal does if there is anything to be removed. -/
theorem Asks.meets (hp : p.IsStandard) (h : Asks d q w) (hs : p.Succeeds d doc)
    (hthere : w = .remove → q.leads doc = .ok true) : ∃ token c k, w.Meets q doc token c k := by
  cases h with
  | add hop hpath hvalue =>
      obtain ⟨e, he⟩ := hp.planned .add hop hs
      obtain ⟨q', -, slot, hpath', -, hslot, -⟩ := Operation.add_eq_ok.mp he
      obtain rfl : q = q' := Except.ok.inj (hpath.symm.trans hpath')
      obtain ⟨-, token, c, hm⟩ := meets_of_insertionSlot hslot
      exact ⟨token, c, slot.key, hm⟩
  | replace hop hpath hvalue =>
      obtain ⟨e, he⟩ := hp.planned .replace hop hs
      obtain ⟨q', -, slot, hpath', -, hslot, -⟩ := Operation.replace_eq_ok.mp he
      obtain rfl : q = q' := Except.ok.inj (hpath.symm.trans hpath')
      obtain ⟨token, c, hlast, hc, hkey⟩ := meets_of_existingSlot? hslot
      exact ⟨token, c, slot.key, hlast, hc, hkey⟩
  | remove hop hpath =>
      obtain ⟨e, he⟩ := hp.planned .remove hop hs
      obtain ⟨q', -, hpath', hroot, -, -⟩ := Operation.remove_eq_ok.mp he
      obtain rfl : q = q' := Except.ok.inj (hpath.symm.trans hpath')
      obtain ⟨slot, hslot⟩ := Pointer.existingSlot?_of_leads hroot (hthere rfl)
      obtain ⟨token, c, hlast, hc, hkey⟩ := meets_of_existingSlot? hslot
      exact ⟨token, c, slot.key, hlast, hc, hkey⟩

end Run

/-! ### Inside the container -/

/-- How many positions an array has for the change. -/
def room : Change → Nat → Nat
  | add _, n => n + 1
  | replace _, n => n
  | remove, n => n

/-- The length of an array after the change. -/
def length : Change → Nat → Nat
  | add _, n => n + 1
  | replace _, n => n
  | remove, n => n - 1

/-- Where an old element of an array is after a change at a position, if it is still there. -/
def shift (w : Change) (i j : Nat) : Option Nat :=
  match w with
  | add _ => some (if j < i then j else j + 1)
  | replace _ => if j = i then none else some j
  | remove => if j < i then some j else if j = i then none else some (j - 1)

/-- The position in an array of a length that a token stands for. -/
inductive Position : Change → String → Nat → Nat → Prop where
  | append {v : Value} {n : Nat} : Position (add v) appendMarker n n
  | index {w : Change} {token : String} {n i : Nat} (h : indexOfText token = .ok i)
    (hi : i < w.room n) : Position w token n i

/-- What a change makes of a container: of an object, where all other members keep their values, or
of an array, where the elements are shifted as the change and its position say. -/
inductive Inside (w : Change) (token : String) : Value → Value → Prop where
  | object {members members' : Members}
    (self : Members.find? token members' = w.value?)
    (others : ∀ name, name ≠ token →
      Members.find? name members' = Members.find? name members) :
    Inside w token (.object members) (.object members')
  | array {items items' : List Value} {i : Nat} (position : w.Position token items.length i)
    (length : items'.length = w.length items.length)
    (self : ∀ v, w.value? = some v → items'[i]? = some v)
    (others : ∀ j v, items[j]? = some v → ∀ j', w.shift i j = some j' → items'[j']? = some v) :
    Inside w token (.array items) (.array items')

section Inside

variable {w : Change} {c v : Value} {token : String} {k : Key}

theorem key_array {items : List Value} (h : w.key (.array items) token = .ok k) :
    ∃ i, k = .index i ∧ w.Position token items.length i := by
  cases w with
  | add v =>
      rcases Value.insertionKey_array.mp h with ⟨rfl, rfl⟩ | ⟨-, i, rfl, hi, hlt⟩
      · exact ⟨_, rfl, .append⟩
      · exact ⟨i, rfl, .index hi hlt⟩
  | replace v =>
      obtain ⟨i, rfl, hi, hlt⟩ := Value.existingKey_array.mp h
      exact ⟨i, rfl, .index hi hlt⟩
  | remove =>
      obtain ⟨i, rfl, hi, hlt⟩ := Value.existingKey_array.mp h
      exact ⟨i, rfl, .index hi hlt⟩

theorem key_object {members : Members} (h : w.key (.object members) token = .ok k) :
    k = .member token := by
  cases w with
  | add v =>
      cases h
      rfl
  | replace v => exact (Value.existingKey_object.mp h).1
  | remove => exact (Value.existingKey_object.mp h).1

theorem Position.lt_room {n i : Nat} (h : w.Position token n i) : i < w.room n := by
  cases h with
  | append => exact Nat.lt_succ_self _
  | index h hi => exact hi

/-- An array after a change at a position. -/
theorem apply_array {items : List Value} {i : Nat} (h : i < w.room items.length) :
    ∃ items', w.apply (.index i) (.array items) = .array items' ∧
      items'.length = w.length items.length ∧
      (∀ v, w.value? = some v → items'[i]? = some v) ∧
      ∀ j v, items[j]? = some v → ∀ j', w.shift i j = some j' → items'[j']? = some v := by
  cases w with
  | add x =>
      have hle : i ≤ items.length := Nat.le_of_lt_succ h
      obtain ⟨_, _, hc⟩ := Node.insertAt_changes (n := .array items) (k := .index i) hle x
      refine ⟨items.insertIdx i x, rfl, List.length_insertIdx_of_le_length hle _,
        fun v hv => hc.comes hv, ?_⟩
      intro j v hj j' hj'
      cases hj'
      exact hc.carried (a := .index j) hj rfl
  | replace x =>
      obtain ⟨_, hc⟩ := Node.assignAt_changes (n := .array items) (k := .index i)
        (List.getElem?_eq_getElem h) x
      refine ⟨items.set i x, rfl, List.length_set, fun v hv => hc.comes hv, ?_⟩
      intro j v hj j' hj'
      simp only [shift] at hj'
      split_ifs at hj' with hij
      cases hj'
      exact hc.carried (a := .index j) hj (if_neg fun e => hij (Key.index.inj e))
  | remove =>
      obtain ⟨_, hc⟩ := Node.deleteAt_changes (n := .array items) (k := .index i)
        (List.getElem?_eq_getElem h)
      refine ⟨items.eraseIdx i, rfl, List.length_eraseIdx_of_lt h, nofun, ?_⟩
      intro j v hj j' hj'
      refine hc.carried (a := .index j) (b := .index j') hj ?_
      simp only [shift] at hj'
      rw [Key.afterDelete]
      split_ifs at hj' ⊢ with hlt hij
      · omega
      · exact congrArg (Option.map Key.index) hj'
      · exact congrArg (Option.map Key.index) hj'

theorem inside_object {members : Members} (hn : (Members.names members).Nodup) (token : String) :
    w.Inside token (.object members) (w.apply (.member token) (.object members)) := by
  cases w with
  | add v =>
      exact .object (Members.find?_put_self token v members)
        fun name hname => Members.find?_put_ne hname v members
  | replace v =>
      exact .object (Members.find?_put_self token v members)
        fun name hname => Members.find?_put_ne hname v members
  | remove =>
      refine .object ?_ fun name hname => Members.find?_erase_ne hname members
      rw [Members.find?_erase hn, if_pos rfl]
      rfl

theorem inside_of_key (h : w.key c token = .ok k) (hn : c.HasDistinctNames) :
    w.Inside token c (w.apply k c) := by
  cases c with
  | array items =>
      obtain ⟨i, rfl, hi⟩ := key_array h
      obtain ⟨items', hitems', hlength, hself, hothers⟩ := apply_array hi.lt_room
      rw [hitems']
      exact .array hi hlength hself hothers
  | object members =>
      obtain rfl := key_object h
      exact inside_object (Value.hasDistinctNames_object.mp hn).1 token
  | _ => cases w <;> cases h

/-- A value that has been put in is found under its token, unless this is the append marker. -/
theorem existingKey_apply (h : w.key c token = .ok k) (hv : w.value? = some v)
    (hmarker : token = appendMarker → ∀ items, c ≠ .array items) :
    (w.apply k c).existingKey (.string token) = .ok k ∧ (w.apply k c).child? k = some v := by
  cases c with
  | object members =>
      obtain rfl := key_object h
      have hput : w.apply (.member token) (.object members) =
          .object (Members.put token v members) := by
        cases w <;> cases hv <;> rfl
      have hfind := Members.find?_put_self token v members
      rw [hput]
      refine ⟨Value.existingKey_object.mpr ⟨rfl, ?_⟩, hfind⟩
      rw [Members.has, hfind]
      rfl
  | array items =>
      obtain ⟨i, rfl, hi⟩ := key_array h
      cases hi with
      | append => exact absurd rfl (hmarker rfl items)
      | index hindex hroom =>
          obtain ⟨items', hitems', -, hself, -⟩ := apply_array hroom
          have hchild := hself v hv
          obtain ⟨hlt, -⟩ := List.getElem?_eq_some_iff.mp hchild
          rw [hitems']
          exact ⟨Value.existingKey_array.mpr ⟨i, rfl, hindex, hlt⟩, hchild⟩
  | _ => cases w <;> cases h

end Inside

/-! ### The whole document -/

/-- What can be read after a change. -/
structure Writes (w : Change) (q : Pointer) (doc doc' : Value) : Prop where
  inside : ∃ token c c', q.last = some token ∧ q.parent doc = .ok c ∧ q.parent doc' = .ok c' ∧
    q.parentPlace doc' = q.parentPlace doc ∧ w.Inside token c c'
  read : ∀ v, w.value? = some v →
    (q.last = some appendMarker → ∀ items, q.parent doc ≠ .ok (.array items)) →
    q.valueOrFail doc' = .ok v
  appended : ∀ v items, w.value? = some v → q.last = some appendMarker →
    q.parent doc = .ok (.array items) →
    ∃ items', q.parent doc' = .ok (.array items') ∧ items'.getLast? = some v
  gone : w = remove → ∀ members, q.parent doc = .ok (.object members) → q.leads doc' = .ok false
  elsewhere : ∀ path, (Pointer.ofPath path).Leaves (q.parentPlace doc) doc →
    (Pointer.ofPath path).ResolvesAlike doc doc'

theorem leads_of_absent {q : Pointer} {doc : Value} {token : String} {members : Members}
    (hlast : q.last = some token) (hc : q.parent doc = .ok (.object members))
    (hnone : Members.find? token members = none) : q.leads doc = .ok false := by
  have hhas : Members.has token members = false := by rw [Members.has, hnone]; rfl
  unfold Pointer.leads Pointer.locate
  rw [hlast]
  dsimp only
  rw [hc]
  dsimp only
  rw [Value.existingKey, hhas]
  rfl

theorem Meets.writes {w : Change} {q : Pointer} {doc c : Value} {token : String} {k : Key}
    (h : w.Meets q doc token c k) (hn : c.HasDistinctNames) :
    w.Writes q doc (Value.modifyAt (q.parentPlace doc) (w.apply k) doc) := by
  obtain ⟨hparent, hplace⟩ := Pointer.parent_modifyAt h.parent h.isContainer (w.apply k)
  have hinside := inside_of_key h.key hn
  refine ⟨⟨token, c, w.apply k c, h.last, h.parent, hparent, hplace, hinside⟩, ?_, ?_, ?_, ?_⟩
  · intro v hv hmarker
    obtain ⟨hkey, hchild⟩ := existingKey_apply h.key hv (by
      rintro rfl items rfl
      exact hmarker h.last items h.parent)
    exact Pointer.valueOrFail_of_existingKey h.last hparent hkey hchild
  · intro v items hv hlast hc
    obtain rfl : appendMarker = token := Option.some.inj (hlast.symm.trans h.last)
    obtain rfl : Value.array items = c := Except.ok.inj (hc.symm.trans h.parent)
    generalize w.apply k (.array items) = c' at hinside hparent
    cases hinside with
    | @array _ items' i position length self others =>
        refine ⟨items', hparent, ?_⟩
        cases position with
        | append =>
            rw [List.getLast?_eq_getElem?, length]
            exact self v hv
        | index hindex hi => exact absurd rfl (Value.ne_appendMarker hindex)
  · rintro rfl members hc
    obtain rfl : Value.object members = c := Except.ok.inj (hc.symm.trans h.parent)
    generalize remove.apply k (.object members) = c' at hinside hparent
    cases hinside with
    | object self others => exact leads_of_absent h.last hparent self
  · intro path hleaves
    exact hleaves.resolvesAlike h.at? _

end Change

namespace Patch

/-- What can be read after an addition, a replacement or a removal that has succeeded.  A removal
also succeeds where nothing is to be removed, so it is asked for that something is there. -/
theorem run_writes {p : Patch} (hp : p.IsStandard) {d : Descriptor} {q : Pointer}
    {w : Change} (hd : w.Asks d q) {doc : Value} (hn : doc.HasDistinctNames)
    (hs : p.Succeeds d doc) (hthere : w = .remove → q.leads doc = .ok true) :
    w.Writes q doc ((p.single d).run doc).document := by
  obtain ⟨token, c, k, hm⟩ := hd.meets hp hs hthere
  rw [(hd.succeeds hp hm).2]
  exact hm.writes (hn.at? hm.at?)

/-- A member is removed from an object that stands in an array. -/
theorem run_writes_member :
    let doc : Value := .array [.object [("a", .null), ("b", .number (.int 1))], .string "x"]
    (ofCore []).IsStandard ∧ Change.remove.Asks (removing "/0/a") (Pointer.ofPath "/0/a") ∧
      doc.HasDistinctNames ∧ (ofCore []).Succeeds (removing "/0/a") doc ∧
      (Pointer.ofPath "/0/a").leads doc = .ok true ∧
      Change.remove.Writes (Pointer.ofPath "/0/a") doc
        (.array [.object [("b", .number (.int 1))], .string "x"]) := by
  intro doc
  have hp : (ofCore []).IsStandard := ofCore_isStandard (by cbv)
  have hd : Change.remove.Asks (removing "/0/a") (Pointer.ofPath "/0/a") := .remove rfl rfl
  have hn : doc.HasDistinctNames := by decide
  exact ⟨hp, hd, hn, rfl, rfl, run_writes hp hd hn rfl fun _ => rfl⟩

end Patch
end JsonPatch
