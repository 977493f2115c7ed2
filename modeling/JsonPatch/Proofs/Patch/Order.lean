import JsonPatch.Proofs.Patch.Fate
import JsonPatch.Proofs.Patch.FirstFailure
import JsonPatch.Proofs.Value.Distinct

/-! # The order of members

Every object of a document after an operation is one of the document before, or it lies in a value
that the operation has put in and is as it was there.  `Edit.carry` tells the place of an old object
among the new ones, and its names are those that it had, in their order, without the one that the
operation has taken out; a new name may come after them (`Extends`).

* `Moves` says this of the one container that an edit changes, `origin` of the document around it.
* A move is a removal and an insertion, so it is followed back in two steps.
* `run_keeps_order` goes through the steps of a run, by induction on their number. -/

namespace JsonPatch

open Members (names)

/-- Names stay in their order, and at most one new name comes after them. -/
inductive Extends (old : List String) : List String → Prop where
  | same : Extends old old
  | last {name : String} (h : name ∉ old) : Extends old (old ++ [name])

/-- Names without the one that is taken out, if there is one. -/
def without (taken : Option String) (old : List String) : List String :=
  match taken with
  | some name => old.erase name
  | none => old

/-- The name of a member. -/
def Key.name? : Key → Option String
  | member name => some name
  | index _ => none

/-! ### One container -/

/-- What one container becomes: a part of the new one is the new part or an old one at the key that
`carry` says, and the names of an object stand in a relation to the old ones. -/
structure Moves (c c' : Value) (carry : Key → Option Key) (k : Key) (new : Option Value)
    (R : List String → List String → Prop) : Prop where
  parts : ∀ {k' x}, c'.child? k' = some x →
    (k' = k ∧ new = some x) ∨ ∃ k'', carry k'' = some k' ∧ c.child? k'' = some x
  names : ∀ {members'}, c' = .object members' →
    ∃ members, c = .object members ∧ R (names members) (names members')

namespace Value

variable {c x : Value} {k : Key}

theorem extends_put (name : String) (x : Value) (members : Members) :
    Extends (names members) (names (Members.put name x members)) := by
  rw [Members.names_put]
  split_ifs with hhas
  · exact .same
  · exact .last fun hin => hhas (Members.has_iff.mpr hin)

/-- Setting a member moves no other one. -/
theorem put_moves {name : String} {carry : Key → Option Key}
    (hcarry : ∀ name', name' ≠ name → carry (.member name') = some (.member name'))
    (members : Members) (x : Value) :
    Moves (.object members) (.object (Members.put name x members)) carry (.member name) (some x)
      Extends := by
  refine ⟨?_, fun h => ⟨members, rfl, ?_⟩⟩
  · intro k' y hy
    cases k' with
    | index j => cases hy
    | member name' =>
        have hy : Members.find? name' (Members.put name x members) = some y := hy
        rw [Members.find?_put] at hy
        split_ifs at hy with hn
        · exact .inl ⟨by rw [hn], hy⟩
        · exact .inr ⟨.member name', hcarry name' hn, hy⟩
  · cases h
    exact extends_put name x members

theorem insertAt_moves (h : c.Takes k) (x : Value) :
    Moves c (c.insertAt k x) k.afterInsert k (some x) Extends := by
  cases c with
  | array items =>
      cases k with
      | member name => cases h
      | index i =>
          refine ⟨?_, fun h => by cases h⟩
          intro k' y hy
          cases k' with
          | member name => cases hy
          | index j =>
              have hy : (items.insertIdx i x)[j]? = some y := hy
              rw [List.getElem?_insertIdx] at hy
              split_ifs at hy with hlt heq hle
              · exact .inr ⟨.index j, by rw [Key.afterInsert, if_pos hlt], hy⟩
              · exact .inl ⟨by rw [heq], hy⟩
              · refine .inr ⟨.index (j - 1), ?_, hy⟩
                have hback : j - 1 + 1 = j := by omega
                rw [Key.afterInsert, if_neg (by omega), hback]
  | object members =>
      cases k with
      | index i => cases h
      | member name => exact put_moves (fun name' hn => if_neg (by simp [hn])) members x
  | _ => cases h

theorem assignAt_moves {y : Value} (h : c.child? k = some y) (x : Value) :
    Moves c (c.assignAt k x) k.afterAssign k (some x) Extends := by
  cases c with
  | array items =>
      cases k with
      | member name => cases h
      | index i =>
          refine ⟨?_, fun h => by cases h⟩
          intro k' z hz
          cases k' with
          | member name => cases hz
          | index j =>
              have hz : (items.set i x)[j]? = some z := hz
              by_cases hij : i = j
              · subst hij
                obtain ⟨hi, -⟩ := List.getElem?_eq_some_iff.mp h
                rw [List.getElem?_set_self hi] at hz
                exact .inl ⟨rfl, hz⟩
              · rw [List.getElem?_set_ne hij] at hz
                exact .inr ⟨.index j, if_neg fun e => hij (Key.index.inj e).symm, hz⟩
  | object members =>
      cases k with
      | index i => cases h
      | member name => exact put_moves (fun name' hn => if_neg (by simp [hn])) members x
  | _ => cases h

theorem deleteAt_moves {y : Value} (h : c.child? k = some y) (hn : c.HasDistinctNames) :
    Moves c (c.deleteAt k) k.afterDelete k none fun old new => new = without k.name? old := by
  cases c with
  | array items =>
      cases k with
      | member name => cases h
      | index i =>
          refine ⟨?_, fun h => by cases h⟩
          intro k' z hz
          cases k' with
          | member name => cases hz
          | index j =>
              have hz : (items.eraseIdx i)[j]? = some z := hz
              rw [List.getElem?_eraseIdx] at hz
              split_ifs at hz with hlt
              · refine .inr ⟨.index j, ?_, hz⟩
                rw [Key.afterDelete, if_neg (by omega), if_pos hlt]
              · refine .inr ⟨.index (j + 1), ?_, hz⟩
                rw [Key.afterDelete, if_neg (by omega), if_neg (by omega), Nat.add_sub_cancel]
  | object members =>
      cases k with
      | index i => cases h
      | member name =>
          refine ⟨?_, fun h => ⟨members, rfl, ?_⟩⟩
          · intro k' z hz
            cases k' with
            | index j => cases hz
            | member name' =>
                have hz : Members.find? name' (Members.erase name members) = some z := hz
                rw [Members.find?_erase (hasDistinctNames_object.mp hn).1] at hz
                split_ifs at hz with hname
                exact .inr ⟨.member name', if_neg (by simp [hname]), hz⟩
          · cases h
            exact Members.names_erase name members
  | _ => cases h

/-! ### The document around it -/

theorem object_of_modifyChild {k : Key} {f : Value → Value} {v : Value} {new : Members}
    (h : modifyChild k f v = .object new) :
    ∃ old, v = .object old ∧ names new = names old := by
  cases v with
  | object old =>
      cases k with
      | index i =>
          cases h
          exact ⟨_, rfl, rfl⟩
      | member name =>
          cases h
          exact ⟨old, rfl, Members.names_modify name f old⟩
  | array items => cases k <;> cases h
  | _ => cases h

/-- An object of the changed document lies in the new part, or it comes from one of the document as
it was. -/
theorem origin {f : Value → Value} {carry : Key → Option Key} {k : Key} {new : Option Value}
    {R : List String → List String → Prop} {c : Value} {container : List Key} {doc : Value}
    (hc : doc.at? container = some c) (h : Moves c (f c) carry k new R) {place' : List Key}
    {members' : Members} (hat : (modifyAt container f doc).at? place' = some (.object members')) :
    (∃ rest x, new = some x ∧ place' = container ++ k :: rest ∧
        x.at? rest = some (.object members')) ∨
      ∃ place members, doc.at? place = some (.object members) ∧
        Key.carryAt carry container place = some place' ∧
        (place = container → R (names members) (names members')) ∧
        (place ≠ container → names members' = names members) := by
  induction container generalizing doc place' with
  | nil =>
      cases hc
      cases place' with
      | nil =>
          obtain ⟨members, rfl, hR⟩ := h.names (Option.some.inj hat)
          exact .inr ⟨[], members, rfl, rfl, fun _ => hR, fun hne => absurd rfl hne⟩
      | cons k' rest =>
          rw [modifyAt, at?_cons] at hat
          obtain ⟨x, hx, hrest⟩ := Option.bind_eq_some_iff.mp hat
          obtain ⟨rfl, hnew⟩ | ⟨k'', hcarry, hk''⟩ := h.parts hx
          · exact .inl ⟨rest, x, hnew, rfl, hrest⟩
          · refine .inr ⟨k'' :: rest, members', ?_, ?_, fun he => ?_, fun _ => rfl⟩
            · rw [at?_cons, hk'']
              exact hrest
            · rw [Key.carryAt, hcarry]
              rfl
            · cases he
  | cons k₀ container ih =>
      rw [at?_cons] at hc
      obtain ⟨u, hu, hcu⟩ := Option.bind_eq_some_iff.mp hc
      cases place' with
      | nil =>
          obtain ⟨members, rfl, hnames⟩ := object_of_modifyChild (Option.some.inj hat)
          refine .inr ⟨[], members, rfl, rfl, fun he => ?_, fun _ => hnames⟩
          cases he
      | cons k' rest =>
          rw [modifyAt, at?_cons] at hat
          by_cases hk : k' = k₀
          · subst hk
            rw [child?_modifyChild_self, hu] at hat
            obtain ⟨rest', x, hnew, rfl, hx⟩ | ⟨place, members, hplace, hcarry, hself, hother⟩ :=
              ih hcu hat
            · exact .inl ⟨rest', x, hnew, rfl, hx⟩
            · refine .inr ⟨k' :: place, members, ?_, ?_, fun he => ?_, fun he => ?_⟩
              · rw [at?_cons, hu]
                exact hplace
              · rw [Key.carryAt, if_pos rfl, hcarry]
                rfl
              · exact hself (List.cons.inj he).2
              · exact hother fun e => he (by rw [e])
          · rw [child?_modifyChild_ne hk, ← at?_cons] at hat
            refine .inr ⟨k' :: rest, members', hat, ?_, fun he => ?_, fun _ => rfl⟩
            · rw [Key.carryAt, if_neg hk]
            · exact absurd (List.cons.inj he).1 hk

end Value

/-! ### Edits -/

namespace Edit

/-- The name of the member that an edit takes out of the object at a place. -/
def takenFrom? (e : Edit) (place : List Key) : Option String :=
  match e with
  | delete slot | move slot _ => if place = slot.container then slot.key.name? else none
  | _ => none

/-- The value that an edit puts into a document from outside, or as a copy, and its place there. -/
def brings? (own doc : Value) : Edit → Option (List Key × Value)
  | insert slot => some (slot.place, own)
  | assign slot payload => some (slot.place, payload.value own)
  | copy source target => some (target.place, (source.read? doc).getD .null)
  | _ => none

/-- The objects of the document after an edit: each lies in what the edit has brought, and is as it
is there, or it comes from an old one, whose names it has in their order without the one that has
been taken out, and at most one new name after them. -/
def KeepsOrder (e : Edit) (own doc doc' : Value) : Prop :=
  ∀ place' members', doc'.at? place' = some (.object members') →
    (∃ start rest v, e.brings? own doc = some (start, v) ∧ place' = start ++ rest ∧
        v.at? rest = some (.object members')) ∨
      ∃ place members, doc.at? place = some (.object members) ∧
        e.carry doc place = .inside place' ∧
        Extends (without (e.takenFrom? place) (names members)) (names members')

variable {own doc : Value} {slot source target : Slot}

/-- An object lies in the value that has been put into a slot, or it has been there before. -/
theorem put_origin {f : Value → Value} {carry : Key → Option Key} {c x : Value}
    (hc : doc.at? slot.container = some c) (h : Moves c (f c) carry slot.key (some x) Extends)
    {place' : List Key} {members' : Members}
    (hat : (Value.modifyAt slot.container f doc).at? place' = some (.object members')) :
    (∃ rest, place' = slot.place ++ rest ∧ x.at? rest = some (.object members')) ∨
      ∃ place members, doc.at? place = some (.object members) ∧
        Key.carryAt carry slot.container place = some place' ∧
        Extends (names members) (names members') := by
  obtain ⟨rest, y, hy, rfl, hrest⟩ | ⟨place, members, hplace, hcarry, hself, hother⟩ :=
    Value.origin hc h hat
  · cases hy
    exact .inl ⟨rest, by simp [Slot.place], hrest⟩
  · refine .inr ⟨place, members, hplace, hcarry, ?_⟩
    by_cases heq : place = slot.container
    · exact hself heq
    · rw [hother heq]
      exact .same

/-- An edit that puts a value into a slot and takes nothing out keeps the order of members. -/
theorem keepsOrder_of_put {e : Edit} {f : Value → Value} {carry : Key → Option Key} {c x : Value}
    (hc : doc.at? slot.container = some c) (h : Moves c (f c) carry slot.key (some x) Extends)
    (hbrings : e.brings? own doc = some (slot.place, x))
    (hcarry : ∀ place, e.carry doc place =
      .ofPlace doc place (Key.carryAt carry slot.container place))
    (htaken : ∀ place, e.takenFrom? place = none) :
    e.KeepsOrder own doc (Value.modifyAt slot.container f doc) := by
  intro place' members' hat
  obtain ⟨rest, hplace', hrest⟩ | ⟨place, members, hplace, hcarried, hnames⟩ := put_origin hc h hat
  · exact .inl ⟨slot.place, rest, x, hbrings, hplace', hrest⟩
  · refine .inr ⟨place, members, hplace, ?_, ?_⟩
    · rw [hcarry, hcarried]
      rfl
    · rw [htaken]
      exact hnames

theorem delete_origin (h : slot.Filled doc) (hn : doc.HasDistinctNames) {place' : List Key}
    {members' : Members} (hat : (slot.delete doc).at? place' = some (.object members')) :
    ∃ place members, doc.at? place = some (.object members) ∧
      slot.afterDelete place = some place' ∧
      names members' = without ((delete slot).takenFrom? place) (names members) := by
  obtain ⟨c, v, hc, hv⟩ := h
  obtain ⟨rest, y, hy, -, -⟩ | ⟨place, members, hplace, hcarry, hself, hother⟩ :=
    Value.origin hc (Value.deleteAt_moves hv (hn.at? hc)) hat
  · cases hy
  · refine ⟨place, members, hplace, hcarry, ?_⟩
    rw [takenFrom?]
    split_ifs with hp
    · exact hself hp
    · exact hother hp

theorem delete_keepsOrder (h : slot.Filled doc) (hn : doc.HasDistinctNames) :
    (delete slot).KeepsOrder own doc (slot.delete doc) := by
  intro place' members' hat
  obtain ⟨place, members, hplace, hcarry, hnames⟩ := delete_origin h hn hat
  refine .inr ⟨place, members, hplace, ?_, ?_⟩
  · rw [carry, hcarry]
    rfl
  · rw [hnames]
    exact .same

/-- Nothing that is taken out with a slot stays. -/
theorem afterDelete_of_isPrefixOf {place : List Key} (h : slot.place.isPrefixOf place = true) :
    slot.afterDelete place = none := by
  rw [List.isPrefixOf_iff_prefix] at h
  obtain ⟨rest, rfl⟩ := h
  unfold Slot.afterDelete Slot.place
  generalize slot.container = container
  induction container with
  | nil =>
      have hself : slot.key.afterDelete slot.key = none := by
        cases hkey : slot.key with
        | member name => exact if_pos rfl
        | index i => exact if_pos rfl
      rw [List.nil_append, List.singleton_append, Key.carryAt, hself]
      rfl
  | cons k container ih =>
      rw [List.cons_append, List.cons_append, Key.carryAt, if_pos rfl, ih]
      rfl

theorem move_keepsOrder (h : source.Filled doc) (hn : doc.HasDistinctNames) (target : Pointer) :
    (move source target).KeepsOrder own doc ((move source target).apply own doc).content := by
  intro place' members' hat
  simp only [apply] at hat
  cases ht : target.insertionSlot (source.delete doc) with
  | error f =>
      rw [ht] at hat
      obtain ⟨place, members, hplace, hcarry, hnames⟩ := delete_origin h hn hat
      refine .inr ⟨place, members, hplace, ?_, ?_⟩
      · rw [carry, ht]
        dsimp only
        rw [hcarry]
        rfl
      · rw [hnames]
        exact .same
  | ok slot =>
      rw [ht] at hat
      obtain ⟨c₁, hc₁, htakes⟩ := Pointer.open_of_insertionSlot ht
      obtain ⟨rest, rfl, hrest⟩ | ⟨place₁, members₁, hplace₁, hcarry₁, hnames₁⟩ :=
        put_origin hc₁ (Value.insertAt_moves htakes ((source.read? doc).getD .null)) hat
      · -- the object is in the moved value
        obtain ⟨c, v, hc, hv⟩ := h
        rw [Slot.read?_of_child? hc hv, Option.getD_some] at hrest
        have hread : doc.at? source.place = some v := Slot.read?_of_child? hc hv
        refine .inr ⟨source.place ++ rest, members', ?_, ?_, ?_⟩
        · rw [Value.at?_append, hread]
          exact hrest
        · have hprefix : source.place.isPrefixOf (source.place ++ rest) = true :=
            List.isPrefixOf_iff_prefix.mpr (List.prefix_append _ _)
          rw [carry, ht]
          dsimp only
          rw [if_pos hprefix, List.drop_left]
        · have hne : source.place ++ rest ≠ source.container := by
            intro he
            have hlength := congrArg List.length he
            rw [Slot.place, List.length_append, List.length_append, List.length_singleton]
              at hlength
            omega
          rw [takenFrom?, if_neg hne]
          exact .same
      · -- the object has been there without the moved value
        obtain ⟨place, members, hplace, hcarry, hnames⟩ := delete_origin h hn hplace₁
        refine .inr ⟨place, members, hplace, ?_, ?_⟩
        · have hprefix : ¬ source.place.isPrefixOf place = true := by
            intro hprefix
            rw [afterDelete_of_isPrefixOf hprefix] at hcarry
            cases hcarry
          rw [carry, ht]
          dsimp only
          rw [if_neg hprefix, hcarry]
          dsimp only
          rw [Slot.afterInsert, hcarry₁]
          rfl
        · rw [hnames] at hnames₁
          exact hnames₁

/-- An edit whose slots are there keeps the order of members. -/
theorem keepsOrder {e : Edit} (h : e.Fits doc) (hn : doc.HasDistinctNames) :
    e.KeepsOrder own doc (e.apply own doc).content := by
  cases e with
  | insert slot =>
      obtain ⟨c, hc, htakes⟩ := h
      exact keepsOrder_of_put hc (Value.insertAt_moves htakes own) rfl (fun _ => rfl) fun _ => rfl
  | assign slot payload =>
      cases payload with
      | own =>
          obtain ⟨c, v, hc, hv⟩ := h
          exact keepsOrder_of_put hc (Value.assignAt_moves hv own) rfl (fun _ => rfl) fun _ => rfl
      | fresh v => cases h
  | delete slot => exact delete_keepsOrder h hn
  | move source target => exact move_keepsOrder h hn target
  | copy source target =>
      obtain ⟨-, c, hc, htakes⟩ := h
      exact keepsOrder_of_put hc (Value.insertAt_moves htakes _) rfl (fun _ => rfl) fun _ => rfl
  | extend slot => cases h

theorem hasDistinctNames_read? (hn : doc.HasDistinctNames) (slot : Slot) :
    ((slot.read? doc).getD .null).HasDistinctNames := by
  cases hr : slot.read? doc with
  | none => exact rfl
  | some v => exact hn.at? hr

theorem hasDistinctNames_insert {x : Value} (hn : doc.HasDistinctNames)
    (hx : x.HasDistinctNames) (slot : Slot) : (slot.insert x doc).HasDistinctNames :=
  hn.modifyAt fun _ hc => hc.insertAt hx

theorem hasDistinctNames_delete (hn : doc.HasDistinctNames) (slot : Slot) :
    (slot.delete doc).HasDistinctNames :=
  hn.modifyAt fun _ hc => hc.deleteAt

/-- An edit leaves no object with two members of one name. -/
theorem hasDistinctNames {e : Edit} (h : e.Fits doc) (hown : own.HasDistinctNames)
    (hn : doc.HasDistinctNames) : (e.apply own doc).content.HasDistinctNames := by
  cases e with
  | insert slot => exact hasDistinctNames_insert hn hown slot
  | assign slot payload =>
      cases payload with
      | own => exact hn.modifyAt fun _ hc => hc.assignAt hown
      | fresh v => cases h
  | delete slot => exact hasDistinctNames_delete hn slot
  | move source target =>
      have hrest := hasDistinctNames_delete hn source
      simp only [apply]
      split
      · exact hasDistinctNames_insert hrest (hasDistinctNames_read? hn source) _
      · exact hrest
  | copy source target => exact hasDistinctNames_insert hn (hasDistinctNames_read? hn source) target
  | extend slot => cases h

end Edit

/-! ### Steps and runs -/

namespace Patch

/-- The operation of a descriptor keeps the order of members; without an edit nothing changes. -/
def KeepsOrder (p : Patch) (d : Descriptor) (doc doc' : Value) : Prop :=
  match p.editOf d doc with
  | some e => e.KeepsOrder (d.field "value") doc doc'
  | none => doc' = doc

section Step

variable {p : Patch} (hp : p.IsStandard) {d : Descriptor} {doc : Value}
include hp

theorem IsStandard.turnOn_keepsOrder (hn : doc.HasDistinctNames) (i : Nat) :
    p.KeepsOrder d doc (p.turnOn i d doc).content := by
  unfold KeepsOrder
  cases he : p.editOf d doc with
  | none => exact (p.turn_of_no_editOf i d doc doc _ he doc fun e => e.apply .null doc).1
  | some e =>
      have hcontent := (p.turn_of_editOf i d doc doc
        (fun e => e.apply (d.field "value") doc) he).1
      dsimp only
      rw [turnOn, hcontent]
      exact Edit.keepsOrder (hp.fits he) hn

theorem IsStandard.turnOn_hasDistinctNames (hown : (d.field "value").HasDistinctNames)
    (hn : doc.HasDistinctNames) (i : Nat) : (p.turnOn i d doc).content.HasDistinctNames := by
  cases he : p.editOf d doc with
  | none =>
      have hcontent := (p.turn_of_no_editOf i d doc doc
        (fun e => e.apply (d.field "value") doc) he doc fun e => e.apply .null doc).1
      rw [turnOn, hcontent]
      exact hn
  | some e =>
      have hcontent := (p.turn_of_editOf i d doc doc
        (fun e => e.apply (d.field "value") doc) he).1
      rw [turnOn, hcontent]
      exact Edit.hasDistinctNames (hp.fits he) hown hn

end Step

theorem documentAt_succ (p : Patch) (doc : Value) {k : Nat} {d : Descriptor}
    (hd : p.operations[k]? = some d) :
    p.documentAt doc (k + 1) = (p.turnOn k d (p.documentAt doc k)).content := by
  rw [documentAt, List.take_add_one, hd]
  exact p.documentAfter_concat k _ d doc

/-- The document of a run is what one of the prefixes of its operations leaves, of which at most the
last one does not succeed. -/
theorem run_document (p : Patch) (doc : Value) :
    ∃ k ≤ p.operations.length, (p.run doc).document = p.documentAt doc k ∧
      ∀ j d, j + 1 < k → p.operations[j]? = some d → p.Succeeds d (p.documentAt doc j) := by
  change ∃ k ≤ _, (p.runFrom 0 p.operations doc).document = _ ∧ _
  rcases p.runFrom_cases p.operations 0 doc with ⟨-, hs, hdoc⟩ | ⟨e, done, d, rest, -, hs⟩
  · refine ⟨p.operations.length, le_rfl, ?_, fun j d _ hd => hs j d hd⟩
    rw [documentAt, List.take_length]
    exact hdoc
  · have hdocument := hs.document
    refine ⟨done.length + 1, ?_, ?_, fun j d' hj hd' => ?_⟩
    · rw [hs.split, List.length_append, List.length_cons]
      omega
    · have htake : p.operations.take (done.length + 1) = done ++ [d] := by
        rw [hs.split, List.take_length_add_append]
        rfl
      rw [documentAt, htake, p.documentAfter_concat (0 + done.length)]
      exact hdocument
    · have hj : j < done.length := Nat.lt_of_succ_lt_succ hj
      have hdone : done[j]? = some d' := by
        rwa [hs.split, List.getElem?_append_left hj] at hd'
      have htake : p.operations.take j = done.take j := by
        rw [hs.split, List.take_append_of_le_length (Nat.le_of_lt hj)]
      rw [documentAt, htake]
      exact hs.earlier j d' hdone

theorem documentAt_hasDistinctNames {p : Patch} (hp : p.IsStandard)
    (hvalues : ∀ d ∈ p.operations, (d.field "value").HasDistinctNames) {doc : Value}
    (hn : doc.HasDistinctNames) (k : Nat) : (p.documentAt doc k).HasDistinctNames := by
  induction k with
  | zero => exact hn
  | succ k ih =>
      cases hd : p.operations[k]? with
      | some d =>
          rw [p.documentAt_succ doc hd]
          exact hp.turnOn_hasDistinctNames (hvalues d (List.mem_of_getElem? hd)) ih k
      | none =>
          have hle := List.getElem?_eq_none_iff.mp hd
          rw [documentAt, List.take_of_length_le (Nat.le_succ_of_le hle)]
          rw [documentAt, List.take_of_length_le hle] at ih
          exact ih

/-- Documents stay well-formed through a run: no object gets two members of one name, and each step
keeps the order of members. -/
theorem run_keeps_order {p : Patch} (hp : p.IsStandard)
    (hvalues : ∀ d ∈ p.operations, (d.field "value").HasDistinctNames) {doc : Value}
    (hn : doc.HasDistinctNames) :
    (∃ k ≤ p.operations.length, (p.run doc).document = p.documentAt doc k ∧
      ∀ j d, j + 1 < k → p.operations[j]? = some d → p.Succeeds d (p.documentAt doc j)) ∧
    ∀ k, (p.documentAt doc k).HasDistinctNames ∧ ∀ d, p.operations[k]? = some d →
      p.KeepsOrder d (p.documentAt doc k) (p.documentAt doc (k + 1)) := by
  refine ⟨p.run_document doc, fun k => ?_⟩
  have hk := documentAt_hasDistinctNames hp hvalues hn k
  refine ⟨hk, fun d hd => ?_⟩
  rw [p.documentAt_succ doc hd]
  exact hp.turnOn_keepsOrder hk k

/-- A member is overwritten in its place, and then moved inside its object and becomes the last. -/
theorem run_keeps_order_renamed :
    let p := ofCore [adding "/a/x" (.bool true), moving "/a/x" "/a/y"]
    let doc : Value := .object [("a", .object [("x", .null), ("z", .object [])])]
    p.IsStandard ∧ (∀ d ∈ p.operations, (d.field "value").HasDistinctNames) ∧
      doc.HasDistinctNames ∧
      p.documentAt doc 1 = .object [("a", .object [("x", .bool true), ("z", .object [])])] ∧
      p.documentAt doc 2 = .object [("a", .object [("z", .object []), ("y", .bool true)])] ∧
      p.KeepsOrder (adding "/a/x" (.bool true)) (p.documentAt doc 0) (p.documentAt doc 1) ∧
      p.KeepsOrder (moving "/a/x" "/a/y") (p.documentAt doc 1) (p.documentAt doc 2) := by
  intro p doc
  have hp : p.IsStandard := ofCore_isStandard (by cbv)
  have hvalues : ∀ d ∈ p.operations, (d.field "value").HasDistinctNames := by
    intro d hd
    simp only [p, ofCore, List.mem_cons, List.not_mem_nil, or_false] at hd
    rcases hd with rfl | rfl
    · exact rfl
    · exact rfl
  have hn : doc.HasDistinctNames := by decide
  have hsteps := (run_keeps_order hp hvalues hn).2
  exact ⟨hp, hvalues, hn, rfl, rfl, (hsteps 0).2 _ rfl, (hsteps 1).2 _ rfl⟩

end Patch
end JsonPatch
