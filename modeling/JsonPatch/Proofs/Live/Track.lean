import JsonPatch.Proofs.Live.Edit

/-! # Runs in cells

A run whose values are in cells goes as the run on documents does, as long as the document and the
values that have not been used yet share no cell (`Ready`).  One turn keeps this up
(`turn_stepped`); by induction on the entries, `runFrom_carried` says what a whole run leaves: the
document, what has become of each part of it (`Patch.fateFrom`), and the descriptors
(`Patch.leavesFrom`). -/

namespace JsonPatch

theorem Members.modify_of_find?_none {α : Type} {name : String} {members : List (String × α)}
    (h : find? name members = none) (f : α → α) : modify name f members = members := by
  induction members with
  | nil => rfl
  | cons m rest ih =>
      rw [find?] at h
      rw [modify]
      split_ifs at h ⊢ with hn
      rw [ih h]

namespace Live

/-! ### Entries -/

theorem Entry.withValue_field (e : Entry) :
    e.withValue (e.descriptor.field "value") = e.descriptor := by
  unfold withValue Descriptor.field
  cases h : Members.find? "value" e.descriptor with
  | none => exact Members.modify_of_find?_none h _
  | some v => exact (Members.modify_of_find? h _).trans (Members.put_of_find? h)

/-- The values of entries are held as the descriptors have them, in the listed cells. -/
inductive Ready (cells : Cells) : List Entry → Multiset Nat → Prop where
  | nil : Ready cells [] 0
  | cons {e : Entry} {es : List Entry} {N F : Multiset Nat}
      (head : Holds cells (e.descriptor.field "value") e.value N) (tail : Ready cells es F) :
      Ready cells (e :: es) (N + F)

namespace Ready

variable {cells cells' : Cells} {es : List Entry} {F : Multiset Nat}

theorem frame (h : Ready cells es F) (hc : ∀ i ∈ F, cells'[i]? = cells[i]?) :
    Ready cells' es F := by
  induction h with
  | nil => exact nil
  | cons head tail ih =>
      exact cons (head.frame fun i hi => hc i (Multiset.mem_add.mpr (.inl hi)))
        (ih fun i hi => hc i (Multiset.mem_add.mpr (.inr hi)))

theorem lt_size (h : Ready cells es F) {i : Nat} (hi : i ∈ F) : i < cells.size := by
  induction h with
  | nil => cases hi
  | cons head tail ih =>
      rcases Multiset.mem_add.mp hi with hi | hi
      · exact head.lt_size hi
      · exact ih hi

end Ready

/-- The cells have the descriptors of entries. -/
def Reads (cells : Cells) (es : List Entry) (ds : List Descriptor) : Prop :=
  List.Forall₂ (fun e d => e.read? cells = some d) es ds

theorem Entry.read?_of_holds {cells : Cells} {e : Entry} {v : Value} {N : Multiset Nat}
    (h : Holds cells v e.value N) (hN : N.Nodup) : e.read? cells = some (e.withValue v) := by
  rw [Entry.read?, h.read? hN, Option.map_some]

theorem Ready.reads {cells : Cells} {es : List Entry} {F : Multiset Nat} (h : Ready cells es F)
    (hF : F.Nodup) : Reads cells es (es.map Entry.descriptor) := by
  induction h with
  | nil => exact .nil
  | @cons e es N F head tail ih =>
      obtain ⟨hN, hF', -⟩ := Multiset.nodup_add.mp hF
      refine .cons ?_ (ih hF')
      rw [Entry.read?_of_holds head hN, e.withValue_field]

/-! ### One turn -/

/-- The turn of an entry on cells follows its turn on the document. -/
structure Stepped (p : Patch) (i : Nat) (e : Entry) (s : Store) (doc : Value)
    (M N₀ N M' : Multiset Nat) : Prop where
  error : (turn p i e s).error = (p.turnOn i e.descriptor doc).error
  tracks : Tracks s (turn p i e s).content (p.turnOn i e.descriptor doc).content M N M'
    (p.carry e.descriptor doc) (p.enters e.descriptor doc)
  comes : (∃ place, p.placed? e.descriptor doc = some place ∧ N = N₀ ∧
      (turn p i e s).content.cells.follow place (turn p i e s).content.document =
        some e.value) ∨
    p.placed? e.descriptor doc = none ∧ N.Nodup ∧ ∀ j ∈ N, s.cells.size ≤ j

theorem Tracks.refl {s : Store} {doc : Value} {M : Multiset Nat}
    (hs : Holds s.cells doc s.document M) : Tracks s s doc M 0 M .inside (fun _ => false) where
  held := hs
  within := (add_zero M).symm ▸ le_refl M
  size := Nat.le_refl _
  frame := fun _ _ _ => rfl
  stays := by
    rintro P _ q hq ⟨⟩
    exact hq
  goes := nofun
  spares := fun _ _ _ _ => rfl

theorem turn_stepped {p : Patch} (hp : p.IsStandard) {i : Nat} {e : Entry} {s : Store} {doc : Value}
    {M N₀ : Multiset Nat} (hs : Holds s.cells doc s.document M) (hM : M.Nodup)
    (he : Holds s.cells (e.descriptor.field "value") e.value N₀) (hN₀ : N₀.Nodup)
    (hd : Disjoint N₀ M) : ∃ N M', Stepped p i e s doc M N₀ N M' := by
  -- the operation sees the descriptor and the document as they are
  have hturn : turn p i e s = p.turn i e.descriptor doc s (s.edit e.value) := by
    rw [turn, Entry.view, he.view hN₀, e.withValue_field, Store.view, hs.view hM]
  cases hedit : p.editOf e.descriptor doc with
  | none =>
      obtain ⟨hc, herror⟩ := p.turn_of_no_editOf i e.descriptor doc s (s.edit e.value) hedit doc
        fun edit => edit.apply (e.descriptor.field "value") doc
      obtain ⟨hc', -⟩ := p.turn_of_no_editOf i e.descriptor doc doc
        (fun edit => edit.apply (e.descriptor.field "value") doc) hedit s (s.edit e.value)
      refine ⟨0, M, hturn ▸ herror, ?_, .inr ⟨?_, Multiset.nodup_zero, nofun⟩⟩
      · have hcarry : p.carry e.descriptor doc = .inside := by
          funext P
          rw [Patch.carry, hedit]
        have henters : p.enters e.descriptor doc = fun _ => false := by
          funext P
          rw [Patch.enters, hedit]
          rfl
        rw [hturn, hc, Patch.turnOn, hc', hcarry, henters]
        exact Tracks.refl hs
      · rw [Patch.placed?, hedit]
        rfl
  | some edit =>
      obtain ⟨hc, herror⟩ := p.turn_of_editOf i e.descriptor doc s (s.edit e.value) hedit
      obtain ⟨hc', herror'⟩ := p.turn_of_editOf i e.descriptor doc doc
        (fun edit => edit.apply (e.descriptor.field "value") doc) hedit
      have hown : Held.In s.cells ⟨e.descriptor.field "value", e.value, N₀⟩ := he
      obtain ⟨htrouble, N, M', htracks, hcomes⟩ :=
        Store.tracks_edit hs hM hown hd (hp.fits hedit)
      have hcarry : p.carry e.descriptor doc = edit.carry doc := by
        funext P
        rw [Patch.carry, hedit]
      have henters : p.enters e.descriptor doc = edit.enters doc := by
        funext P
        rw [Patch.enters, hedit]
        rfl
      have hplaced : p.placed? e.descriptor doc = edit.placed? := by
        rw [Patch.placed?, hedit, Option.bind_some]
      refine ⟨N, M', ?_, ?_, ?_⟩
      · rw [hturn, herror, htrouble, Patch.turnOn, herror']
      · rw [hturn, hc, Patch.turnOn, hc', hcarry, henters]
        exact htracks
      · rw [hturn, hc, hplaced]
        exact hcomes

/-! ### Runs -/

/-- The run of entries on cells follows their run on the document. -/
structure Carried (p : Patch) (i : Nat) (es : List Entry) (s : Store) (doc : Value)
    (M F : Multiset Nat) : Prop where
  result : (runFrom p i es s).result = (p.runFrom i (es.map Entry.descriptor) doc).result
  held : ∃ M', M'.Nodup ∧ Holds (runFrom p i es s).store.cells
    (p.runFrom i (es.map Entry.descriptor) doc).document (runFrom p i es s).store.document M'
  size : s.cells.size ≤ (runFrom p i es s).store.cells.size
  frame : ∀ j, j < s.cells.size → j ∉ M + F →
    (runFrom p i es s).store.cells[j]? = s.cells[j]?
  fate : ∀ {P q}, s.cells.follow P s.document = some q → ∃ L, L.Nodup ∧
    Holds (runFrom p i es s).store.cells (p.fateFrom i (es.map Entry.descriptor) doc P) q L
  sparesAt : ∀ {P x}, Found s P x → p.sparesAt i (es.map Entry.descriptor) doc P = true →
    ∀ j ∈ x.cells, (runFrom p i es s).store.cells[j]? = s.cells[j]?
  leaves : Reads (runFrom p i es s).store.cells es (p.leavesFrom i (es.map Entry.descriptor) doc)
  spares : p.sparesFrom i (es.map Entry.descriptor) doc = true →
    ∀ j ∈ F, (runFrom p i es s).store.cells[j]? = s.cells[j]?

/-- A part of a held document has its value there. -/
theorem Holds.exists_at? {s : Store} {doc : Value} {M : Multiset Nat}
    (hs : Holds s.cells doc s.document M) (hM : M.Nodup) {P : List Key} {q : Part}
    (hq : s.cells.follow P s.document = some q) :
    ∃ L, L.Nodup ∧ Holds s.cells ((doc.at? P).getD .null) q L := by
  obtain ⟨-, hn⟩ | ⟨x, K, hx, hf, hheld, hMK, -⟩ := hs.seek P
  · rw [hq] at hn
    cases hn
  · obtain rfl : x.part = q := Option.some.inj (hf.symm.trans hq)
    rw [hx]
    exact ⟨x.cells, Multiset.nodup_of_le (hMK ▸ Multiset.le_add_right _ _) hM, hheld⟩

theorem Carried.nil {p : Patch} {i : Nat} {s : Store} {doc : Value} {M : Multiset Nat}
    (hs : Holds s.cells doc s.document M) (hM : M.Nodup) : Carried p i [] s doc M 0 where
  result := rfl
  held := ⟨M, hM, hs⟩
  size := Nat.le_refl _
  frame := fun _ _ _ => rfl
  fate := fun hq => hs.exists_at? hM hq
  sparesAt := fun _ _ _ _ => rfl
  leaves := .nil
  spares := fun _ _ _ => rfl

section Turn

variable {p : Patch} {i : Nat} {e : Entry} {es : List Entry} {s : Store} {doc : Value}
  {M N₀ N M' F : Multiset Nat}

/-- The cells of the document after a turn, and of the entries that are still to come, have no
repetition. -/
theorem Stepped.nodup (h : Stepped p i e s doc M N₀ N M') (hes : Ready s.cells es F)
    (hs : Holds s.cells doc s.document M) (hn : (M + (N₀ + F)).Nodup) : (M' + F).Nodup := by
  have hMNF : (M + N + F).Nodup := by
    obtain ⟨-, -, rfl, -⟩ | ⟨-, hN, hfresh⟩ := h.comes
    · rwa [add_assoc]
    · have hMF : (M + F).Nodup := by
        refine Multiset.nodup_of_le ?_ hn
        exact Multiset.add_le_add_left (Multiset.le_add_left _ _)
      rw [add_right_comm]
      refine Multiset.nodup_add.mpr ⟨hMF, hN, Multiset.disjoint_left.mpr fun {j} hj hj' => ?_⟩
      rcases Multiset.mem_add.mp hj with hj | hj
      · exact absurd (hs.lt_size hj) (Nat.not_lt_of_le (hfresh j hj'))
      · exact absurd (hes.lt_size hj) (Nat.not_lt_of_le (hfresh j hj'))
  exact Multiset.nodup_of_le (Multiset.add_le_add_right h.tracks.within) hMNF

/-- A turn leaves the cells of values alone that are not in the document. -/
theorem Stepped.frame (h : Stepped p i e s doc M N₀ N M') {L : Multiset Nat}
    (hL : ∀ j ∈ L, j < s.cells.size) (hd : Disjoint L M) :
    ∀ j ∈ L, (turn p i e s).content.cells[j]? = s.cells[j]? :=
  fun j hj => h.tracks.frame j (hL j hj) (Multiset.disjoint_left.mp hd hj)

/-- A turn with an error ends the run. -/
theorem Stepped.stop (h : Stepped p i e s doc M N₀ N M') (hs : Holds s.cells doc s.document M)
    (he : Holds s.cells (e.descriptor.field "value") e.value N₀) (hes : Ready s.cells es F)
    (hn : (M + (N₀ + F)).Nodup) {error : RunError} (herror : (turn p i e s).error = some error) :
    Carried p i (e :: es) s doc M (N₀ + F) := by
  obtain ⟨hM, hNF, hd⟩ := Multiset.nodup_add.mp hn
  have herror' : (p.turnOn i e.descriptor doc).error = some error := h.error ▸ herror
  have hrun : runFrom p i (e :: es) s =
      ⟨(turn p i e s).content, .error error, (turn p i e s).entries⟩ := by
    rw [runFrom]
    simp only [herror]
  have hready := Ready.cons he hes
  have hkept := h.frame (fun j hj => hready.lt_size hj) hd.symm
  have hM' : M'.Nodup := (Multiset.nodup_add.mp (h.nodup hes hs hn)).1
  refine ⟨?_, ?_, ?_, ?_, ?_, ?_, ?_, ?_⟩
  · rw [hrun, List.map_cons, Patch.runFrom_cons_error herror']
  · rw [hrun, List.map_cons, Patch.runFrom_cons_error herror']
    exact ⟨M', hM', h.tracks.held⟩
  · rw [hrun]
    exact h.tracks.size
  · intro j hj hjM
    rw [hrun]
    exact h.tracks.frame j hj fun hj => hjM (Multiset.mem_add.mpr (.inl hj))
  · intro P q hq
    rw [hrun, List.map_cons, Patch.fateFrom]
    cases hcarry : p.carry e.descriptor doc P with
    | outside v =>
        obtain ⟨L, hL, hle, -⟩ := h.tracks.goes hq hcarry
        exact ⟨L, Multiset.nodup_of_le hle hM, hL⟩
    | inside P' =>
        simp only [herror']
        exact h.tracks.held.exists_at? hM' (h.tracks.stays hq hcarry)
  · intro P x hx hspares
    rw [List.map_cons, Patch.sparesAt, Bool.and_eq_true, Bool.not_eq_true'] at hspares
    rw [hrun]
    exact h.tracks.spares hx hspares.1
  · rw [hrun, List.map_cons, Patch.leavesFrom]
    simp only [herror']
    exact (hready.frame hkept).reads hNF
  · intro _
    rw [hrun]
    exact hkept

/-- A turn without an error, with which the rest of the run goes on. -/
structure Continues (p : Patch) (i : Nat) (e : Entry) (es : List Entry) (s : Store) (doc : Value)
    (M N₀ N M' F : Multiset Nat) : Prop where
  stepped : Stepped p i e s doc M N₀ N M'
  document : Holds s.cells doc s.document M
  own : Holds s.cells (e.descriptor.field "value") e.value N₀
  ready : Ready s.cells es F
  nodup : (M + (N₀ + F)).Nodup
  error : (turn p i e s).error = none
  rest : Carried p (i + 1) es (turn p i e s).content (p.turnOn i e.descriptor doc).content M' F

namespace Continues

variable (h : Continues p i e es s doc M N₀ N M' F)
include h

theorem error' : (p.turnOn i e.descriptor doc).error = none :=
  h.stepped.error ▸ h.error

theorem store : (runFrom p i (e :: es) s).store =
    (runFrom p (i + 1) es (turn p i e s).content).store := by
  rw [runFrom]
  simp only [h.error]

/-- The cells of the entries are as they were after the turn. -/
theorem kept : ∀ j ∈ N₀ + F, (turn p i e s).content.cells[j]? = s.cells[j]? :=
  h.stepped.frame (fun _ hj => (Ready.cons h.own h.ready).lt_size hj)
    (Multiset.nodup_add.mp h.nodup).2.2.symm

theorem kept_own {j : Nat} (hj : j ∈ N₀) : (turn p i e s).content.cells[j]? = s.cells[j]? :=
  h.kept j (Multiset.mem_add.mpr (.inl hj))

/-- What is outside of the document and of the entries to come stays as it is after the turn. -/
theorem outside {j : Nat} (hj : j < s.cells.size) (hM' : j ∉ M') (hF : j ∉ F) :
    (runFrom p i (e :: es) s).store.cells[j]? = (turn p i e s).content.cells[j]? := by
  rw [h.store]
  refine h.rest.frame j (Nat.lt_of_lt_of_le hj h.stepped.tracks.size) fun hj => ?_
  exact (Multiset.mem_add.mp hj).elim hM' hF

/-- What has gone from the document in the turn stays as it is. -/
theorem gone {L : Multiset Nat} (hle : L ≤ M) (hd : Disjoint L M') {j : Nat} (hj : j ∈ L) :
    (runFrom p i (e :: es) s).store.cells[j]? = (turn p i e s).content.cells[j]? := by
  have hjM := Multiset.mem_of_le hle hj
  refine h.outside (h.document.lt_size hjM) (Multiset.disjoint_left.mp hd hj) fun hjF => ?_
  exact Multiset.disjoint_left.mp (Multiset.nodup_add.mp h.nodup).2.2 hjM
    (Multiset.mem_add.mpr (.inr hjF))

/-- A value that the turn does not put into the document stays as it is. -/
theorem unplaced (hnone : p.placed? e.descriptor doc = none) {j : Nat} (hj : j ∈ N₀) :
    (runFrom p i (e :: es) s).store.cells[j]? = s.cells[j]? := by
  obtain ⟨-, hN₀F, hd⟩ := Multiset.nodup_add.mp h.nodup
  have hjs := h.own.lt_size hj
  obtain ⟨place, hplace, -⟩ | ⟨-, -, hfresh⟩ := h.stepped.comes
  · rw [hnone] at hplace
    cases hplace
  · have hjM' : j ∉ M' := by
      intro hjM'
      rcases Multiset.mem_add.mp (Multiset.mem_of_le h.stepped.tracks.within hjM') with hjM | hjN
      · exact Multiset.disjoint_left.mp hd hjM (Multiset.mem_add.mpr (.inl hj))
      · exact absurd hjs (Nat.not_lt_of_le (hfresh j hjN))
    have hjF : j ∉ F := Multiset.disjoint_left.mp (Multiset.nodup_add.mp hN₀F).2.2 hj
    exact (h.outside hjs hjM' hjF).trans (h.kept_own hj)

/-- A value that the turn puts into the document is found there after it. -/
theorem placed {place : List Key} (hsome : p.placed? e.descriptor doc = some place) :
    Found (turn p i e s).content place ⟨e.descriptor.field "value", e.value, N₀⟩ := by
  obtain ⟨place', hplace', -, hfollow⟩ | ⟨hnone, -⟩ := h.stepped.comes
  · obtain rfl : place = place' := Option.some.inj (hsome.symm.trans hplace')
    exact ⟨hfollow, h.own.frame fun j hj => h.kept_own hj⟩
  · rw [hsome] at hnone
    cases hnone

theorem frame {j : Nat} (hj : j < s.cells.size) (hn : j ∉ M + (N₀ + F)) :
    (runFrom p i (e :: es) s).store.cells[j]? = s.cells[j]? := by
  simp only [Multiset.mem_add, not_or] at hn
  obtain ⟨hjM, hjN₀, hjF⟩ := hn
  refine (h.outside hj (fun hjM' => ?_) hjF).trans (h.stepped.tracks.frame j hj hjM)
  rcases Multiset.mem_add.mp (Multiset.mem_of_le h.stepped.tracks.within hjM') with hj' | hj'
  · exact hjM hj'
  · obtain ⟨-, -, rfl, -⟩ | ⟨-, -, hfresh⟩ := h.stepped.comes
    · exact hjN₀ hj'
    · exact absurd hj (Nat.not_lt_of_le (hfresh j hj'))

theorem fate {P : List Key} {q : Part} (hq : s.cells.follow P s.document = some q) :
    ∃ L, L.Nodup ∧ Holds (runFrom p i (e :: es) s).store.cells
      (p.fateFrom i ((e :: es).map Entry.descriptor) doc P) q L := by
  rw [List.map_cons, Patch.fateFrom]
  cases hcarry : p.carry e.descriptor doc P with
  | outside v =>
      obtain ⟨L, hL, hle, hd⟩ := h.stepped.tracks.goes hq hcarry
      have hM := (Multiset.nodup_add.mp h.nodup).1
      exact ⟨L, Multiset.nodup_of_le hle hM, hL.frame fun j hj => h.gone hle hd hj⟩
  | inside P' =>
      simp only [h.error']
      rw [h.store]
      exact h.rest.fate (h.stepped.tracks.stays hq hcarry)

theorem sparesAt {P : List Key} {x : Held} (hx : Found s P x)
    (hspares : p.sparesAt i ((e :: es).map Entry.descriptor) doc P = true) {j : Nat}
    (hj : j ∈ x.cells) : (runFrom p i (e :: es) s).store.cells[j]? = s.cells[j]? := by
  rw [List.map_cons, Patch.sparesAt, Bool.and_eq_true, Bool.not_eq_true'] at hspares
  have hkept := h.stepped.tracks.spares hx hspares.1
  have hx' : x.In (turn p i e s).content.cells := Holds.frame hx.held hkept
  refine Eq.trans ?_ (hkept j hj)
  cases hcarry : p.carry e.descriptor doc P with
  | outside v =>
      obtain ⟨L, hL, hle, hd⟩ := h.stepped.tracks.goes hx.follow hcarry
      obtain rfl : x.cells = L := Holds.cells_unique hx' hL
      exact h.gone hle hd hj
  | inside P' =>
      simp only [hcarry, h.error', Option.isSome_none, Bool.false_or] at hspares
      rw [h.store]
      exact h.rest.sparesAt ⟨h.stepped.tracks.stays hx.follow hcarry, hx'⟩ hspares.2 j hj

theorem leaves : Reads (runFrom p i (e :: es) s).store.cells (e :: es)
    (p.leavesFrom i ((e :: es).map Entry.descriptor) doc) := by
  rw [List.map_cons, Patch.leavesFrom]
  simp only [h.error']
  refine .cons ?_ (h.store ▸ h.rest.leaves)
  cases hplaced : p.placed? e.descriptor doc with
  | some place =>
      obtain ⟨L, hL, hheld⟩ := h.rest.fate (h.placed hplaced).follow
      rw [h.store]
      exact Entry.read?_of_holds hheld hL
  | none =>
      have hN₀ := (Multiset.nodup_add.mp (Multiset.nodup_add.mp h.nodup).2.1).1
      have hheld := h.own.frame fun j hj => h.unplaced hplaced hj
      rw [Entry.read?_of_holds hheld hN₀, e.withValue_field]

theorem spares (hspares : p.sparesFrom i ((e :: es).map Entry.descriptor) doc = true) {j : Nat}
    (hj : j ∈ N₀ + F) : (runFrom p i (e :: es) s).store.cells[j]? = s.cells[j]? := by
  rw [List.map_cons, Patch.sparesFrom] at hspares
  simp only [h.error', Option.isSome_none, Bool.false_or, Bool.and_eq_true] at hspares
  rcases Multiset.mem_add.mp hj with hjN₀ | hjF
  · cases hplaced : p.placed? e.descriptor doc with
    | none => exact h.unplaced hplaced hjN₀
    | some place =>
        rw [hplaced] at hspares
        rw [h.store]
        exact (h.rest.sparesAt (h.placed hplaced) hspares.1 j hjN₀).trans (h.kept_own hjN₀)
  · rw [h.store]
    exact (h.rest.spares hspares.2 j hjF).trans (h.kept j hj)

theorem carried : Carried p i (e :: es) s doc M (N₀ + F) where
  result := by
    rw [runFrom, List.map_cons, Patch.runFrom_cons_ok h.error']
    simp only [h.error]
    exact h.rest.result
  held := by
    rw [h.store, List.map_cons, Patch.runFrom_cons_ok h.error']
    exact h.rest.held
  size := by
    rw [h.store]
    exact Nat.le_trans h.stepped.tracks.size h.rest.size
  frame := fun _ hj hn => h.frame hj hn
  fate := h.fate
  sparesAt := fun hx hspares _ hj => h.sparesAt hx hspares hj
  leaves := h.leaves
  spares := fun hspares _ hj => h.spares hspares hj

end Continues

end Turn

/-- A run on cells follows the run on the document, by induction on the entries: each turn either
ends the run or leaves a store with which the rest of the run can go on. -/
theorem runFrom_carried {p : Patch} (hp : p.IsStandard) {i : Nat} {es : List Entry} {s : Store}
    {doc : Value} {M F : Multiset Nat} (hs : Holds s.cells doc s.document M)
    (hes : Ready s.cells es F) (hn : (M + F).Nodup) : Carried p i es s doc M F := by
  induction es generalizing i s doc M F with
  | nil =>
      cases hes
      rw [add_zero] at hn
      exact Carried.nil hs hn
  | cons e es ih =>
      cases hes with
      | @cons _ _ N₀ F head tail =>
          obtain ⟨hM, hNF, hd⟩ := Multiset.nodup_add.mp hn
          have hNM : Disjoint N₀ M := Multiset.disjoint_left.mpr fun {j} hj hj' =>
            Multiset.disjoint_left.mp hd hj' (Multiset.mem_add.mpr (.inl hj))
          obtain ⟨N, M', h⟩ := turn_stepped hp (i := i) hs hM head
            (Multiset.nodup_add.mp hNF).1 hNM
          cases herror : (turn p i e s).error with
          | some error => exact h.stop hs head tail hn herror
          | none =>
              have hFM : Disjoint F M := Multiset.disjoint_left.mpr fun {j} hj hj' =>
                Multiset.disjoint_left.mp hd hj' (Multiset.mem_add.mpr (.inr hj))
              have htail := tail.frame (h.frame (fun j hj => tail.lt_size hj) hFM)
              exact Continues.carried ⟨h, hs, head, tail, hn, herror,
                ih h.tracks.held htail (h.nodup tail hs hn)⟩

end Live
end JsonPatch
