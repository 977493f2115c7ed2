import JsonPatch.Live.Run
import JsonPatch.Proofs.Live.Plant
import JsonPatch.Proofs.Patch.Fate

/-! # Edits in cells

An edit of a store that holds a document changes one cell or two, and the store then holds the
edited document.  `Tracks` says more: which cells are kept, where each part is found afterwards
(`Edit.carry`), and that the parts the edit does not enter are as they were (`Edit.enters`). -/

namespace JsonPatch

theorem Key.carryAt_self (carry : Key → Option Key) (container : List Key) :
    carryAt carry container container = some container := by
  induction container with
  | nil => rfl
  | cons c container ih => rw [carryAt, if_pos rfl, ih, Option.map_some]

namespace Live

namespace Holds

variable {cells cells' : Cells} {v : Value} {p : Part} {M : Multiset Nat}

/-- A container is held in a cell of its own. -/
theorem exists_node (h : Holds cells v p M) (hv : v.isContainer = true) :
    ∃ i n, p = .cell i ∧ v = (n.map Held.value).value ∧ M = i ::ₘ footprint n ∧
      cells[i]? = some (n.map Held.part).cell ∧ ∀ x ∈ n.parts, Held.In cells x := by
  cases h with
  | leaf plain json =>
      rw [hv] at plain
      cases plain
  | @node i n cell parts => exact ⟨i, n, rfl, rfl, rfl, cell, parts⟩

/-- Only the cells of a value matter for where its places lead. -/
theorem follow_frame (h : Holds cells v p M) (hc : ∀ i ∈ M, cells'[i]? = cells[i]?)
    (place : List Key) : cells'.follow place p = cells.follow place p := by
  induction place generalizing v p M with
  | nil => rfl
  | cons k place ih =>
      rw [Cells.follow, Cells.follow]
      cases h with
      | leaf plain json => rfl
      | @node i n cell parts =>
          have hi : cells'[i]? = cells[i]? := hc i (Multiset.mem_cons_self _ _)
          rw [Cells.child?_node cell, Cells.child?_node (hi.trans cell)]
          cases hx : n.child? k with
          | none => rfl
          | some x =>
              have hmem := Node.mem_parts hx
              refine ih (parts x hmem) fun j hj => hc j (Multiset.mem_cons_of_mem ?_)
              exact Multiset.mem_of_le (cells_le_footprint hmem) hj

end Holds

/-! ### One cell changed -/

section Changed

variable {cells cells' : Cells} {i : Nat} {n n' : Node Held} {k : Key}
  {carry : Key → Option Key} {new : Option Held} {gone kept : Multiset Held}

/-- The node in a cell has been changed, and no other cell. -/
structure Changed (cells cells' : Cells) (i : Nat) (n n' : Node Held) : Prop where
  cell : cells[i]? = some (n.map Held.part).cell
  parts : ∀ x ∈ n.parts, x.In cells
  cell' : cells'[i]? = some (n'.map Held.part).cell
  other : ∀ j, j ≠ i → cells'[j]? = cells[j]?

theorem Changed.of_modify {g : Cell → Cell} (cell : cells[i]? = some (n.map Held.part).cell)
    (parts : ∀ x ∈ n.parts, x.In cells)
    (hg : g (n.map Held.part).cell = (n'.map Held.part).cell) :
    Changed cells (cells.modify i g) i n n' := by
  refine ⟨cell, parts, ?_, fun j hj => ?_⟩
  · rw [Array.getElem?_modify, if_pos rfl, cell, Option.map_some, hg]
  · rw [Array.getElem?_modify, if_neg (Ne.symm hj)]

theorem Changed.frame (h : Changed cells cells' i n n') {x : Held} (hi : i ∉ x.cells) :
    ∀ j ∈ x.cells, cells'[j]? = cells[j]? :=
  fun j hj => h.other j fun e => hi (e ▸ hj)

/-- The parts of the changed node are held, if the changed cell is in none of them. -/
theorem Changed.parts' (h : Changed cells cells' i n n')
    (hc : n.Changes n' k carry new gone kept)
    (hnew : ∀ x, new = some x → x.In cells ∧ i ∉ x.cells)
    (hkept : i ∉ kept.bind Held.cells) : ∀ x ∈ n'.parts, x.In cells' := by
  intro x hx
  rw [hc.after] at hx
  rcases Multiset.mem_add.mp hx with hx | hx
  · obtain ⟨hheld, hi⟩ := hnew x (Option.mem_toList.mp hx)
    exact hheld.frame (h.frame hi)
  · have hheld := h.parts x (hc.before ▸ Multiset.mem_add.mpr (.inr hx))
    exact hheld.frame (h.frame fun hi => hkept (Multiset.mem_bind.mpr ⟨x, hx, hi⟩))

/-- Beside the changed cell, what is found stays where it is. -/
theorem Changed.follow_apart (h : Changed cells cells' i n n') {x : Held} (hx : x.In cells)
    (hi : i ∉ x.cells) {P : List Key} {q : Part} (hP : cells.follow P x.part = some q) :
    cells'.follow P x.part = some q :=
  (Holds.follow_frame hx (h.frame hi) P).trans hP

/-- What is found below the changed cell is found below the new key, or it has gone. -/
theorem Changed.follow_below (h : Changed cells cells' i n n')
    (hc : n.Changes n' k carry new gone kept) (hi : i ∉ footprint n) {k' : Key} {P : List Key}
    {q : Part} (hP : cells.follow (k' :: P) (.cell i) = some q) :
    (∃ k'', carry k' = some k'' ∧ cells'.follow (k'' :: P) (.cell i) = some q) ∨
      carry k' = none ∧ ∃ x ∈ gone, cells.follow P x.part = some q := by
  rw [Cells.follow, Cells.child?_node h.cell] at hP
  cases hx : n.child? k' with
  | none => rw [hx] at hP; cases hP
  | some x =>
      rw [hx] at hP
      have hmem := Node.mem_parts hx
      obtain ⟨k'', hk, hx'⟩ | ⟨hk, hgone⟩ := hc.follows hx
      · have hix : i ∉ x.cells := fun hix => hi (Multiset.mem_of_le (cells_le_footprint hmem) hix)
        refine .inl ⟨k'', hk, ?_⟩
        rw [Cells.follow, Cells.child?_node h.cell', hx']
        exact h.follow_apart (h.parts x hmem) hix hP
      · exact .inr ⟨hk, x, hgone, hP⟩

/-- After the change of a cell, each part is found at its new place or has gone with a part of the
changed node. -/
theorem Changed.follow (h : Changed cells cells' i n n')
    (hc : n.Changes n' k carry new gone kept) {v : Value} {p : Part} {M : Multiset Nat}
    (hp : Holds cells v p M) (hM : M.Nodup) {container : List Key}
    (hcontainer : cells.follow container p = some (.cell i)) {P : List Key} {q : Part}
    (hP : cells.follow P p = some q) :
    (∃ P', Key.carryAt carry container P = some P' ∧ cells'.follow P' p = some q) ∨
      Key.carryAt carry container P = none ∧ ∃ x ∈ gone, ∃ R, cells.follow R x.part = some q := by
  induction container generalizing v p M P with
  | nil =>
      cases hcontainer
      cases P with
      | nil => exact .inl ⟨[], rfl, hP⟩
      | cons k' P =>
          obtain rfl := hp.cells_unique (Holds.node n h.cell h.parts)
          obtain ⟨hroot, -⟩ := Multiset.nodup_cons.mp hM
          rw [Key.carryAt]
          obtain ⟨k'', hk, hq⟩ | ⟨hk, x, hx, hq⟩ := h.follow_below hc hroot hP
          · exact .inl ⟨k'' :: P, by rw [hk]; rfl, hq⟩
          · exact .inr ⟨by rw [hk]; rfl, x, hx, P, hq⟩
  | cons c container ih =>
      cases P with
      | nil => exact .inl ⟨[], rfl, hP⟩
      | cons k' P =>
          cases hp with
          | leaf plain json => cases hP
          | @node j m cell parts =>
              obtain ⟨hroot, hfoot⟩ := Multiset.nodup_cons.mp hM
              rw [Cells.follow, Cells.child?_node cell] at hcontainer hP
              cases hy : m.child? c with
              | none => rw [hy] at hcontainer; cases hcontainer
              | some y =>
                  cases hx : m.child? k' with
                  | none => rw [hx] at hP; cases hP
                  | some x =>
                      rw [hy] at hcontainer
                      rw [hx] at hP
                      have hymem := Node.mem_parts hy
                      have hiy : i ∈ y.cells := (parts y hymem).mem_of_follow hcontainer
                      have hij : j ≠ i := by
                        rintro rfl
                        exact hroot (Multiset.mem_of_le (cells_le_footprint hymem) hiy)
                      have hchild' : cells'.child? (.cell j) k' = some x.part := by
                        rw [Cells.child?_node ((h.other j hij).trans cell), hx]
                        rfl
                      rw [Key.carryAt]
                      by_cases hk : k' = c
                      · subst hk
                        obtain rfl : y = x := Option.some.inj (hy.symm.trans hx)
                        rw [if_pos rfl]
                        obtain ⟨P', hP', hq⟩ | ⟨hP', hgone⟩ := ih (parts y hymem)
                          (Multiset.nodup_of_le (cells_le_footprint hymem) hfoot) hcontainer hP
                        · refine .inl ⟨k' :: P', by rw [hP']; rfl, ?_⟩
                          rw [Cells.follow, hchild']
                          exact hq
                        · exact .inr ⟨by rw [hP']; rfl, hgone⟩
                      · have hi := Multiset.disjoint_left.mp (disjoint_cells hfoot hy hx hk) hiy
                        rw [if_neg hk]
                        refine .inl ⟨k' :: P, rfl, ?_⟩
                        rw [Cells.follow, hchild']
                        exact h.follow_apart (parts x (Node.mem_parts hx)) hi hP

theorem Changed.follow_new (h : Changed cells cells' i n n')
    (hc : n.Changes n' k carry new gone kept) {v : Value} {p : Part} {M : Multiset Nat}
    (hp : Holds cells v p M) (hM : M.Nodup) {container : List Key}
    (hcontainer : cells.follow container p = some (.cell i)) {x : Held} (hx : new = some x) :
    cells'.follow (container ++ [k]) p = some x.part := by
  obtain ⟨P', hP', hfollow⟩ | ⟨hnone, -⟩ := h.follow hc hp hM hcontainer hcontainer
  · rw [Key.carryAt_self] at hP'
    cases hP'
    rw [Cells.follow_append, hfollow, Option.bind_some, Cells.follow, Cells.child?_node h.cell',
      hc.comes hx]
    rfl
  · rw [Key.carryAt_self] at hnone
    cases hnone

/-- What has no place after the change of a cell is held as it was, in cells that have gone. -/
theorem Changed.holds_gone (h : Changed cells cells' i n n')
    (hc : n.Changes n' k carry new gone kept) {v : Value} {p : Part} {M : Multiset Nat}
    (hp : Holds cells v p M) (hM : M.Nodup) {container : List Key}
    (hcontainer : cells.follow container p = some (.cell i)) {P : List Key} {q : Part}
    (hP : cells.follow P p = some q) (hnone : Key.carryAt carry container P = none)
    (hi : i ∉ gone.bind Held.cells) :
    ∃ L, Holds cells' ((v.at? P).getD .null) q L ∧ L ≤ M ∧ ∀ j ∈ L, j ∈ gone.bind Held.cells := by
  obtain ⟨-, hn⟩ | ⟨x, L, hx, hxf, hheld, hML, -⟩ := hp.seek P
  · rw [hP] at hn
    cases hn
  obtain rfl : x.part = q := Option.some.inj (hxf.symm.trans hP)
  obtain ⟨P', hP', -⟩ | ⟨-, z, hz, R, hR⟩ := h.follow hc hp hM hcontainer hP
  · rw [hnone] at hP'
    cases hP'
  · have hzheld := h.parts z (hc.before ▸ Multiset.mem_add.mpr (.inl hz))
    have hle : ∀ j ∈ x.cells, j ∈ gone.bind Held.cells := fun j hj =>
      Multiset.mem_bind.mpr ⟨z, hz, Multiset.mem_of_le (hzheld.le_of_follow hR hheld) hj⟩
    refine ⟨x.cells, ?_, hML ▸ Multiset.le_add_right _ _, hle⟩
    rw [hx]
    exact Holds.frame hheld (h.frame fun hix => hi (hle i hix))

end Changed

/-! ### Stores -/

/-- A part of the document is found at a place, with the value it stands for. -/
structure Found (s : Store) (place : List Key) (x : Held) : Prop where
  follow : s.cells.follow place s.document = some x.part
  held : x.In s.cells

/-- A store that holds a document in the cells of `M` has become one that holds another document in
the cells of `M'`; the cells of `N` may have come to it.  Parts are found where `carry` says, and
where `enters` denies it, none of their cells has been changed. -/
structure Tracks (s s' : Store) (doc' : Value) (M N M' : Multiset Nat)
    (carry : List Key → Whereabouts) (enters : List Key → Bool) : Prop where
  held : Holds s'.cells doc' s'.document M'
  within : M' ≤ M + N
  size : s.cells.size ≤ s'.cells.size
  frame : ∀ i, i < s.cells.size → i ∉ M → s'.cells[i]? = s.cells[i]?
  stays : ∀ {P P' q}, s.cells.follow P s.document = some q → carry P = .inside P' →
    s'.cells.follow P' s'.document = some q
  goes : ∀ {P v q}, s.cells.follow P s.document = some q → carry P = .outside v →
    ∃ L, Holds s'.cells v q L ∧ L ≤ M ∧ Disjoint L M'
  spares : ∀ {P x}, Found s P x → enters P = false → ∀ i ∈ x.cells, s'.cells[i]? = s.cells[i]?

/-- A container of the document and the cell it is in. -/
structure NodeAt (s : Store) (doc : Value) (container : List Key) (i : Nat) (n : Node Held) :
    Prop where
  value : doc.at? container = some (n.map Held.value).value
  follow : s.cells.follow container s.document = some (.cell i)
  cell : s.cells[i]? = some (n.map Held.part).cell
  parts : ∀ x ∈ n.parts, x.In s.cells

section Slot

variable {s : Store} {doc : Value} {M : Multiset Nat}

theorem Holds.exists_nodeAt (hs : Holds s.cells doc s.document M) {container : List Key} {c : Value}
    (hc : doc.at? container = some c) (hcont : c.isContainer = true) :
    ∃ i n, NodeAt s doc container i n ∧ c = (n.map Held.value).value := by
  obtain ⟨hnone, -⟩ | ⟨y, L, hy, hfollow, hheld, -, -⟩ := hs.seek container
  · rw [hc] at hnone
    cases hnone
  · obtain rfl : c = y.value := Option.some.inj (hc.symm.trans hy)
    obtain ⟨i, n, hpart, hvalue, -, hcell, hparts⟩ := Holds.exists_node hheld hcont
    rw [hpart] at hfollow
    exact ⟨i, n, ⟨hvalue ▸ hc, hfollow, hcell, hparts⟩, hvalue⟩

variable {container : List Key} {i : Nat} {n : Node Held}

theorem NodeAt.child (h : NodeAt s doc container i n) {k : Key} {x : Held}
    (hx : n.child? k = some x) : Found s (container ++ [k]) x := by
  refine ⟨?_, h.parts x (Node.mem_parts hx)⟩
  rw [Cells.follow_append, h.follow, Option.bind_some, Cells.follow, Cells.child?_node h.cell, hx]
  rfl

theorem NodeAt.modifyAt (h : NodeAt s doc container i n) (g : Cell → Cell) :
    s.modifyAt container g = { s with cells := s.cells.modify i g } := by
  rw [Store.modifyAt, h.follow]

/-- The cells of the document are those of the node and others, and whatever stands in the node's
cell then, with the others as they were, the document is held with the changed node in its place. -/
theorem NodeAt.refill (h : NodeAt s doc container i n) (hs : Holds s.cells doc s.document M) :
    ∃ L, M = i ::ₘ footprint n + L ∧ ∀ (cells' : Cells) (n' : Node Held) (f : Value → Value),
      (∀ j ∈ L, cells'[j]? = s.cells[j]?) → cells'[i]? = some (n'.map Held.part).cell →
      (∀ x ∈ n'.parts, x.In cells') → f (n.map Held.value).value = (n'.map Held.value).value →
      Holds cells' (Value.modifyAt container f doc) s.document (i ::ₘ footprint n' + L) := by
  obtain ⟨hnone, -⟩ | ⟨y, L, hy, hfollow, hheld, hML, hrefill⟩ := hs.seek container
  · rw [h.value] at hnone
    cases hnone
  have hvalue : y.value = (n.map Held.value).value := Option.some.inj (hy.symm.trans h.value)
  have hpart : y.part = .cell i := Option.some.inj (hfollow.symm.trans h.follow)
  have hcells : y.cells = i ::ₘ footprint n := by
    unfold Held.In at hheld
    rw [hpart] at hheld
    exact hheld.cells_unique (Holds.node n h.cell h.parts)
  refine ⟨L, hcells ▸ hML, fun cells' n' f hagree hcell hparts hf => ?_⟩
  let changed : Held := ⟨(n'.map Held.value).value, .cell i, i ::ₘ footprint n'⟩
  exact hrefill cells' changed f hpart.symm hagree (Holds.node n' hcell hparts) (hvalue ▸ hf)

/-- Changing a node of the document changes one cell of the store. -/
theorem NodeAt.tracks (h : NodeAt s doc container i n) (hs : Holds s.cells doc s.document M)
    (hM : M.Nodup) {n' : Node Held} {k : Key} {carry : Key → Option Key} {new : Option Held}
    {gone kept : Multiset Held} (hc : n.Changes n' k carry new gone kept)
    (hnew : ∀ x, new = some x → x.In s.cells ∧ Disjoint x.cells M) {N : Multiset Nat}
    (hN : (new.toList : Multiset Held).bind Held.cells = N) {f : Value → Value} {g : Cell → Cell}
    (hf : f (n.map Held.value).value = (n'.map Held.value).value)
    (hg : g (n.map Held.part).cell = (n'.map Held.part).cell) :
    ∃ K, M = gone.bind Held.cells + K ∧
      Tracks s (s.modifyAt container g) (Value.modifyAt container f doc) M N (N + K)
        (fun P => .ofPlace doc P (Key.carryAt carry container P))
        (fun P => P.isPrefixOf container) ∧
      ∀ x, new = some x → (s.modifyAt container g).cells.follow (container ++ [k])
        (s.modifyAt container g).document = some x.part := by
  obtain ⟨L, hML, hrefill⟩ := h.refill hs
  have hfoot : footprint n = gone.bind Held.cells + kept.bind Held.cells := by
    rw [footprint, hc.before, Multiset.add_bind]
  have hfoot' : footprint n' = N + kept.bind Held.cells := by
    rw [footprint, hc.after, Multiset.add_bind, hN]
  -- what goes, and the changed cell with what stays around it
  have hsplit : M = gone.bind Held.cells + i ::ₘ (kept.bind Held.cells + L) := by
    rw [hML, hfoot, Multiset.cons_add, add_assoc, ← Multiset.add_cons]
  refine ⟨i ::ₘ (kept.bind Held.cells + L), hsplit, ?_⟩
  have hnodup := hM
  rw [hsplit] at hnodup
  obtain ⟨-, hstay, hapart⟩ := Multiset.nodup_add.mp hnodup
  have hi : i ∉ kept.bind Held.cells + L := (Multiset.nodup_cons.mp hstay).1
  have higone : i ∉ gone.bind Held.cells :=
    fun hi => Multiset.disjoint_left.mp hapart hi (Multiset.mem_cons_self _ _)
  have hiM : i ∈ M := hs.mem_of_follow h.follow
  have hnew' : ∀ x, new = some x → x.In s.cells ∧ i ∉ x.cells := fun x hx =>
    ⟨(hnew x hx).1, fun hix => Multiset.disjoint_left.mp (hnew x hx).2 hix hiM⟩
  have hNM : Disjoint N M := by
    refine Multiset.disjoint_left.mpr fun {j} hj hjM => ?_
    rw [← hN] at hj
    obtain ⟨x, hx, hj⟩ := Multiset.mem_bind.mp hj
    exact Multiset.disjoint_left.mp (hnew x (Option.mem_toList.mp hx)).2 hj hjM
  rw [h.modifyAt]
  have hchanged := Changed.of_modify h.cell h.parts hg
  constructor
  · refine ⟨?_, ?_, ?_, ?_, ?_, ?_, ?_⟩
    · have hrefilled := hrefill (s.cells.modify i g) n' f
        (fun j hj => hchanged.other j ?_) hchanged.cell'
        (hchanged.parts' hc hnew' fun hik => hi (Multiset.mem_add.mpr (.inl hik))) hf
      · rw [hfoot', Multiset.cons_add, add_assoc, ← Multiset.add_cons] at hrefilled
        exact hrefilled
      · rintro rfl
        exact hi (Multiset.mem_add.mpr (.inr hj))
    · rw [hsplit, add_assoc, add_comm N]
      exact Multiset.le_add_left _ _
    · simp
    · intro j _ hj
      exact hchanged.other j fun e => hj (e ▸ hiM)
    · intro P P' q hq hP'
      have hP' := Whereabouts.ofPlace_eq_inside hP'
      obtain ⟨P'', hP'', hf⟩ | ⟨hnone, -⟩ := hchanged.follow hc hs hM h.follow hq
      · rw [hP'] at hP''
        cases hP''
        exact hf
      · rw [hP'] at hnone
        cases hnone
    · intro P v q hq hout
      obtain ⟨hnone, rfl⟩ := Whereabouts.ofPlace_eq_outside hout
      obtain ⟨L', hL', hle, hgone⟩ := hchanged.holds_gone hc hs hM h.follow hq hnone higone
      refine ⟨L', hL', hle, Multiset.disjoint_left.mpr fun {j} hj hj' => ?_⟩
      rcases Multiset.mem_add.mp hj' with hj' | hj'
      · exact Multiset.disjoint_left.mp hNM hj' (Multiset.mem_of_le hle hj)
      · exact Multiset.disjoint_left.mp hapart (hgone j hj) hj'
    · intro P x hx henters
      refine hchanged.frame fun hix => ?_
      have hprefix := hs.prefix_of_mem hM hx.follow hx.held h.follow hix
      rw [List.isPrefixOf_iff_prefix.mpr hprefix] at henters
      cases henters
  · exact fun x hx => hchanged.follow_new hc hs hM h.follow hx

theorem Store.tracks_insert (hs : Holds s.cells doc s.document M) (hM : M.Nodup) {slot : Slot}
    (hslot : slot.Open doc) {x : Held} (hx : x.In s.cells) (hd : Disjoint x.cells M) :
    (∃ M', Tracks s (s.insert slot x.part) (slot.insert x.value doc) M x.cells M'
      (fun P => .ofPlace doc P (slot.afterInsert P)) slot.isInside) ∧
      (s.insert slot x.part).cells.follow slot.place (s.insert slot x.part).document =
        some x.part := by
  obtain ⟨c, hc, htakes⟩ := hslot
  obtain ⟨i, n, hn, rfl⟩ := hs.exists_nodeAt hc htakes.isContainer
  rw [Node.value_takes, Node.takes_map] at htakes
  obtain ⟨gone, kept, hchanges⟩ := Node.insertAt_changes htakes x
  obtain ⟨K, -, htracks, hfollow⟩ := hn.tracks hs hM hchanges
    (by rintro _ ⟨⟩; exact ⟨hx, hd⟩) (Multiset.singleton_bind x Held.cells)
    (f := fun c => c.insertAt slot.key x.value) (g := fun c => c.insertAt slot.key x.part)
    (by rw [Node.value_insertAt, Node.map_insertAt])
    (by rw [Node.cell_insertAt, Node.map_insertAt])
  exact ⟨⟨_, htracks⟩, hfollow x rfl⟩

theorem Store.tracks_assign (hs : Holds s.cells doc s.document M) (hM : M.Nodup) {slot : Slot}
    (hslot : slot.Filled doc) {x : Held} (hx : x.In s.cells) (hd : Disjoint x.cells M) :
    (∃ M', Tracks s (s.assign slot x.part) (slot.assign x.value doc) M x.cells M'
      (fun P => .ofPlace doc P (slot.afterAssign P)) slot.isInside) ∧
      (s.assign slot x.part).cells.follow slot.place (s.assign slot x.part).document =
        some x.part := by
  obtain ⟨c, w, hc, hw⟩ := hslot
  obtain ⟨i, n, hn, rfl⟩ := hs.exists_nodeAt hc (Value.isContainer_of_child? hw)
  rw [Node.value_child?, Node.child?_map] at hw
  obtain ⟨y, hy, rfl⟩ := Option.map_eq_some_iff.mp hw
  obtain ⟨kept, hchanges⟩ := Node.assignAt_changes hy x
  obtain ⟨K, -, htracks, hfollow⟩ := hn.tracks hs hM hchanges
    (by rintro _ ⟨⟩; exact ⟨hx, hd⟩) (Multiset.singleton_bind x Held.cells)
    (f := fun c => c.assignAt slot.key x.value) (g := fun c => c.assignAt slot.key x.part)
    (by rw [Node.value_assignAt, Node.map_assignAt])
    (by rw [Node.cell_assignAt, Node.map_assignAt])
  exact ⟨⟨_, htracks⟩, hfollow x rfl⟩

/-- What is taken out of a slot keeps its cells, and the document has the others. -/
theorem Store.tracks_delete (hs : Holds s.cells doc s.document M) (hM : M.Nodup) {slot : Slot}
    (hslot : slot.Filled doc) :
    ∃ y M', Found s slot.place y ∧ slot.read? doc = some y.value ∧ M = y.cells + M' ∧
      Tracks s (s.delete slot) (slot.delete doc) M 0 M'
        (fun P => .ofPlace doc P (slot.afterDelete P)) slot.isInside := by
  obtain ⟨c, w, hc, hw⟩ := hslot
  have hread := Slot.read?_of_child? hc hw
  obtain ⟨i, n, hn, rfl⟩ := hs.exists_nodeAt hc (Value.isContainer_of_child? hw)
  rw [Node.value_child?, Node.child?_map] at hw
  obtain ⟨y, hy, rfl⟩ := Option.map_eq_some_iff.mp hw
  obtain ⟨kept, hchanges⟩ := Node.deleteAt_changes hy
  obtain ⟨K, hK, htracks, -⟩ := hn.tracks hs hM hchanges nofun (Multiset.zero_bind _)
    (f := fun c => c.deleteAt slot.key) (g := fun c => c.deleteAt slot.key)
    (by rw [Node.value_deleteAt, Node.map_deleteAt])
    (by rw [Node.cell_deleteAt, Node.map_deleteAt])
  rw [Multiset.singleton_bind] at hK
  rw [zero_add] at htracks
  exact ⟨y, K, hn.child hy, hread, hK, htracks⟩

/-- A part that is found in the document is held. -/
theorem Holds.exists_found (hs : Holds s.cells doc s.document M) {slot : Slot}
    (hslot : slot.Filled doc) :
    ∃ y, Found s slot.place y ∧ slot.read? doc = some y.value ∧ y.cells ≤ M := by
  obtain ⟨c, w, hc, hw⟩ := hslot
  have hread := Slot.read?_of_child? hc hw
  obtain ⟨hnone, -⟩ | ⟨y, L, hy, hf, hheld, hML, -⟩ := hs.seek slot.place
  · rw [Slot.read?, hnone] at hread
    cases hread
  · exact ⟨y, ⟨hf, hheld⟩, hy, hML ▸ Multiset.le_add_right _ _⟩

theorem Store.part_of_found {s : Store} {slot : Slot} {y : Held} (h : Found s slot.place y) :
    s.part slot = y.part := by
  rw [Store.part, h.follow]
  rfl

/-- New cells beside those of a document change nothing. -/
theorem Tracks.of_grows {s' : Store} {doc' : Value} {N M' : Multiset Nat}
    {carry : List Key → Whereabouts} {enters : List Key → Bool} {cells : Cells}
    (hg : Grows s.cells cells) (hs : Holds s.cells doc s.document M)
    (h : Tracks { s with cells } s' doc' M N M' carry enters) :
    Tracks s s' doc' M N M' carry enters := by
  have hfollow : ∀ P, cells.follow P s.document = s.cells.follow P s.document :=
    hs.follow_frame fun i hi => hg.kept i (hs.lt_size hi)
  refine ⟨h.held, h.within, Nat.le_trans hg.size h.size, fun i hi hM => ?_, fun hq => ?_,
    fun hq => ?_, fun hx he i hi => ?_⟩
  · exact (h.frame i (Nat.lt_of_lt_of_le hi hg.size) hM).trans (hg.kept i hi)
  · exact h.stays ((hfollow _).trans hq)
  · exact h.goes ((hfollow _).trans hq)
  · have hx' := h.spares ⟨(hfollow _).trans hx.follow, hg.held hx.held⟩ he i hi
    exact hx'.trans (hg.kept i (hx.held.lt_size hi))

theorem Store.tracks_copy (hs : Holds s.cells doc s.document M) (hM : M.Nodup) {source target : Slot}
    (hsource : source.Filled doc) (htarget : target.Open doc) :
    ∃ copied cells N M', s.cells.copy? (s.part source) = some (copied, cells) ∧
      Tracks s (Store.insert { s with cells } target copied)
        (target.insert ((source.read? doc).getD .null) doc) M N M'
        (fun P => .ofPlace doc P (target.afterInsert P)) target.isInside ∧
      N.Nodup ∧ ∀ i ∈ N, s.cells.size ≤ i := by
  obtain ⟨y, hy, hread, hle⟩ := hs.exists_found hsource
  have hcopy := hy.held.copy? (Multiset.nodup_of_le hle hM)
  obtain ⟨N, hN⟩ := Cells.plant_planted y.value hy.held.isJson s.cells
  have hfresh := hN.fresh
  have hnodup := hN.nodup
  rw [Multiset.singleton_bind] at hfresh hnodup
  have hs' := hs.frame fun i hi => hN.grows.kept i (hs.lt_size hi)
  have hd : Disjoint N M := Multiset.disjoint_left.mpr fun {i} hi hiM =>
    absurd (hs.lt_size hiM) (Nat.not_lt_of_le (hfresh i hi))
  obtain ⟨⟨M', htracks⟩, -⟩ := Store.tracks_insert (s := { s with cells := (s.cells.plant y.value).2 })
    hs' hM htarget (hN.held _ (Multiset.mem_singleton_self _)) hd
  refine ⟨_, _, N, M', (Store.part_of_found hy).symm ▸ hcopy, ?_, hnodup, hfresh⟩
  rw [hread]
  exact Tracks.of_grows hN.grows hs htracks

/-- A value has been taken out of one slot of the document and put into another. -/
structure Moved (s s₁ s₂ : Store) (doc : Value) (source slot : Slot) (y : Held)
    (M M₁ M₂ : Multiset Nat) : Prop where
  found : Found s source.place y
  nodup : M.Nodup
  split : M = y.cells + M₁
  out : Tracks s s₁ (source.delete doc) M 0 M₁ (fun P => .ofPlace doc P (source.afterDelete P))
    source.isInside
  back : Tracks s₁ s₂ (slot.insert y.value (source.delete doc)) M₁ y.cells M₂
    (fun P => .ofPlace (source.delete doc) P (slot.afterInsert P)) slot.isInside
  placed : s₂.cells.follow slot.place s₂.document = some y.part

namespace Moved

variable {s₁ s₂ : Store} {source slot : Slot} {y : Held} {M₁ M₂ : Multiset Nat}
  (h : Moved s s₁ s₂ doc source slot y M M₁ M₂)
include h

theorem le : M₁ ≤ M := h.split ▸ Multiset.le_add_left _ _

/-- The moved value keeps its cells. -/
theorem kept : ∀ i ∈ y.cells, s₂.cells[i]? = s.cells[i]? := by
  intro i hi
  have hout : s₁.cells[i]? = s.cells[i]? := h.out.spares h.found source.isInside_place i hi
  have hlt : i < s₁.cells.size := Nat.lt_of_lt_of_le (h.found.held.lt_size hi) h.out.size
  have hnodup := h.nodup
  rw [h.split] at hnodup
  obtain ⟨-, -, hd⟩ := Multiset.nodup_add.mp hnodup
  exact (h.back.frame i hlt (Multiset.disjoint_left.mp hd hi)).trans hout

theorem frame {i : Nat} (hi : i < s.cells.size) (hiM : i ∉ M) :
    s₂.cells[i]? = s.cells[i]? := by
  have hiM₁ : i ∉ M₁ := fun hi => hiM (Multiset.mem_of_le h.le hi)
  have hout : s₁.cells[i]? = s.cells[i]? := h.out.frame i hi hiM
  exact (h.back.frame i (Nat.lt_of_lt_of_le hi h.out.size) hiM₁).trans hout

/-- What has been inside of the source is inside of the target. -/
theorem follow_inside {R : List Key} {q : Part}
    (hq : s.cells.follow (source.place ++ R) s.document = some q) :
    s₂.cells.follow (slot.place ++ R) s₂.document = some q := by
  rw [Cells.follow_append, h.found.follow, Option.bind_some] at hq
  rw [Cells.follow_append, h.placed, Option.bind_some, h.found.held.follow_frame h.kept]
  exact hq

/-- What has been beside the source is found in the document without it. -/
theorem follow_beside {P P₁ : List Key} {q : Part} (hP : source.afterDelete P = some P₁)
    (hq : s.cells.follow P s.document = some q) : s₁.cells.follow P₁ s₁.document = some q := by
  refine h.out.stays hq ?_
  simp only [hP]
  rfl

theorem goes {P P₁ : List Key} {q : Part} {v : Value} (hP : source.afterDelete P = some P₁)
    (hq : s.cells.follow P s.document = some q)
    (hv : Whereabouts.ofPlace (source.delete doc) P₁ (slot.afterInsert P₁) = .outside v) :
    ∃ L, Holds s₂.cells v q L ∧ L ≤ M ∧ Disjoint L M₂ := by
  obtain ⟨L, hL, hle, hd⟩ := h.back.goes (h.follow_beside hP hq) hv
  exact ⟨L, hL, hle.trans h.le, hd⟩

/-- What has been inside of the source is as it was. -/
theorem spares_inside {P : List Key} {x : Held} (hx : Found s P x)
    (hP : source.afterDelete P = none) (he : source.isInside P = false) :
    ∀ i ∈ x.cells, s₂.cells[i]? = s.cells[i]? := by
  intro i hi
  have hout := h.out.spares hx he
  have hx₁ : x.In s₁.cells := Holds.frame hx.held hout
  obtain ⟨L, hL, -, hd⟩ := h.out.goes hx.follow (v := (doc.at? P).getD .null)
    (by simp only [hP]; rfl)
  obtain rfl : x.cells = L := Holds.cells_unique hx₁ hL
  exact (h.back.frame i (hx₁.lt_size hi) (Multiset.disjoint_left.mp hd hi)).trans (hout i hi)

theorem spares_beside {P P₁ : List Key} {x : Held} (hx : Found s P x)
    (hP : source.afterDelete P = some P₁) (he : source.isInside P = false)
    (he₁ : slot.isInside P₁ = false) : ∀ i ∈ x.cells, s₂.cells[i]? = s.cells[i]? := by
  intro i hi
  have hout := h.out.spares hx he
  have hx₁ : Found s₁ P₁ x := ⟨h.follow_beside hP hx.follow, Holds.frame hx.held hout⟩
  exact (h.back.spares hx₁ he₁ i hi).trans (hout i hi)

/-- What is moved is found at its new place, with all that is inside of it. -/
theorem tracks {target : Pointer} (hslot : target.insertionSlot (source.delete doc) = .ok slot) :
    Tracks s s₂ (slot.insert y.value (source.delete doc)) M 0 M₂
      (Edit.carry doc (.move source target)) (Edit.enters doc (.move source target)) := by
  refine ⟨h.back.held, ?_, Nat.le_trans h.out.size h.back.size, fun i hi hiM => h.frame hi hiM,
    ?_, ?_, ?_⟩
  · rw [add_zero, h.split, add_comm]
    exact h.back.within
  · intro P P' q hq hP'
    simp only [Edit.carry, hslot] at hP'
    split_ifs at hP' with hprefix
    · cases hP'
      obtain ⟨R, rfl⟩ := List.isPrefixOf_iff_prefix.mp hprefix
      rw [List.drop_left]
      exact h.follow_inside hq
    · cases hdel : source.afterDelete P with
      | none => exact absurd (Slot.isPrefixOf_of_afterDelete hdel) hprefix
      | some P₁ =>
          rw [hdel] at hP'
          exact h.back.stays (h.follow_beside hdel hq) hP'
  · intro P v q hq hout
    simp only [Edit.carry, hslot] at hout
    split_ifs at hout with hprefix
    cases hdel : source.afterDelete P with
    | none => exact absurd (Slot.isPrefixOf_of_afterDelete hdel) hprefix
    | some P₁ =>
        rw [hdel] at hout
        exact h.goes hdel hq hout
  · intro P x hx henters
    simp only [Edit.enters, hslot, Bool.or_eq_false_iff] at henters
    obtain ⟨he, he'⟩ := henters
    cases hdel : source.afterDelete P with
    | none => exact h.spares_inside hx hdel he
    | some P₁ =>
        rw [hdel] at he'
        exact h.spares_beside hx hdel he he'

end Moved

theorem Store.tracks_move (hs : Holds s.cells doc s.document M) (hM : M.Nodup) {source slot : Slot}
    {target : Pointer} (hsource : source.Filled doc)
    (hslot : target.insertionSlot (source.delete doc) = .ok slot) :
    ∃ M', Tracks s ((s.delete source).insert slot (s.part source))
      (slot.insert ((source.read? doc).getD .null) (source.delete doc)) M 0 M'
      (Edit.carry doc (.move source target)) (Edit.enters doc (.move source target)) := by
  obtain ⟨y, M₁, hy, hread, hsplit, hout⟩ := Store.tracks_delete hs hM hsource
  have hnodup := hM
  rw [hsplit] at hnodup
  obtain ⟨-, hM₁, hd⟩ := Multiset.nodup_add.mp hnodup
  -- the moved value keeps its cells while it is out of the document
  have hheld : y.In (s.delete source).cells :=
    Holds.frame hy.held (hout.spares hy source.isInside_place)
  obtain ⟨⟨M₂, hback⟩, hplaced⟩ := Store.tracks_insert hout.held hM₁
    (Pointer.open_of_insertionSlot hslot) hheld hd
  have hmoved : Moved s (s.delete source) ((s.delete source).insert slot y.part) doc source slot y
      M M₁ M₂ := ⟨hy, hM, hsplit, hout, hback, hplaced⟩
  rw [Store.part_of_found hy, hread]
  exact ⟨M₂, hmoved.tracks hslot⟩

/-- The edits of the core operations follow the edits of the document. -/
theorem Store.tracks_edit (hs : Holds s.cells doc s.document M) (hM : M.Nodup) {own : Held}
    (hown : own.In s.cells) (hd : Disjoint own.cells M) {e : Edit} (he : e.Fits doc) :
    (s.edit own.part e).trouble = (e.apply own.value doc).trouble ∧
      ∃ N M', Tracks s (s.edit own.part e).content (e.apply own.value doc).content M N M'
        (e.carry doc) (e.enters doc) ∧
        ((∃ place, e.placed? = some place ∧ N = own.cells ∧
            (s.edit own.part e).content.cells.follow place (s.edit own.part e).content.document =
              some own.part) ∨
          e.placed? = none ∧ N.Nodup ∧ ∀ i ∈ N, s.cells.size ≤ i) := by
  cases e with
  | insert slot =>
      obtain ⟨⟨M', h⟩, hplaced⟩ := Store.tracks_insert hs hM he hown hd
      exact ⟨rfl, _, M', h, .inl ⟨_, rfl, rfl, hplaced⟩⟩
  | assign slot payload =>
      cases payload with
      | fresh v => cases he
      | own =>
          obtain ⟨⟨M', h⟩, hplaced⟩ := Store.tracks_assign hs hM he hown hd
          exact ⟨rfl, _, M', h, .inl ⟨_, rfl, rfl, hplaced⟩⟩
  | delete slot =>
      obtain ⟨-, M', -, -, -, h⟩ := Store.tracks_delete hs hM he
      exact ⟨rfl, _, M', h, .inr ⟨rfl, Multiset.nodup_zero, nofun⟩⟩
  | move source target =>
      obtain ⟨y, M₁, hy, hread, hsplit, h₁⟩ := Store.tracks_delete hs hM he
      have hM₁ : M₁.Nodup := Multiset.nodup_of_le (hsplit ▸ Multiset.le_add_left _ _) hM
      have hview : (s.delete source).view (.ofPointer target) = source.delete doc :=
        h₁.held.view hM₁ _
      cases hslot : target.insertionSlot (source.delete doc) with
      | ok slot =>
          obtain ⟨M', h⟩ := Store.tracks_move hs hM he hslot
          simp only [Store.edit, Edit.apply, hview, hslot]
          exact ⟨trivial, _, M', h, .inr ⟨rfl, Multiset.nodup_zero, nofun⟩⟩
      | error f =>
          simp only [Store.edit, Edit.apply, hview, hslot]
          refine ⟨trivial, 0, M₁, ?_, .inr ⟨rfl, Multiset.nodup_zero, nofun⟩⟩
          have hcarry : Edit.carry doc (.move source target) =
              fun P => .ofPlace doc P (source.afterDelete P) := by
            funext P
            simp only [Edit.carry, hslot]
          have henters : Edit.enters doc (.move source target) = source.isInside := by
            funext P
            simp only [Edit.enters, hslot, Bool.or_false]
          rw [hcarry, henters]
          exact h₁
  | copy source target =>
      obtain ⟨copied, cells, N, M', hcopy, h, hN, hfresh⟩ := Store.tracks_copy hs hM he.1 he.2
      simp only [Store.edit, hcopy]
      exact ⟨rfl, N, M', h, .inr ⟨rfl, hN, hfresh⟩⟩
  | extend slot => cases he

end Slot
end Live
end JsonPatch
