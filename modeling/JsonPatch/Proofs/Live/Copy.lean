import JsonPatch.Proofs.Live.Plant

/-! # Copies

Copying reads back what was there, however the cells are shared (`copy?_read?`).  A part that can be
read within a depth is copied within this depth, into new cells; what was there before stays, so
that what has been copied already can still be read while the rest is copied. -/

namespace JsonPatch.Live.Cells

variable {cells cells' : Cells} {depth : Nat} {p : Part} {v : Value}

/-! ### Lists of results -/

theorem mapM_iff_forall₂ {α β : Type} {f : α → Option β} {l : List α} {r : List β} :
    l.mapM f = some r ↔ List.Forall₂ (fun a b => f a = some b) l r := by
  induction l generalizing r with
  | nil => simp [eq_comm]
  | cons a l ih =>
      rw [List.mapM_cons, List.forall₂_cons_left_iff]
      constructor
      · intro h
        obtain ⟨b, hb, h⟩ := Option.bind_eq_some_iff.mp h
        obtain ⟨bs, hbs, h⟩ := Option.bind_eq_some_iff.mp h
        cases h
        exact ⟨b, bs, hb, ih.mp hbs, rfl⟩
      · rintro ⟨b, bs, hb, hbs, rfl⟩
        rw [hb, ih.mpr hbs]
        rfl

/-- The members that are read have the same names. -/
theorem forall₂_members {α β : Type} {R : α → Option β} {l : List (String × α)}
    {r : List (String × β)} :
    List.Forall₂ (fun m b => (R m.2).map (fun v => (m.1, v)) = some b) l r ↔
      Members.names l = Members.names r ∧
        List.Forall₂ (fun a b => R a = some b) (l.map (·.2)) (r.map (·.2)) := by
  induction l generalizing r with
  | nil => cases r <;> simp [Members.names]
  | cons m l ih =>
      cases r with
      | nil => simp [Members.names]
      | cons b r =>
          rw [List.forall₂_cons, ih, List.map_cons, List.map_cons, List.forall₂_cons]
          obtain ⟨name, a⟩ := m
          obtain ⟨name', b⟩ := b
          simp only [Members.names, List.map_cons, List.cons.injEq, Option.map_eq_some_iff,
            Prod.mk.injEq]
          constructor
          · rintro ⟨⟨x, hx, rfl, rfl⟩, hnames, hrest⟩
            exact ⟨⟨rfl, hnames⟩, hx, hrest⟩
          · rintro ⟨⟨rfl, hnames⟩, hx, hrest⟩
            exact ⟨⟨b, hx, rfl, rfl⟩, hnames, hrest⟩

/-! ### Reading in later cells -/

/-- What is read is read again where more cells have come, and with more depth. -/
theorem readWithin_grows (hg : Grows cells cells') {depth' : Nat} (hd : depth ≤ depth')
    (h : cells.readWithin depth p = some v) : cells'.readWithin depth' p = some v := by
  induction depth generalizing depth' p v with
  | zero =>
      cases p with
      | leaf w => cases depth' <;> exact h
      | cell i => cases h
  | succ depth ih =>
      cases p with
      | leaf w => cases depth' <;> exact h
      | cell i =>
          obtain ⟨depth', rfl⟩ : ∃ d, depth' = d + 1 := ⟨depth' - 1, by omega⟩
          have hle : depth ≤ depth' := Nat.le_of_succ_le_succ hd
          have hitems : ∀ {ps : List Part} {vs : List Value},
              ps.mapM (cells.readWithin depth) = some vs →
                ps.mapM (cells'.readWithin depth') = some vs := by
            intro ps vs hps
            exact mapM_iff_forall₂.mpr ((mapM_iff_forall₂.mp hps).imp fun _ _ => ih hle)
          rw [readWithin] at h ⊢
          cases hi : cells[i]? with
          | none => rw [hi] at h; cases h
          | some c =>
              have hlt : i < cells.size := (Array.getElem?_eq_some_iff.mp hi).1
              rw [hi] at h
              rw [hg.kept i hlt, hi]
              cases c with
              | array items =>
                  obtain ⟨vs, hvs, rfl⟩ := Option.map_eq_some_iff.mp h
                  exact Option.map_eq_some_iff.mpr ⟨vs, hitems hvs, rfl⟩
              | tuple items =>
                  obtain ⟨vs, hvs, rfl⟩ := Option.map_eq_some_iff.mp h
                  exact Option.map_eq_some_iff.mpr ⟨vs, hitems hvs, rfl⟩
              | object members =>
                  obtain ⟨ms, hms, rfl⟩ := Option.map_eq_some_iff.mp h
                  refine Option.map_eq_some_iff.mpr ⟨ms, ?_, rfl⟩
                  obtain ⟨hnames, hvalues⟩ := forall₂_members.mp (mapM_iff_forall₂.mp hms)
                  exact mapM_iff_forall₂.mpr
                    (forall₂_members.mpr ⟨hnames, hvalues.imp fun _ _ => ih hle⟩)

/-! ### Copying -/

/-- A copy of a part that reads a value: later cells, and a part of them that reads the same. -/
def CopyReads (depth : Nat) (p : Part) (v : Value) (cells : Cells) : Prop :=
  ∃ p' cells', copyWithin depth p cells = some (p', cells') ∧ Grows cells cells' ∧
    cells'.readWithin depth p' = some v

theorem copyItems_reads {ps : List Part} {vs : List Value}
    (h : List.Forall₂ (fun p v => ∀ cells', Grows cells cells' → CopyReads depth p v cells') ps vs)
    (hg : Grows cells cells') :
    ∃ ps' cells'', copyItems (copyWithin depth) ps cells' = some (ps', cells'') ∧
      Grows cells' cells'' ∧
      List.Forall₂ (fun p v => cells''.readWithin depth p = some v) ps' vs := by
  induction h generalizing cells' with
  | nil => exact ⟨[], cells', rfl, Grows.refl cells', .nil⟩
  | cons hp _ ih =>
      obtain ⟨p', cells₁, hcopy, hgrows, hread⟩ := hp cells' hg
      obtain ⟨ps', cells₂, hrest, hgrows', hreads⟩ := ih (hg.trans hgrows)
      refine ⟨p' :: ps', cells₂, ?_, hgrows.trans hgrows', .cons ?_ hreads⟩
      · rw [copyItems, hcopy]
        dsimp only
        rw [hrest]
        rfl
      · exact readWithin_grows hgrows' (Nat.le_refl depth) hread

/-- The cell that is pushed last is read. -/
theorem readWithin_push (depth : Nat) (cells : Cells) (c : Cell) :
    readWithin (cells.push c) (depth + 1) (.cell cells.size) =
      match c with
      | .array items => (items.mapM (readWithin (cells.push c) depth)).map .array
      | .tuple items => (items.mapM (readWithin (cells.push c) depth)).map .tuple
      | .object members =>
        (members.mapM fun m => (readWithin (cells.push c) depth m.2).map fun v => (m.1, v)).map
          .object := by
  conv_lhs => rw [readWithin, Array.getElem?_push_size]
  cases c <;> rfl

section Node

variable {i : Nat} {items : List Part} {members : List (String × Part)}

theorem copyReads_array {vs : List Value} (hcell : cells'[i]? = some (.array items))
    (hg : Grows cells cells') (h : List.Forall₂ (fun p v => ∀ cells', Grows cells cells' →
      CopyReads depth p v cells') items vs) :
    CopyReads (depth + 1) (.cell i) (.array vs) cells' := by
  obtain ⟨ps', cells₁, hitems, hgrows, hreads⟩ := copyItems_reads h hg
  have hpush := Grows.push cells₁ (.array ps')
  rw [CopyReads, copyWithin, hcell]
  refine ⟨_, _, Option.map_eq_some_iff.mpr ⟨_, hitems, rfl⟩, hgrows.trans hpush, ?_⟩
  rw [readWithin_push]
  refine Option.map_eq_some_iff.mpr ⟨vs, mapM_iff_forall₂.mpr ?_, rfl⟩
  exact hreads.imp fun _ _ => readWithin_grows hpush (Nat.le_refl depth)

/-- The copies of the values get the names of the members back. -/
theorem copyReads_object {ms : Members} (hcell : cells'[i]? = some (.object members))
    (hg : Grows cells cells') (hnames : Members.names members = Members.names ms)
    (h : List.Forall₂ (fun p v => ∀ cells', Grows cells cells' → CopyReads depth p v cells')
      (members.map (·.2)) (ms.map (·.2))) :
    CopyReads (depth + 1) (.cell i) (.object ms) cells' := by
  obtain ⟨ps', cells₁, hitems, hgrows, hreads⟩ := copyItems_reads h hg
  have hpush := Grows.push cells₁ (.object ((Members.names members).zip ps'))
  have hlength : (Members.names members).length = ps'.length := by
    rw [hreads.length_eq, hnames, Members.names, List.length_map, List.length_map]
  rw [CopyReads, copyWithin, hcell]
  refine ⟨_, _, Option.map_eq_some_iff.mpr ⟨_, hitems, rfl⟩, hgrows.trans hpush, ?_⟩
  rw [readWithin_push]
  refine Option.map_eq_some_iff.mpr ⟨ms, mapM_iff_forall₂.mpr (forall₂_members.mpr ⟨?_, ?_⟩), rfl⟩
  · rw [Members.names, List.map_fst_zip (Nat.le_of_eq hlength), hnames]
  · rw [List.map_snd_zip (Nat.le_of_eq hlength.symm)]
    exact hreads.imp fun _ _ => readWithin_grows hpush (Nat.le_refl depth)

end Node

theorem copyWithin_reads (h : cells.readWithin depth p = some v) (hg : Grows cells cells') :
    CopyReads depth p v cells' := by
  induction depth generalizing p v cells' with
  | zero =>
      cases p with
      | leaf w => exact ⟨.leaf w, cells', rfl, Grows.refl cells', h⟩
      | cell i => cases h
  | succ depth ih =>
      cases p with
      | leaf w => exact ⟨.leaf w, cells', rfl, Grows.refl cells', h⟩
      | cell i =>
          have hread := readWithin_grows hg (Nat.le_refl (depth + 1)) h
          have hcopy : ∀ {ps : List Part} {vs : List Value},
              List.Forall₂ (fun p v => cells.readWithin depth p = some v) ps vs →
              List.Forall₂ (fun p v => ∀ cells', Grows cells cells' →
                CopyReads depth p v cells') ps vs :=
            fun hps => hps.imp fun _ _ hp _ hg => ih hp hg
          rw [readWithin] at h
          cases hi : cells[i]? with
          | none => rw [hi] at h; cases h
          | some c =>
              have hcell := (hg.kept i (Array.getElem?_eq_some_iff.mp hi).1).trans hi
              rw [hi] at h
              cases c with
              | array items =>
                  obtain ⟨vs, hvs, rfl⟩ := Option.map_eq_some_iff.mp h
                  exact copyReads_array hcell hg (hcopy (mapM_iff_forall₂.mp hvs))
              | tuple items =>
                  -- a frozen array is shared with its copy
                  refine ⟨.cell i, cells', ?_, Grows.refl cells', hread⟩
                  rw [copyWithin, hcell]
              | object members =>
                  obtain ⟨ms, hms, rfl⟩ := Option.map_eq_some_iff.mp h
                  obtain ⟨hnames, hvalues⟩ := forall₂_members.mp (mapM_iff_forall₂.mp hms)
                  exact copyReads_object hcell hg hnames (hcopy hvalues)

/-- What can be read can be copied, and the copy reads the same. -/
theorem copy?_read? (h : cells.read? p = some v) :
    ∃ p' cells', cells.copy? p = some (p', cells') ∧ cells'.read? p' = some v := by
  obtain ⟨p', cells', hcopy, hgrows, hread⟩ := copyWithin_reads h (Grows.refl cells)
  exact ⟨p', cells', hcopy, readWithin_grows (Grows.refl cells') hgrows.size hread⟩

end JsonPatch.Live.Cells
