import JsonPatch.Live.View
import JsonPatch.Proofs.Live.Holds
import JsonPatch.Proofs.Value.Json
import Mathlib.Data.Multiset.Range

/-! # Planting, reading and copying

A JSON value that is put into cells takes new cells of its own (`Planted`).  What is held without a
repetition is read back as it is (`Holds.read?`), and copying it is to plant its value again
(`Holds.copy?`). -/

namespace JsonPatch.Live

/-! ### Growing -/

/-- The cells are kept among later ones. -/
structure Grows (cells cells' : Cells) : Prop where
  size : cells.size ≤ cells'.size
  kept : ∀ i, i < cells.size → cells'[i]? = cells[i]?

namespace Grows

variable {cells cells' cells'' : Cells}

theorem refl (cells : Cells) : Grows cells cells :=
  ⟨Nat.le_refl _, fun _ _ => rfl⟩

theorem trans (h : Grows cells cells') (h' : Grows cells' cells'') : Grows cells cells'' :=
  ⟨Nat.le_trans h.size h'.size, fun i hi =>
    (h'.kept i (Nat.lt_of_lt_of_le hi h.size)).trans (h.kept i hi)⟩

theorem push (cells : Cells) (c : Cell) : Grows cells (cells.push c) := by
  refine ⟨by simp, fun i hi => ?_⟩
  rw [Array.getElem?_push, if_neg (Nat.ne_of_lt hi)]

theorem held {x : Held} (h : Grows cells cells') (hx : x.In cells) : x.In cells' :=
  Holds.frame hx fun i hi => h.kept i (hx.lt_size hi)

end Grows

/-! ### Planting -/

/-- Values that are held in new cells of their own, beyond the ones there were. -/
structure Planted (cells : Cells) (xs : Multiset Held) (cells' : Cells) : Prop where
  grows : Grows cells cells'
  held : ∀ x ∈ xs, x.In cells'
  fresh : ∀ i ∈ xs.bind Held.cells, cells.size ≤ i
  nodup : (xs.bind Held.cells).Nodup

namespace Planted

variable {cells cells' cells'' : Cells}

theorem nil (cells : Cells) : Planted cells 0 cells :=
  ⟨Grows.refl cells, nofun, nofun, Multiset.nodup_zero⟩

theorem cons {x : Held} {xs : Multiset Held} (h : Planted cells {x} cells')
    (h' : Planted cells' xs cells'') : Planted cells (x ::ₘ xs) cells'' := by
  have hx : x.In cells' := h.held x (Multiset.mem_singleton_self x)
  have hn := h.nodup
  have hf := h.fresh
  rw [Multiset.singleton_bind] at hn hf
  refine ⟨h.grows.trans h'.grows, fun y hy => ?_, fun i hi => ?_, ?_⟩
  · rcases Multiset.mem_cons.mp hy with rfl | hy
    · exact h'.grows.held hx
    · exact h'.held y hy
  · rw [Multiset.cons_bind] at hi
    rcases Multiset.mem_add.mp hi with hi | hi
    · exact hf i hi
    · exact Nat.le_trans h.grows.size (h'.fresh i hi)
  · rw [Multiset.cons_bind]
    refine Multiset.nodup_add.mpr ⟨hn, h'.nodup, Multiset.disjoint_left.mpr fun {i} hi hi' => ?_⟩
    exact absurd (hx.lt_size hi) (Nat.not_lt_of_le (h'.fresh i hi'))

/-- A node of planted parts is planted by one more cell. -/
theorem node {n : Node Held} (h : Planted cells n.parts cells') :
    Planted cells {⟨(n.map Held.value).value, .cell cells'.size, cells'.size ::ₘ footprint n⟩}
      (cells'.push (n.map Held.part).cell) := by
  have hpush := Grows.push cells' (n.map Held.part).cell
  refine ⟨h.grows.trans hpush, fun x hx => ?_, fun i hi => ?_, ?_⟩
  · obtain rfl := Multiset.mem_singleton.mp hx
    exact Holds.node n (by simp) fun y hy => hpush.held (h.held y hy)
  · rw [Multiset.singleton_bind] at hi
    rcases Multiset.mem_cons.mp hi with rfl | hi
    · exact h.grows.size
    · exact h.fresh i hi
  · rw [Multiset.singleton_bind]
    refine Multiset.nodup_cons.mpr ⟨fun hi => ?_, h.nodup⟩
    obtain ⟨x, hx, hi⟩ := Multiset.mem_bind.mp hi
    exact absurd ((h.held x hx).lt_size hi) (Nat.lt_irrefl _)

end Planted

namespace Cells

/-- A leaf takes no cells. -/
theorem planted_leaf {v : Value} (hc : v.isContainer = false) (hj : v.IsJson) (cells : Cells) :
    Planted cells {⟨v, .leaf v, 0⟩} cells := by
  refine ⟨Grows.refl cells, fun x hx => ?_, ?_, ?_⟩
  · obtain rfl := Multiset.mem_singleton.mp hx
    exact Holds.leaf hc hj
  · rw [Multiset.singleton_bind]
    exact nofun
  · rw [Multiset.singleton_bind]
    exact Multiset.nodup_zero

mutual

/-- A value that is planted takes new cells. -/
theorem plant_planted : ∀ (v : Value), v.isJson = true → ∀ cells : Cells,
    ∃ M, Planted cells {⟨v, (plant v cells).1, M⟩} (plant v cells).2
  | .array items, h, cells => by
      obtain ⟨xs, hv, hp, hxs⟩ := plantItems_planted items h cells
      have hnode := Planted.node (n := .array xs) hxs
      simp only [Node.map, Node.value, Node.cell, hv, ← hp] at hnode
      exact ⟨_, hnode⟩
  | .object members, h, cells => by
      obtain ⟨xs, hv, hp, hxs⟩ := plantMembers_planted members h cells
      have hnode := Planted.node (n := .object xs) hxs
      simp only [Node.map, Node.value, Node.cell, hv, ← hp] at hnode
      exact ⟨_, hnode⟩
  | .null, h, cells => ⟨0, planted_leaf rfl h cells⟩
  | .bool b, h, cells => ⟨0, planted_leaf rfl h cells⟩
  | .number n, h, cells => ⟨0, planted_leaf rfl h cells⟩
  | .string s, h, cells => ⟨0, planted_leaf rfl h cells⟩

theorem plantItems_planted : ∀ (items : List Value), Value.isJsonItems items = true →
    ∀ cells : Cells, ∃ xs : List Held, xs.map Held.value = items ∧
      (plantItems items cells).1 = xs.map Held.part ∧
      Planted cells xs (plantItems items cells).2
  | [], _, cells => ⟨[], rfl, rfl, Planted.nil cells⟩
  | v :: rest, h, cells => by
      obtain ⟨hv, hrest⟩ := Bool.and_eq_true_iff.mp h
      obtain ⟨M, hM⟩ := plant_planted v hv cells
      obtain ⟨xs, hxv, hxp, hxs⟩ := plantItems_planted rest hrest (plant v cells).2
      refine ⟨⟨v, (plant v cells).1, M⟩ :: xs, ?_, ?_, hM.cons hxs⟩
      · rw [List.map_cons, hxv]
      · rw [List.map_cons, ← hxp]
        rfl

theorem plantMembers_planted : ∀ (members : Members), Value.isJsonMembers members = true →
    ∀ cells : Cells, ∃ xs : List (String × Held),
      (xs.map fun m => (m.1, m.2.value)) = members ∧
      (plantMembers members cells).1 = (xs.map fun m => (m.1, m.2.part)) ∧
      Planted cells (Members.values xs) (plantMembers members cells).2
  | [], _, cells => ⟨[], rfl, rfl, Planted.nil cells⟩
  | (name, v) :: rest, h, cells => by
      obtain ⟨hv, hrest⟩ := Bool.and_eq_true_iff.mp h
      obtain ⟨M, hM⟩ := plant_planted v hv cells
      obtain ⟨xs, hxv, hxp, hxs⟩ := plantMembers_planted rest hrest (plant v cells).2
      refine ⟨(name, ⟨v, (plant v cells).1, M⟩) :: xs, ?_, ?_, hM.cons hxs⟩
      · rw [List.map_cons, hxv]
      · rw [List.map_cons, ← hxp]
        rfl

end

/-- Planting members is to plant their values. -/
theorem plantMembers_eq (members : Members) (cells : Cells) :
    plantMembers members cells =
      ((Members.names members).zip (plantItems (members.map (·.2)) cells).1,
        (plantItems (members.map (·.2)) cells).2) := by
  induction members generalizing cells with
  | nil => rfl
  | cons m rest ih =>
      obtain ⟨name, v⟩ := m
      rw [plantMembers]
      dsimp only
      rw [ih]
      rfl

theorem mapM_eq_some {α β γ : Type} {f : α → Option β} {g : γ → α} {h : γ → β} {l : List γ}
    (hl : ∀ x ∈ l, f (g x) = some (h x)) : (l.map g).mapM f = some (l.map h) := by
  induction l with
  | nil => rfl
  | cons x l ih =>
      rw [List.map_cons, List.mapM_cons, hl x (by simp), ih fun y hy => hl y (by simp [hy])]
      rfl

end Cells

/-! ### Reading and copying -/

namespace Holds

variable {cells : Cells} {v : Value} {p : Part} {M : Multiset Nat}

theorem card_le_size (h : Holds cells v p M) (hM : M.Nodup) : M.card ≤ cells.size := by
  have hsub : M ⊆ Multiset.range cells.size := fun i hi => Multiset.mem_range.mpr (h.lt_size hi)
  have hle := Multiset.card_le_card ((Multiset.le_iff_subset hM).mpr hsub)
  rwa [Multiset.card_range] at hle

theorem card_child_le {n : Node Held} {x : Held} {i depth : Nat} (hx : x ∈ n.parts)
    (h : (i ::ₘ footprint n).card ≤ depth + 1) : x.cells.card ≤ depth := by
  have hle := Multiset.card_le_card (cells_le_footprint hx)
  rw [Multiset.card_cons] at h
  omega

theorem readWithin_eq (h : Holds cells v p M) {depth : Nat} (hd : M.card ≤ depth) :
    cells.readWithin depth p = some v := by
  induction h generalizing depth with
  | leaf plain json => cases depth <;> rfl
  | @node i n cell parts ih =>
      cases depth with
      | zero => simp at hd
      | succ depth =>
          rw [Cells.readWithin, cell]
          have hread : ∀ x ∈ n.parts, cells.readWithin depth x.part = some x.value :=
            fun x hx => ih x hx (card_child_le hx hd)
          cases n with
          | array items =>
              change Option.map _ ((items.map Held.part).mapM _) = _
              rw [Cells.mapM_eq_some hread]
              rfl
          | object members =>
              change Option.map _ ((members.map _).mapM _) = _
              rw [Cells.mapM_eq_some (h := fun m : String × Held => (m.1, m.2.value))]
              · rfl
              · intro m hm
                dsimp only
                rw [hread m.2 (List.mem_map.mpr ⟨m, hm, rfl⟩)]
                rfl

/-- What is held without a repetition is read back. -/
theorem read? (h : Holds cells v p M) (hM : M.Nodup) : cells.read? p = some v :=
  h.readWithin_eq (h.card_le_size hM)

theorem view (h : Holds cells v p M) (hM : M.Nodup) (s : Sight) : cells.view s p = v := by
  rw [Cells.view, h.read? hM]
  rfl

theorem isJson (h : Holds cells v p M) : v.isJson = true := by
  induction h with
  | leaf plain json => exact json
  | @node i n cell parts ih =>
      cases n with
      | array items =>
          refine Value.isJsonItems_iff.mpr fun w hw => ?_
          obtain ⟨x, hx, rfl⟩ := List.mem_map.mp hw
          exact ih x hx
      | object members =>
          refine Value.isJsonMembers_iff.mpr fun m hm => ?_
          obtain ⟨x, hx, rfl⟩ := List.mem_map.mp hm
          exact ih x.2 (List.mem_map.mpr ⟨x, hx, rfl⟩)

/-- Copying parts one after the other is to plant their values, if it is so for each of them. -/
theorem copyItems_eq {copy : Part → Cells → Option (Part × Cells)} {xs : List Held}
    (hj : ∀ x ∈ xs, x.value.isJson = true)
    (h : ∀ x ∈ xs, ∀ cells', Grows cells cells' → copy x.part cells' = some (cells'.plant x.value))
    {cells' : Cells} (hg : Grows cells cells') :
    Cells.copyItems copy (xs.map Held.part) cells' =
      some (cells'.plantItems (xs.map Held.value)) := by
  induction xs generalizing cells' with
  | nil => rfl
  | cons x xs ih =>
      obtain ⟨M, hM⟩ := Cells.plant_planted x.value (hj x (by simp)) cells'
      rw [List.map_cons, Cells.copyItems, h x (by simp) cells' hg]
      dsimp only
      rw [ih (fun y hy => hj y (by simp [hy])) (fun y hy => h y (by simp [hy]))
        (hg.trans hM.grows)]
      rfl

theorem copyWithin_eq (h : Holds cells v p M) {depth : Nat} (hd : M.card ≤ depth) {cells' : Cells}
    (hg : Grows cells cells') : Cells.copyWithin depth p cells' = some (cells'.plant v) := by
  induction h generalizing depth cells' with
  | leaf plain json =>
      rename_i w
      rw [Cells.copyWithin]
      cases w with
      | array items => cases plain
      | object members => cases plain
      | tuple items => cases json
      | _ => rfl
  | @node i n cell parts ih =>
      cases depth with
      | zero => simp at hd
      | succ depth =>
          have hi := (Holds.node n cell parts).lt_size (Multiset.mem_cons_self i (footprint n))
          have hjson : ∀ x ∈ n.parts, x.value.isJson = true := fun x hx => (parts x hx).isJson
          have hcopy : ∀ x ∈ n.parts, ∀ cells', Grows cells cells' →
              Cells.copyWithin depth x.part cells' = some (cells'.plant x.value) :=
            fun x hx cells' hg => ih x hx (card_child_le hx hd) hg
          rw [Cells.copyWithin, hg.kept i hi, cell]
          cases n with
          | array items =>
              change Option.map _ (Cells.copyItems _ (items.map Held.part) cells') = _
              rw [copyItems_eq hjson hcopy hg]
              rfl
          | object members =>
              have hparts : (members.map fun m => (m.1, m.2.part)).map (·.2) =
                  (members.map (·.2)).map Held.part := by
                rw [List.map_map, List.map_map]
                rfl
              have hvalues : (members.map fun m => (m.1, m.2.value)).map (·.2) =
                  (members.map (·.2)).map Held.value := by
                rw [List.map_map, List.map_map]
                rfl
              have hnames : Members.names (members.map fun m => (m.1, m.2.part)) =
                  Members.names (members.map fun m => (m.1, m.2.value)) := by
                rw [Members.names, Members.names, List.map_map, List.map_map]
                rfl
              change Option.map _ (Cells.copyItems _
                ((members.map fun m => (m.1, m.2.part)).map (·.2)) cells') =
                  some (cells'.plant (.object (members.map fun m => (m.1, m.2.value))))
              rw [hparts, copyItems_eq hjson hcopy hg, Cells.plant, Cells.plantMembers_eq, hvalues,
                ← hnames]
              rfl

/-- Copying what is held without a repetition is to plant its value again. -/
theorem copy? (h : Holds cells v p M) (hM : M.Nodup) :
    cells.copy? p = some (cells.plant v) :=
  h.copyWithin_eq (h.card_le_size hM) (Grows.refl cells)

end Holds
end JsonPatch.Live
