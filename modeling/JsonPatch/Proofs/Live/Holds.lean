import JsonPatch.Proofs.Value.Node
import Mathlib.Data.Multiset.Bind

/-! # Values held in cells

`Holds cells v p M` says that a part stands for a value, without a detour: `M` lists the cells that
the value takes, each as often as it is met on the way down.  Where `M` has no repetition the value
is a tree of cells of its own.

* `Holds.frame`: only the cells of `M` matter.
* `Holds.seek` follows a place in the value and in the cells at once; the part that is found there
  can be changed, which changes the value at that place and nothing else.
* `Holds.cells_unique`: the cells determine `M`; `Holds.le_of_follow` and `Holds.mem_of_follow` say
  that what is found at a place takes some of them, and `Holds.prefix_of_mem` that, without a
  repetition in `M`, a cell is found by no place beside its own. -/

namespace JsonPatch.Live

/-- A value with the part that stands for it and the cells that it takes. -/
structure Held where
  value : Value
  part : Part
  cells : Multiset Nat

/-- The cells that the parts of a node take. -/
def footprint (n : Node Held) : Multiset Nat :=
  n.parts.bind Held.cells

theorem Cells.follow_append (cells : Cells) (P Q : List Key) (p : Part) :
    cells.follow (P ++ Q) p = (cells.follow P p).bind (cells.follow Q) := by
  induction P generalizing p with
  | nil => rfl
  | cons k P ih =>
      rw [List.cons_append, Cells.follow, Cells.follow, Option.bind_assoc]
      exact congrArg _ (funext ih)

theorem Cells.child?_node {cells : Cells} {i : Nat} {n : Node Held}
    (h : cells[i]? = some (n.map Held.part).cell) (k : Key) :
    cells.child? (.cell i) k = (n.child? k).map Held.part := by
  rw [Cells.child?, h, Option.bind_some, Node.cell_child?, Node.child?_map]

/-- The part stands for the value and takes the listed cells. -/
inductive Holds (cells : Cells) : Value → Part → Multiset Nat → Prop where
  | leaf {v : Value} (plain : v.isContainer = false) (json : v.IsJson) : Holds cells v (.leaf v) 0
  | node {i : Nat} (n : Node Held) (cell : cells[i]? = some (n.map Held.part).cell)
      (parts : ∀ x ∈ n.parts, Holds cells x.value x.part x.cells) :
      Holds cells (n.map Held.value).value (.cell i) (i ::ₘ footprint n)

/-- The parts of the node are held. -/
def Held.In (cells : Cells) (x : Held) : Prop :=
  Holds cells x.value x.part x.cells

theorem footprint_cons {n : Node Held} {x : Held} {rest : Multiset Held}
    (h : n.parts = x ::ₘ rest) : footprint n = x.cells + rest.bind Held.cells := by
  rw [footprint, h, Multiset.cons_bind]

theorem cells_le_footprint {n : Node Held} {x : Held} (h : x ∈ n.parts) :
    x.cells ≤ footprint n := by
  obtain ⟨rest, hr⟩ := Multiset.exists_cons_of_mem h
  rw [footprint_cons hr]
  exact Multiset.le_add_right _ _

/-- Parts at two keys share no cell. -/
theorem disjoint_cells {n : Node Held} (hn : (footprint n).Nodup) {k k' : Key} {x y : Held}
    (h : n.child? k = some x) (h' : n.child? k' = some y) (hk : k' ≠ k) :
    Disjoint x.cells y.cells := by
  obtain ⟨rest, hrest⟩ := Node.parts_eq_cons_cons h h' hk
  rw [footprint, hrest, Multiset.cons_bind, Multiset.cons_bind] at hn
  obtain ⟨-, -, hd⟩ := Multiset.nodup_add.mp hn
  exact hd.mono_right (Multiset.le_add_right _ _)

namespace Holds

variable {cells cells' : Cells} {v : Value} {p : Part} {M : Multiset Nat}

/-- Only the cells of a value matter. -/
theorem frame (h : Holds cells v p M) (hc : ∀ i ∈ M, cells'[i]? = cells[i]?) :
    Holds cells' v p M := by
  induction h with
  | leaf plain json => exact leaf plain json
  | @node i n cell parts ih =>
      refine node n ((hc i (Multiset.mem_cons_self _ _)).trans cell) fun x hx => ?_
      refine ih x hx fun j hj => hc j (Multiset.mem_cons_of_mem ?_)
      exact Multiset.mem_of_le (cells_le_footprint hx) hj

theorem lt_size (h : Holds cells v p M) {i : Nat} (hi : i ∈ M) : i < cells.size := by
  induction h with
  | leaf plain json => cases hi
  | @node j n cell parts ih =>
      rcases Multiset.mem_cons.mp hi with rfl | hi
      · by_contra hlt
        rw [Array.getElem?_eq_none (Nat.le_of_not_lt hlt)] at cell
        cases cell
      · obtain ⟨x, hx, hi⟩ := Multiset.mem_bind.mp hi
        exact ih x hx hi

/-- Along a place, a value that is held and its part lead to a value that is held again, or both
lead nowhere.  Another value held there can take its place. -/
theorem seek (h : Holds cells v p M) (place : List Key) :
    (v.at? place = none ∧ cells.follow place p = none) ∨
      ∃ (x : Held) (K : Multiset Nat), v.at? place = some x.value ∧
        cells.follow place p = some x.part ∧ x.In cells ∧ M = x.cells + K ∧
        ∀ (cells' : Cells) (y : Held) (f : Value → Value), y.part = x.part →
          (∀ i ∈ K, cells'[i]? = cells[i]?) → y.In cells' → f x.value = y.value →
          Holds cells' (Value.modifyAt place f v) p (y.cells + K) := by
  induction place generalizing v p M with
  | nil =>
      refine .inr ⟨⟨v, p, M⟩, 0, rfl, rfl, h, (add_zero M).symm, ?_⟩
      intro cells' y f hp _ hy hf
      have hy : Holds cells' y.value y.part y.cells := hy
      rw [add_zero, Value.modifyAt, hf]
      rwa [hp] at hy
  | cons k place ih =>
      rw [Value.at?_cons, Cells.follow]
      cases h with
      | leaf plain json =>
          refine .inl ⟨?_, rfl⟩
          cases v <;> first | rfl | cases plain
      | @node i n cell parts =>
          rw [Node.value_child?, Node.child?_map, Cells.child?_node cell]
          cases hx : n.child? k with
          | none => exact .inl ⟨rfl, rfl⟩
          | some x =>
              obtain ⟨hv, hp⟩ | ⟨y, K, hv, hp, hy, hM, hrefill⟩ :=
                ih (parts x (Node.mem_parts hx))
              · exact .inl ⟨hv, hp⟩
              · obtain ⟨kept, hkept⟩ := Multiset.exists_cons_of_mem (Node.mem_parts hx)
                refine .inr ⟨y, i ::ₘ (K + kept.bind Held.cells), hv, hp, hy, ?_, ?_⟩
                · rw [footprint_cons hkept, hM, add_assoc, Multiset.add_cons]
                · intro cells' z f hz hagree hheld hf
                  let x' : Held := ⟨Value.modifyAt place f x.value, x.part, z.cells + K⟩
                  have hx' : x'.In cells' := hrefill cells' z f hz
                    (fun j hj => hagree j (by simp [hj])) hheld hf
                  -- the node with the changed part in place of the old one, in the same cell
                  obtain ⟨kept', hc⟩ := Node.assignAt_changes hx x'
                  obtain rfl : kept = kept' := by
                    have hb := hc.before
                    rw [hkept, Multiset.singleton_add] at hb
                    exact (Multiset.cons_inj_right x).mp hb
                  have hcell : ((n.assignAt k x').map Held.part) = n.map Held.part := by
                    rw [Node.map_assignAt]
                    refine Node.assignAt_self ?_
                    rw [Node.child?_map, hx]
                    rfl
                  have hvalue : Value.modifyAt (k :: place) f (n.map Held.value).value =
                      ((n.assignAt k x').map Held.value).value := by
                    have hk : (n.map Held.value).child? k = some x.value := by
                      rw [Node.child?_map, hx]
                      rfl
                    rw [Value.modifyAt, Node.modifyChild_value hk, Node.map_assignAt]
                  have hcells : z.cells + i ::ₘ (K + kept.bind Held.cells) =
                      i ::ₘ footprint (n.assignAt k x') := by
                    rw [footprint_cons (x := x') hc.after, Multiset.add_cons, add_assoc]
                  rw [hvalue, hcells]
                  refine node _ ?_ fun w hw => ?_
                  · rw [hagree i (Multiset.mem_cons_self _ _), cell, hcell]
                  · rw [hc.after] at hw
                    rcases Multiset.mem_cons.mp hw with rfl | hw
                    · exact hx'
                    · have hmem : w ∈ n.parts := by
                        rw [hkept]
                        exact Multiset.mem_cons_of_mem hw
                      refine (parts w hmem).frame fun j hj => hagree j ?_
                      refine Multiset.mem_cons_of_mem (Multiset.mem_add.mpr (.inr ?_))
                      exact Multiset.mem_bind.mpr ⟨w, hw, hj⟩

/-! ### Which cells are taken -/

/-- The cells that a part leads to determine which ones its value takes. -/
theorem cells_unique (h : Holds cells v p M) {v' : Value} {M' : Multiset Nat}
    (h' : Holds cells v' p M') : M = M' := by
  induction h generalizing v' M' with
  | leaf plain json =>
      cases h'
      rfl
  | @node i n cell parts ih =>
      cases h' with
      | node n' cell' parts' =>
          have hcell : (n.map Held.part).cell = (n'.map Held.part).cell :=
            Option.some.inj (cell.symm.trans cell')
          have hparts := Node.map_eq_of_cell_eq hcell fun x hx y hy hxy => 
            ih x hx (hxy ▸ parts' y hy)
          rw [footprint, footprint, Multiset.bind, hparts, Multiset.bind]

theorem le_of_follow (h : Holds cells v p M) {place : List Key} {x : Held}
    (hf : cells.follow place p = some x.part) (hx : x.In cells) : x.cells ≤ M := by
  obtain ⟨-, hn⟩ | ⟨y, K, -, hy, hheld, hM, -⟩ := h.seek place
  · rw [hn] at hf
    cases hf
  · have hpart : y.part = x.part := Option.some.inj (hy.symm.trans hf)
    unfold Held.In at hheld
    rw [hpart] at hheld
    have hcells : y.cells = x.cells := hheld.cells_unique hx
    rw [hM, hcells]
    exact Multiset.le_add_right _ _

theorem mem_of_follow (h : Holds cells v p M) {place : List Key} {i : Nat}
    (hf : cells.follow place p = some (.cell i)) : i ∈ M := by
  obtain ⟨-, hn⟩ | ⟨x, K, -, hx, hheld, hM, -⟩ := h.seek place
  · rw [hn] at hf
    cases hf
  · have hpart : x.part = .cell i := Option.some.inj (hx.symm.trans hf)
    unfold Held.In at hheld
    rw [hpart] at hheld
    have hi : i ∈ x.cells := by
      generalize x.value = w at hheld
      generalize x.cells = N at hheld
      cases hheld
      exact Multiset.mem_cons_self _ _
    rw [hM]
    exact Multiset.mem_add.mpr (.inl hi)

/-- A cell of the value at a place is found by no place that does not go through it. -/
theorem prefix_of_mem (h : Holds cells v p M) (hM : M.Nodup) {P C : List Key} {x : Held}
    (hP : cells.follow P p = some x.part) (hx : x.In cells) {i : Nat}
    (hC : cells.follow C p = some (.cell i)) (hi : i ∈ x.cells) : P <+: C := by
  induction P generalizing v p M C with
  | nil => exact List.nil_prefix
  | cons k P ih =>
      cases h with
      | leaf plain json => cases hP
      | @node j n cell parts =>
          rw [Cells.follow, Cells.child?_node cell] at hP
          cases hy : n.child? k with
          | none => rw [hy] at hP; cases hP
          | some y =>
              rw [hy] at hP
              have hheld := parts y (Node.mem_parts hy)
              have hiy : i ∈ y.cells := Multiset.mem_of_le (hheld.le_of_follow hP hx) hi
              obtain ⟨hroot, hfoot⟩ := Multiset.nodup_cons.mp hM
              have hle := cells_le_footprint (Node.mem_parts hy)
              cases C with
              | nil =>
                  cases hC
                  exact absurd (Multiset.mem_of_le hle hiy) hroot
              | cons k' C =>
                  rw [Cells.follow, Cells.child?_node cell] at hC
                  cases hz : n.child? k' with
                  | none => rw [hz] at hC; cases hC
                  | some z =>
                      rw [hz] at hC
                      by_cases hk : k' = k
                      · subst hk
                        obtain rfl : y = z := Option.some.inj (hy.symm.trans hz)
                        exact List.cons_prefix_cons.mpr
                          ⟨rfl, ih hheld (Multiset.nodup_of_le hle hfoot) hP hC⟩
                      · have hiz := (parts z (Node.mem_parts hz)).mem_of_follow hC
                        have hd := disjoint_cells hfoot hy hz hk
                        exact absurd hiz (Multiset.disjoint_left.mp hd hiy)

end Holds
end JsonPatch.Live
