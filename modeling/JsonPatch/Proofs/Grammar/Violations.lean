import JsonPatch.Proofs.Grammar.Operation
import JsonPatch.Proofs.Predicate.Nested

/-! # What the checker reports

The checker reports the flaws of all operations at their places, each of them once.

* `operationViolations_object` puts the violations of an operation into groups, one for each member
  that the grammar asks about; those of a group lie under its member (`InGroup`).
* `mem_operationViolations`: they are the operation's own flaws, and those of the operations under
  `apply`.  By induction on how deep these are nested, the violations of a list are the flaws of all
  operations in it (`mem_itemViolations_iff`).
* No two violations have one place (`nodup_violations`), and so each flaw is reported once
  (`FlawAt.inj`). -/

namespace JsonPatch.Grammar

/-! ### The violations of an operation in groups -/

theorem nestedViolations_eq (place : List Key) (members : Members) :
    nestedViolations place members =
      match Members.find? "apply" members with
      | none => []
      | some v => listViolations (place ++ [.member "apply"]) v := by
  induction members with
  | nil => rfl
  | cons m rest ih =>
      rw [nestedViolations, Members.find?]
      split_ifs
      · rfl
      · exact ih

/-- The violations of an operation, by the members that the grammar asks about. -/
def groups (place : List Key) (members : Members) : List (String × List Violation) := [
  ("op", nameViolation place members),
  ("path", kindViolation place members "path" .string),
  ("from", kindViolation place members "from" .string),
  ("to", kindViolation place members "to" .string),
  ("ignore_case", kindViolation place members "ignore_case" .boolean),
  ("apply", nestedViolations place members)]

theorem operationViolations_object (place : List Key) (members : Members) :
    operationViolations place (.object members) = (groups place members).flatMap (·.2) := by
  simp [operationViolations, groups]

theorem operationViolations_other {v : Value} (h : v.kind? ≠ some .object) (place : List Key) :
    operationViolations place v = [⟨place, .notOfKind v .object⟩] := by
  cases v with
  | object members => exact absurd rfl h
  | _ => rfl

/-! ### Which violations there are -/

variable {base place : List Key} {members : Members} {x : Violation}

theorem mem_nameViolation : x ∈ nameViolation place members ↔
    Members.find? "op" members = none ∧ x = ⟨place, .missingName⟩ ∨
    Members.find? "op" members = some (.string "") ∧ x = ⟨place ++ [.member "op"], .emptyName⟩ ∨
    ∃ v, Members.find? "op" members = some v ∧ v.kind? ≠ some .string ∧
      x = ⟨place ++ [.member "op"], .notOfKind v .string⟩ := by
  unfold nameViolation
  split
  · rename_i hop
    simp [hop]
  · rename_i hop
    simp [hop, Value.kind?]
  · rename_i name hne hop
    have hname : name ≠ "" := by
      rintro rfl
      exact hne rfl
    simp [hop, hname, Value.kind?]
  · rename_i v hempty hstring hop
    have hkind : v.kind? ≠ some .string := by
      intro hv
      obtain ⟨s, rfl⟩ := kind?_eq_string.mp hv
      exact hstring s rfl
    have hne : v ≠ .string "" := by
      rintro rfl
      exact hkind rfl
    simp [hop, hkind, hne]

theorem mem_kindViolation {name : String} {kind : Kind} :
    x ∈ kindViolation place members name kind ↔
      ∃ v, Members.find? name members = some v ∧ v.kind? ≠ some kind ∧
        x = ⟨place ++ [.member name], .notOfKind v kind⟩ := by
  unfold kindViolation
  cases hf : Members.find? name members with
  | none => simp
  | some v =>
      dsimp only
      split_ifs with hkind
      · simp [hkind]
      · simp [hkind]

theorem mem_nestedViolations : x ∈ nestedViolations place members ↔
    x ∈ kindViolation place members "apply" .array ∨
    ∃ items, Members.find? "apply" members = some (.array items) ∧
      x ∈ itemViolations (place ++ [.member "apply"]) 0 items := by
  rw [nestedViolations_eq, mem_kindViolation]
  cases hf : Members.find? "apply" members with
  | none => simp
  | some v =>
      cases v with
      | array items => simp [listViolations, Value.kind?]
      | _ => simp [listViolations, Value.kind?]

theorem mem_operationViolations_object : x ∈ operationViolations place (.object members) ↔
    (x ∈ nameViolation place members ∨
      ∃ m ∈ memberKinds, x ∈ kindViolation place members m.1 m.2) ∨
    ∃ items, Members.find? "apply" members = some (.array items) ∧
      x ∈ itemViolations (place ++ [.member "apply"]) 0 items := by
  rw [operationViolations_object]
  simp only [groups, memberKinds, List.flatMap_cons, List.flatMap_nil, List.append_nil,
    List.mem_append, mem_nestedViolations, List.exists_mem_cons_iff, List.not_mem_nil, false_and,
    exists_false, or_false, or_assoc]

/-- The flaws of an object are violations of its name or of a member with a kind. -/
theorem flaw_object_iff :
    (∃ way found, Flaw (.object members) way found x.problem ∧ x.place = place ++ way) ↔
      x ∈ nameViolation place members ∨
        ∃ m ∈ memberKinds, x ∈ kindViolation place members m.1 m.2 := by
  simp only [mem_nameViolation, mem_kindViolation]
  constructor
  · obtain ⟨at', problem⟩ := x
    rintro ⟨way, found, hflaw, rfl⟩
    cases hflaw with
    | notObject other => exact absurd rfl other
    | missingName absent => exact .inl (.inl ⟨absent, by simp⟩)
    | nameNotText h hw => exact .inl (.inr (.inr ⟨found, h, hw, rfl⟩))
    | emptyName h => exact .inl (.inr (.inl ⟨h, rfl⟩))
    | notOfKind listed h hw => exact .inr ⟨_, listed, found, h, hw, rfl⟩
  · rintro ((⟨h, rfl⟩ | ⟨h, rfl⟩ | ⟨w, h, hw, rfl⟩) | ⟨m, hm, w, h, hw, rfl⟩)
    · exact ⟨_, _, .missingName h, (List.append_nil _).symm⟩
    · exact ⟨_, _, .emptyName h, rfl⟩
    · exact ⟨_, _, .nameNotText h hw, rfl⟩
    · exact ⟨_, _, .notOfKind hm h hw, rfl⟩

/-- The violations in an operation are its own flaws and the violations in the list under
`apply`. -/
theorem mem_operationViolations {v : Value} : x ∈ operationViolations place v ↔
    (∃ way found, Flaw v way found x.problem ∧ x.place = place ++ way) ∨
    ∃ members items, v = .object members ∧ Members.find? "apply" members = some (.array items) ∧
      x ∈ itemViolations (place ++ [.member "apply"]) 0 items := by
  by_cases hv : v.kind? = some .object
  · obtain ⟨members, rfl⟩ := kind?_eq_object.mp hv
    rw [mem_operationViolations_object, flaw_object_iff]
    simp
  · rw [operationViolations_other hv, List.mem_singleton]
    constructor
    · rintro rfl
      exact .inl ⟨[], v, .notObject hv, (List.append_nil _).symm⟩
    · obtain ⟨at', problem⟩ := x
      rintro (⟨way, found, hflaw, rfl⟩ | ⟨members, items, rfl, -⟩)
      · cases hflaw with
        | notObject _ => simp
        | _ => exact absurd rfl hv
      · exact absurd rfl hv

theorem mem_itemViolations {i : Nat} {ops : List Value} : x ∈ itemViolations place i ops ↔
    ∃ k v, ops[k]? = some v ∧ x ∈ operationViolations (place ++ [.index (i + k)]) v := by
  induction ops generalizing i with
  | nil => simp [itemViolations]
  | cons v rest ih =>
      rw [itemViolations, List.mem_append, ih]
      constructor
      · rintro (h | ⟨k, w, hw, h⟩)
        · exact ⟨0, v, rfl, h⟩
        · refine ⟨k + 1, w, hw, ?_⟩
          rw [show i + (k + 1) = i + 1 + k by omega]
          exact h
      · rintro ⟨k, w, hw, h⟩
        cases k with
        | zero =>
            cases hw
            exact .inl h
        | succ k =>
            refine .inr ⟨k, w, hw, ?_⟩
            rw [show i + 1 + k = i + (k + 1) by omega]
            exact h

/-- The violation reports a flaw of an operation in a list, which is at some place itself. -/
def Reports (ops : List Value) (base : List Key) (x : Violation) : Prop :=
  ∃ place way found, FlawAt ops place way found x.problem ∧ x.place = base ++ place ++ way

theorem reports_of_mem {v : Value} {ops : List Value} {i : Nat} (hi : ops[i]? = some v)
    (h : x ∈ operationViolations (base ++ [.index i]) v) : Reports ops base x := by
  induction v using descriptorInduction generalizing base ops i with
  | other v hv =>
      rcases mem_operationViolations.mp h with
        ⟨way, found, hflaw, hplace⟩ | ⟨members, items, rfl, -⟩
      · exact ⟨[.index i], way, found, ⟨v, .element hi, hflaw⟩, hplace⟩
      · exact absurd rfl (hv members)
  | object members ih =>
      rcases mem_operationViolations.mp h with
        ⟨way, found, hflaw, hplace⟩ | ⟨members', items, hm, hf, hx⟩
      · exact ⟨[.index i], way, found, ⟨_, .element hi, hflaw⟩, hplace⟩
      · cases hm
        obtain ⟨k, w, hk, hx⟩ := mem_itemViolations.mp hx
        rw [Nat.zero_add] at hx
        have hw : w ∈ items := List.mem_of_getElem? hk
        obtain ⟨place, way, found, ⟨v, hv, hflaw⟩, hplace⟩ :=
          ih items (nested?_of_find? hf) w hw hk hx
        refine ⟨.index i :: .member "apply" :: place, way, found, ⟨v, .nested hi hf hv, hflaw⟩, ?_⟩
        rw [hplace]
        simp

theorem mem_of_flaw {ops : List Value} {v : Value} (hv : OperationAt ops place v) {way : List Key}
    {found : Value} {problem : Problem} (hflaw : Flaw v way found problem) :
    ⟨base ++ place ++ way, problem⟩ ∈ itemViolations base 0 ops := by
  induction hv generalizing base with
  | @element ops i v item =>
      refine mem_itemViolations.mpr ⟨i, v, item, ?_⟩
      rw [Nat.zero_add]
      exact mem_operationViolations.mpr (.inl ⟨way, found, hflaw, rfl⟩)
  | @nested ops items i members place v item apply _ ih =>
      refine mem_itemViolations.mpr ⟨i, _, item, ?_⟩
      rw [Nat.zero_add]
      have hx : ⟨base ++ [.index i] ++ [.member "apply"] ++ place ++ way, problem⟩ ∈
          itemViolations (base ++ [.index i] ++ [.member "apply"]) 0 items := ih hflaw
      rw [show base ++ .index i :: .member "apply" :: place ++ way =
        base ++ [.index i] ++ [.member "apply"] ++ place ++ way by simp]
      exact mem_operationViolations.mpr (.inr ⟨members, items, rfl, apply, hx⟩)

/-- The violations in a list are the flaws of the operations in it. -/
theorem mem_itemViolations_iff {ops : List Value} :
    x ∈ itemViolations base 0 ops ↔ Reports ops base x := by
  constructor
  · intro h
    obtain ⟨k, v, hk, hx⟩ := mem_itemViolations.mp h
    rw [Nat.zero_add] at hx
    exact reports_of_mem hk hx
  · rintro ⟨place, way, found, ⟨v, hv, hflaw⟩, hplace⟩
    have hx : ⟨base ++ place ++ way, x.problem⟩ ∈ itemViolations base 0 ops := mem_of_flaw hv hflaw
    rw [← hplace] at hx
    exact hx

theorem mem_violations {ops : Value} : x ∈ violations ops ↔ x ∈ listViolations [] ops :=
  (List.mergeSort_perm _ _).mem_iff

/-! ### No violation twice -/

/-- The violation lies under the member, or it is about the operation itself for want of a name. -/
def InGroup (place : List Key) (name : String) (x : Violation) : Prop :=
  (place ++ [.member name]) <+: x.place ∨ name = "op" ∧ x.place = place

theorem key_unique {k k' : Key} {l : List Key} (h : (place ++ [k]) <+: l)
    (h' : (place ++ [k']) <+: l) : k = k' := by
  obtain ⟨t, rfl⟩ := h
  obtain ⟨t', ht'⟩ := h'
  simp only [List.append_assoc, List.append_cancel_left_eq, List.cons_append,
    List.cons.injEq] at ht'
  exact ht'.1.symm

theorem InGroup.ne {name name' : String} {x y : Violation} (hx : InGroup place name x)
    (hy : InGroup place name' y) (hne : name ≠ name') : x.place ≠ y.place := by
  intro hplace
  -- no place is both the operation's and under one of its members
  have hbelow : ∀ {n : String}, ¬ (place ++ [.member n]) <+: place := by
    intro n h
    have hlength := h.length_le
    rw [List.length_append, List.length_singleton] at hlength
    omega
  rcases hx with hx | ⟨rfl, hx⟩
  · rcases hy with hy | ⟨-, hy⟩
    · rw [hplace] at hx
      have hkey := key_unique hx hy
      exact hne (Key.member.inj hkey)
    · rw [hplace, hy] at hx
      exact hbelow hx
  · rcases hy with hy | ⟨rfl, -⟩
    · rw [← hplace, hx] at hy
      exact hbelow hy
    · exact hne rfl

theorem Reports.isPrefix {ops : List Value} (h : Reports ops base x) : base <+: x.place := by
  obtain ⟨place, way, found, -, hplace⟩ := h
  rw [hplace, List.append_assoc]
  exact List.prefix_append _ _

theorem isPrefix_of_mem {v : Value} (h : x ∈ operationViolations place v) : place <+: x.place := by
  rcases mem_operationViolations.mp h with ⟨way, found, -, hplace⟩ | ⟨members, items, -, -, hx⟩
  · exact ⟨way, hplace.symm⟩
  · exact (List.prefix_append _ _).trans (mem_itemViolations_iff.mp hx).isPrefix

theorem isPrefix_of_mem_list {v : Value} (h : x ∈ listViolations base v) : base <+: x.place := by
  cases v with
  | array items => exact (mem_itemViolations_iff.mp h).isPrefix
  | _ =>
      rw [List.mem_singleton.mp h]

theorem inGroup_of_mem {g : String × List Violation} (hg : g ∈ groups place members)
    (hx : x ∈ g.2) : InGroup place g.1 x := by
  have hkind : ∀ {name kind}, x ∈ kindViolation place members name kind →
      (place ++ [.member name]) <+: x.place := by
    intro name kind h
    obtain ⟨v, -, -, rfl⟩ := mem_kindViolation.mp h
    exact List.prefix_rfl
  simp only [groups, List.mem_cons, List.not_mem_nil, or_false] at hg
  rcases hg with rfl | rfl | rfl | rfl | rfl | rfl
  · rcases mem_nameViolation.mp hx with ⟨-, rfl⟩ | ⟨-, rfl⟩ | ⟨v, -, -, rfl⟩
    · exact .inr ⟨rfl, rfl⟩
    · exact .inl List.prefix_rfl
    · exact .inl List.prefix_rfl
  · exact .inl (hkind hx)
  · exact .inl (hkind hx)
  · exact .inl (hkind hx)
  · exact .inl (hkind hx)
  · rcases mem_nestedViolations.mp hx with h | ⟨items, -, h⟩
    · exact .inl (hkind h)
    · exact .inl (mem_itemViolations_iff.mp h).isPrefix

/-- No two violations of a list have one place. -/
def HaveOwnPlaces (l : List Violation) : Prop :=
  l.Pairwise fun x y => x.place ≠ y.place

theorem nameViolation_haveOwnPlaces : HaveOwnPlaces (nameViolation place members) := by
  unfold nameViolation HaveOwnPlaces
  split <;> simp

theorem kindViolation_haveOwnPlaces (name : String) (kind : Kind) :
    HaveOwnPlaces (kindViolation place members name kind) := by
  unfold kindViolation HaveOwnPlaces
  split
  · simp
  · split_ifs <;> simp

theorem itemViolations_haveOwnPlaces {ops : List Value} (i : Nat)
    (h : ∀ v ∈ ops, ∀ place, HaveOwnPlaces (operationViolations place v)) :
    HaveOwnPlaces (itemViolations place i ops) := by
  induction ops generalizing i with
  | nil => exact List.Pairwise.nil
  | cons v rest ih =>
      rw [List.forall_mem_cons] at h
      refine List.pairwise_append.mpr ⟨h.1 _, ih (i + 1) h.2, ?_⟩
      intro x hx y hy hplace
      obtain ⟨k, w, -, hy⟩ := mem_itemViolations.mp hy
      have hxi := isPrefix_of_mem hx
      have hyi := isPrefix_of_mem hy
      rw [hplace] at hxi
      have hkey := Key.index.inj (key_unique hxi hyi)
      omega

theorem nestedViolations_haveOwnPlaces (h : ∀ items, nested? members = some items → ∀ v ∈ items,
      ∀ place, HaveOwnPlaces (operationViolations place v)) :
    HaveOwnPlaces (nestedViolations place members) := by
  rw [nestedViolations_eq]
  cases hf : Members.find? "apply" members with
  | none => exact List.Pairwise.nil
  | some v =>
      cases v with
      | array items => exact itemViolations_haveOwnPlaces 0 (h items (nested?_of_find? hf))
      | _ => exact List.pairwise_singleton _ _

/-- No two violations in an operation have one place. -/
theorem operationViolations_haveOwnPlaces (v : Value) :
    ∀ place, HaveOwnPlaces (operationViolations place v) := by
  induction v using descriptorInduction with
  | other v hv =>
      intro place
      have hkind := kind?_ne_object hv
      rw [operationViolations_other hkind]
      exact List.pairwise_singleton _ _
  | object members ih =>
      intro place
      rw [operationViolations_object]
      refine List.pairwise_flatMap.mpr ⟨?_, ?_⟩
      · intro g hg
        simp only [groups, List.mem_cons, List.not_mem_nil, or_false] at hg
        rcases hg with rfl | rfl | rfl | rfl | rfl | rfl
        · exact nameViolation_haveOwnPlaces
        · exact kindViolation_haveOwnPlaces _ _
        · exact kindViolation_haveOwnPlaces _ _
        · exact kindViolation_haveOwnPlaces _ _
        · exact kindViolation_haveOwnPlaces _ _
        · exact nestedViolations_haveOwnPlaces ih
      · have hnames : (groups place members).Pairwise fun g g' => g.1 ≠ g'.1 := by
          simp [groups]
        refine hnames.imp_of_mem ?_
        intro g g' hg hg' hne x hx y hy
        exact (inGroup_of_mem hg hx).ne (inGroup_of_mem hg' hy) hne

/-- No two violations of a patch document have one place. -/
theorem nodup_violations (ops : List Value) :
    ((violations (.array ops)).map (·.place)).Nodup := by
  have hplaces : HaveOwnPlaces (itemViolations [] 0 ops) :=
    itemViolations_haveOwnPlaces 0 fun v _ => operationViolations_haveOwnPlaces v
  have hnodup : ((itemViolations [] 0 ops).map (·.place)).Nodup := List.pairwise_map.mpr hplaces
  exact ((List.mergeSort_perm _ _).map _).nodup_iff.mpr hnodup

/-- The violations of a patch document are the flaws of its operations. -/
theorem mem_violations_iff {ops : List Value} : x ∈ violations (.array ops) ↔
    ∃ place way found, FlawAt ops place way found x.problem ∧ x.place = place ++ way := by
  rw [mem_violations]
  exact mem_itemViolations_iff

/-- Flaws of one place are one flaw. -/
theorem FlawAt.inj {ops : List Value} {place way place' way' : List Key} {found found' : Value}
    {problem problem' : Problem} (h : FlawAt ops place way found problem)
    (h' : FlawAt ops place' way' found' problem') (heq : place ++ way = place' ++ way') :
    place = place' ∧ way = way' ∧ found = found' ∧ problem = problem' := by
  have hx : ⟨place ++ way, problem⟩ ∈ violations (.array ops) :=
    mem_violations_iff.mpr ⟨place, way, found, h, rfl⟩
  have hx' : ⟨place' ++ way', problem'⟩ ∈ violations (.array ops) :=
    mem_violations_iff.mpr ⟨place', way', found', h', rfl⟩
  have hsame := List.inj_on_of_nodup_map (nodup_violations ops) hx hx' heq
  have hfound : some found = some found' := by rw [← h.at?, ← h'.at?, heq]
  obtain ⟨hplace, hway⟩ := h.place_inj h' heq
  exact ⟨hplace, hway, Option.some.inj hfound, congrArg Violation.problem hsame⟩

end JsonPatch.Grammar
