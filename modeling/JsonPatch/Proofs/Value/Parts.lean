import JsonPatch.Proofs.Value.Json

/-! # Values and their parts

Induction over the parts of a value (`partsInduction`), and conditions that hold of a value and of
everything inside it (`everywhere`).  Two such conditions are of use for documents: that no object
has two members of one name, and that no number is `nan`. -/

namespace JsonPatch.Value

/-- What holds of a value if it holds of all its elements or members holds of every value. -/
@[elab_as_elim]
theorem partsInduction {motive : Value → Prop} (null : motive null) (bool : ∀ b, motive (bool b))
    (number : ∀ n, motive (number n)) (string : ∀ s, motive (string s))
    (array : ∀ items, (∀ v ∈ items, motive v) → motive (array items))
    (object : ∀ members : Members, (∀ m ∈ members, motive m.2) → motive (object members))
    (tuple : ∀ items, (∀ v ∈ items, motive v) → motive (tuple items))
    (bytes : ∀ content, motive (bytes content)) (foreign : ∀ type, motive (foreign type))
    (v : Value) : motive v :=
  @Value.rec motive (fun items => ∀ v ∈ items, motive v) (fun members => ∀ m ∈ members, motive m.2)
    (fun m => motive m.2) null bool number string array object tuple bytes foreign
    (fun _ h => absurd h List.not_mem_nil)
    (fun _ _ hv hrest => List.forall_mem_cons.mpr ⟨hv, hrest⟩)
    (fun _ h => absurd h List.not_mem_nil)
    (fun _ _ hm hrest => List.forall_mem_cons.mpr ⟨hm, hrest⟩)
    (fun _ _ hv => hv) v

/-! ### Conditions everywhere -/

mutual

/-- Whether a condition holds of a value and of all values inside it. -/
def everywhere (c : Value → Bool) : Value → Bool
  | array items => c (array items) && everywhereItems c items
  | object members => c (object members) && everywhereMembers c members
  | tuple items => c (tuple items) && everywhereItems c items
  | v => c v

/-- Whether a condition holds everywhere in the values of a list. -/
def everywhereItems (c : Value → Bool) : List Value → Bool
  | [] => true
  | v :: rest => everywhere c v && everywhereItems c rest

/-- Whether a condition holds everywhere in the values of members. -/
def everywhereMembers (c : Value → Bool) : Members → Bool
  | [] => true
  | (_, v) :: rest => everywhere c v && everywhereMembers c rest

end

variable {c : Value → Bool}

theorem everywhere_array {items : List Value} : (array items).everywhere c = true ↔
    c (array items) = true ∧ ∀ v ∈ items, v.everywhere c = true := by
  rw [everywhere, Bool.and_eq_true]
  have hitems : everywhereItems c items = true ↔ ∀ v ∈ items, v.everywhere c = true := by
    induction items with
    | nil => simp [everywhereItems]
    | cons v rest ih => simp [everywhereItems, ih]
  rw [hitems]

theorem everywhere_object {members : Members} : (object members).everywhere c = true ↔
    c (object members) = true ∧ ∀ m ∈ members, m.2.everywhere c = true := by
  rw [everywhere, Bool.and_eq_true]
  have hmembers : everywhereMembers c members = true ↔ ∀ m ∈ members, m.2.everywhere c = true := by
    induction members with
    | nil => simp [everywhereMembers]
    | cons m rest ih => simp [everywhereMembers, ih]
  rw [hmembers]

/-- No object in the value has two members of one name. -/
def HasDistinctNames (v : Value) : Prop :=
  v.everywhere (fun
    | object members => decide (Members.names members).Nodup
    | _ => true) = true

instance (v : Value) : Decidable v.HasDistinctNames :=
  inferInstanceAs (Decidable (_ = true))

/-- No number in the value is `nan`. -/
def IsNanFree (v : Value) : Prop :=
  v.everywhere (fun
    | number n => !n.isNan
    | _ => true) = true

instance (v : Value) : Decidable v.IsNanFree :=
  inferInstanceAs (Decidable (_ = true))

theorem hasDistinctNames_array {items : List Value} :
    (array items).HasDistinctNames ↔ ∀ v ∈ items, v.HasDistinctNames := by
  rw [HasDistinctNames, everywhere_array]
  exact and_iff_right rfl

theorem hasDistinctNames_object {members : Members} :
    (object members).HasDistinctNames ↔
      (Members.names members).Nodup ∧ ∀ m ∈ members, m.2.HasDistinctNames := by
  rw [HasDistinctNames, everywhere_object, decide_eq_true_iff]
  rfl

theorem isNanFree_number {n : Number} : (number n).IsNanFree ↔ n.isNan = false := by
  simp [IsNanFree, everywhere]

theorem isNanFree_array {items : List Value} :
    (array items).IsNanFree ↔ ∀ v ∈ items, v.IsNanFree := by
  rw [IsNanFree, everywhere_array]
  exact and_iff_right rfl

theorem isNanFree_object {members : Members} :
    (object members).IsNanFree ↔ ∀ m ∈ members, m.2.IsNanFree := by
  rw [IsNanFree, everywhere_object]
  exact and_iff_right rfl

theorem isJson_array {items : List Value} : (array items).IsJson ↔ ∀ v ∈ items, v.IsJson :=
  isJsonItems_iff

theorem isJson_object {members : Members} : (object members).IsJson ↔ ∀ m ∈ members, m.2.IsJson :=
  isJsonMembers_iff

end JsonPatch.Value
