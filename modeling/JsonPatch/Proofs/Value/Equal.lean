import JsonPatch.Value.Equal
import JsonPatch.Proofs.Value.Alike

/-! # What equality decides

Comparing two JSON values always gives an answer (`equals_answers`), and if no name comes twice in
their objects, it says whether they are alike (`equals_iff`). -/

namespace JsonPatch.Value

/-! ### One level -/

theorem sameNames_iff {l r : Members} :
    sameNames l r = true ↔ ∀ name, Members.has name l = Members.has name r := by
  have hall : ∀ l r : Members, l.all (fun m => Members.has m.1 r) = true ↔
      ∀ name, Members.has name l = true → Members.has name r = true := by
    intro l r
    simp only [Members.has_iff, Members.names, List.all_eq_true, List.mem_map,
      forall_exists_index, and_imp, forall_apply_eq_imp_iff₂]
  rw [sameNames, Bool.and_eq_true, hall, hall]
  constructor
  · rintro ⟨h, h'⟩ name
    exact Bool.eq_iff_iff.mpr ⟨h name, h' name⟩
  · intro h
    exact ⟨fun name hn => h name ▸ hn, fun name hn => (h name).symm ▸ hn⟩

theorem equalMembers_iff {l r : Members} : equalMembers l r = .ok true ↔
    ∀ m ∈ l, equals m.2 ((Members.find? m.1 r).getD null) = .ok true := by
  induction l with
  | nil => simp [equalMembers]
  | cons m rest ih =>
      rw [equalMembers, List.forall_mem_cons, ← ih]
      split
      · rename_i h
        simp [h]
      · rename_i h
        exact ⟨fun hm => absurd hm h, fun hm => absurd hm.1 h⟩

theorem equalItems_iff {l r : List Value} (h : l.length = r.length) : equalItems l r = .ok true ↔
    ∀ (i : Nat) a b, l[i]? = some a → r[i]? = some b → equals a b = .ok true := by
  induction l generalizing r with
  | nil => simp [equalItems]
  | cons a l ih =>
      cases r with
      | nil => cases h
      | cons b r =>
          have hstep : (∀ (i : Nat) c d, (a :: l)[i]? = some c → (b :: r)[i]? = some d →
              equals c d = .ok true) ↔ equals a b = .ok true ∧
                ∀ (i : Nat) c d, l[i]? = some c → r[i]? = some d → equals c d = .ok true := by
            constructor
            · intro hall
              exact ⟨hall 0 a b rfl rfl, fun i => hall (i + 1)⟩
            · rintro ⟨h0, hrest⟩ i
              cases i with
              | zero =>
                  rintro c d ⟨⟩ ⟨⟩
                  exact h0
              | succ i => exact hrest i
          rw [equalItems, hstep, ← ih (Nat.succ.inj h)]
          split
          · rename_i hab
            simp [hab]
          · rename_i hab
            exact ⟨fun hm => absurd hm hab, fun hm => absurd hm.1 hab⟩

/-- Values that are not both objects or both arrays are compared as leaves. -/
theorem equals_iff_of_unlike {v w : Value} (ho : ∀ l r, v = object l → w = object r → False)
    (ha : ∀ l r, v = array l → w = array r → False) : equals v w = .ok true ↔ Alike v w := by
  rw [equals.eq_3 v w ho ha]
  constructor
  · intro h
    split at h
    · cases h
    · cases h
    · have hleaves := Except.ok.inj h
      unfold equalLeaves at hleaves
      split at hleaves
      · exact .null
      · obtain rfl := eq_of_beq hleaves
        exact .bool _
      · exact .number hleaves
      · obtain rfl := eq_of_beq hleaves
        exact .string _
      · cases hleaves
  · intro h
    cases h with
    | null => rfl
    | bool b => simp [kind, kind?, equalLeaves]
    | number equal => simp [kind, kind?, equalLeaves, equal]
    | string s => simp [kind, kind?, equalLeaves]
    | array length items => exact (ha _ _ rfl rfl).elim
    | object left right names values => exact (ho _ _ rfl rfl).elim

/-- Equal values are of the same kind. -/
theorem kind_of_equals {v w : Value} (h : equals v w = .ok true) :
    ∃ k, v.kind = .ok k ∧ w.kind = .ok k := by
  by_cases ho : ∃ l r, v = object l ∧ w = object r
  · obtain ⟨l, r, rfl, rfl⟩ := ho
    exact ⟨.object, rfl, rfl⟩
  by_cases ha : ∃ l r, v = array l ∧ w = array r
  · obtain ⟨l, r, rfl, rfl⟩ := ha
    exact ⟨.array, rfl, rfl⟩
  · have halike := (equals_iff_of_unlike (fun l r hv hw => ho ⟨l, r, hv, hw⟩)
      fun l r hv hw => ha ⟨l, r, hv, hw⟩).mp h
    obtain ⟨k, hv, hw⟩ := halike.kind?_eq_some
    exact ⟨k, by rw [kind, hv], by rw [kind, hw]⟩

/-! ### The whole value -/

/-- JSON values without repeated names are equal if they are alike. -/
theorem equals_iff {v w : Value} (hv : v.HasDistinctNames) (hw : w.HasDistinctNames) :
    equals v w = .ok true ↔ Alike v w := by
  induction v using partsInduction generalizing w with
  | array l ih =>
      cases w with
      | array r =>
          rw [hasDistinctNames_array] at hv hw
          rw [equals]
          split_ifs with hlen
          · rw [equalItems_iff hlen]
            have hitems : ∀ (i : Nat) a b, l[i]? = some a → r[i]? = some b →
                (equals a b = .ok true ↔ Alike a b) := fun i a b ha hb =>
              ih a (List.mem_of_getElem? ha) (hv a (List.mem_of_getElem? ha))
                (hw b (List.mem_of_getElem? hb))
            constructor
            · intro h
              exact .array hlen fun i a b ha hb => (hitems i a b ha hb).mp (h i a b ha hb)
            · rintro (_ | _ | _ | _ | ⟨-, items⟩ | _) i a b ha hb
              exact (hitems i a b ha hb).mpr (items i a b ha hb)
          · constructor
            · intro h
              cases h
            · intro h
              exact absurd h.length_eq hlen
      | _ => exact equals_iff_of_unlike (by simp) (by simp)
  | object l ih =>
      cases w with
      | object r =>
          rw [hasDistinctNames_object] at hv hw
          rw [equals]
          split_ifs with hnames
          · rw [sameNames_iff] at hnames
            rw [equalMembers_iff]
            -- a member that both objects have is compared with the member of that name
            have hmembers : ∀ m ∈ l, ∀ b, Members.find? m.1 r = some b →
                (equals m.2 ((Members.find? m.1 r).getD null) = .ok true ↔ Alike m.2 b) := by
              intro m hm b hb
              rw [hb, Option.getD_some]
              exact ih m hm (hv.2 m hm) (hw.2 _ (Members.mem_of_find? hb))
            constructor
            · intro h
              refine .object hv.1 hw.1 hnames fun name a b ha hb => ?_
              have hm := Members.mem_of_find? ha
              exact (hmembers _ hm b hb).mp (h _ hm)
            · rintro (_ | _ | _ | _ | _ | ⟨left, -, -, values⟩) m hm
              obtain ⟨ha, b, hb⟩ := exists_member left hnames hm
              exact (hmembers m hm b hb).mpr (values m.1 _ b ha hb)
          · constructor
            · intro h
              cases h
            · rintro (_ | _ | _ | _ | _ | ⟨-, -, names, -⟩)
              exact absurd (sameNames_iff.mpr names) hnames
      | _ => exact equals_iff_of_unlike (by simp) (by simp)
  | _ => exact equals_iff_of_unlike (by simp) (by simp)

/-! ### Answers -/

theorem equals_answers_of_unlike {v w : Value} (hv : v.IsJson) (hw : w.IsJson)
    (ho : ∀ l r, v = object l → w = object r → False)
    (ha : ∀ l r, v = array l → w = array r → False) : ∃ b, equals v w = .ok b := by
  have hkind : ∀ u : Value, u.IsJson → ∃ k, kind u = .ok k := by
    intro u hu
    cases u with
    | tuple items => cases hu
    | bytes content => cases hu
    | foreign type => cases hu
    | _ => exact ⟨_, rfl⟩
  obtain ⟨k, hk⟩ := hkind v hv
  obtain ⟨k', hk'⟩ := hkind w hw
  rw [equals.eq_3 v w ho ha, hk, hk']
  exact ⟨_, rfl⟩

theorem equalItems_answers {l r : List Value} (h : ∀ a ∈ l, ∀ b ∈ r, ∃ s, equals a b = .ok s) :
    ∃ s, equalItems l r = .ok s := by
  induction l generalizing r with
  | nil => exact ⟨true, by simp [equalItems]⟩
  | cons a l ih =>
      cases r with
      | nil => exact ⟨true, by simp [equalItems]⟩
      | cons b r =>
          simp only [List.forall_mem_cons] at h
          obtain ⟨same, hsame⟩ := h.1.1
          rw [equalItems, hsame]
          cases same with
          | false => exact ⟨false, rfl⟩
          | true => exact ih fun c hc => (h.2 c hc).2

theorem equalMembers_answers {l r : Members}
    (h : ∀ m ∈ l, ∃ s, equals m.2 ((Members.find? m.1 r).getD null) = .ok s) :
    ∃ s, equalMembers l r = .ok s := by
  induction l with
  | nil => exact ⟨true, rfl⟩
  | cons m l ih =>
      rw [List.forall_mem_cons] at h
      obtain ⟨same, hsame⟩ := h.1
      rw [equalMembers, hsame]
      cases same with
      | false => exact ⟨false, rfl⟩
      | true => exact ih h.2

theorem isJson_getD_find? {members : Members} (h : (object members).IsJson) (name : String) :
    ((Members.find? name members).getD null).IsJson := by
  cases hm : Members.find? name members with
  | none => rfl
  | some v => exact isJson_find? h hm

/-- Comparing JSON values is no fault. -/
theorem equals_answers {v w : Value} (hv : v.IsJson) (hw : w.IsJson) :
    ∃ s, equals v w = .ok s := by
  induction v using partsInduction generalizing w with
  | array l ih =>
      cases w with
      | array r =>
          rw [isJson_array] at hv hw
          rw [equals]
          split_ifs
          · exact equalItems_answers fun a ha b hb => ih a ha (hv a ha) (hw b hb)
          · exact ⟨false, rfl⟩
      | _ => exact equals_answers_of_unlike hv hw (by simp) (by simp)
  | object l ih =>
      cases w with
      | object r =>
          rw [isJson_object] at hv
          rw [equals]
          split_ifs
          · exact equalMembers_answers fun m hm => ih m hm (hv m hm) (isJson_getD_find? hw m.1)
          · exact ⟨false, rfl⟩
      | _ => exact equals_answers_of_unlike hv hw (by simp) (by simp)
  | _ => exact equals_answers_of_unlike hv hw (by simp) (by simp)

/-- Alike values are equal to the same values. -/
theorem Alike.equals {v w x : Value} (h : Alike v w) (hx : Alike x x) :
    v.equals x = w.equals x := by
  obtain ⟨b, hb⟩ := equals_answers h.regular.1 hx.regular.1
  obtain ⟨b', hb'⟩ := equals_answers h.symm.regular.1 hx.regular.1
  have hv := equals_iff h.regular.2 hx.regular.2
  have hw := equals_iff h.symm.regular.2 hx.regular.2
  rw [hb, Except.ok.injEq] at hv
  rw [hb', Except.ok.injEq] at hw
  have hsame : Alike v x ↔ Alike w x := ⟨h.symm.trans, h.trans⟩
  rw [hb, hb', Except.ok.injEq, Bool.eq_iff_iff, hv, hw, hsame]

end JsonPatch.Value
