import JsonPatch.Value.Members
import Mathlib.Data.Multiset.AddSub

/-! # Laws of ordered members -/

namespace JsonPatch.Members

variable {α : Type}

theorem mem_of_find? {name : String} {v : α} :
    ∀ {members : List (String × α)}, find? name members = some v → (name, v) ∈ members
  | (n, w) :: rest, h => by
      rw [find?] at h
      split_ifs at h with hn
      · cases h
        subst hn
        exact List.mem_cons_self
      · exact List.mem_cons_of_mem _ (mem_of_find? h)

theorem find?_modify_self (name : String) (f : α → α) (members : List (String × α)) :
    find? name (modify name f members) = (find? name members).map f := by
  induction members with
  | nil => rfl
  | cons m rest ih =>
      rw [modify, find?]
      split_ifs with hn
      · rw [find?, if_pos hn, Option.map_some]
      · rw [find?, if_neg hn, ih]

theorem find?_modify_ne {name name' : String} (h : name' ≠ name) (f : α → α)
    (members : List (String × α)) :
    find? name' (modify name f members) = find? name' members := by
  induction members with
  | nil => rfl
  | cons m rest ih =>
      rw [modify, find?]
      by_cases hn : m.1 = name
      · have hn' : ¬ m.1 = name' := fun e => h (e.symm.trans hn)
        rw [if_pos hn, find?, if_neg hn', if_neg hn']
      · rw [if_neg hn, find?, ih]

theorem length_erase {name : String} {members : List (String × α)} {v : α}
    (h : find? name members = some v) :
    (erase name members).length + 1 = members.length := by
  induction members with
  | nil => cases h
  | cons m rest ih =>
      rw [find?] at h
      rw [erase]
      split_ifs at h ⊢ with hn
      · rfl
      · rw [List.length_cons, List.length_cons, ih h]

/-! ### Changed members -/

theorem find?_put_self (name : String) (x : α) (members : List (String × α)) :
    find? name (put name x members) = some x := by
  induction members with
  | nil => simp [put, find?]
  | cons m rest ih =>
      rw [put]
      split_ifs with hn
      · rw [find?, if_pos hn]
      · rw [find?, if_neg hn, ih]

theorem find?_put_ne {name name' : String} (h : name' ≠ name) (x : α)
    (members : List (String × α)) : find? name' (put name x members) = find? name' members := by
  induction members with
  | nil => exact if_neg fun e => h e.symm
  | cons m rest ih =>
      rw [put, find?]
      by_cases hn : m.1 = name
      · have hn' : ¬ m.1 = name' := fun e => h (e.symm.trans hn)
        rw [if_pos hn, find?, if_neg hn', if_neg hn']
      · rw [if_neg hn, find?, ih]

theorem find?_erase_ne {name name' : String} (h : name' ≠ name) (members : List (String × α)) :
    find? name' (erase name members) = find? name' members := by
  induction members with
  | nil => rfl
  | cons m rest ih =>
      rw [erase, find?]
      by_cases hn : m.1 = name
      · have hn' : ¬ m.1 = name' := fun e => h (e.symm.trans hn)
        rw [if_pos hn, if_neg hn']
      · rw [if_neg hn, find?, ih]

/-- The values of members, in no order. -/
def values (members : List (String × α)) : Multiset α :=
  (members.map (·.2) : List α)

theorem values_erase (name : String) (members : List (String × α)) :
    values members = (find? name members).toList + values (erase name members) := by
  induction members with
  | nil => rfl
  | cons m rest ih =>
      rw [find?, erase]
      split_ifs with hn
      · rfl
      · change m.2 ::ₘ values rest = _ + m.2 ::ₘ values _
        rw [ih, Multiset.add_cons]

theorem values_put (name : String) (x : α) (members : List (String × α)) :
    values (put name x members) = x ::ₘ values (erase name members) := by
  induction members with
  | nil => rfl
  | cons m rest ih =>
      rw [put, erase]
      split_ifs with hn
      · rfl
      · change m.2 ::ₘ values _ = x ::ₘ m.2 ::ₘ values _
        rw [ih, Multiset.cons_swap]

theorem map_put {β : Type} (f : α → β) (name : String) (x : α) (members : List (String × α)) :
    (put name x members).map (fun m => (m.1, f m.2)) =
      put name (f x) (members.map fun m => (m.1, f m.2)) := by
  induction members with
  | nil => rfl
  | cons m rest ih =>
      rw [put, List.map_cons, put]
      split_ifs with hn
      · rfl
      · rw [List.map_cons, ih]

theorem map_erase {β : Type} (f : α → β) (name : String) (members : List (String × α)) :
    (erase name members).map (fun m => (m.1, f m.2)) =
      erase name (members.map fun m => (m.1, f m.2)) := by
  induction members with
  | nil => rfl
  | cons m rest ih =>
      rw [erase, List.map_cons, erase]
      split_ifs with hn
      · rfl
      · rw [List.map_cons, ih]

theorem find?_mapNamed {β : Type} (f : String → α → β) (name : String)
    (members : List (String × α)) :
    find? name (members.map fun m => (m.1, f m.1 m.2)) = (find? name members).map (f name) := by
  induction members with
  | nil => rfl
  | cons m rest ih =>
      rw [List.map_cons, find?, find?]
      split_ifs with hn
      · rw [hn]
        rfl
      · exact ih

theorem find?_map {β : Type} (f : α → β) (name : String) (members : List (String × α)) :
    find? name (members.map fun m => (m.1, f m.2)) = (find? name members).map f :=
  find?_mapNamed (fun _ => f) name members

theorem names_mapNamed {β : Type} (f : String → α → β) (members : List (String × α)) :
    names (members.map fun m => (m.1, f m.1 m.2)) = names members := by
  rw [names, List.map_map]
  rfl

theorem put_of_find? {name : String} {x : α} {members : List (String × α)}
    (h : find? name members = some x) : put name x members = members := by
  induction members with
  | nil => cases h
  | cons m rest ih =>
      rw [find?] at h
      rw [put]
      split_ifs at h ⊢ with hn
      · cases h
        rfl
      · rw [ih h]

theorem modify_of_find? {name : String} {x : α} {members : List (String × α)}
    (h : find? name members = some x) (f : α → α) :
    modify name f members = put name (f x) members := by
  induction members with
  | nil => cases h
  | cons m rest ih =>
      rw [find?] at h
      rw [modify, put]
      split_ifs at h ⊢ with hn
      · cases h
        rfl
      · rw [ih h]

theorem modify_modify (name : String) (f g : α → α) (members : List (String × α)) :
    modify name g (modify name f members) = modify name (fun v => g (f v)) members := by
  induction members with
  | nil => rfl
  | cons m rest ih =>
      rw [modify, modify]
      split_ifs with hn
      · rw [modify, if_pos hn]
      · rw [modify, if_neg hn, ih]

theorem modify_comm {name name' : String} (h : name ≠ name') (f g : α → α)
    (members : List (String × α)) :
    modify name f (modify name' g members) = modify name' g (modify name f members) := by
  induction members with
  | nil => rfl
  | cons m rest ih =>
      by_cases hn : m.1 = name
      · have hn' : ¬ m.1 = name' := fun e => h (hn.symm.trans e)
        simp only [modify, if_pos hn, if_neg hn']
      · by_cases hn' : m.1 = name'
        · simp only [modify, if_neg hn, if_pos hn']
        · simp only [modify, if_neg hn, if_neg hn', ih]

theorem put_modify_comm {name name' : String} (h : name ≠ name') (x : α) (f : α → α)
    (members : List (String × α)) :
    put name x (modify name' f members) = modify name' f (put name x members) := by
  induction members with
  | nil => simp [put, modify, h]
  | cons m rest ih =>
      by_cases hn : m.1 = name
      · have hn' : ¬ m.1 = name' := fun e => h (hn.symm.trans e)
        simp only [put, modify, if_pos hn, if_neg hn']
      · by_cases hn' : m.1 = name'
        · simp only [put, modify, if_neg hn, if_pos hn']
        · simp only [put, modify, if_neg hn, if_neg hn', ih]

theorem erase_modify_comm {name name' : String} (h : name ≠ name') (f : α → α)
    (members : List (String × α)) :
    erase name (modify name' f members) = modify name' f (erase name members) := by
  induction members with
  | nil => rfl
  | cons m rest ih =>
      by_cases hn : m.1 = name
      · have hn' : ¬ m.1 = name' := fun e => h (hn.symm.trans e)
        simp only [erase, modify, if_pos hn, if_neg hn']
      · by_cases hn' : m.1 = name'
        · simp only [erase, modify, if_neg hn, if_pos hn']
        · simp only [erase, modify, if_neg hn, if_neg hn', ih]

theorem modify_id (name : String) (members : List (String × α)) :
    modify name (fun v => v) members = members := by
  induction members with
  | nil => rfl
  | cons m rest ih =>
      rw [modify]
      split_ifs
      · rfl
      · rw [ih]

theorem mem_put {name : String} {x : α} {members : List (String × α)} {m : String × α}
    (h : m ∈ put name x members) : m.2 = x ∨ m ∈ members := by
  induction members with
  | nil => exact .inl (congrArg Prod.snd (List.mem_singleton.mp h))
  | cons m' rest ih =>
      rw [put] at h
      split_ifs at h with hn
      · rcases List.mem_cons.mp h with rfl | h
        · exact .inl rfl
        · exact .inr (List.mem_cons_of_mem _ h)
      · rcases List.mem_cons.mp h with rfl | h
        · exact .inr List.mem_cons_self
        · exact (ih h).imp_right (List.mem_cons_of_mem _)

theorem mem_of_mem_erase {name : String} {members : List (String × α)} {m : String × α}
    (h : m ∈ erase name members) : m ∈ members := by
  induction members with
  | nil => cases h
  | cons m' rest ih =>
      rw [erase] at h
      split_ifs at h
      · exact List.mem_cons_of_mem _ h
      · rcases List.mem_cons.mp h with rfl | h
        · exact List.mem_cons_self
        · exact List.mem_cons_of_mem _ (ih h)

theorem mem_modify {name : String} {f : α → α} {members : List (String × α)} {m : String × α}
    (h : m ∈ modify name f members) :
    (∃ x, find? name members = some x ∧ m.2 = f x) ∨ m ∈ members := by
  induction members with
  | nil => cases h
  | cons m' rest ih =>
      rw [modify] at h
      rw [find?]
      split_ifs at h ⊢
      · rcases List.mem_cons.mp h with rfl | h
        · exact .inl ⟨_, rfl, rfl⟩
        · exact .inr (List.mem_cons_of_mem _ h)
      · rcases List.mem_cons.mp h with rfl | h
        · exact .inr List.mem_cons_self
        · exact (ih h).imp_right (List.mem_cons_of_mem _)

/-! ### Names -/

theorem find?_eq_none_iff {name : String} {members : List (String × α)} :
    find? name members = none ↔ name ∉ names members := by
  induction members with
  | nil => simp [find?, names]
  | cons m rest ih =>
      rw [names, List.map_cons, List.mem_cons, ← names, find?]
      split_ifs with hn
      · simp [hn]
      · rw [ih]
        simp [Ne.symm hn]

theorem has_iff {name : String} {members : List (String × α)} :
    has name members = true ↔ name ∈ names members := by
  rw [has, Option.isSome_iff_ne_none, ne_eq, find?_eq_none_iff, not_not]

theorem names_put (name : String) (x : α) (members : List (String × α)) :
    names (put name x members) =
      if has name members then names members else names members ++ [name] := by
  induction members with
  | nil => rfl
  | cons m rest ih =>
      rw [put, has, find?]
      by_cases hn : m.1 = name
      · simp [names, hn]
      · rw [if_neg hn, if_neg hn, ← has]
        change m.1 :: names (put name x rest) = _
        rw [ih]
        split_ifs <;> rfl

theorem names_modify (name : String) (f : α → α) (members : List (String × α)) :
    names (modify name f members) = names members := by
  induction members with
  | nil => rfl
  | cons m rest ih =>
      rw [modify]
      split_ifs
      · rfl
      · exact congrArg (m.1 :: ·) ih

theorem names_erase (name : String) (members : List (String × α)) :
    names (erase name members) = (names members).erase name := by
  induction members with
  | nil => rfl
  | cons m rest ih =>
      change _ = (m.1 :: names rest).erase name
      rw [erase, List.erase_cons]
      by_cases hn : m.1 = name
      · simp [hn]
      · simp only [hn, if_false, beq_iff_eq]
        exact congrArg (m.1 :: ·) ih

theorem put_of_not_mem {name : String} {members : List (String × α)} (h : name ∉ names members)
    (x : α) : put name x members = members ++ [(name, x)] := by
  induction members with
  | nil => rfl
  | cons m rest ih =>
      obtain ⟨hn, hrest⟩ := List.ne_and_not_mem_of_not_mem_cons h
      rw [put, if_neg (Ne.symm hn), ih hrest, List.cons_append]

theorem erase_append_cons {name : String} {before : List (String × α)}
    (h : name ∉ names before) (x : α) (after : List (String × α)) :
    erase name (before ++ (name, x) :: after) = before ++ after := by
  induction before with
  | nil => exact if_pos rfl
  | cons m before ih =>
      obtain ⟨hn, hbefore⟩ := List.ne_and_not_mem_of_not_mem_cons h
      rw [List.cons_append, erase, if_neg (Ne.symm hn), ih hbefore, List.cons_append]

/-- Members split at the one that is looked up. -/
theorem split_of_find? {name : String} {x : α} {members : List (String × α)}
    (h : find? name members = some x) :
    ∃ before after, members = before ++ (name, x) :: after ∧ name ∉ names before := by
  induction members with
  | nil => cases h
  | cons m rest ih =>
      rw [find?] at h
      split_ifs at h with hn
      · cases h
        subst hn
        exact ⟨[], rest, rfl, List.not_mem_nil⟩
      · obtain ⟨before, after, rfl, hbefore⟩ := ih h
        exact ⟨m :: before, after, rfl, List.not_mem_cons_of_ne_of_not_mem (Ne.symm hn) hbefore⟩

theorem nodup_put {members : List (String × α)} (h : (names members).Nodup) (name : String)
    (x : α) : (names (put name x members)).Nodup := by
  rw [names_put]
  split_ifs with hm
  · exact h
  · have hnot : name ∉ names members := fun hin => hm (has_iff.mpr hin)
    rw [← List.concat_eq_append]
    exact h.concat hnot

theorem nodup_erase {members : List (String × α)} (h : (names members).Nodup) (name : String) :
    (names (erase name members)).Nodup := by
  rw [names_erase]
  exact h.erase name

/-! ### Members put one after another -/

theorem find?_append (name : String) (members more : List (String × α)) :
    find? name (members ++ more) = (find? name members).or (find? name more) := by
  induction members with
  | nil => rfl
  | cons m rest ih =>
      rw [List.cons_append, find?, find?]
      split_ifs
      · rfl
      · exact ih

/-- The last member of a name counts. -/
theorem find?_foldl_put (name : String) (more members : List (String × α)) :
    find? name (more.foldl (fun all m => put m.1 m.2 all) members) =
      (find? name more.reverse).or (find? name members) := by
  induction more generalizing members with
  | nil => rfl
  | cons m rest ih =>
      rw [List.foldl_cons, ih, List.reverse_cons, find?_append, Option.or_assoc]
      congr 1
      by_cases hn : m.1 = name
      · rw [find?, if_pos hn, ← hn, find?_put_self, Option.some_or]
      · rw [find?, if_neg hn, find?_put_ne (Ne.symm hn), find?, Option.none_or]

theorem nodup_foldl_put {members : List (String × α)} (h : (names members).Nodup)
    (more : List (String × α)) :
    (names (more.foldl (fun all m => put m.1 m.2 all) members)).Nodup := by
  induction more generalizing members with
  | nil => exact h
  | cons m rest ih => exact ih (nodup_put h m.1 m.2)

/-! ### Lookup by distinct names -/

theorem find?_put (name name' : String) (x : α) (members : List (String × α)) :
    find? name' (put name x members) = if name' = name then some x else find? name' members := by
  split_ifs with hn
  · rw [hn, find?_put_self]
  · exact find?_put_ne hn x members

theorem find?_modify (name name' : String) (f : α → α) (members : List (String × α)) :
    find? name' (modify name f members) =
      if name' = name then (find? name' members).map f else find? name' members := by
  split_ifs with hn
  · rw [hn, find?_modify_self]
  · exact find?_modify_ne hn f members

theorem find?_erase {members : List (String × α)} (h : (names members).Nodup)
    (name name' : String) :
    find? name' (erase name members) = if name' = name then none else find? name' members := by
  split_ifs with hn
  · rw [hn, find?_eq_none_iff, names_erase]
    exact h.not_mem_erase
  · exact find?_erase_ne hn members

theorem find?_of_mem {members : List (String × α)} (h : (names members).Nodup) {name : String}
    {v : α} (hv : (name, v) ∈ members) : find? name members = some v := by
  induction members with
  | nil => cases hv
  | cons m rest ih =>
      obtain ⟨hm, hrest⟩ := List.nodup_cons.mp h
      rw [find?]
      rcases List.mem_cons.mp hv with rfl | hv
      · exact if_pos rfl
      · have hn : ¬ m.1 = name := by
          rintro rfl
          exact hm (List.mem_map.mpr ⟨_, hv, rfl⟩)
        rw [if_neg hn]
        exact ih hrest hv

theorem find?_reverse {members : List (String × α)} (h : (names members).Nodup) (name : String) :
    find? name members.reverse = find? name members := by
  have hr : (names members.reverse).Nodup := by
    rw [names, List.map_reverse]
    exact List.nodup_reverse.mpr h
  cases hf : find? name members with
  | none =>
      rw [find?_eq_none_iff] at hf ⊢
      rwa [names, List.map_reverse, List.mem_reverse]
  | some v => exact find?_of_mem hr (List.mem_reverse.mpr (mem_of_find? hf))

end JsonPatch.Members
