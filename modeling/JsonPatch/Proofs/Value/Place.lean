import JsonPatch.Value.Path
import JsonPatch.Proofs.Value.Members
import Mathlib.Data.List.Infix

/-! # Laws of places

Reading a value at a place after it has been changed at another one.  The places are compared as
lists of keys: what is read at or below the changed place comes from the changed part
(`at?_modifyAt_below`), what is read above it is changed inside (`at?_modifyAt_above`), and where
the two lists part nothing is changed (`at?_modifyAt_apart`). -/

namespace JsonPatch.Value

/-! ### One key -/

theorem child?_modifyChild_self (k : Key) (f : Value → Value) (v : Value) :
    (modifyChild k f v).child? k = (v.child? k).map f := by
  cases v with
  | array items =>
      cases k with
      | index i => simp [modifyChild, child?]
      | member name => rfl
  | object members =>
      cases k with
      | index i => rfl
      | member name => exact Members.find?_modify_self name f members
  | _ => rfl

theorem child?_modifyChild_ne {k k' : Key} (h : k' ≠ k) (f : Value → Value) (v : Value) :
    (modifyChild k f v).child? k' = v.child? k' := by
  cases v with
  | array items =>
      cases k with
      | index i =>
          cases k' with
          | index j =>
              have hij : i ≠ j := fun e => h (by rw [e])
              simp [modifyChild, child?, hij]
          | member name => rfl
      | member name => rfl
  | object members =>
      cases k with
      | index i => rfl
      | member name =>
          cases k' with
          | index j => rfl
          | member name' =>
              exact Members.find?_modify_ne (fun e => h (by rw [e])) f members
  | _ => rfl

theorem deleteAt_ne {k : Key} {v w : Value} (h : v.child? k = some w) : v.deleteAt k ≠ v := by
  intro e
  cases v with
  | array items =>
      cases k with
      | index i =>
          obtain ⟨hi, -⟩ := List.getElem?_eq_some_iff.mp h
          have hl := congrArg List.length (Value.array.inj e)
          rw [List.length_eraseIdx_of_lt hi] at hl
          omega
      | member name => cases h
  | object members =>
      cases k with
      | index i => cases h
      | member name =>
          have hl := congrArg List.length (Value.object.inj e)
          have := Members.length_erase h
          omega
  | _ => cases h

/-! ### Places -/

theorem at?_cons (k : Key) (place : List Key) (v : Value) :
    v.at? (k :: place) = (v.child? k).bind (at? place) := by
  rw [at?]
  cases v.child? k <;> rfl

theorem at?_append (p q : List Key) (v : Value) :
    v.at? (p ++ q) = (v.at? p).bind (at? q) := by
  induction p generalizing v with
  | nil => rfl
  | cons k p ih =>
      rw [List.cons_append, at?_cons, at?_cons, Option.bind_assoc]
      exact congrArg _ (funext ih)

theorem at?_modifyAt_below (p q : List Key) (f : Value → Value) (v : Value) :
    (modifyAt p f v).at? (p ++ q) = ((v.at? p).map f).bind (at? q) := by
  induction p generalizing v with
  | nil => rfl
  | cons k p ih =>
      rw [List.cons_append, modifyAt, at?_cons, child?_modifyChild_self, at?_cons]
      cases v.child? k with
      | none => rfl
      | some w => exact ih w

theorem at?_modifyAt_self (p : List Key) (f : Value → Value) (v : Value) :
    (modifyAt p f v).at? p = (v.at? p).map f := by
  have h := at?_modifyAt_below p [] f v
  rw [List.append_nil] at h
  rw [h]
  cases (v.at? p).map f <;> rfl

theorem at?_modifyAt_above (p q : List Key) (f : Value → Value) (v : Value) :
    (modifyAt (p ++ q) f v).at? p = (v.at? p).map (modifyAt q f) := by
  induction p generalizing v with
  | nil => rfl
  | cons k p ih =>
      rw [List.cons_append, modifyAt, at?_cons, child?_modifyChild_self, at?_cons]
      cases v.child? k with
      | none => rfl
      | some w => exact ih w

theorem at?_modifyAt_apart {p q : List Key} (hp : ¬ p <+: q) (hq : ¬ q <+: p) (f : Value → Value)
    (v : Value) : (modifyAt p f v).at? q = v.at? q := by
  induction p generalizing q v with
  | nil => exact absurd q.nil_prefix hp
  | cons k p ih =>
      cases q with
      | nil => exact absurd (List.nil_prefix) hq
      | cons k' q =>
          rw [modifyAt, at?_cons, at?_cons]
          by_cases hk : k' = k
          · subst hk
            rw [child?_modifyChild_self]
            rw [List.cons_prefix_cons] at hp hq
            cases v.child? k' with
            | none => rfl
            | some w => exact ih (fun h => hp ⟨rfl, h⟩) (fun h => hq ⟨rfl, h⟩) w
          · rw [child?_modifyChild_ne hk]

/-! ### Changes of one place -/

theorem modifyChild_modifyChild (k : Key) (f g : Value → Value) (v : Value) :
    modifyChild k g (modifyChild k f v) = modifyChild k (fun w => g (f w)) v := by
  cases v with
  | array items =>
      cases k with
      | index i => exact congrArg array (List.modify_modify_eq f g i items)
      | member name => rfl
  | object members =>
      cases k with
      | index i => rfl
      | member name => exact congrArg object (Members.modify_modify name f g members)
  | _ => rfl

theorem modifyChild_comm {k k' : Key} (h : k ≠ k') (f g : Value → Value) (v : Value) :
    modifyChild k f (modifyChild k' g v) = modifyChild k' g (modifyChild k f v) := by
  cases v with
  | array items =>
      cases k with
      | member name => cases k' <;> rfl
      | index i =>
          cases k' with
          | member name => rfl
          | index j =>
              have hij : j ≠ i := fun e => h (by rw [e])
              exact congrArg array (List.modify_modify_ne g f items hij)
  | object members =>
      cases k with
      | index i => cases k' <;> rfl
      | member name =>
          cases k' with
          | index j => rfl
          | member name' =>
              exact congrArg object (Members.modify_comm (fun e => h (by rw [e])) f g members)
  | _ => rfl

theorem modifyChild_congr {k : Key} {v w : Value} (h : v.child? k = some w) {f g : Value → Value}
    (hfg : f w = g w) : modifyChild k f v = modifyChild k g v := by
  cases v with
  | array items =>
      cases k with
      | index i =>
          have h : items[i]? = some w := h
          change array (items.modify i f) = array (items.modify i g)
          rw [List.modify_eq_set_getElem?, List.modify_eq_set_getElem?, h]
          change array (items.set i (f w)) = array (items.set i (g w))
          rw [hfg]
      | member name => rfl
  | object members =>
      cases k with
      | index i => rfl
      | member name =>
          have h : Members.find? name members = some w := h
          change object (Members.modify name f members) = object (Members.modify name g members)
          rw [Members.modify_of_find? h, Members.modify_of_find? h, hfg]
  | _ => rfl

theorem modifyChild_id (k : Key) (v : Value) : modifyChild k (fun w => w) v = v := by
  cases v with
  | array items =>
      cases k with
      | index i => exact congrArg array (List.modify_id i items)
      | member name => rfl
  | object members =>
      cases k with
      | index i => rfl
      | member name => exact congrArg object (Members.modify_id name members)
  | _ => rfl

/-- Two changes of one place are one change of it. -/
theorem modifyAt_modifyAt (p : List Key) (f g : Value → Value) (v : Value) :
    modifyAt p g (modifyAt p f v) = modifyAt p (fun w => g (f w)) v := by
  induction p generalizing v with
  | nil => rfl
  | cons k p ih =>
      rw [modifyAt, modifyAt, modifyAt, modifyChild_modifyChild]
      simp only [ih]

theorem modifyAt_append (p q : List Key) (f : Value → Value) (v : Value) :
    modifyAt (p ++ q) f v = modifyAt p (modifyAt q f) v := by
  induction p generalizing v with
  | nil => rfl
  | cons k p ih =>
      rw [List.cons_append, modifyAt, modifyAt]
      exact congrArg (fun f => modifyChild k f v) (funext ih)

/-- Only what a change does to the value at its place matters. -/
theorem modifyAt_congr {p : List Key} {v w : Value} (h : v.at? p = some w) {f g : Value → Value}
    (hfg : f w = g w) : modifyAt p f v = modifyAt p g v := by
  induction p generalizing v with
  | nil =>
      cases h
      exact hfg
  | cons k p ih =>
      rw [at?_cons] at h
      obtain ⟨u, hu, hw⟩ := Option.bind_eq_some_iff.mp h
      exact modifyChild_congr hu (ih hw)

theorem modifyAt_id (p : List Key) (v : Value) : modifyAt p (fun w => w) v = v := by
  induction p generalizing v with
  | nil => rfl
  | cons k p ih =>
      have h : modifyAt p (fun w => w) = fun w => w := funext ih
      rw [modifyAt, h, modifyChild_id]

end JsonPatch.Value
