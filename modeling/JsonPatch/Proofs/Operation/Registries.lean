import JsonPatch.Proofs.InPlace
import JsonPatch.Proofs.Operation.Registry

/-! # Registries changed in their place

A registry is known by its place among all registries, and registering a handler changes it there
for everyone who knows the place.  So it matters which registries are copies: `copy`, `merge` and
`asOperations` make new ones, and only `register` changes one that is there.

* `register_outcome`: registering does what `Registry.register` says to the registry at a place,
  and a fault leaves all registries as they are.
* `Makes`: a program makes a new registry of given handlers, or ends with a given fault, and keeps
  the registries that were there (`copy_makes`, `merge_makes`, `asOperations_makes`).  `Makes.bind`
  and `Makes.change` put such programs together. -/

namespace JsonPatch

/-! ### The programs -/

/-- All registries there are, each at its place. -/
abbrev Registries := List Registry

namespace Registries

/-- A program on registries. -/
abbrev Task (α : Type) := InPlace Fault Registries α

/-- The registry at a place. -/
def look (all : Registries) (place : Nat) : Registry := all[place]?.getD Registry.empty

/-- Make a registry of handlers, and return its place. -/
def create (handlers : List (String × Handler)) : Task Nat := do
  let all ← getThe Registries
  set (all ++ [⟨handlers⟩])
  return all.length

/-- Put a handler into a registry. -/
def put (place : Nat) (name : String) (handler : Handler) : Task Unit := do
  let all ← getThe Registries
  set (all.set place ⟨Members.put name handler (all.look place).handlers⟩)

/-- Make a registry of the handlers of another one. -/
def copy (place : Nat) : Task Nat := do
  let all ← getThe Registries
  create (all.look place).handlers

/-- Put all handlers of another registry into a registry. -/
def update (place other : Nat) : Task Unit := do
  let all ← getThe Registries
  (all.look other).handlers.forM fun h => put place h.1 h.2

/-- Make a registry of the handlers of two registries. -/
def merge (place other : Nat) : Task Nat := do
  let merged ← copy place
  update merged other
  return merged

/-- Register a handler; `none` stands for a value that cannot be called. -/
def register (place : Nat) (name : Value) (handler : Option Handler) : Task Unit :=
  match name with
  | .string n =>
    if n = "" then throw badName
    else
      match handler with
      | some h => put place n h
      | none => throw (.raised .type ("handler for " ++ Text.quoted n ++ " is not callable"))
  | _ => throw badName
where
  /-- The fault for a value that names no operation. -/
  badName : Fault := .raised .value "operation name must be a non-empty string"

/-- Make a registry of the checks of all predicates of a set. -/
def asOperations (s : PredicateSet) : Task Nat := do
  let place ← create []
  (Members.names s.rules).forM fun name => register place (.string name) (some (s.check name))
  return place

/-! ### Registries at their places -/

section Places

variable {before all after : Registries} {place : Nat} {g : Registry}

theorem look_of_getElem? (h : all[place]? = some g) : all.look place = g := by
  rw [look, h, Option.getD_some]

theorem look_set (h : place < all.length) (g : Registry) : look (all.set place g) place = g :=
  look_of_getElem? (List.getElem?_set_self h)

theorem set_look (all : Registries) (place : Nat) : all.set place (all.look place) = all := by
  refine List.ext_getElem? fun i => ?_
  rw [List.getElem?_set]
  split_ifs with hi hp
  · subst hi
    rw [look, List.getElem?_eq_getElem hp, Option.getD_some]
  · subst hi
    exact (List.getElem?_eq_none (Nat.not_lt.mp hp)).symm
  · rfl

theorem getElem?_of_kept (h : before <+: after) (hp : before[place]? = some g) :
    after[place]? = some g := by
  obtain ⟨hlt, rfl⟩ := List.getElem?_eq_some_iff.mp hp
  exact List.prefix_iff_getElem?.mp h place hlt

theorem look_of_kept (h : before <+: after) (hp : place < before.length) :
    after.look place = before.look place := by
  have hg := List.getElem?_eq_getElem hp
  rw [look_of_getElem? hg, look_of_getElem? (getElem?_of_kept h hg)]

/-- A change behind the registries that were there keeps them. -/
theorem kept_set (h : before <+: all) (hp : before.length ≤ place) (g : Registry) :
    before <+: all.set place g := by
  obtain ⟨rest, rfl⟩ := h
  rw [List.set_append_right _ _ hp]
  exact List.prefix_append _ _

end Places

/-! ### Changing a registry -/

section Change

open InPlace (outcome outcome_bind)

/-- The registry at a place becomes another one, or a fault ends the work on it. -/
inductive Changes (all : Registries) (place : Nat) :
    Except Fault Registry → Except Fault Unit × Registries → Prop
  | done (g : Registry) : Changes all place (.ok g) (.ok (), all.set place g)
  | failed (f : Fault) (g : Registry) : Changes all place (.error f) (.error f, all.set place g)

/-- An earlier change at the place leaves no trace. -/
theorem Changes.after_set {all : Registries} {place : Nat} {g : Registry}
    {made : Except Fault Registry} {out : Except Fault Unit × Registries}
    (h : Changes (all.set place g) place made out) : Changes all place made out := by
  cases h with
  | done g' =>
      rw [List.set_set]
      exact .done g'
  | failed f g' =>
      rw [List.set_set]
      exact .failed f g'

/-- Registering changes one registry, and none at all if it fails. -/
theorem register_outcome (place : Nat) (name : Value) (handler : Option Handler)
    (all : Registries) :
    outcome (register place name handler) all =
      match (all.look place).register name handler with
      | .ok g => (.ok (), all.set place g)
      | .error f => (.error f, all) := by
  cases name with
  | string n =>
      unfold register
      dsimp only
      by_cases hn : n = ""
      · subst hn
        rfl
      · rw [if_neg hn, Registry.register_string hn]
        cases handler <;> rfl
  | _ => rfl

theorem register_changes (place : Nat) (name : Value) (handler : Option Handler)
    (all : Registries) :
    Changes all place ((all.look place).register name handler)
      (outcome (register place name handler) all) := by
  rw [register_outcome]
  cases (all.look place).register name handler with
  | ok g => exact .done g
  | error f =>
      have h := @Changes.failed all place f (all.look place)
      rwa [set_look] at h

/-- A loop of changes at one place. -/
theorem changes_forM {α : Type} {place : Nat} {p : α → Task Unit}
    {f : Registry → α → Except Fault Registry}
    (h : ∀ x all, Changes all place (f (all.look place) x) (outcome (p x) all))
    (xs : List α) {all : Registries} (hp : place < all.length) :
    Changes all place (xs.foldlM f (all.look place)) (outcome (xs.forM p) all) := by
  induction xs generalizing all with
  | nil =>
      have h := @Changes.done all place (all.look place)
      rwa [set_look] at h
  | cons x rest ih =>
      change Changes all place _ (outcome (p x >>= fun _ => rest.forM p) all)
      rw [outcome_bind, List.foldlM_cons]
      have hx := h x all
      generalize f (all.look place) x = made at hx
      generalize outcome (p x) all = out at hx
      cases hx with
      | failed f g => exact .failed f g
      | done g =>
          -- the rest of the loop starts from what the first change has left at the place
          have hrest := @ih (all.set place g) (by rwa [List.length_set])
          rw [look_set hp] at hrest
          exact hrest.after_set

/-- Updating a registry merges the other one into it. -/
theorem update_changes {place other : Nat} {all : Registries} (hp : place < all.length) :
    Changes all place (.ok ((all.look place).merge (all.look other)))
      (outcome (update place other) all) := by
  have h := changes_forM (p := fun h : String × Handler => put place h.1 h.2)
    (f := fun g h => pure ⟨Members.put h.1 h.2 g.handlers⟩)
    (fun _ _ => .done _) (all.look other).handlers hp
  have hmerge : (all.look other).handlers.foldl
      (fun g h => ⟨Members.put h.1 h.2 g.handlers⟩) (all.look place) =
        (all.look place).merge (all.look other) :=
    List.foldl_hom Registry.mk fun _ _ => rfl
  rwa [List.foldlM_pure, hmerge] at h

end Change

/-! ### Making a registry -/

section Make

open InPlace (outcome outcome_bind)

/-- A new registry is made, or a fault ends the work on it; the registries that were there stay
as they are. -/
inductive Makes (before : Registries) :
    Except Fault Registry → Except Fault Nat × Registries → Prop
  | done {g : Registry} {place : Nat} {after : Registries} (kept : before <+: after)
      (fresh : before.length ≤ place) (holds : after[place]? = some g) :
      Makes before (.ok g) (.ok place, after)
  | failed {f : Fault} {after : Registries} (kept : before <+: after) :
      Makes before (.error f) (.error f, after)

variable {before after all : Registries} {made : Except Fault Registry}
  {out : Except Fault Nat × Registries}

theorem Makes.after_kept (h : before <+: after) (hm : Makes after made out) :
    Makes before made out := by
  cases hm with
  | done kept fresh holds => exact .done (h.trans kept) (h.length_le.trans fresh) holds
  | failed kept => exact .failed (h.trans kept)

/-- The second program makes its registry out of the one that the first one makes. -/
theorem Makes.bind {p : Task Nat} {next : Nat → Task Nat} {f : Registry → Except Fault Registry}
    (hp : Makes before made (outcome p before))
    (hnext : ∀ {g place after}, before <+: after → after[place]? = some g →
      Makes after (f g) (outcome (next place) after)) :
    Makes before (made >>= f) (outcome (p >>= next) before) := by
  rw [outcome_bind]
  generalize outcome p before = out at hp
  cases hp with
  | done kept fresh holds => exact (hnext kept holds).after_kept kept
  | failed kept => exact .failed kept

/-- The registry that is made is changed before it is returned. -/
theorem Makes.change {p : Task Nat} {change : Nat → Task Unit}
    {f : Registry → Except Fault Registry} (hp : Makes before made (outcome p before))
    (hchange : ∀ {g place after}, before <+: after → after[place]? = some g →
      Changes after place (f g) (outcome (change place) after)) :
    Makes before (made >>= f)
      (outcome (do let place ← p; change place; return place) before) := by
  rw [outcome_bind]
  generalize outcome p before = out at hp
  cases hp with
  | failed kept => exact .failed kept
  | @done g place after kept fresh holds =>
      have h := hchange kept holds
      change Makes before (f g) (outcome (change place >>= fun _ => pure place) after)
      rw [outcome_bind]
      generalize f g = made at h ⊢
      generalize outcome (change place) after = out at h ⊢
      cases h with
      | done g' =>
          have hp : place < after.length := (List.getElem?_eq_some_iff.mp holds).1
          exact .done (kept_set kept fresh g') fresh (List.getElem?_set_self hp)
      | failed f g' => exact .failed (kept_set kept fresh g')

theorem create_makes (handlers : List (String × Handler)) (all : Registries) :
    Makes all (.ok ⟨handlers⟩) (outcome (create handlers) all) :=
  .done (List.prefix_append _ _) le_rfl List.getElem?_concat_length

theorem copy_makes (place : Nat) (all : Registries) :
    Makes all (.ok (all.look place)) (outcome (copy place) all) :=
  create_makes _ all

theorem merge_makes {place other : Nat} (ho : other < all.length) :
    Makes all (.ok ((all.look place).merge (all.look other))) (outcome (merge place other) all) := by
  refine (copy_makes place all).change (f := fun g => .ok (g.merge (all.look other)))
    fun {g merged after} kept holds => ?_
  rw [← look_of_getElem? holds, ← look_of_kept kept ho]
  exact update_changes (List.getElem?_eq_some_iff.mp holds).1

theorem asOperations_makes (s : PredicateSet) (all : Registries) :
    Makes all s.asOperations (outcome (asOperations s) all) := by
  refine (create_makes [] all).change
    (f := (Members.names s.rules).foldlM fun r name =>
      r.register (.string name) (some (s.check name)))
    fun {g place after} kept holds => ?_
  rw [← look_of_getElem? holds]
  exact changes_forM (fun name => register_changes place (.string name) (some (s.check name)))
    (Members.names s.rules) (List.getElem?_eq_some_iff.mp holds).1

end Make

end Registries
end JsonPatch
