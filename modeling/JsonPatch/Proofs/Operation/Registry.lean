import JsonPatch.Predicate.Set
import JsonPatch.Proofs.Value.Members

/-! # Names in a registry

A handler that is registered later comes before one that is there, so in a merged registry the
second one comes first (`get?_merge`).  A predicate set makes a registry if none of its names is
empty, and then each name has the check of its predicate (`asOperations_eq_ok`, `get?_checks`). -/

namespace JsonPatch

namespace Registry

variable {r : Registry} {name : Value} {handler : Option Handler}

theorem register_string {n : String} (hn : n ≠ "") :
    r.register (.string n) handler =
      match handler with
      | some h => .ok ⟨Members.put n h r.handlers⟩
      | none => .error (.raised .type ("handler for " ++ Text.quoted n ++ " is not callable")) := by
  cases handler <;> simp [register]

theorem register_badName (h : ∀ n, name = .string n → n = "") :
    r.register name handler = register.badName := by
  cases name with
  | string n =>
      obtain rfl := h n rfl
      rfl
  | _ => rfl

/-- The second registry comes first. -/
theorem get?_merge (r : Registry) {s : Registry} (h : (Members.names s.handlers).Nodup)
    (name : Value) : (r.merge s).get? name = (s.get? name).or (r.get? name) := by
  cases name with
  | string n =>
      change Members.find? n (s.handlers.foldl _ r.handlers) = _
      rw [Members.find?_foldl_put, Members.find?_reverse h]
      rfl
  | _ => rfl

end Registry

namespace PredicateSet

variable {s : PredicateSet}

/-- The registry of the checks. -/
def checks (s : PredicateSet) : Registry :=
  Registry.empty.merge ⟨s.rules.map fun r => (r.1, s.check r.1)⟩

theorem register_each {f : String → Handler} {rules : Rules} (h : "" ∉ Members.names rules)
    (r : Registry) :
    (Members.names rules).foldlM (fun r name => r.register (.string name) (some (f name))) r =
      .ok (r.merge ⟨rules.map fun rule => (rule.1, f rule.1)⟩) := by
  induction rules generalizing r with
  | nil => rfl
  | cons rule rest ih =>
      obtain ⟨hn, hrest⟩ := List.ne_and_not_mem_of_not_mem_cons h
      change (do
        let r' ← r.register (.string rule.1) (some (f rule.1))
        (Members.names rest).foldlM _ r') = _
      rw [Registry.register_string (Ne.symm hn)]
      exact ih hrest _

theorem asOperations_eq_ok (h : "" ∉ Members.names s.rules) : s.asOperations = .ok s.checks :=
  register_each h Registry.empty

theorem names_checks_nodup (s : PredicateSet) : (Members.names s.checks.handlers).Nodup := by
  have h : (Members.names Registry.empty.handlers).Nodup := List.nodup_nil
  exact Members.nodup_foldl_put h _

theorem get?_checks (s : PredicateSet) (n : String) :
    s.checks.get? (.string n) = if Members.has n s.rules then some (s.check n) else none := by
  change Members.find? n (List.foldl _ [] _) = _
  rw [Members.find?_foldl_put, ← List.map_reverse,
    Members.find?_mapNamed fun name _ => s.check name]
  have hmem : Members.has n s.rules.reverse = Members.has n s.rules := by
    rw [Bool.eq_iff_iff, Members.has_iff, Members.has_iff, Members.names, List.map_reverse,
      List.mem_reverse, ← Members.names]
  rw [← hmem, Members.has]
  cases Members.find? n s.rules.reverse <;> rfl

theorem empty_notMem_names_builtin : "" ∉ Members.names builtin.rules := by
  decide

end PredicateSet

end JsonPatch
