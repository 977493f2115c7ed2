import JsonPatch.Proofs.Operation.Alike

/-! # Patches on equal documents

A patch cannot tell equal documents apart.  Members may stand in another order and integers may
face doubles of the same value: every operation of the run leaves alike documents and ends with the
same sort of error, or with none (`turnOn_alike`), so by induction the whole run does.  The error
itself may be worded in another way, since it may speak of the type of a value. -/

namespace JsonPatch

open Value (Alike)

/-- The errors are of one class and come from the same descriptor at the same index. -/
inductive RunError.Like : RunError → RunError → Prop where
  | unknown (d : Descriptor) (index : Nat) : Like (.unknown d index) (.unknown d index)
  | failed (d : Descriptor) (cause cause' : Failure) (index : Int) :
    Like (.failed d cause index) (.failed d cause' index)
  | fault (cause : Fault) : Like (.fault cause) (.fault cause)

theorem RunError.Like.refl (e : RunError) : e.Like e := by
  cases e with
  | unknown d index => exact .unknown d index
  | failed d cause index => exact .failed d cause cause index
  | fault cause => exact .fault cause

namespace Patch

variable {p : Patch} {d : Descriptor} {v w : Value}

/-! ### One operation -/

theorem troubled_alike (i : Nat) (d : Descriptor) {t u : Trouble} (h : t.Like u) :
    (troubled i d t).1.Like (troubled i d u).1 := by
  cases h with
  | failure cause cause' index =>
      by_cases hlog : d.IsLoggable
      · rw [troubled_failure hlog, troubled_failure hlog]
        exact .failed d cause cause' _
      · rw [troubled_failure_of_not_isLoggable hlog, troubled_failure_of_not_isLoggable hlog]
        exact .fault _
  | @fault f g like =>
      cases like with
      | same => exact .refl _
      | pointer =>
          by_cases hlog : d.IsLoggable
          · rw [troubled_fault hlog rfl, troubled_fault hlog rfl]
            exact .failed d _ _ i
          · rw [troubled_of_not_isLoggable hlog (by rintro _ ⟨⟩; rfl),
              troubled_of_not_isLoggable hlog (by rintro _ ⟨⟩; rfl)]
            exact .fault _

/-- An operation of a standard patch plans the same edit on alike documents. -/
theorem IsStandard.plan_alike (hp : p.IsStandard)
    (hd : Alike (d.field "value") (d.field "value")) (h : Alike v w) {handler : Handler}
    (hh : p.registry.get? (d.field "op") = some handler) :
    Agree Trouble.Like Eq (handler (.object d) v).edit (handler (.object d) w).edit := by
  obtain ⟨name, -, ⟨operation, hcore, rfl⟩ | rfl⟩ := hp.handler hh
  · exact (hcore.alike hd h).mapError fun _ _ ht => ht.settle
  · exact PredicateSet.check_alike name d h

/-- The turn of an operation leaves alike documents, with the same sort of error or with none. -/
theorem IsStandard.turnOn_alike (hp : p.IsStandard) (i : Nat)
    (hd : Alike (d.field "value") (d.field "value")) (h : Alike v w) :
    Alike (p.turnOn i d v).content (p.turnOn i d w).content ∧
      Option.Rel RunError.Like (p.turnOn i d v).error (p.turnOn i d w).error := by
  unfold turnOn
  rw [turn_content, turn_content, turn_error, turn_error]
  cases hh : p.registry.get? (d.field "op") with
  | none => exact ⟨h, .some (.refl _)⟩
  | some handler =>
      have hfits : ∀ e, (handler (.object d) v).edit = .ok (some e) → e.Fits v := by
        intro e he
        refine hp.fits (d := d) ?_
        rw [editOf, hh]
        dsimp only
        rw [he]
      obtain ⟨hcontent, htrouble⟩ := Plan.carryOut_alike (hp.plan_alike hd h hh) hfits hd h
      refine ⟨hcontent, ?_⟩
      dsimp only
      generalize ((handler (.object d) v).carryOut v _).trouble = t,
        ((handler (.object d) w).carryOut w _).trouble = u at htrouble
      cases htrouble with
      | some like => exact .some (troubled_alike i d like)
      | none =>
          cases (p.applied i d).1 with
          | none => exact .none
          | some e => exact .some (.refl e)

/-! ### Runs -/

theorem runFrom_alike (hp : p.IsStandard) (i : Nat) {ops : List Descriptor}
    (hops : ∀ d ∈ ops, Alike (d.field "value") (d.field "value")) (h : Alike v w) :
    Alike (p.runFrom i ops v).document (p.runFrom i ops w).document ∧
      Agree RunError.Like Eq (p.runFrom i ops v).result (p.runFrom i ops w).result := by
  induction ops generalizing i v w with
  | nil => exact ⟨h, .ok rfl⟩
  | cons d rest ih =>
      rw [List.forall_mem_cons] at hops
      obtain ⟨hcontent, herror⟩ := hp.turnOn_alike i hops.1 h
      generalize hv : (p.turnOn i d v).error = r, hw : (p.turnOn i d w).error = s at herror
      cases herror with
      | none =>
          rw [runFrom_cons_ok hv, runFrom_cons_ok hw]
          exact ih (i + 1) hops.2 hcontent
      | some he =>
          rw [runFrom_cons_error hv, runFrom_cons_error hw]
          exact ⟨hcontent, .error he⟩

/-- A run on equal documents leaves equal documents.  It succeeds on both of them, or it ends on
both at the same operation with errors of one class. -/
theorem run_equal (hp : p.IsStandard)
    (hvalues : ∀ d ∈ p.operations, (d.field "value").IsJson ∧ (d.field "value").HasDistinctNames ∧
      (d.field "value").IsNanFree)
    (hv : v.HasDistinctNames) (hw : w.HasDistinctNames) (h : v.equals w = .ok true) :
    (p.run v).document.equals (p.run w).document = .ok true ∧
      ((p.run v).result = .ok () ∧ (p.run w).result = .ok () ∨
        ∃ e e', (p.run v).result = .error e ∧ (p.run w).result = .error e' ∧ e.Like e') := by
  have hops : ∀ d ∈ p.operations, Alike (d.field "value") (d.field "value") := fun d hd =>
    Alike.refl (hvalues d hd).1 (hvalues d hd).2.1 (hvalues d hd).2.2
  have hvw := (Value.equals_iff hv hw).mp h
  obtain ⟨hdocument, hresult⟩ := runFrom_alike hp 0 hops hvw
  constructor
  · exact (Value.equals_iff hdocument.regular.2 hdocument.symm.regular.2).mpr hdocument
  · change Agree RunError.Like Eq (p.run v).result (p.run w).result at hresult
    generalize (p.run v).result = r, (p.run w).result = s at hresult
    cases hresult with
    | ok _ => exact .inl ⟨rfl, rfl⟩
    | error he => exact .inr ⟨_, _, rfl, rfl, he⟩

/-- The descriptor of a test. -/
def testing (path : String) (v : Value) : Descriptor :=
  [("op", .string "test"), ("path", .string path), ("value", v)]

/-- One as a double. -/
def oneAsDouble : Number := .double (.finite false (1 * Nat.pow 2 Double.unitBits))

/-- A test and a move in documents that differ in the order of their members and in how they write
one. -/
theorem run_equal_reordered :
    let p := ofCore [testing "/a" (.number oneAsDouble), moving "/a" "/b/0"]
    let v : Value := .object [("a", .number (.int 1)), ("b", .array [])]
    let w : Value := .object [("b", .array []), ("a", .number oneAsDouble)]
    p.IsStandard ∧ v.equals w = .ok true ∧
      (p.run v).document.equals (p.run w).document = .ok true := by
  intro p v w
  have hgrammar : ∀ x, Grammar.check true (.array [.object (testing "/a" x),
      .object (moving "/a" "/b/0")]) = [] := by
    intro x
    cbv
  have hp : p.IsStandard := ofCore_isStandard (hgrammar _)
  have hone : Number.eq (.int 1) oneAsDouble = true := by
    unfold oneAsDouble
    exact Number.int_eq_double 1
  have hequal : v.equals w = .ok true := by
    simp [v, w, Value.equals, Value.sameNames, Value.equalMembers, Value.equalItems, Value.kind,
      Value.kind?, Value.equalLeaves, Members.has, Members.find?, hone]
  have hvalues : ∀ d ∈ p.operations, (d.field "value").IsJson ∧
      (d.field "value").HasDistinctNames ∧ (d.field "value").IsNanFree := by
    intro d hd
    simp only [p, ofCore, List.mem_cons, List.not_mem_nil, or_false] at hd
    rcases hd with rfl | rfl <;> exact ⟨rfl, rfl, rfl⟩
  exact ⟨hp, hequal, (run_equal hp hvalues (by decide) (by decide) hequal).1⟩

end Patch
end JsonPatch
