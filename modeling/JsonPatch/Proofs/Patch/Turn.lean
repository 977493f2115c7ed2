import JsonPatch.Proofs.Patch.Loggable
import JsonPatch.Proofs.Patch.Standard

/-! # One turn of a run

What the turn of an operation leaves and with which error.  `turnOn` is the turn in a run on
documents; its effect does not depend on the index, so it is the run of the patch of that
descriptor alone (`single_run_document`, `succeeds_iff`).  The turn of a core operation in a
standard patch follows what the operation plans (`turnOn_edit`, `turnOn_refused`). -/

namespace JsonPatch.Patch

variable {α : Type}

/-! ### One turn -/

theorem turn_content (p : Patch) (i : Nat) (d : Descriptor) (doc : Value) (unchanged : α)
    (change : Edit → Edited α) :
    (p.turn i d doc unchanged change).content =
      match p.registry.get? (d.field "op") with
      | none => unchanged
      | some handler => ((handler (.object d) doc).carryOut unchanged change).content := by
  unfold turn
  cases p.registry.get? (d.field "op") with
  | none => rfl
  | some handler =>
      dsimp only
      split <;> rfl

theorem turn_error (p : Patch) (i : Nat) (d : Descriptor) (doc : Value) (unchanged : α)
    (change : Edit → Edited α) :
    (p.turn i d doc unchanged change).error =
      match p.registry.get? (d.field "op") with
      | none => some (reported (.unknown d i) (unknownEntry i d)).1
      | some handler =>
        match ((handler (.object d) doc).carryOut unchanged change).trouble with
        | some t => some (troubled i d t).1
        | none => (p.applied i d).1 := by
  unfold turn
  cases p.registry.get? (d.field "op") with
  | none => rfl
  | some handler =>
      dsimp only
      cases ((handler (.object d) doc).carryOut unchanged change).trouble <;> rfl

/-- The turn of an operation in a run on a document. -/
def turnOn (p : Patch) (i : Nat) (d : Descriptor) (doc : Value) : Turn Value :=
  p.turn i d doc doc fun e => e.apply (d.field "value") doc

theorem turnOn_content_index (p : Patch) (i j : Nat) (d : Descriptor) (doc : Value) :
    (p.turnOn i d doc).content = (p.turnOn j d doc).content := by
  simp only [turnOn, turn_content]

theorem turnOn_error_index (p : Patch) (i j : Nat) (d : Descriptor) (doc : Value) :
    (p.turnOn i d doc).error = none ↔ (p.turnOn j d doc).error = none := by
  simp only [turnOn, turn_error]
  cases p.registry.get? (d.field "op") with
  | none => simp
  | some handler =>
      dsimp only
      split
      · simp
      · rw [applied_eq_none, applied_eq_none]

theorem runFrom_cons_ok {p : Patch} {i : Nat} {d : Descriptor} {rest : List Descriptor}
    {doc : Value} (h : (p.turnOn i d doc).error = none) :
    p.runFrom i (d :: rest) doc =
      (p.runFrom (i + 1) rest (p.turnOn i d doc).content).after (p.turnOn i d doc).entries := by
  unfold turnOn at h ⊢
  rw [runFrom]
  simp only [h]

theorem runFrom_cons_error {p : Patch} {i : Nat} {d : Descriptor} {rest : List Descriptor}
    {doc : Value} {e : RunError} (h : (p.turnOn i d doc).error = some e) :
    p.runFrom i (d :: rest) doc =
      ⟨(p.turnOn i d doc).content, .error e, (p.turnOn i d doc).entries⟩ := by
  unfold turnOn at h ⊢
  rw [runFrom]
  simp only [h]

/-! ### Descriptors alone in a patch -/

/-- The patch of one descriptor, with the operations and settings of another patch. -/
def single (p : Patch) (d : Descriptor) : Patch :=
  { p with operations := [d] }

/-- The descriptor alone in a patch is carried out without an error. -/
def Succeeds (p : Patch) (d : Descriptor) (doc : Value) : Prop :=
  ((p.single d).run doc).result = .ok ()

theorem single_runFrom_ok {p : Patch} {d : Descriptor} {doc : Value}
    (h : (p.turnOn 0 d doc).error = none) :
    (p.single d).runFrom 0 [d] doc =
      ⟨(p.turnOn 0 d doc).content, .ok (), (p.turnOn 0 d doc).entries⟩ := by
  have h' : ((p.single d).turnOn 0 d doc).error = none := h
  rw [runFrom_cons_ok h', runFrom]
  change Run.mk _ _ (_ ++ []) = _
  rw [List.append_nil]
  rfl

theorem single_run_error {p : Patch} {d : Descriptor} {doc : Value} {e : RunError}
    (h : (p.turnOn 0 d doc).error = some e) : ((p.single d).run doc).result = .error e := by
  have h' : ((p.single d).turnOn 0 d doc).error = some e := h
  change ((p.single d).runFrom 0 [d] doc).result = _
  rw [runFrom_cons_error h']

theorem single_run_document (p : Patch) (i : Nat) (d : Descriptor) (doc : Value) :
    ((p.single d).run doc).document = (p.turnOn i d doc).content := by
  rw [p.turnOn_content_index i 0]
  change ((p.single d).runFrom 0 [d] doc).document = _
  cases h : (p.turnOn 0 d doc).error with
  | none => rw [single_runFrom_ok h]
  | some e =>
      have h' : ((p.single d).turnOn 0 d doc).error = some e := h
      rw [runFrom_cons_error h']
      rfl

theorem succeeds_iff (p : Patch) (i : Nat) (d : Descriptor) (doc : Value) :
    p.Succeeds d doc ↔ (p.turnOn i d doc).error = none := by
  rw [p.turnOn_error_index i 0]
  change ((p.single d).runFrom 0 [d] doc).result = .ok () ↔ _
  cases h : (p.turnOn 0 d doc).error with
  | none => simp [single_runFrom_ok h]
  | some e =>
      have h' : ((p.single d).turnOn 0 d doc).error = some e := h
      rw [runFrom_cons_error h']
      simp

/-! ### Core operations -/

section Core

variable {p : Patch} {i : Nat} {d : Descriptor} {doc : Value} {name : String}
  {operation : Descriptor → Value → Operation.Step (Option Edit)}

/-- What events show of a core operation that is planned can be written. -/
theorem isLoggable_of_planned (hc : Operation.Core name operation)
    (hop : d.field "op" = .string name) {e : Option Edit} (he : operation d doc = .ok e) :
    d.IsLoggable :=
  isLoggable_of_hasTextPath hop (hc.hasTextPath he)

theorem IsStandard.turnOn_edit (hp : p.IsStandard) (hc : Operation.Core name operation)
    (hop : d.field "op" = .string name) {e : Edit} (he : operation d doc = .ok (some e)) :
    (p.turnOn i d doc).content = (e.apply (d.field "value") doc).content ∧
      (p.turnOn i d doc).error =
        (e.apply (d.field "value") doc).trouble.map fun t => (troubled i d t).1 := by
  have hplan := Operation.handler_edit_eq_ok.mpr he
  have happlied := applied_of_isLoggable (p := p) (i := i) (isLoggable_of_planned hc hop he)
  rw [turnOn, turn_content, turn_error, hop, hp.get?_core hc]
  simp only [Plan.carryOut, hplan, true_and]
  cases (e.apply (d.field "value") doc).trouble with
  | some t => rfl
  | none => exact happlied

/-- An operation that plans no edit is carried out and leaves the document as it is. -/
theorem IsStandard.turnOn_idle (hp : p.IsStandard) (hc : Operation.Core name operation)
    (hop : d.field "op" = .string name) (he : operation d doc = .ok none) :
    (p.turnOn i d doc).content = doc ∧ (p.turnOn i d doc).error = none := by
  have hplan := Operation.handler_edit_eq_ok.mpr he
  have happlied := applied_of_isLoggable (p := p) (i := i) (isLoggable_of_planned hc hop he)
  rw [turnOn, turn_content, turn_error, hop, hp.get?_core hc]
  simp only [Plan.carryOut, hplan, happlied, and_self]

theorem IsStandard.turnOn_refused (hp : p.IsStandard) (hc : Operation.Core name operation)
    (hop : d.field "op" = .string name) {t : Trouble} (he : operation d doc = .error t) :
    (p.turnOn i d doc).content = doc ∧
      (p.turnOn i d doc).error = some (troubled i d t.settle).1 := by
  have hplan : (Operation.handler operation (.object d) doc).edit = .error t.settle := by
    change (operation d doc).mapError Trouble.settle = _
    rw [he]
    rfl
  rw [turnOn, turn_content, turn_error, hop, hp.get?_core hc]
  simp only [Plan.carryOut, hplan, and_self]

/-- A core operation that succeeds has planned what it does. -/
theorem IsStandard.planned (hp : p.IsStandard) (hc : Operation.Core name operation)
    (hop : d.field "op" = .string name) (hs : p.Succeeds d doc) :
    ∃ e, operation d doc = .ok e := by
  cases he : operation d doc with
  | ok e => exact ⟨e, rfl⟩
  | error t =>
      obtain ⟨-, herror⟩ := hp.turnOn_refused (i := 0) hc hop he
      rw [(p.succeeds_iff 0 d doc).mp hs] at herror
      cases herror

end Core

end JsonPatch.Patch
