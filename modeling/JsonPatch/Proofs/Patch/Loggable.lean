import JsonPatch.Proofs.Json.Writable
import JsonPatch.Proofs.Patch.Standard

/-! # What the log can show

An event about an operation shows the descriptor's name and path.  If these can be written
(`Descriptor.IsLoggable`), the log has no say in how an operation ends.  If not, the fault of the log
takes the place of the operation's own error (`troubled_of_not_isLoggable`), and an operation that
succeeds ends the run all the same if it is to be logged (`applied_of_not_isLoggable`). -/

namespace JsonPatch

open Redaction (scrub scrubMembers)

/-- What events show of the descriptor can be written. -/
def Descriptor.IsLoggable (d : Descriptor) : Prop :=
  Json.isWritableMembers (scrubMembers (Patch.shownFields d)) = true

instance (d : Descriptor) : Decidable d.IsLoggable :=
  inferInstanceAs (Decidable (_ = true))

namespace Patch

variable {p : Patch} {i : Nat} {d : Descriptor}

theorem isLoggable_iff : d.IsLoggable ↔
    Json.isWritable (scrub (d.field "op")) = true ∧
      Json.isWritable (scrub (d.field "path")) = true := by
  have hop : Redaction.isSensitive "op" = false := by decide
  have hpath : Redaction.isSensitive "path" = false := by decide
  simp only [Descriptor.IsLoggable, shownFields, scrubMembers, hop, hpath, Bool.false_eq_true,
    if_false, Json.isWritableMembers, Bool.and_true, Bool.and_eq_true]

/-- Of a descriptor with a name only the path is in question. -/
theorem isLoggable_of_name {name : String} (hop : d.field "op" = .string name) :
    d.IsLoggable ↔ Json.isWritable (scrub (d.field "path")) = true := by
  rw [isLoggable_iff, hop]
  exact and_iff_right rfl

theorem isLoggable_of_hasTextPath {name : String} (hop : d.field "op" = .string name)
    (hpath : d.HasTextPath) : d.IsLoggable := by
  rw [isLoggable_of_name hop]
  rcases hpath with ⟨path, hpath⟩ | hpath
  · rw [hpath]
    rfl
  · rw [hpath]
    rfl

/-! ### Events of an operation -/

/-- The event of an unknown name shows nothing but this name. -/
theorem isWritable_name : Json.isWritableMembers (scrubMembers [("op", d.field "op")]) =
    Json.isWritable (scrub (d.field "op")) := by
  have hop : Redaction.isSensitive "op" = false := by decide
  simp only [scrubMembers, hop, Bool.false_eq_true, if_false, Json.isWritableMembers, Bool.and_true]

theorem unknownEntry_of_isWritable (h : Json.isWritable (scrub (d.field "op")) = true) :
    ∃ entry, unknownEntry i d = .ok entry :=
  ⟨_, if_pos (isWritable_name.trans h)⟩

theorem unknownEntry_of_not_isWritable (h : Json.isWritable (scrub (d.field "op")) = false) :
    unknownEntry i d = .error .hugeInteger :=
  if_neg (Bool.eq_false_iff.mp (isWritable_name.trans h))

theorem unknownEntry_of_name {name : String} (hop : d.field "op" = .string name) :
    ∃ entry, unknownEntry i d = .ok entry :=
  unknownEntry_of_isWritable (by rw [hop]; rfl)

theorem failedEntry_of_isLoggable (h : d.IsLoggable) (message : String) :
    ∃ entry, failedEntry i d message = .ok entry :=
  ⟨_, if_pos h⟩

theorem failedEntry_of_not_isLoggable (h : ¬ d.IsLoggable) (message : String) :
    failedEntry i d message = .error .hugeInteger :=
  if_neg h

theorem appliedEntry_of_isLoggable (h : d.IsLoggable) : ∃ entry, appliedEntry i d = .ok entry :=
  ⟨_, if_pos h⟩

theorem appliedEntry_of_not_isLoggable (h : ¬ d.IsLoggable) :
    appliedEntry i d = .error .hugeInteger :=
  if_neg h

/-! ### The errors they report -/

theorem reported_of_ok {error : RunError} {entry : Except Fault Log.Entry}
    (h : ∃ e, entry = .ok e) : (reported error entry).1 = error := by
  obtain ⟨e, rfl⟩ := h
  rfl

theorem mem_reported {error : RunError} {entry : Except Fault Log.Entry} {e : Log.Entry} :
    e ∈ (reported error entry).2 ↔ entry = .ok e := by
  cases entry with
  | ok e' => simp [reported, eq_comm]
  | error f => simp [reported]

theorem mem_applied {e : Log.Entry} : e ∈ (p.applied i d).2 ↔
    p.settings.logOperations.isTruthy = true ∧ appliedEntry i d = .ok e := by
  unfold applied
  split_ifs with hlog
  · cases appliedEntry i d with
    | ok e' => simp [hlog, eq_comm]
    | error f => simp
  · simp [hlog]

theorem troubled_failure (h : d.IsLoggable) (cause : Failure) (index : Option Int) :
    (troubled i d (.failure cause index)).1 = .failed d cause (index.getD i) :=
  reported_of_ok (failedEntry_of_isLoggable h _)

theorem troubled_fault (h : d.IsLoggable) {f : Fault} (hf : f.failsOperation = true) :
    (troubled i d (.fault f)).1 = .failed d (.fault f) i := by
  rw [troubled, if_pos hf]
  exact reported_of_ok (failedEntry_of_isLoggable h _)

theorem troubled_failure_of_not_isLoggable (h : ¬ d.IsLoggable) (cause : Failure)
    (index : Option Int) : troubled i d (.failure cause index) = (.fault .hugeInteger, []) := by
  rw [troubled, failedEntry_of_not_isLoggable h, reported]

/-- What cannot be logged ends the run with the fault of the log. -/
theorem troubled_of_not_isLoggable (h : ¬ d.IsLoggable) {t : Trouble}
    (ht : ∀ f, t = .fault f → f.failsOperation = true) :
    troubled i d t = (.fault .hugeInteger, []) := by
  cases t with
  | failure cause index => exact troubled_failure_of_not_isLoggable h cause index
  | fault f => rw [troubled, if_pos (ht f rfl), failedEntry_of_not_isLoggable h, reported]

theorem applied_of_isLoggable (h : d.IsLoggable) : (p.applied i d).1 = none := by
  obtain ⟨entry, hentry⟩ := appliedEntry_of_isLoggable (i := i) h
  rw [applied, hentry]
  split_ifs <;> rfl

theorem applied_eq_none : (p.applied i d).1 = none ↔
    (p.settings.logOperations.isTruthy = true → d.IsLoggable) := by
  by_cases h : d.IsLoggable
  · exact iff_of_true (applied_of_isLoggable h) fun _ => h
  · rw [applied, appliedEntry_of_not_isLoggable h]
    split_ifs with hlog
    · simp [h, hlog]
    · simp [hlog]

theorem applied_of_not_isLoggable (h : ¬ d.IsLoggable) :
    p.applied i d =
      (if p.settings.logOperations.isTruthy then some (.fault .hugeInteger) else none, []) := by
  rw [applied, appliedEntry_of_not_isLoggable h]
  split_ifs <;> rfl

end Patch
end JsonPatch
