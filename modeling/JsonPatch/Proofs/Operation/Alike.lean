import JsonPatch.Proofs.Patch.Fate
import JsonPatch.Proofs.Predicate.Alike
import JsonPatch.Proofs.Value.Equal

/-! # Operations on alike documents

An operation plans the same edit on alike documents, or is kept from it in both: what keeps it
never depends on the order of members or on how a number is written.  The edit leaves alike
documents again, and if it is a move that fails halfway, it does so in both (`Edit.apply_alike`).

The value of the descriptor has to be like itself: otherwise a comparison with it may meet a fault
in one document before a difference, and in the other one after it. -/

namespace JsonPatch

open Value (Alike)

/-- The troubles are failures with the same index, or faults that are alike. -/
inductive Trouble.Like : Trouble → Trouble → Prop where
  | failure (cause cause' : Failure) (index : Option Int) :
    Like (.failure cause index) (.failure cause' index)
  | fault {f g : Fault} (like : f.Like g) : Like (.fault f) (.fault g)

namespace Trouble.Like

variable {t u : Trouble}

theorem refl (t : Trouble) : t.Like t := by
  cases t with
  | failure cause index => exact .failure cause cause index
  | fault f => exact .fault (.same f)

theorem settle (h : t.Like u) : t.settle.Like u.settle := by
  cases h with
  | failure cause cause' index => exact .failure cause cause' index
  | fault like =>
      rw [Trouble.settle, Trouble.settle, like.failsOperation]
      split_ifs
      · exact .failure _ _ _
      · exact .fault like

end Trouble.Like

/-! ### Plans -/

namespace Operation

variable {α β : Type} {R : α → β → Prop} {d : Descriptor} {v w : Value}

theorem ofFault_alike {r : Except Fault α} {s : Except Fault β} (h : Agree Fault.Like R r s) :
    Agree Trouble.Like R (ofFault r) (ofFault s) :=
  h.mapError fun _ _ => .fault

/-- What is planned on any two documents agrees if it does so after a step that looks at neither. -/
theorem step_alike {γ : Type} (r : Step γ) {f : γ → Step α} {g : γ → Step β}
    (h : ∀ c, Agree Trouble.Like R (f c) (g c)) : Agree Trouble.Like R (r >>= f) (r >>= g) := by
  refine (Agree.self Trouble.Like.refl r).bind ?_
  rintro c _ rfl
  exact h c

theorem fail_alike (cause cause' : Failure) :
    Agree Trouble.Like R (fail cause : Step α) (fail cause' : Step β) :=
  .error (.failure cause cause' none)

theorem add_alike (h : Alike v w) : Agree Trouble.Like Eq (add d v) (add d w) := by
  unfold add
  refine step_alike _ fun p => step_alike _ fun _ => ?_
  refine (ofFault_alike (p.insertionSlot_alike h)).bind ?_
  rintro slot _ rfl
  exact .ok rfl

theorem remove_alike (h : Alike v w) : Agree Trouble.Like Eq (remove d v) (remove d w) := by
  unfold remove
  refine step_alike _ fun p => .ite (fail_alike _ _) ?_
  refine (ofFault_alike (p.existingSlot?_alike h)).bind ?_
  rintro slot _ rfl
  exact .ok rfl

theorem replace_alike (h : Alike v w) : Agree Trouble.Like Eq (replace d v) (replace d w) := by
  unfold replace
  refine step_alike _ fun p => step_alike _ fun _ => ?_
  refine (ofFault_alike (p.existingSlot?_alike h)).bind ?_
  rintro slot _ rfl
  exact .self .refl _

/-- Alike values pass the same tests. -/
theorem test_alike (hd : Alike (d.field "value") (d.field "value")) (h : Alike v w) :
    Agree Trouble.Like Eq (test d v) (test d w) := by
  unfold test
  refine step_alike _ fun p => ?_
  unfold valueOf
  unfold Descriptor.field at hd
  cases hv : Members.find? "value" d with
  | none => exact fail_alike _ _
  | some expected =>
      rw [hv, Option.getD_some] at hd
      refine (ofFault_alike (p.leads_alike h)).bind ?_
      rintro found _ rfl
      refine .ite (fail_alike _ _) ?_
      refine (ofFault_alike (p.value_alike h)).bind fun actual actual' ha => ?_
      rw [ha.equals hd]
      exact .self .refl _

theorem transfer_alike (moves : Bool) (h : Alike v w) :
    Agree Trouble.Like Eq (transfer d v moves) (transfer d w moves) := by
  unfold transfer
  refine step_alike _ fun source => step_alike _ fun target => ?_
  refine (ofFault_alike (source.existingSlot?_alike h)).bind ?_
  rintro found _ rfl
  cases found with
  | none => exact fail_alike _ _
  | some slot =>
      refine .ite (fail_alike _ _) ?_
      refine (ofFault_alike (target.parent_alike h)).bind fun c c' hc => ?_
      rw [hc.isContainer]
      exact .self .refl _

theorem copy_alike (h : Alike v w) : Agree Trouble.Like Eq (copy d v) (copy d w) := by
  unfold copy
  refine (transfer_alike false h).bind ?_
  rintro places _ rfl
  refine (ofFault_alike (places.2.insertionSlot_alike h)).bind ?_
  rintro place _ rfl
  exact .ok rfl

theorem move_alike (h : Alike v w) : Agree Trouble.Like Eq (move d v) (move d w) := by
  unfold move
  refine (transfer_alike true h).bind ?_
  rintro places _ rfl
  exact .ok rfl

/-- A core operation plans the same edit on alike documents. -/
theorem Core.alike {name : String} {operation : Descriptor → Value → Step (Option Edit)}
    (hc : Core name operation) (hd : Alike (d.field "value") (d.field "value")) (h : Alike v w) :
    Agree Trouble.Like Eq (operation d v) (operation d w) := by
  cases hc with
  | add => exact add_alike h
  | remove => exact remove_alike h
  | replace => exact replace_alike h
  | move => exact move_alike h
  | copy => exact copy_alike h
  | test => exact test_alike hd h

end Operation

/-- The check of a built-in predicate has the same outcome on alike documents. -/
theorem PredicateSet.check_alike (name : String) (d : Descriptor) {v w : Value} (h : Alike v w) :
    Agree Trouble.Like Eq (builtin.check name (.object d) v).edit
      (builtin.check name (.object d) w).edit := by
  have he := evaluate_alike (.object d) h
  unfold check Handler.ofObject
  dsimp only
  generalize builtin.evaluate (.object d) v = x, builtin.evaluate (.object d) w = y at he
  obtain ⟨a, notes⟩ := x
  obtain ⟨a', notes'⟩ := y
  cases he with
  | error hf => exact .error (.fault hf)
  | @ok b b' hb =>
      subst hb
      cases b with
      | true => exact .ok rfl
      | false => exact .error (.refl _)

/-! ### Edits -/

/-- An edit leaves alike documents alike, and fails halfway in both of them or in neither. -/
theorem Edit.apply_alike {e : Edit} {own v w : Value} (he : e.Fits v) (hown : Alike own own)
    (h : Alike v w) : Alike (e.apply own v).content (e.apply own w).content ∧
      Option.Rel Trouble.Like (e.apply own v).trouble (e.apply own w).trouble := by
  cases e with
  | insert slot => exact ⟨slot.insert_alike hown h, .none⟩
  | assign slot payload =>
      cases payload with
      | own => exact ⟨slot.assign_alike hown h, .none⟩
      | fresh x => cases he
  | delete slot => exact ⟨slot.delete_alike h, .none⟩
  | copy source target =>
      exact ⟨target.insert_alike (Alike.getD (source.read?_alike h)) h, .none⟩
  | extend slot => cases he
  | move source target =>
      have hrest := source.delete_alike h
      have hmoved := Alike.getD (source.read?_alike h)
      have hslot := target.insertionSlot_alike hrest
      simp only [Edit.apply]
      generalize target.insertionSlot (source.delete v) = r,
        target.insertionSlot (source.delete w) = s at hslot
      cases hslot with
      | error hf => exact ⟨hrest, .some (Trouble.Like.fault hf).settle⟩
      | @ok slot _ heq =>
          subst heq
          exact ⟨slot.insert_alike hmoved hrest, .none⟩

/-- Plans that agree leave alike documents alike when they are carried out. -/
theorem Plan.carryOut_alike {q q' : Plan} {own v w : Value}
    (hplan : Agree Trouble.Like Eq q.edit q'.edit)
    (hfits : ∀ e, q.edit = .ok (some e) → e.Fits v) (hown : Alike own own) (h : Alike v w) :
    Alike (q.carryOut v fun e => e.apply own v).content
        (q'.carryOut w fun e => e.apply own w).content ∧
      Option.Rel Trouble.Like (q.carryOut v fun e => e.apply own v).trouble
        (q'.carryOut w fun e => e.apply own w).trouble := by
  unfold carryOut
  generalize q.edit = r, q'.edit = s at hplan hfits
  cases hplan with
  | error ht => exact ⟨h, .some ht⟩
  | @ok edit _ heq =>
      subst heq
      cases edit with
      | none => exact ⟨h, .none⟩
      | some e => exact Edit.apply_alike (hfits e rfl) hown h

end JsonPatch
