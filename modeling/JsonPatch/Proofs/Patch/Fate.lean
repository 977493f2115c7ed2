import JsonPatch.Proofs.Patch.Turn
import JsonPatch.Proofs.Value.Node

/-! # What becomes of inserted values

A value that a patch inserts is not copied, so the descriptor keeps what later operations make of
it.  Here this is said of documents alone, without cells: from where the value has been put it is
followed through the edits of the run (`Edit.carry`) until it is taken out or the run ends, and what
it is then is what the descriptor is left with (`Patch.leaves`).

`Patch.Spares` says that no edit of the run reaches into a value that the run has put in. -/

namespace JsonPatch

theorem PredicateSet.check_edit_ne {s : PredicateSet} {name : String} {d : Descriptor} {doc : Value}
    {e : Edit} : (s.check name (.object d) doc).edit ≠ .ok (some e) := by
  intro h
  simp only [check, Handler.ofObject] at h
  split at h <;> cases h

/-! ### Edits -/

/-- The place of what has been at a place, after the parts of a container have got other keys. -/
def Key.carryAt (carry : Key → Option Key) : List Key → List Key → Option (List Key)
  | _, [] => some []
  | [], k :: rest => (carry k).map (· :: rest)
  | c :: container, k :: rest =>
    if k = c then (carryAt carry container rest).map (k :: ·) else some (k :: rest)

namespace Slot

/-- The place of what has been at a place, after something has been put into a slot. -/
def afterInsert (s : Slot) : List Key → Option (List Key) :=
  Key.carryAt s.key.afterInsert s.container

/-- The place of what has been at a place, after a slot has been overwritten. -/
def afterAssign (s : Slot) : List Key → Option (List Key) :=
  Key.carryAt s.key.afterAssign s.container

/-- The place of what has been at a place, after a slot has been emptied. -/
def afterDelete (s : Slot) : List Key → Option (List Key) :=
  Key.carryAt s.key.afterDelete s.container

/-- Whether the slot lies inside what is at a place. -/
def isInside (s : Slot) (place : List Key) : Bool :=
  place.isPrefixOf s.container

end Slot

theorem Key.eq_of_afterDelete {k k' : Key} (h : k.afterDelete k' = none) : k' = k := by
  cases k' with
  | member name =>
      rw [afterDelete] at h
      split_ifs at h with hk
      exact hk
  | index j =>
      cases k with
      | member name => cases h
      | index i =>
          simp only [afterDelete] at h
          split_ifs at h with hj
          rw [hj]

/-- Only what is inside the slot goes when it is emptied. -/
theorem Slot.isPrefixOf_of_afterDelete {s : Slot} {place : List Key}
    (h : s.afterDelete place = none) : s.place.isPrefixOf place = true := by
  rw [List.isPrefixOf_iff_prefix]
  unfold afterDelete at h
  unfold Slot.place
  generalize s.container = container at h
  induction container generalizing place with
  | nil =>
      cases place with
      | nil => cases h
      | cons k rest =>
          rw [Key.carryAt, Option.map_eq_none_iff] at h
          rw [Key.eq_of_afterDelete h]
          exact ⟨rest, rfl⟩
  | cons c container ih =>
      cases place with
      | nil => cases h
      | cons k rest =>
          rw [Key.carryAt] at h
          split_ifs at h with hk
          rw [Option.map_eq_none_iff] at h
          exact List.cons_prefix_cons.mpr ⟨hk.symm, ih h⟩

/-- A slot is not inside of what it holds. -/
theorem Slot.isInside_place (s : Slot) : s.isInside s.place = false := by
  rw [← Bool.not_eq_true, Slot.isInside, List.isPrefixOf_iff_prefix]
  intro h
  have hlen := h.length_le
  rw [Slot.place, List.length_append, List.length_singleton] at hlen
  omega

/-- Where a part of a document is after an edit: at a place of the document, or outside of it and
then what it was when it was taken out. -/
inductive Whereabouts where
  | inside (place : List Key)
  | outside (v : Value)

namespace Whereabouts

/-- What has been at a place of a document is at another place now, if there is one. -/
def ofPlace (doc : Value) (place : List Key) : Option (List Key) → Whereabouts
  | some place' => inside place'
  | none => outside ((doc.at? place).getD .null)

theorem ofPlace_eq_inside {doc : Value} {place place' : List Key} {found : Option (List Key)}
    (h : ofPlace doc place found = inside place') : found = some place' := by
  cases found with
  | none => cases h
  | some place'' =>
      cases h
      rfl

theorem ofPlace_eq_outside {doc v : Value} {place : List Key} {found : Option (List Key)}
    (h : ofPlace doc place found = outside v) : found = none ∧ v = (doc.at? place).getD .null := by
  cases found with
  | none =>
      cases h
      exact ⟨rfl, rfl⟩
  | some place' => cases h

end Whereabouts

namespace Edit

/-- Where what has been at a place is after an edit.  A move takes out twice: what it puts its value
over may have lost that value before. -/
def carry (doc : Value) : Edit → List Key → Whereabouts
  | insert slot, place => .ofPlace doc place (slot.afterInsert place)
  | assign slot _, place => .ofPlace doc place (slot.afterAssign place)
  | delete slot, place => .ofPlace doc place (slot.afterDelete place)
  | move source target, place =>
    match target.insertionSlot (source.delete doc) with
    | .ok slot =>
      if source.place.isPrefixOf place then
        .inside (slot.place ++ place.drop source.place.length)
      else
        match source.afterDelete place with
        | some place => .ofPlace (source.delete doc) place (slot.afterInsert place)
        | none => .ofPlace doc place none
    | .error _ => .ofPlace doc place (source.afterDelete place)
  | copy _ target, place => .ofPlace doc place (target.afterInsert place)
  | extend _, place => .inside place

/-- Whether an edit changes what is at a place. -/
def enters (doc : Value) : Edit → List Key → Bool
  | insert slot, place => slot.isInside place
  | assign slot _, place => slot.isInside place
  | delete slot, place => slot.isInside place
  | move source target, place =>
    source.isInside place ||
      match target.insertionSlot (source.delete doc) with
      | .ok slot => (source.afterDelete place).any slot.isInside
      | .error _ => false
  | copy _ target, place => target.isInside place
  | extend slot, place => place.isPrefixOf slot.place

/-- Where an edit puts the value that the descriptor holds. -/
def placed? : Edit → Option (List Key)
  | insert slot => some slot.place
  | assign slot .own => some slot.place
  | _ => none

/-- The slots of an edit are there, and it is one of the core operations. -/
def Fits (doc : Value) : Edit → Prop
  | insert slot => slot.Open doc
  | assign slot .own => slot.Filled doc
  | assign _ (.fresh _) => False
  | delete slot => slot.Filled doc
  | move source _ => source.Filled doc
  | copy source target => source.Filled doc ∧ target.Open doc
  | extend _ => False

end Edit

/-- A core operation plans edits whose slots are there. -/
theorem Operation.Core.fits {name : String}
    {operation : Descriptor → Value → Operation.Step (Option Edit)}
    (h : Operation.Core name operation) {d : Descriptor} {doc : Value} {e : Edit}
    (he : operation d doc = .ok (some e)) : e.Fits doc := by
  cases h with
  | add =>
      obtain ⟨p, v, slot, -, -, hs, he⟩ := Operation.add_eq_ok.mp he
      cases he
      exact Pointer.open_of_insertionSlot hs
  | remove =>
      obtain ⟨p, slot, -, -, hs, he⟩ := Operation.remove_eq_ok.mp he
      cases slot with
      | none => cases he
      | some slot =>
          cases he
          exact (Pointer.existingSlot?_eq_some hs).1
  | replace =>
      obtain ⟨p, v, slot, -, -, hs, he⟩ := Operation.replace_eq_ok.mp he
      cases he
      exact (Pointer.existingSlot?_eq_some hs).1
  | move =>
      obtain ⟨slot, target, ht, he⟩ := Operation.move_eq_ok.mp he
      cases he
      obtain ⟨p, -, hs, -⟩ := ht.hasSource
      exact (Pointer.existingSlot?_eq_some hs).1
  | copy =>
      obtain ⟨slot, target, place, ht, hplace, he⟩ := Operation.copy_eq_ok.mp he
      cases he
      obtain ⟨p, -, hs, -⟩ := ht.hasSource
      exact ⟨(Pointer.existingSlot?_eq_some hs).1, Pointer.open_of_insertionSlot hplace⟩
  | test =>
      have he := Operation.test_eq_ok he
      cases he

/-! ### Runs -/

namespace Patch

/-- The edit that a descriptor asks for in a document, if it asks for one. -/
def editOf (p : Patch) (d : Descriptor) (doc : Value) : Option Edit :=
  match p.registry.get? (d.field "op") with
  | none => none
  | some handler =>
    match (handler (.object d) doc).edit with
    | .ok e => e
    | .error _ => none

/-- Where what has been at a place is after the operation of a descriptor. -/
def carry (p : Patch) (d : Descriptor) (doc : Value) (place : List Key) : Whereabouts :=
  match p.editOf d doc with
  | some e => e.carry doc place
  | none => .inside place

/-- Whether the operation of a descriptor changes what is at a place. -/
def enters (p : Patch) (d : Descriptor) (doc : Value) (place : List Key) : Bool :=
  (p.editOf d doc).any fun e => e.enters doc place

/-- Where the operation of a descriptor puts the value that the descriptor holds. -/
def placed? (p : Patch) (d : Descriptor) (doc : Value) : Option (List Key) :=
  (p.editOf d doc).bind Edit.placed?

/-- What becomes of the value at a place when operations are carried out. -/
def fateFrom (p : Patch) (i : Nat) : List Descriptor → Value → List Key → Value
  | [], doc, place => (doc.at? place).getD .null
  | d :: rest, doc, place =>
    match p.carry d doc place with
    | .outside v => v
    | .inside place =>
      let t := p.turnOn i d doc
      match t.error with
      | some _ => (t.content.at? place).getD .null
      | none => p.fateFrom (i + 1) rest t.content place

/-- What carrying out operations leaves of their descriptors. -/
def leavesFrom (p : Patch) (i : Nat) : List Descriptor → Value → List Descriptor
  | [], _ => []
  | d :: rest, doc =>
    let t := p.turnOn i d doc
    match t.error with
    | some _ => d :: rest
    | none =>
      let left :=
        match p.placed? d doc with
        | some place => Members.modify "value" (fun _ => p.fateFrom (i + 1) rest t.content place) d
        | none => d
      left :: p.leavesFrom (i + 1) rest t.content

/-- What a run leaves of the descriptors of a patch. -/
def leaves (p : Patch) (doc : Value) : List Descriptor :=
  p.leavesFrom 0 p.operations doc

/-- Whether operations leave the value at a place alone until it is taken out. -/
def sparesAt (p : Patch) (i : Nat) : List Descriptor → Value → List Key → Bool
  | [], _, _ => true
  | d :: rest, doc, place =>
    !p.enters d doc place &&
      match p.carry d doc place with
      | .outside _ => true
      | .inside place =>
        let t := p.turnOn i d doc
        t.error.isSome || p.sparesAt (i + 1) rest t.content place

/-- Whether operations leave the values alone that they put in. -/
def sparesFrom (p : Patch) (i : Nat) : List Descriptor → Value → Bool
  | [], _ => true
  | d :: rest, doc =>
    let t := p.turnOn i d doc
    t.error.isSome ||
      ((p.placed? d doc).all fun place => p.sparesAt (i + 1) rest t.content place) &&
        p.sparesFrom (i + 1) rest t.content

/-- No operation of the run changes a value that an operation before it has put in. -/
def Spares (p : Patch) (doc : Value) : Prop :=
  p.sparesFrom 0 p.operations doc = true

/-! ### Edits of standard patches -/

theorem editOf_eq_some {p : Patch} {d : Descriptor} {doc : Value} {e : Edit}
    (h : p.editOf d doc = some e) : ∃ handler, p.registry.get? (d.field "op") = some handler ∧
      (handler (.object d) doc).edit = .ok (some e) := by
  unfold editOf at h
  split at h
  · cases h
  · rename_i handler hh
    split at h
    · rename_i e' he
      exact ⟨handler, hh, h ▸ he⟩
    · cases h

/-- A standard patch makes edits whose slots are there. -/
theorem IsStandard.fits {p : Patch} (hp : p.IsStandard) {d : Descriptor} {doc : Value} {e : Edit}
    (h : p.editOf d doc = some e) : e.Fits doc := by
  obtain ⟨handler, hh, he⟩ := editOf_eq_some h
  obtain ⟨name, -, ⟨operation, hcore, rfl⟩ | rfl⟩ := hp.handler hh
  · rw [Operation.handler_edit_eq_ok] at he
    exact hcore.fits he
  · exact absurd he PredicateSet.check_edit_ne

section Turn

variable {α : Type} (p : Patch) (i : Nat) (d : Descriptor) (doc : Value) (unchanged : α)
  (change : Edit → Edited α)

theorem turn_of_editOf {e : Edit} (h : p.editOf d doc = some e) :
    (p.turn i d doc unchanged change).content = (change e).content ∧
      (p.turn i d doc unchanged change).error =
        match (change e).trouble with
        | some t => some (troubled i d t).1
        | none => (p.applied i d).1 := by
  obtain ⟨handler, hh, he⟩ := editOf_eq_some h
  rw [turn_content, turn_error, hh]
  cases ht : (change e).trouble with
  | some t => simp only [Plan.carryOut, he, ht, and_self]
  | none => simp only [Plan.carryOut, he, ht, and_self]

/-- Without an edit, a turn ends in the same way whatever it is about. -/
theorem turn_of_no_editOf (h : p.editOf d doc = none) {β : Type} (unchanged' : β)
    (change' : Edit → Edited β) :
    (p.turn i d doc unchanged change).content = unchanged ∧
      (p.turn i d doc unchanged change).error = (p.turn i d doc unchanged' change').error := by
  rw [turn_content, turn_error, turn_error]
  unfold editOf at h
  cases hh : p.registry.get? (d.field "op") with
  | none => exact ⟨rfl, rfl⟩
  | some handler =>
      rw [hh] at h
      dsimp only at h ⊢
      unfold Plan.carryOut
      cases he : (handler (.object d) doc).edit with
      | error t => exact ⟨rfl, rfl⟩
      | ok e =>
          rw [he] at h
          dsimp only at h
          subst h
          exact ⟨rfl, rfl⟩

end Turn

end Patch
end JsonPatch
