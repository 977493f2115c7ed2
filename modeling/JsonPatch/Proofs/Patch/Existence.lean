import JsonPatch.Proofs.Patch.Write
import JsonPatch.Proofs.Predicate.Location

/-! # Whether something is there

A pointer says of a document whether it leads anywhere, a removal takes what is not there for done,
and `defined` and `undefined` are opposites.  All of this holds for any path and any document, as
long as the pointer gives an answer (`Settled`).

A number that is too long, looked up in an array, is the one case in which it gives none
(`Unsettled`): asking is a fault, a removal of what cannot be there fails, and neither predicate is
true. -/

namespace JsonPatch

open Pointer (ofPath ComesToLong lookup)
open Predicate (AsksAt answer)

/-! ### Removals -/

namespace Patch.IsStandard

variable {p : Patch} {d : Descriptor} {q : Pointer} {doc : Value}

/-- A removal of what is not there is carried out and changes nothing. -/
theorem run_remove_absent (hp : p.IsStandard) (h : Change.remove.Asks d q)
    (hroot : q.isRoot = false) (habsent : q.leads doc = .ok false) :
    p.Succeeds d doc ∧ ((p.single d).run doc).document = doc := by
  cases h with
  | remove hop hpath =>
      have hplan : Operation.remove d doc = .ok none :=
        Operation.remove_eq_ok.mpr
          ⟨q, none, hpath, hroot, Pointer.existingSlot?_of_absent habsent, rfl⟩
      obtain ⟨hcontent, herror⟩ := hp.turnOn_idle (i := 0) .remove hop hplan
      rw [p.succeeds_iff 0, p.single_run_document 0]
      exact ⟨herror, hcontent⟩

/-- A fault of its pointer makes a removal fail. -/
theorem run_remove_fault (hp : p.IsStandard) (h : Change.remove.Asks d q)
    (hroot : q.isRoot = false) {f : Fault} (hfault : q.locate doc = .error f)
    (hfails : f.failsOperation = true) :
    ((p.single d).run doc).result = .error (.failed d (.fault f) 0) ∧
      ((p.single d).run doc).document = doc := by
  cases h with
  | remove hop hpath =>
      have hslot : q.existingSlot? doc = .error f := by
        rw [Pointer.existingSlot?, hfault]
        rfl
      have hplan : Operation.remove d doc = .error (.fault f) := by
        rw [Operation.remove, hpath]
        change (if q.isRoot = true then _ else _) = _
        rw [hroot, if_neg (by simp), hslot]
        rfl
      obtain ⟨hcontent, herror⟩ := hp.turnOn_refused (i := 0) .remove hop hplan
      have hlog := isLoggable_of_hasTextPath hop (.inl (Operation.field_of_pointerOf hpath))
      rw [Trouble.settle, if_pos hfails, troubled_failure hlog] at herror
      rw [p.single_run_document 0]
      exact ⟨single_run_error herror, hcontent⟩

end Patch.IsStandard

/-! ### Questions about a path -/

/-- It is settled whether a path leads anywhere: pointers say so, a removal of nothing succeeds, and
one of two opposite predicates is true. -/
structure Settled (path : String) (doc : Value) : Prop where
  leads : (ofPath path).leads doc = .ok (lookup path doc).isSome
  locate : ∃ place, (ofPath path).locate doc = .ok place ∧
    place.found = (lookup path doc).isSome
  remove : (ofPath path).isRoot = false → lookup path doc = none →
    ∀ (p : Patch) d, p.IsStandard → Change.remove.Asks d (ofPath path) →
      p.Succeeds d doc ∧ ((p.single d).run doc).document = doc
  predicates : ∀ d d', AsksAt d "defined" path → AsksAt d' "undefined" path →
    answer d doc = .ok (lookup path doc).isSome ∧ answer d' doc = .ok !(lookup path doc).isSome

/-- The question ends at a number of so many digits. -/
structure Unsettled (path : String) (doc : Value) (n : Nat) : Prop where
  leads : (ofPath path).leads doc = .error (.longNumber n)
  locate : (ofPath path).locate doc = .error (.longNumber n)
  remove : ∀ (p : Patch) d, p.IsStandard → Change.remove.Asks d (ofPath path) →
    ((p.single d).run doc).result = .error (.failed d (.fault (.longNumber n)) 0) ∧
      ((p.single d).run doc).document = doc
  predicates : ∀ d d', AsksAt d "defined" path → AsksAt d' "undefined" path →
    answer d doc = .ok false ∧ answer d' doc = .ok false

/-- For every path and every document it is settled whether something is there, unless the path
comes to a number with more digits than are read; then nothing is settled. -/
theorem existence_settled (path : String) (doc : Value) :
    ((∀ n, ¬ ComesToLong path doc n) → Settled path doc) ∧
      ∀ n, ComesToLong path doc n → Unsettled path doc n := by
  refine ⟨fun hpass => ?_, fun n hlong => ?_⟩
  · have hresolves := Pointer.resolves_of_not_comesToLong hpass
    obtain ⟨place, hplace, hfound, -⟩ := hresolves.locate
    refine ⟨hresolves.leads, ⟨place, hplace, hfound⟩, ?_, fun d d' hd hd' => ?_⟩
    · intro hroot hnone p d hp hd
      have habsent := hresolves.leads
      rw [hnone] at habsent
      exact hp.run_remove_absent hd hroot habsent
    · refine ⟨hd.answer_defined hpass, ?_⟩
      rw [hd'.answer_undefined hpass]
      cases lookup path doc <;> rfl
  · refine ⟨hlong.leads, hlong.locate, fun p d hp hd => ?_, fun d d' hd hd' => ?_⟩
    · exact hp.run_remove_fault hd hlong.isRoot hlong.locate rfl
    · exact ⟨hd.answer_defined_long hlong, hd'.answer_undefined_long hlong⟩

/-- An index beyond the end of an array, and one that is too long. -/
theorem existence_settled_index :
    (∀ n, ¬ ComesToLong "/a/0" (.object [("a", .array [])]) n) ∧
      Settled "/a/0" (.object [("a", .array [])]) ∧
      ComesToLong ("/" ++ Pointer.digits 4301) (.array []) 4301 ∧
      Unsettled ("/" ++ Pointer.digits 4301) (.array []) 4301 := by
  have hpass : ∀ n, ¬ ComesToLong "/a/0" (.object [("a", .array [])]) n :=
    Pointer.not_comesToLong ["a", "0"] rfl (by decide) _
  have hlong : ComesToLong ("/" ++ Pointer.digits 4301) (.array []) 4301 :=
    Pointer.comesToLong_digits (by decide) []
  exact ⟨hpass, (existence_settled _ _).1 hpass, hlong, (existence_settled _ _).2 4301 hlong⟩

/-- In an empty array nothing is there at an index of 4301 digits. Asking whether something is gives
a fault, removing it fails, and both predicates are false. -/
theorem existence_long_index :
    lookup ("/" ++ Pointer.digits 4301) (.array []) = none ∧
      (ofPath ("/" ++ Pointer.digits 4301)).leads (.array []) = .error (.longNumber 4301) ∧
      (ofPath ("/" ++ Pointer.digits 4301)).locate (.array []) = .error (.longNumber 4301) ∧
      ¬ (Patch.ofCore []).Succeeds (Patch.removing ("/" ++ Pointer.digits 4301)) (.array []) ∧
      answer [("op", .string "defined"), ("path", .string ("/" ++ Pointer.digits 4301))]
        (.array []) = .ok false ∧
      answer [("op", .string "undefined"), ("path", .string ("/" ++ Pointer.digits 4301))]
        (.array []) = .ok false := by
  have hlong : ComesToLong ("/" ++ Pointer.digits 4301) (.array []) 4301 :=
    Pointer.comesToLong_digits (by decide) []
  generalize "/" ++ Pointer.digits 4301 = path at hlong ⊢
  have hp : (Patch.ofCore []).IsStandard := Patch.ofCore_isStandard (by cbv)
  have hasks : Change.remove.Asks (Patch.removing path) (ofPath path) := .remove rfl rfl
  obtain ⟨hresult, -⟩ := hp.run_remove_fault hasks hlong.isRoot hlong.locate rfl
  refine ⟨hlong.lookup, hlong.leads, hlong.locate, fun hs => ?_,
    AsksAt.answer_defined_long ⟨rfl, rfl⟩ hlong, AsksAt.answer_undefined_long ⟨rfl, rfl⟩ hlong⟩
  rw [Patch.Succeeds, hresult] at hs
  cases hs

end JsonPatch
