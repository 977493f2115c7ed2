import JsonPatch.Proofs.CommandLine.Stop

/-! # What a command asks of the library

A command that succeeds has read its sources and passes on what the library gives: the result of a
patch (`Applies`), the value of a pointer (`Finds`) or the answer of a predicate (`Answers`).
`runApply_eq_ok`, `runPointer_eq_ok` and `runCheck_eq_ok` say that nothing else is needed, but for a
file that can be written (`IsWritable`), and where the result goes (`Lands`). -/

namespace JsonPatch.CommandLine

open Session (starting)

/-- The library applies the patch of one source to the document of another one, with this
result. -/
def Applies (c : Console) (patch document : Argument) (predicates : Bool) (v : Value) : Prop :=
  ∃ ops doc, readSource c false patch = .ok ops ∧
    readSource c (patch == some inputName) document = .ok doc ∧
    (starting c.environment).applySource (given predicates) (.value ops) doc = .ok v

/-- The pointer exists in the document of a source, with this value. -/
def Finds (c : Console) (path document : Argument) (v : Value) : Prop :=
  ∃ text doc, path = some text ∧ readSource c false document = .ok doc ∧
    (Pointer.ofPath text).leads doc = .ok true ∧ (Pointer.ofPath text).value doc = .ok v

/-- The library evaluates a predicate against the document of a source, with this answer. -/
def Answers (c : Console) (predicate document : Argument) (b : Bool) : Prop :=
  ∃ d doc, readDescriptor predicate = .ok d ∧ readSource c false document = .ok doc ∧
    ((starting c.environment).evaluate d doc).verdict.answer = .ok b

/-- The file that is asked for can be written, if one is. -/
def IsWritable (c : Console) (output : Argument) : Prop :=
  ∀ name, output = some name → name ≠ "" → ∃ file, c.destination (plainName name) = .ok file

/-- A report prints a text, or writes it to the file that is asked for by a name that is not
empty. -/
structure Lands (c : Console) (output : Argument) (text : String) (r : Report) : Prop where
  printed : output = none ∨ output = some "" → r.output = text ∧ r.written = none
  written : ∀ name, output = some name → name ≠ "" → r.output = "" ∧
    ∃ file, c.destination (plainName name) = .ok file ∧ r.written = file.map fun f => (f, text)

variable {c : Console}

theorem isWritable_iff {output : Argument} {v : Value} :
    IsWritable c output ↔ ∃ r, delivered c output v = .ok r := by
  unfold IsWritable delivered
  split
  · simp
  · simp
  · rename_i name hne
    have hname : name ≠ "" := by
      rintro rfl
      exact hne rfl
    constructor
    · intro h
      obtain ⟨file, hfile⟩ := h name rfl hname
      rw [hfile]
      exact ⟨_, rfl⟩
    · rintro ⟨r, hr⟩ name' hname' -
      cases hname'
      split at hr
      · cases hr
      · rename_i file hfile
        exact ⟨file, hfile⟩

theorem lands_of_delivered {output : Argument} {v : Value} {r : Report}
    (h : delivered c output v = .ok r) : r.status = 0 ∧ Lands c output (printed v) r := by
  unfold delivered at h
  split at h
  · cases h
    exact ⟨rfl, fun _ => ⟨rfl, rfl⟩, fun name hname => by cases hname⟩
  · cases h
    refine ⟨rfl, fun _ => ⟨rfl, rfl⟩, fun name hname hne => ?_⟩
    cases hname
    exact absurd rfl hne
  · rename_i name hne
    split at h
    · cases h
    · rename_i file hfile
      cases h
      refine ⟨rfl, fun hnone => ?_, fun name' hname _ => ?_⟩
      · rcases hnone with hnone | hempty
        · cases hnone
        · exact absurd (Option.some.inj hempty) hne
      · cases hname
        exact ⟨rfl, file, hfile, rfl⟩

theorem apply_eq_ok {s : Session} {p : Patch} {doc v : Value} : s.apply p doc = .ok v ↔
    (s.run p doc).run.result = .ok () ∧ (s.run p doc).run.document = v := by
  unfold Session.apply
  dsimp only
  cases (s.run p doc).run.result with
  | error e => simp [Except.map]
  | ok _ => simp [Except.map]

theorem applySource_eq_ok {s : Session} {w : Value} {source : Source} {doc v : Value} :
    s.applySource w source doc = .ok v ↔
      ∃ p, s.build (fun settings => { settings, withPredicates := w }) source = .ok p ∧
        (s.run p doc).run.result = .ok () ∧ (s.run p doc).run.document = v := by
  unfold Session.applySource
  cases s.build (fun settings => { settings, withPredicates := w }) source with
  | error e => simp
  | ok p =>
      simp only [Except.ok.injEq, exists_eq_left', ← apply_eq_ok]
      cases s.apply p doc with
      | error e => simp [Except.mapError]
      | ok w => simp [Except.mapError]

/-- A patch is read and the document, too, and the run leaves the value. -/
theorem applies_iff {patch document : Argument} {predicates : Bool} {v : Value} :
    Applies c patch document predicates v ↔
      ∃ p doc, readPatch c (starting c.environment) patch predicates = .ok p ∧
        readSource c (patch == some inputName) document = .ok doc ∧
        ((starting c.environment).run p doc).run.result = .ok () ∧
        ((starting c.environment).run p doc).run.document = v := by
  simp only [Applies, readPatch_eq_ok, applySource_eq_ok]
  constructor
  · rintro ⟨ops, doc, hops, hdoc, p, hp, hresult, hv⟩
    exact ⟨p, doc, ⟨ops, hops, hp⟩, hdoc, hresult, hv⟩
  · rintro ⟨p, doc, ⟨ops, hops, hp⟩, hdoc, hresult, hv⟩
    exact ⟨ops, doc, hops, hdoc, p, hp, hresult, hv⟩

theorem runApply_eq_ok {patch document output : Argument} {predicates : Bool} {r : Report} :
    (runApply c (starting c.environment) patch document predicates output).result = .ok r ↔
      ∃ v, Applies c patch document predicates v ∧ delivered c output v = .ok r := by
  simp only [applies_iff]
  constructor
  · intro h
    unfold runApply at h
    split at h
    · cases h
    · rename_i p hp
      split at h
      · cases h
      · rename_i doc hdoc
        dsimp only at h
        split at h
        · cases h
        · rename_i hr
          exact ⟨_, ⟨p, doc, hp, hdoc, hr, rfl⟩, h⟩
  · rintro ⟨v, ⟨p, doc, hp, hdoc, hr, rfl⟩, hv⟩
    unfold runApply
    rw [hp]
    dsimp only
    rw [hdoc]
    dsimp only
    rw [hr]
    exact hv

theorem runPointer_eq_ok {path document : Argument} {r : Report} :
    (runPointer c path document).result = .ok r ↔
      ∃ v, Finds c path document v ∧ r = { status := 0, output := printed v } := by
  constructor
  · intro h
    unfold runPointer at h
    split at h
    · cases h
    · rename_i text
      split at h
      · cases h
      · rename_i doc hdoc
        split at h
        · cases h
        · rename_i v hv
          unfold Pointer.valueOrFail at hv
          split at hv
          · cases hv
          · cases hv
          · rename_i hleads
            exact ⟨v, ⟨text, doc, rfl, hdoc, hleads, hv⟩, (Except.ok.inj h).symm⟩
  · rintro ⟨v, ⟨text, doc, rfl, hdoc, hleads, hv⟩, rfl⟩
    unfold runPointer
    dsimp only
    rw [hdoc]
    dsimp only
    rw [Pointer.valueOrFail, hleads]
    dsimp only
    rw [hv]

/-- The report of an answer. -/
def answered (b : Bool) : Report :=
  if b then { status := 0, output := "true\n" } else { status := 1, output := "false\n" }

theorem runCheck_eq_ok {predicate document : Argument} {r : Report} :
    (runCheck c (starting c.environment) predicate document).result = .ok r ↔
      ∃ b, Answers c predicate document b ∧ r = answered b := by
  constructor
  · intro h
    unfold runCheck at h
    split at h
    · cases h
    · rename_i d hd
      split at h
      · cases h
      · rename_i doc hdoc
        dsimp only at h
        split at h
        · cases h
        · rename_i hanswer
          exact ⟨true, ⟨d, doc, hd, hdoc, hanswer⟩, (Except.ok.inj h).symm⟩
        · rename_i hanswer
          exact ⟨false, ⟨d, doc, hd, hdoc, hanswer⟩, (Except.ok.inj h).symm⟩
  · rintro ⟨b, ⟨d, doc, hd, hdoc, hanswer⟩, rfl⟩
    unfold runCheck
    rw [hd]
    dsimp only
    rw [hdoc]
    dsimp only
    rw [hanswer]
    cases b <;> rfl

end JsonPatch.CommandLine
