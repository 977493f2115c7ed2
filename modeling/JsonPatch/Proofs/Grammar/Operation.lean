import JsonPatch.Grammar
import JsonPatch.Proofs.Value.Place

/-! # Operations and what is wrong with them

What the grammar asks for, said of one operation at a time and apart from the checker.

* `OperationAt`: the operations of a patch document are its elements and, at any depth, the elements
  of the list under `apply` of an operation.
* `Flaw`: what is wrong with an operation in itself, and where.  A value that is no object has this
  one flaw and no other.  `FlawAt` is a flaw of one of the operations of a document.
* `WellFormed`: an operation without flaws (`wellFormed_iff`). -/

namespace JsonPatch.Grammar

/-- The value is an operation of the document, at this place. -/
inductive OperationAt : List Value → List Key → Value → Prop
  /-- The elements of the document are operations. -/
  | element {ops : List Value} {i : Nat} {v : Value} (item : ops[i]? = some v) :
      OperationAt ops [.index i] v
  /-- So are the operations of the list under `apply` of an element. -/
  | nested {ops items : List Value} {i : Nat} {members : Members} {place : List Key} {v : Value}
      (item : ops[i]? = some (.object members))
      (apply : Members.find? "apply" members = some (.array items))
      (below : OperationAt items place v) :
      OperationAt ops (.index i :: .member "apply" :: place) v

/-- The members of an operation whose values are of a kind, beside its name. -/
def memberKinds : List (String × Kind) :=
  [("path", .string), ("from", .string), ("to", .string), ("ignore_case", .boolean),
    ("apply", .array)]

/-- Something is wrong with an operation in itself: the way to the offending value, that value, and
what is wrong with it. -/
inductive Flaw : Value → List Key → Value → Problem → Prop
  | notObject {v : Value} (other : v.kind? ≠ some .object) : Flaw v [] v (.notOfKind v .object)
  | missingName {members : Members} (absent : Members.find? "op" members = none) :
      Flaw (.object members) [] (.object members) .missingName
  | nameNotText {members : Members} {v : Value} (found : Members.find? "op" members = some v)
      (other : v.kind? ≠ some .string) :
      Flaw (.object members) [.member "op"] v (.notOfKind v .string)
  | emptyName {members : Members} (found : Members.find? "op" members = some (.string "")) :
      Flaw (.object members) [.member "op"] (.string "") .emptyName
  | notOfKind {members : Members} {name : String} {kind : Kind} {v : Value}
      (listed : (name, kind) ∈ memberKinds) (found : Members.find? name members = some v)
      (other : v.kind? ≠ some kind) :
      Flaw (.object members) [.member name] v (.notOfKind v kind)

/-- Something is wrong with an operation of the document: the place of the operation, the way from
there to the offending value, that value, and what is wrong with it. -/
def FlawAt (ops : List Value) (place way : List Key) (found : Value) (problem : Problem) : Prop :=
  ∃ v, OperationAt ops place v ∧ Flaw v way found problem

/-- The operation is an object with a name, and the members with a kind are of their kinds. -/
def WellFormed (v : Value) : Prop :=
  ∃ members, v = .object members ∧
    (∃ name, Members.find? "op" members = some (.string name) ∧ name ≠ "") ∧
    ∀ name kind, (name, kind) ∈ memberKinds →
      ∀ w, Members.find? name members = some w → w.kind? = some kind

theorem kind?_eq_object {v : Value} : v.kind? = some .object ↔ ∃ members, v = .object members := by
  cases v <;> simp [Value.kind?]

theorem kind?_ne_object {v : Value} (h : ∀ members, v ≠ .object members) :
    v.kind? ≠ some .object := by
  intro hv
  obtain ⟨members, hmembers⟩ := kind?_eq_object.mp hv
  exact h members hmembers

theorem kind?_eq_string {v : Value} : v.kind? = some .string ↔ ∃ s, v = .string s := by
  cases v <;> simp [Value.kind?]

theorem kind?_eq_array {v : Value} : v.kind? = some .array ↔ ∃ items, v = .array items := by
  cases v <;> simp [Value.kind?]

/-- An operation is well formed exactly if nothing is wrong with it. -/
theorem wellFormed_iff {v : Value} :
    WellFormed v ↔ ∀ way found problem, ¬ Flaw v way found problem := by
  constructor
  · rintro ⟨members, rfl, ⟨name, hname, hne⟩, hkinds⟩ way found problem hflaw
    cases hflaw with
    | notObject other => exact other rfl
    | missingName absent =>
        rw [hname] at absent
        cases absent
    | nameNotText found other =>
        rw [hname] at found
        cases found
        exact other rfl
    | emptyName found =>
        rw [hname] at found
        cases found
        exact hne rfl
    | notOfKind listed found other => exact other (hkinds _ _ listed _ found)
  · intro h
    have hobject : v.kind? = some .object := by
      by_contra hv
      exact h _ _ _ (.notObject hv)
    obtain ⟨members, rfl⟩ := kind?_eq_object.mp hobject
    refine ⟨members, rfl, ?_, ?_⟩
    · cases hop : Members.find? "op" members with
      | none => exact absurd (.missingName hop) (h _ _ _)
      | some w =>
          have hstring : w.kind? = some .string := by
            by_contra hw
            exact h _ _ _ (.nameNotText hop hw)
          obtain ⟨name, rfl⟩ := kind?_eq_string.mp hstring
          refine ⟨name, rfl, ?_⟩
          rintro rfl
          exact h _ _ _ (.emptyName hop)
    · intro name kind hlisted w hw
      by_contra hkind
      exact h _ _ _ (.notOfKind hlisted hw hkind)

/-! ### Places -/

theorem OperationAt.at? {ops : List Value} {place : List Key} {v : Value}
    (h : OperationAt ops place v) : (Value.array ops).at? place = some v := by
  induction h with
  | element item => simp [Value.at?, Value.child?, item]
  | nested item apply _ ih => simp [Value.at?, Value.child?, item, apply, ih]

/-- The place of an operation ends with its index. -/
theorem OperationAt.getLast? {ops : List Value} {place : List Key} {v : Value}
    (h : OperationAt ops place v) : ∃ i, place.getLast? = some (.index i) := by
  induction h with
  | @element ops i v _ => exact ⟨i, rfl⟩
  | nested _ _ _ ih =>
      obtain ⟨i, hi⟩ := ih
      refine ⟨i, ?_⟩
      rw [List.getLast?_cons, List.getLast?_cons, hi]
      rfl

/-- The way to a flaw is a member of the operation, or there is none to go. -/
theorem Flaw.way_cases {v : Value} {way : List Key} {found : Value} {problem : Problem}
    (h : Flaw v way found problem) : way = [] ∨ ∃ name, way = [.member name] := by
  cases h with
  | notObject _ => exact .inl rfl
  | missingName _ => exact .inl rfl
  | nameNotText _ _ => exact .inr ⟨_, rfl⟩
  | emptyName _ => exact .inr ⟨_, rfl⟩
  | notOfKind _ _ _ => exact .inr ⟨_, rfl⟩

theorem Flaw.at? {v : Value} {way : List Key} {found : Value} {problem : Problem}
    (h : Flaw v way found problem) : v.at? way = some found := by
  cases h with
  | notObject _ => rfl
  | missingName _ => rfl
  | nameNotText found _ => simp [Value.at?, Value.child?, found]
  | emptyName found => simp [Value.at?, Value.child?, found]
  | notOfKind _ found _ => simp [Value.at?, Value.child?, found]

theorem FlawAt.at? {ops : List Value} {place way : List Key} {found : Value} {problem : Problem}
    (h : FlawAt ops place way found problem) :
    (Value.array ops).at? (place ++ way) = some found := by
  obtain ⟨v, hv, hflaw⟩ := h
  rw [Value.at?_append, hv.at?]
  exact hflaw.at?

/-- The place of the offending value tells the operation from the way. -/
theorem FlawAt.place_inj {ops : List Value} {place way place' way' : List Key}
    {found found' : Value} {problem problem' : Problem} (h : FlawAt ops place way found problem)
    (h' : FlawAt ops place' way' found' problem') (heq : place ++ way = place' ++ way') :
    place = place' ∧ way = way' := by
  obtain ⟨v, hv, hflaw⟩ := h
  obtain ⟨v', hv', hflaw'⟩ := h'
  obtain ⟨i, hi⟩ := hv.getLast?
  obtain ⟨i', hi'⟩ := hv'.getLast?
  rcases hflaw.way_cases with rfl | ⟨name, rfl⟩
  · rcases hflaw'.way_cases with rfl | ⟨name', rfl⟩
    · simpa using heq
    · have hlast := congrArg List.getLast? heq
      simp [hi] at hlast
  · rcases hflaw'.way_cases with rfl | ⟨name', rfl⟩
    · have hlast := congrArg List.getLast? heq
      simp [hi'] at hlast
    · exact List.append_inj' heq rfl

end JsonPatch.Grammar
