import JsonPatch.Proofs.Patch.Turn
import JsonPatch.Proofs.Predicate.Location
import JsonPatch.Proofs.Value.Equal

/-! # The kind of a location

In a JSON document every path has one kind: that of the value there, or "undefined" if it leads
nowhere.  `type` is true of the name of this kind and of no other text, `undefined` and `defined`
say whether it is the one of absent values, and a test at the path can only expect a value of this
kind (`Classified`).

A number that is too long, looked up in an array, leaves the path without a kind: no predicate is
true of it and no test succeeds (`Unclassified`). -/

namespace JsonPatch

open Pointer (ofPath ComesToLong lookup)
open Predicate (AsksAt answer absentKind kindName)

/-! ### Parts of JSON documents -/

namespace Value

variable {s : String} {v w : Value}

theorem isJson_step? (h : v.IsJson) (hw : v.step? s = some w) : w.IsJson := by
  cases v with
  | array items =>
      rw [step?] at hw
      cases hi : indexOfText s with
      | error f =>
          rw [hi] at hw
          cases hw
      | ok i =>
          rw [hi] at hw
          exact isJson_child? (k := .index i) h hw
  | object members => exact isJson_child? (k := .member s) h hw
  | _ => cases hw

theorem isJson_follow? {segments : List String} (h : v.IsJson)
    (hw : follow? segments v = some w) : w.IsJson := by
  induction segments generalizing v with
  | nil =>
      cases hw
      exact h
  | cons s rest ih =>
      rw [follow?_cons] at hw
      obtain ⟨u, hu, hrest⟩ := Option.bind_eq_some_iff.mp hw
      exact ih (isJson_step? h hu) hrest

theorem kind?_of_isJson (h : v.IsJson) : ∃ k, v.kind? = some k := by
  cases v with
  | tuple items => cases h
  | bytes content => cases h
  | foreign type => cases h
  | _ => exact ⟨_, rfl⟩

end Value

theorem Pointer.isJson_lookup {path : String} {doc v : Value} (h : doc.IsJson)
    (hv : lookup path doc = some v) : v.IsJson := by
  by_cases hslash : path.toList.head? = some '/'
  · rw [lookup_of_slash hslash] at hv
    exact Value.isJson_follow? h hv
  · rw [lookup] at hv
    split_ifs at hv with hroot
    cases hv
    exact h

/-! ### Kinds of locations -/

/-- The path has a kind of this name in the document. -/
structure Classified (path : String) (doc : Value) (t : String) : Prop where
  type : ∀ d name, AsksAt d "type" path → Members.find? "value" d = some (.string name) →
    answer d doc = .ok (decide (name = t))
  undefined : ∀ d, AsksAt d "undefined" path → answer d doc = .ok (decide (t = absentKind))
  defined : ∀ d, AsksAt d "defined" path → answer d doc = .ok (decide (t ≠ absentKind))
  kind : t ≠ absentKind → ∃ v k, (ofPath path).value doc = .ok v ∧ v.kind = .ok k ∧ k.name = t
  test : ∀ (p : Patch) d expected, p.IsStandard → AsksAt d "test" path →
    Members.find? "value" d = some expected → p.Succeeds d doc →
    t ≠ absentKind ∧ ∃ k, expected.kind = .ok k ∧ k.name = t

/-- The path has no kind in the document. -/
structure Unclassified (path : String) (doc : Value) : Prop where
  type : ∀ d, AsksAt d "type" path → answer d doc = .ok false
  undefined : ∀ d, AsksAt d "undefined" path → answer d doc = .ok false
  defined : ∀ d, AsksAt d "defined" path → answer d doc = .ok false
  test : ∀ (p : Patch) d, p.IsStandard → AsksAt d "test" path → ¬ p.Succeeds d doc

variable {path : String} {doc : Value}

theorem Predicate.AsksAt.field {d : Descriptor} {name : String} (h : AsksAt d name path) :
    d.field "op" = .string name := by
  rw [Descriptor.field, h.op, Option.getD_some]

/-- What a test that succeeds has found at its path. -/
theorem Patch.IsStandard.test_found {p : Patch} (hp : p.IsStandard) {d : Descriptor}
    (hd : AsksAt d "test" path) (hs : p.Succeeds d doc) :
    ∃ expected actual, Members.find? "value" d = some expected ∧
      (ofPath path).leads doc = .ok true ∧ (ofPath path).value doc = .ok actual ∧
      actual.equals expected = .ok true := by
  obtain ⟨e, he⟩ := hp.planned .test hd.field hs
  obtain ⟨q, expected, actual, hq, hexpected, hleads, hactual, hsame⟩ := Operation.test_succeeds he
  obtain ⟨path', hpath, rfl⟩ := Operation.pointerOf_eq_ok.mp hq
  obtain rfl : path = path' := Value.string.inj (Option.some.inj (hd.path.symm.trans hpath))
  exact ⟨expected, actual, hexpected, hleads, hactual, hsame⟩

/-- The kind of what is looked up is the one of the path. -/
theorem classified_kindName (hdoc : doc.IsJson) (hpass : ∀ n, ¬ ComesToLong path doc n) :
    Classified path doc (kindName (lookup path doc)) := by
  have hresolves := Pointer.resolves_of_not_comesToLong hpass
  have hkind : ∀ v, lookup path doc = some v → ∃ k, v.kind? = some k :=
    fun v hv => Value.kind?_of_isJson (Pointer.isJson_lookup hdoc hv)
  have habsent : kindName (lookup path doc) = absentKind ↔ (lookup path doc).isNone = true := by
    cases hfound : lookup path doc with
    | none => simp [kindName]
    | some v =>
        obtain ⟨k, hk⟩ := hkind v hfound
        simp [Predicate.kindName_of_kind? hk, Predicate.name_ne_absentKind]
  refine ⟨fun d name hd hvalue => hd.answer_type hvalue hkind hpass, fun d hd => ?_, fun d hd => ?_,
    fun hne => ?_, fun p d expected hp hd hexpected hs => ?_⟩
  · rw [hd.answer_undefined hpass]
    simp only [habsent, Bool.decide_eq_true]
  · rw [hd.answer_defined hpass]
    simp only [ne_eq, habsent]
    cases lookup path doc <;> rfl
  · cases hfound : lookup path doc with
    | none =>
        rw [hfound] at hne
        exact absurd rfl hne
    | some v =>
        obtain ⟨k, hk⟩ := hkind v hfound
        have hvalue := hresolves.value
        rw [hfound] at hvalue
        exact ⟨v, k, hvalue, by rw [Value.kind, hk], (Predicate.kindName_of_kind? hk).symm⟩
  · obtain ⟨expected', actual, hexpected', hleads, hactual, hsame⟩ := hp.test_found hd hs
    obtain rfl : expected = expected' := Option.some.inj (hexpected.symm.trans hexpected')
    have hsome := Except.ok.inj (hresolves.leads.symm.trans hleads)
    obtain ⟨v, hfound⟩ := Option.isSome_iff_exists.mp hsome
    have hvalue := hresolves.value
    rw [hfound] at hvalue
    obtain rfl : actual = v := Except.ok.inj (hactual.symm.trans hvalue)
    obtain ⟨k, hk⟩ := hkind actual hfound
    obtain ⟨k', hactual', hexpected'⟩ := Value.kind_of_equals hsame
    have hsame' : k' = k := by
      rw [Value.kind, hk] at hactual'
      exact (Except.ok.inj hactual').symm
    rw [hfound, Predicate.kindName_of_kind? hk]
    exact ⟨Predicate.name_ne_absentKind k, k, hsame' ▸ hexpected', rfl⟩

theorem unclassified_of_comesToLong {n : Nat} (hlong : ComesToLong path doc n) :
    Unclassified path doc := by
  refine ⟨fun d hd => hd.answer_type_long hlong, fun d hd => hd.answer_undefined_long hlong,
    fun d hd => hd.answer_defined_long hlong, fun p d hp hd hs => ?_⟩
  obtain ⟨-, -, -, hleads, -⟩ := hp.test_found hd hs
  rw [hlong.leads] at hleads
  cases hleads

/-- In a JSON document every path has exactly one kind, be it malformed, empty or in the middle of
nowhere, unless it comes to a number with more digits than are read. Then it has none. -/
theorem kinds_partition (path : String) {doc : Value} (hdoc : doc.IsJson) :
    ((∀ n, ¬ ComesToLong path doc n) → ∃! t, Classified path doc t) ∧
      ∀ n, ComesToLong path doc n → Unclassified path doc := by
  refine ⟨fun hpass => ⟨_, classified_kindName hdoc hpass, fun t ht => ?_⟩,
    fun n hlong => unclassified_of_comesToLong hlong⟩
  -- the descriptor that asks for `t` has one answer only
  have hd : AsksAt [("op", .string "type"), ("path", .string path), ("value", .string t)] "type"
      path := ⟨rfl, rfl⟩
  have hasked := ht.type _ t hd rfl
  rw [(classified_kindName hdoc hpass).type _ t hd rfl] at hasked
  simpa using hasked

/-- A path without a slash has the kind of absent values, and the document its own. -/
theorem kinds_partition_root :
    (Value.array [.null]).IsJson ∧ (∀ n, ¬ ComesToLong "a" (.array [.null]) n) ∧
      Classified "a" (.array [.null]) "undefined" ∧ Classified "" (.array [.null]) "array" := by
  have hdoc : (Value.array [.null]).IsJson := rfl
  have hpass : ∀ path : String, path.toList.head? ≠ some '/' →
      ∀ n, ¬ ComesToLong path (.array [.null]) n := fun path hslash n hlong => hslash hlong.slash
  have hclass : ∀ path t, path.toList.head? ≠ some '/' →
      kindName (lookup path (.array [.null])) = t → Classified path (.array [.null]) t := by
    rintro path t hslash rfl
    obtain ⟨t, ht, hunique⟩ := (kinds_partition path hdoc).1 (hpass path hslash)
    rw [hunique _ (classified_kindName hdoc (hpass path hslash))]
    exact ht
  exact ⟨hdoc, hpass "a" (by decide), hclass "a" _ (by decide) rfl, hclass "" _ (by decide) rfl⟩

/-- The one segment has a line feed and so is no number, and nothing is there in an empty array. Yet
`undefined` is false, and so are `defined` and `type` with any name. -/
theorem kind_line_feed :
    (Value.array []).IsJson ∧
      (∀ s ∈ (ofPath ("/" ++ Pointer.nines 4301)).segments,
        s.toList.all Value.isIndexDigit = false) ∧
      answer [("op", .string "undefined"), ("path", .string ("/" ++ Pointer.nines 4301))]
        (.array []) = .ok false ∧
      answer [("op", .string "defined"), ("path", .string ("/" ++ Pointer.nines 4301))]
        (.array []) = .ok false ∧
      ∀ t, answer [("op", .string "type"), ("path", .string ("/" ++ Pointer.nines 4301)),
        ("value", .string t)] (.array []) = .ok false := by
  have hlong : ComesToLong ("/" ++ Pointer.nines 4301) (.array []) 4301 :=
    Pointer.comesToLong_nines (by decide) []
  refine ⟨rfl, Pointer.segments_nines_noDigits 4301, ?_⟩
  generalize "/" ++ Pointer.nines 4301 = path at hlong ⊢
  exact ⟨AsksAt.answer_undefined_long ⟨rfl, rfl⟩ hlong, AsksAt.answer_defined_long ⟨rfl, rfl⟩ hlong,
    fun t => AsksAt.answer_type_long ⟨rfl, rfl⟩ hlong⟩

end JsonPatch
