import JsonPatch.Proofs.Pointer.Lookup

/-! # Pointers that give no answer

What is in the way of a path makes it lead nowhere, with one exception: when a number with more
digits than are read is to be looked up in an array, the number cannot be made an index, and the
pointer is a fault (`ComesToLong`).

* `ComesToLong.locate`, `ComesToLong.leads` and `ComesToLong.value`: then the fault is the outcome
  of every way of asking.
* `resolves_of_not_comesToLong`: in all other cases every way of asking agrees with the plain
  lookup, be the path well formed or not.

A number of many digits below an object is just a name, and so is one that no segment before it
leads to. -/

namespace JsonPatch.Pointer

open Value (MeetsLong IsLong)

variable {path : String} {doc : Value} {n : Nat}

/-- On its way a well-formed path has a number of so many digits looked up in an array, and these
are more than are read. -/
def ComesToLong (path : String) (doc : Value) (n : Nat) : Prop :=
  (ofPath path).wellFormed = true ∧ MeetsLong (ofPath path).segments doc n

/-! ### Forms of paths -/

theorem isRoot_iff : (ofPath path).isRoot = true ↔ path = "" := by
  unfold isRoot ofPath
  split_ifs with h
  · simp [h]
  · simp [h]

theorem wellFormed_iff :
    (ofPath path).wellFormed = true ↔ path = "" ∨ path.toList.head? = some '/' := by
  unfold ofPath
  split_ifs with h
  · simp [h]
  · simp [h]

theorem segments_of_slash (h : path.toList.head? = some '/') :
    (ofPath path).segments = Segment.ofPath path := by
  obtain ⟨last, hsegments, hlast, -⟩ := ofPath_of_slash h
  rw [hsegments, segments, hlast]
  rfl

/-- Only a path with segments comes to a number. -/
theorem ComesToLong.slash (h : ComesToLong path doc n) : path.toList.head? = some '/' := by
  obtain ⟨hwell, hmeets⟩ := h
  rcases wellFormed_iff.mp hwell with rfl | hslash
  · cases hmeets
  · exact hslash

theorem ComesToLong.isRoot (h : ComesToLong path doc n) : (ofPath path).isRoot = false := by
  rw [Bool.eq_false_iff, ne_eq, isRoot_iff]
  rintro rfl
  cases h.slash

theorem comesToLong_of_slash (hslash : path.toList.head? = some '/') :
    ComesToLong path doc n ↔ MeetsLong (Segment.ofPath path) doc n := by
  rw [ComesToLong, segments_of_slash hslash]
  exact and_iff_right (wellFormed_iff.mpr (.inr hslash))

/-- A path comes to no number if its segments can all be read. -/
theorem not_comesToLong (segments : List String) (hsegments : (ofPath path).segments = segments)
    (hread : ∀ s ∈ segments, Value.IsReadable s) (doc : Value) (n : Nat) :
    ¬ ComesToLong path doc n := by
  rintro ⟨-, hmeets⟩
  rw [hsegments] at hmeets
  exact MeetsLong.not_of_isReadable hread hmeets

/-! ### The fault -/

theorem descend_of_meetsLong (path : String) {parts : List String} {v : Value}
    (h : MeetsLong parts v n) : descend path parts v = .error (.longNumber n) := by
  induction h with
  | here rest items long =>
      rw [descend_array, Value.indexOfText_eq_longNumber.mpr long]
  | later step _ ih => rw [descend_step path step, ih]

/-- The number is met before the last segment or by it. In either case it is a fault. -/
theorem ComesToLong.locate (h : ComesToLong path doc n) :
    (ofPath path).locate doc = .error (.longNumber n) := by
  obtain ⟨last, hsegments, hlast, -⟩ := ofPath_of_slash h.slash
  have hparent := parent_of_slash h.slash doc
  have hmeets := (comesToLong_of_slash h.slash).mp h
  rw [hsegments] at hmeets
  rcases hmeets.of_append with hparts | ⟨c, hc, hend⟩
  · rw [descend_of_meetsLong path hparts] at hparent
    simp [Pointer.locate, hlast, hparent]
  · rw [descend_of_follow? path hc] at hparent
    simp [Pointer.locate, hlast, hparent, hend.existingKey]

theorem ComesToLong.leads (h : ComesToLong path doc n) :
    (ofPath path).leads doc = .error (.longNumber n) := by
  simp [Pointer.leads, h.locate, Except.map]

theorem ComesToLong.value (h : ComesToLong path doc n) :
    (ofPath path).value doc = .error (.longNumber n) := by
  simp [Pointer.value, h.isRoot, h.locate, Except.map]

/-! ### The answers -/

/-- Whatever the path, all ways of asking agree with the plain lookup, unless the way comes to a
number that is too long. -/
theorem resolves_of_not_comesToLong (h : ∀ n, ¬ ComesToLong path doc n) :
    Resolves path doc (lookup path doc) := by
  by_cases hroot : path = ""
  · subst hroot
    exact Resolves.root doc
  by_cases hslash : path.toList.head? = some '/'
  · have hpass : ∀ n, ¬ MeetsLong (Segment.ofPath path) doc n :=
      fun n hmeets => h n ((comesToLong_of_slash hslash).mpr hmeets)
    rcases locate_cases_of_not_meetsLong hslash hpass with ⟨c, k, v, hfinds⟩ | ⟨hnone, c, hlocate⟩
    · rw [hfinds.lookup]
      exact hfinds.resolves
    · obtain ⟨last, -, hlast, hwell⟩ := ofPath_of_slash hslash
      rw [hnone]
      refine Resolves.absent hlocate fun hno => ?_
      simp [isRoot, hlast, hwell] at hno
  · rw [lookup, if_neg hroot, if_neg hslash]
    exact resolves_malformed hroot hslash doc

/-- A number that is too long has nothing under it. -/
theorem ComesToLong.lookup (h : ComesToLong path doc n) : lookup path doc = none := by
  rw [lookup_of_slash h.slash]
  exact ((comesToLong_of_slash h.slash).mp h).follow?_eq_none

/-- The pointer made of segments reads what they lead to. -/
theorem value_ofSegments {segments : List String} (h : ∀ n, ¬ MeetsLong segments doc n) :
    (ofSegments segments).value doc = .ok ((Value.follow? segments doc).getD .null) := by
  cases segments with
  | nil => rfl
  | cons s rest =>
      have hslash : (Segment.toPath (s :: rest)).toList.head? = some '/' := by
        simp [Segment.toList_toPath, Segment.flatten]
      have hpass : ∀ n, ¬ ComesToLong (Segment.toPath (s :: rest)) doc n := by
        intro n
        rw [comesToLong_of_slash hslash, Segment.ofPath_toPath]
        exact h n
      have hresolves := resolves_of_not_comesToLong hpass
      rw [lookup_of_slash hslash, Segment.ofPath_toPath] at hresolves
      exact hresolves.value

/-! ### Numbers in a path -/

/-- The digits alone, without a line feed. -/
def digits (n : Nat) : String :=
  String.ofList (List.replicate n '9')

theorem isLong_digits (h : Value.indexDigitLimit < n) : IsLong (digits n) n := by
  have hdrop : Value.dropLineFeed (List.replicate n '9') = List.replicate n '9' := by
    refine if_neg fun hlast => ?_
    have hmem := List.eq_of_mem_replicate (List.mem_of_getLast? hlast)
    revert hmem
    decide
  rw [IsLong, digits, String.toList_ofList, hdrop]
  exact ⟨isIndexText_replicate (Nat.zero_lt_of_lt h), List.length_replicate, h⟩

/-- A number that is too long, looked up in an array. -/
theorem comesToLong_digits (h : Value.indexDigitLimit < n) (items : List Value) :
    ComesToLong ("/" ++ digits n) (.array items) n := by
  have hsegments : Segment.ofPath ("/" ++ digits n) = [digits n] := by
    have hnine : ∀ c ∈ (digits n).toList, c = '9' := by
      intro c hc
      rw [digits, String.toList_ofList] at hc
      exact List.eq_of_mem_replicate hc
    refine Segment.ofPath_plain (fun hc => ?_) fun hc => ?_
    · exact absurd (hnine _ hc) (by decide)
    · exact absurd (hnine _ hc) (by decide)
  rw [comesToLong_of_slash (by simp), hsegments]
  exact .here [] items (isLong_digits h)

/-- The line feed at the end of `nines` is no digit, so a path of it has no number in it. -/
theorem segments_nines_noDigits (n : Nat) :
    ∀ s ∈ (ofPath ("/" ++ nines n)).segments, s.toList.all Value.isIndexDigit = false := by
  intro s hs
  rw [segments_of_slash (by simp), segments_nines, List.mem_singleton] at hs
  subst hs
  have hend : '\n' ∈ (nines n).toList := by
    rw [nines, String.toList_ofList]
    exact List.mem_append_right _ (List.mem_singleton_self _)
  exact List.all_eq_false.mpr ⟨'\n', hend, by decide⟩

theorem isLong_nines (h : Value.indexDigitLimit < n) : IsLong (nines n) n :=
  Value.indexOfText_eq_longNumber.mp (indexOfText_nines h)

theorem comesToLong_nines (h : Value.indexDigitLimit < n) (items : List Value) :
    ComesToLong ("/" ++ nines n) (.array items) n := by
  rw [comesToLong_of_slash (by simp), segments_nines]
  exact .here [] items (isLong_nines h)

end JsonPatch.Pointer
