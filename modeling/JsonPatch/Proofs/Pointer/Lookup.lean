import JsonPatch.Proofs.Operation.Trouble
import JsonPatch.Proofs.Pointer.Segment
import JsonPatch.Proofs.Pointer.Slot

/-! # Pointers and plain lookup

The meaning of a path, without parents, locations and faults: `lookup` goes from the document one
segment after the other, into a member of that name or to the element at that index, and gives up
where there is none.  All ways of asking a pointer agree with it (`resolves_lookup`), as long as no
segment is a number with too many digits to be read.

A missing member on the way does not stop a pointer at once, since it counts as null;
`descend_cases` says that the difference is gone at the last segment.

Such a number does no harm in front of an object.  `Value.MeetsLong` says that the way comes to an
array with one, which is all that can keep a pointer from giving an answer. -/

namespace JsonPatch

namespace Value

/-- The part of a value that a segment names: the member of that name, or the element at the index
that the segment stands for. -/
def step? (v : Value) (segment : String) : Option Value :=
  match v with
  | object members => Members.find? segment members
  | array items =>
    match indexOfText segment with
    | .ok i => items[i]?
    | .error _ => none
  | _ => none

/-- The value that segments lead to, one after the other. -/
def follow? (segments : List String) (v : Value) : Option Value :=
  segments.foldlM step? v

/-- The segment is no number with more digits than are read. One line feed may follow a number. -/
def IsReadable (segment : String) : Prop :=
  isIndexText (dropLineFeed segment.toList) = true →
    (dropLineFeed segment.toList).length ≤ indexDigitLimit

instance (segment : String) : Decidable (IsReadable segment) :=
  inferInstanceAs (Decidable (_ → _))

theorem follow?_cons (s : String) (rest : List String) (v : Value) :
    follow? (s :: rest) v = (v.step? s).bind (follow? rest) := rfl

theorem follow?_concat (segments : List String) (s : String) (v : Value) :
    follow? (segments ++ [s]) v = (follow? segments v).bind fun c => c.step? s := by
  rw [follow?, List.foldlM_append]
  change (follow? segments v).bind _ = _
  congr 1
  funext c
  change (c.step? s).bind _ = _
  cases c.step? s <;> rfl

/-! ### Numbers that are too long -/

/-- The segment is a number of so many digits, which are more than are read. One line feed may
follow a number. -/
def IsLong (segment : String) (n : Nat) : Prop :=
  isIndexText (dropLineFeed segment.toList) = true ∧
    (dropLineFeed segment.toList).length = n ∧ indexDigitLimit < n

theorem indexOfText_eq_longNumber {s : String} {n : Nat} :
    indexOfText s = .error (.longNumber n) ↔ IsLong s n := by
  unfold indexOfText IsLong
  dsimp only
  split_ifs with hi hn
  · simp only [hi, true_and, false_iff, not_and, not_lt]
    rintro rfl
    exact hn
  · simp only [Except.error.injEq, Fault.longNumber.injEq, hi, true_and]
    exact ⟨fun h => ⟨h, h ▸ Nat.lt_of_not_le hn⟩, fun h => h.1⟩
  · simp [hi]

theorem isReadable_iff {s : String} : IsReadable s ↔ ∀ n, ¬ IsLong s n := by
  constructor
  · rintro h n ⟨hindex, rfl, hlong⟩
    exact absurd (h hindex) (Nat.not_le_of_lt hlong)
  · intro h hindex
    exact Nat.le_of_not_lt fun hlong => h _ ⟨hindex, rfl, hlong⟩

/-- A segment that can be read is an index, or there is nothing under it. -/
theorem indexOfText_cases {s : String} (h : IsReadable s) :
    (∃ i, indexOfText s = .ok i) ∨ ∃ key, indexOfText s = .error (.missingKey key) := by
  unfold indexOfText
  dsimp only
  split_ifs with hi hn
  · exact .inl ⟨_, rfl⟩
  · exact absurd (h hi) hn
  · exact .inr ⟨_, rfl⟩

/-- Along segments a number with more digits than are read is to be looked up in an array. -/
inductive MeetsLong : List String → Value → Nat → Prop where
  | here {s : String} {n : Nat} (rest : List String) (items : List Value) (long : IsLong s n) :
      MeetsLong (s :: rest) (array items) n
  | later {s : String} {rest : List String} {v w : Value} {n : Nat} (step : v.step? s = some w)
      (meets : MeetsLong rest w n) : MeetsLong (s :: rest) v n

namespace MeetsLong

variable {segments more : List String} {s : String} {v c : Value} {n : Nat}

theorem isLong (h : MeetsLong segments v n) : ∃ s ∈ segments, IsLong s n := by
  induction h with
  | here _ _ long => exact ⟨_, List.mem_cons_self, long⟩
  | later _ _ ih =>
      obtain ⟨s, hs, long⟩ := ih
      exact ⟨s, List.mem_cons_of_mem _ hs, long⟩

/-- Segments that can be read are no such numbers. -/
theorem not_of_isReadable (h : ∀ s ∈ segments, IsReadable s) : ¬ MeetsLong segments v n := by
  intro hm
  obtain ⟨s, hs, long⟩ := hm.isLong
  exact isReadable_iff.mp (h s hs) n long

theorem append_right (h : MeetsLong segments v n) (more : List String) :
    MeetsLong (segments ++ more) v n := by
  induction h with
  | here _ _ long => exact .here _ _ long
  | later step _ ih => exact .later step ih

/-- What is met after some segments is met on the whole way. -/
theorem after (hfollow : follow? segments v = some c) (h : MeetsLong more c n) :
    MeetsLong (segments ++ more) v n := by
  induction segments generalizing v with
  | nil =>
      cases hfollow
      exact h
  | cons s rest ih =>
      rw [follow?_cons] at hfollow
      obtain ⟨w, hstep, hrest⟩ := Option.bind_eq_some_iff.mp hfollow
      exact .later hstep (ih hrest)

/-- On a longer way the number is met before, or at the end of the first segments. -/
theorem of_append (h : MeetsLong (segments ++ more) v n) :
    MeetsLong segments v n ∨ ∃ c, follow? segments v = some c ∧ MeetsLong more c n := by
  induction segments generalizing v with
  | nil => exact .inr ⟨v, rfl, h⟩
  | cons s rest ih =>
      cases h with
      | here _ items long => exact .inl (.here _ _ long)
      | later step meets =>
          refine (ih meets).imp (.later step) ?_
          rintro ⟨c, hc, hmore⟩
          exact ⟨c, by rw [follow?_cons, step, Option.bind_some, hc], hmore⟩

theorem step?_eq_none {items : List Value} (long : IsLong s n) :
    (array items).step? s = none := by
  rw [step?, indexOfText_eq_longNumber.mpr long]

/-- There is nothing under a number that is too long. -/
theorem follow?_eq_none (h : MeetsLong segments v n) : follow? segments v = none := by
  induction h with
  | here _ _ long => rw [follow?_cons, step?_eq_none long, Option.bind_none]
  | later step _ ih => rw [follow?_cons, step, Option.bind_some, ih]

theorem existingKey (h : MeetsLong [s] c n) :
    c.existingKey (.string s) = .error (.longNumber n) := by
  cases h with
  | here _ items long =>
      simp [Value.existingKey, indexBelow, parseIndex, indexOfText_eq_longNumber.mpr long,
        Except.map]
  | later _ meets => cases meets

end MeetsLong

end Value

/-- A key as it is handed out: a text or an integer. -/
def Key.asValue : Key → Value
  | member name => .string name
  | index i => .number (.int i)

namespace Value

/-- What is at a key is read by it. -/
theorem get_asValue {c v : Value} {k : Key} (h : c.child? k = some v) :
    c.get k.asValue = .ok v := by
  cases c with
  | array items =>
      cases k with
      | member name => cases h
      | index i =>
          have hi : i < items.length := (List.getElem?_eq_some_iff.mp h).1
          have hkey : (array items).existingKey (Key.index i).asValue = .ok (.index i) := by
            change (indexBelow items.length (number (.int (.ofNat i)))).map Key.index = _
            simp [indexBelow, parseIndex, hi, Except.map]
          rw [get, hkey]
          simp [Except.map, h]
  | object members =>
      cases k with
      | index i => cases h
      | member name =>
          have hm : Members.has name members = true := Option.isSome_iff_exists.mpr ⟨v, h⟩
          have hkey : (object members).existingKey (Key.member name).asValue =
              .ok (.member name) := by
            simp [Key.asValue, existingKey, hm]
          rw [get, hkey]
          simp [Except.map, h]
  | _ => cases h

/-- A container has a key for a segment exactly if the segment names a part of it. -/
theorem existingKey_cases {s : String} {c : Value} (h : ∀ n, ¬ MeetsLong [s] c n) :
    (∃ k v, c.existingKey (.string s) = .ok k ∧ c.child? k = some v ∧ c.step? s = some v) ∨
      c.step? s = none ∧ ∃ key, c.existingKey (.string s) = .error (.missingKey key) := by
  cases c with
  | array items =>
      have hread : IsReadable s := isReadable_iff.mpr fun n long => h n (.here [] items long)
      rcases indexOfText_cases hread with ⟨i, hi⟩ | ⟨key, hkey⟩
      · by_cases hlt : i < items.length
        · refine .inl ⟨.index i, items[i], ?_, List.getElem?_eq_getElem hlt, ?_⟩
          · simp [existingKey, indexBelow, parseIndex, hi, hlt, Except.map]
          · simp [step?, hi, hlt]
        · refine .inr ⟨?_, .string s, ?_⟩
          · simp [step?, hi, hlt]
          · simp [existingKey, indexBelow, parseIndex, hi, hlt, Except.map]
      · refine .inr ⟨by simp [step?, hkey], key, ?_⟩
        simp [existingKey, indexBelow, parseIndex, hkey, Except.map]
  | object members =>
      cases hm : Members.find? s members with
      | some v =>
          refine .inl ⟨.member s, v, ?_, hm, hm⟩
          simp [existingKey, Members.has, hm]
      | none =>
          refine .inr ⟨hm, .string s, ?_⟩
          simp [existingKey, Members.has, hm]
  | _ => exact .inr ⟨rfl, .string s, rfl⟩

end Value

namespace Pointer

/-- The value that a path leads to, if it leads anywhere: segment by segment from the document. A
path that neither is empty nor starts with a slash leads nowhere. -/
def lookup (path : String) (doc : Value) : Option Value :=
  if path = "" then some doc
  else if path.toList.head? = some '/' then
    let pieces := (Segment.split path.toList).tail
    Value.follow? (pieces.map fun piece => String.ofList (Segment.decode piece)) doc
  else none

theorem lookup_of_slash {path : String} (h : path.toList.head? = some '/') (doc : Value) :
    lookup path doc = Value.follow? (Segment.ofPath path) doc := by
  have hne : path ≠ "" := by
    rintro rfl
    cases h
  rw [lookup, if_neg hne, if_pos h, Segment.ofPath]
  simp only [Segment.unescape_eq_decode, String.toList_ofList]

/-- A segment that names a part of a value is a step to this part. -/
theorem descend_step (path : String) {s : String} {v w : Value} (h : v.step? s = some w)
    (rest : List String) : descend path (s :: rest) v = descend path rest w := by
  cases v with
  | array items =>
      rw [Value.step?] at h
      cases hi : Value.indexOfText s with
      | error f =>
          rw [hi] at h
          cases h
      | ok i =>
          rw [hi] at h
          have hw : items[i]? = some w := h
          obtain ⟨hlt, -⟩ := List.getElem?_eq_some_iff.mp hw
          rw [descend_array, hi]
          dsimp only
          rw [if_pos hlt, List.getD_eq_getElem?_getD, hw, Option.getD_some]
  | object members =>
      have hm : Members.find? s members = some w := h
      rw [descend_object, hm, Option.getD_some]
  | _ => cases h

theorem descend_of_follow? (path : String) {parts : List String} {v c : Value}
    (h : Value.follow? parts v = some c) : descend path parts v = .ok c := by
  induction parts generalizing v with
  | nil =>
      cases h
      rfl
  | cons s rest ih =>
      rw [Value.follow?_cons] at h
      obtain ⟨w, hstep, hrest⟩ := Option.bind_eq_some_iff.mp h
      rw [descend_step path hstep, ih hrest]

/-- Following segments ends where the plain lookup does. If the lookup fails, what is in the way is
a fault of the pointer, or the last segment has named no member and counts as null. -/
theorem descend_cases (path : String) {parts : List String} {v : Value}
    (h : ∀ n, ¬ Value.MeetsLong parts v n) :
    (∃ c, Value.follow? parts v = some c ∧ descend path parts v = .ok c) ∨
      Value.follow? parts v = none ∧ (descend path parts v = .ok .null ∨
        ∃ cause place, descend path parts v = .error (.pointer cause place)) := by
  induction parts generalizing v with
  | nil => exact .inl ⟨v, rfl, rfl⟩
  | cons s rest ih =>
      rw [Value.follow?_cons]
      cases hstep : v.step? s with
      | some w =>
          rw [Option.bind_some, descend_step path hstep]
          exact ih fun n meets => h n (.later hstep meets)
      | none =>
          refine .inr ⟨rfl, ?_⟩
          cases v with
          | array items =>
              have hread : Value.IsReadable s :=
                Value.isReadable_iff.mpr fun n long => h n (.here rest items long)
              rw [descend_array]
              rw [Value.step?] at hstep
              rcases Value.indexOfText_cases hread with ⟨i, hi⟩ | ⟨key, hkey⟩
              · rw [hi, List.getElem?_eq_none_iff] at hstep
                simp only [hi, Nat.not_lt_of_le hstep, if_false]
                exact .inr ⟨_, _, rfl⟩
              · rw [hkey]
                exact .inr ⟨_, _, rfl⟩
          | object members =>
              have hm : Members.find? s members = none := hstep
              rw [descend_object, hm]
              -- the member is missing: null, in which a further segment leads nowhere
              cases rest with
              | nil => exact .inl rfl
              | cons s' rest => exact .inr ⟨_, _, rfl⟩
          | _ => exact .inr ⟨_, _, rfl⟩

/-- What a pointer says about a document in which its path leads to a value, or nowhere. -/
structure Resolves (path : String) (doc : Value) (found : Option Value) : Prop where
  leads : (ofPath path).leads doc = .ok found.isSome
  value : (ofPath path).value doc = .ok (found.getD .null)
  fails : found = none →
    (ofPath path).valueOrFail doc = .error (.pointer (.absent path) (some path)) ∧
      resolve doc (.string path) = .error (.pointer (.absent path) (some path))
  succeeds : ∀ v, found = some v →
    (ofPath path).valueOrFail doc = .ok v ∧ resolve doc (.string path) = .ok v
  locate : ∃ place, (ofPath path).locate doc = .ok place ∧ place.found = found.isSome ∧
    ((ofPath path).isRoot = false → ∀ v, found = some v →
      (ofPath path).parent doc = .ok place.container ∧
        ∃ k, place.key = some k ∧ place.container.get k.asValue = .ok v)
  noParent : (ofPath path).isRoot = true ∨ (ofPath path).wellFormed = false →
    ∃ cause, (ofPath path).parent doc = .error (.pointer cause (some path))
  parent : (ofPath path).isRoot = false → ∀ v, found = some v →
    ∃ c last, (ofPath path).parent doc = .ok c ∧ (ofPath path).last = some last ∧
      Value.follow? (ofPath path).parts doc = some c ∧ c.step? last = some v

/-! ### Locations -/

/-- A path that starts with a slash has parts and a last segment. -/
theorem ofPath_of_slash {path : String} (h : path.toList.head? = some '/') :
    ∃ last, Segment.ofPath path = (ofPath path).parts ++ [last] ∧
      (ofPath path).last = some last ∧ (ofPath path).wellFormed = true := by
  obtain ⟨l, hl⟩ := List.head?_eq_some_iff.mp h
  have hne : Segment.ofPath path ≠ [] := by
    rw [Segment.ofPath, hl, Segment.split, if_pos rfl, List.tail_cons]
    simpa using Segment.split_ne_nil l
  have hpath : path ≠ "" := by
    rintro rfl
    cases h
  obtain ⟨hparts, hlast, -⟩ := ofPath_segments hne
  refine ⟨(Segment.ofPath path).getLast hne, ?_, ?_, ?_⟩
  · rw [hparts, List.dropLast_append_getLast]
  · rw [hlast, List.getLast?_eq_some_getLast hne]
  · simp [ofPath, hpath, h]

theorem parent_of_slash {path : String} (h : path.toList.head? = some '/') (doc : Value) :
    (ofPath path).parent doc = descend path (ofPath path).parts doc := by
  obtain ⟨last, -, hlast, hwell⟩ := ofPath_of_slash h
  simp [parent, hwell, hlast, ofPath_path]

/-- The pointer finds a value: its parent, the key in it, and the value there. -/
structure Finds (path : String) (doc : Value) (c : Value) (k : Key) (v : Value) : Prop where
  lookup : lookup path doc = some v
  parent : (ofPath path).parent doc = .ok c
  locate : (ofPath path).locate doc = .ok ⟨c, some k, true⟩
  child : c.child? k = some v
  steps : ∃ last, (ofPath path).last = some last ∧
    Value.follow? (ofPath path).parts doc = some c ∧ c.step? last = some v

/-- A path that starts with a slash leads to a key of its parent, or the plain lookup fails, if no
number that is too long meets an array. -/
theorem locate_cases_of_not_meetsLong {path : String} (h : path.toList.head? = some '/')
    {doc : Value} (hpass : ∀ n, ¬ Value.MeetsLong (Segment.ofPath path) doc n) :
    (∃ c k v, Finds path doc c k v) ∨
      lookup path doc = none ∧ ∃ c, (ofPath path).locate doc = .ok ⟨c, none, false⟩ := by
  obtain ⟨last, hsegments, hlast, -⟩ := ofPath_of_slash h
  have hparent := parent_of_slash h doc
  have hlookup : lookup path doc =
      (Value.follow? (ofPath path).parts doc).bind fun c => c.step? last := by
    rw [lookup_of_slash h, hsegments, Value.follow?_concat]
  rw [hsegments] at hpass
  have hpassParts : ∀ n, ¬ Value.MeetsLong (ofPath path).parts doc n :=
    fun n meets => hpass n (meets.append_right [last])
  rcases descend_cases path hpassParts with ⟨c, hc, hd⟩ | ⟨hnone, hd⟩
  · rw [hd] at hparent
    rw [hc, Option.bind_some] at hlookup
    have hpassLast : ∀ n, ¬ Value.MeetsLong [last] c n := fun n meets => hpass n (meets.after hc)
    rcases Value.existingKey_cases hpassLast with ⟨k, v, hk, hv, hstep⟩ | ⟨hstep, key, hk⟩
    · refine .inl ⟨c, k, v, hlookup.trans hstep, hparent, ?_, hv, last, hlast, hc, hstep⟩
      simp [locate, hlast, hparent, hk]
    · refine .inr ⟨hlookup.trans hstep, c, ?_⟩
      simp [locate, hlast, hparent, hk]
  · refine .inr ⟨by rw [hlookup, hnone, Option.bind_none], .null, ?_⟩
    rcases hd with hd | ⟨cause, place, hd⟩
    · rw [hd] at hparent
      simp [locate, hlast, hparent, Value.existingKey]
    · rw [hd] at hparent
      simp [locate, hlast, hparent]

/-- A path that starts with a slash leads to a key of its parent, or the plain lookup fails. -/
theorem locate_cases {path : String} (h : path.toList.head? = some '/')
    (hread : ∀ s ∈ Segment.ofPath path, Value.IsReadable s) (doc : Value) :
    (∃ c k v, Finds path doc c k v) ∨
      lookup path doc = none ∧ ∃ c, (ofPath path).locate doc = .ok ⟨c, none, false⟩ :=
  locate_cases_of_not_meetsLong h fun _ => Value.MeetsLong.not_of_isReadable hread

/-! ### All ways of asking -/

theorem Resolves.root (doc : Value) : Resolves "" doc (some doc) where
  leads := rfl
  value := rfl
  fails := nofun
  succeeds := by
    rintro v ⟨⟩
    exact ⟨rfl, rfl⟩
  locate := ⟨_, rfl, rfl, nofun⟩
  noParent := fun _ => ⟨_, rfl⟩
  parent := nofun

theorem Finds.resolves {path : String} {doc c v : Value} {k : Key} (h : Finds path doc c k v) :
    Resolves path doc (some v) := by
  obtain ⟨last, hlast, hc, hstep⟩ := h.steps
  have hroot : (ofPath path).isRoot = false := by simp [isRoot, hlast]
  have hleads : (ofPath path).leads doc = .ok true := by simp [Pointer.leads, h.locate, Except.map]
  have hvalue : (ofPath path).value doc = .ok v := by
    simp [Pointer.value, hroot, h.locate, Except.map, valueAt, h.child]
  have hfail : (ofPath path).valueOrFail doc = .ok v := by
    simp only [valueOrFail, hleads, hvalue]
  refine ⟨hleads, hvalue, ?_, ?_, ⟨_, h.locate, rfl, ?_⟩, ?_, ?_⟩
  · intro hnone
    cases hnone
  · rintro w ⟨⟩
    exact ⟨hfail, hfail⟩
  · rintro - w ⟨⟩
    exact ⟨h.parent, k, rfl, Value.get_asValue h.child⟩
  · rintro (hr | hw)
    · rw [hroot] at hr
      cases hr
    · have := h.parent
      simp [Pointer.parent, hw] at this
  · rintro - w ⟨⟩
    exact ⟨c, last, h.parent, hlast, hc, hstep⟩

/-- A pointer that leads nowhere says so in every way. -/
theorem Resolves.absent {path : String} {doc c : Value}
    (hlocate : (ofPath path).locate doc = .ok ⟨c, none, false⟩)
    (hparent : (ofPath path).isRoot = true ∨ (ofPath path).wellFormed = false →
      ∃ cause, (ofPath path).parent doc = .error (.pointer cause (some path))) :
    Resolves path doc none := by
  have hleads : (ofPath path).leads doc = .ok false := by simp [Pointer.leads, hlocate, Except.map]
  have hroot : (ofPath path).isRoot = false := by
    by_contra hr
    simp only [Bool.not_eq_false, isRoot, Bool.and_eq_true, Option.isNone_iff_eq_none] at hr
    simp [Pointer.locate, hr] at hlocate
  have hfail : (ofPath path).valueOrFail doc =
      .error (.pointer (.absent path) (some path)) := by
    simp only [valueOrFail, hleads, ofPath_path]
  have hvalue : (ofPath path).value doc = .ok .null := by
    simp [Pointer.value, hroot, hlocate, Except.map, valueAt]
  refine ⟨hleads, hvalue, fun _ => ⟨hfail, hfail⟩, ?_, ⟨_, hlocate, rfl, ?_⟩, hparent, ?_⟩
  · intro v hv
    cases hv
  · intro _ v hv
    cases hv
  · intro _ v hv
    cases hv

theorem resolves_malformed {path : String} (hroot : path ≠ "") (h : path.toList.head? ≠ some '/')
    (doc : Value) : Resolves path doc none := by
  have hwell : (ofPath path).wellFormed = false := by simp [ofPath, hroot, h]
  have hparent : (ofPath path).parent doc = .error (.pointer (.malformed path) (some path)) := by
    simp [Pointer.parent, hwell, ofPath_path]
  obtain ⟨last, hlast⟩ : ∃ last, (ofPath path).last = some last := by simp [ofPath, hroot]
  have hlocate : (ofPath path).locate doc = .ok ⟨.null, none, false⟩ := by
    simp [Pointer.locate, hlast, hparent]
  exact Resolves.absent hlocate fun _ => ⟨_, hparent⟩

/-- Every way of asking a pointer agrees with the plain lookup of its path, in every document, if no
segment is a number that is too long to be read. -/
theorem resolves_lookup {path : String} (hread : ∀ s ∈ Segment.ofPath path, Value.IsReadable s)
    (doc : Value) : Resolves path doc (lookup path doc) := by
  by_cases hroot : path = ""
  · subst hroot
    exact Resolves.root doc
  · by_cases hslash : path.toList.head? = some '/'
    · rcases locate_cases hslash hread doc with ⟨c, k, v, h⟩ | ⟨hnone, c, hlocate⟩
      · rw [h.lookup]
        exact h.resolves
      · rw [hnone]
        refine Resolves.absent hlocate ?_
        obtain ⟨last, -, hlast, hwell⟩ := ofPath_of_slash hslash
        rintro (hr | hw)
        · simp [isRoot, hlast] at hr
        · rw [hwell] at hw
          cases hw
    · rw [lookup, if_neg hroot, if_neg hslash]
      exact resolves_malformed hroot hslash doc

/-- A path through a member, a null and an index. -/
theorem resolves_lookup_null :
    (∀ s ∈ Segment.ofPath "/a/1/b", Value.IsReadable s) ∧
      Resolves "/a/1/b" (.object [("a", .array [.null, .object [("b", .null)]])]) (some .null) ∧
      Resolves "/a/1/b" (.object [("a", .array [.null, .null])]) none := by
  have hread : ∀ s ∈ Segment.ofPath "/a/1/b", Value.IsReadable s := by
    have hsegments : Segment.ofPath "/a/1/b" = ["a", "1", "b"] := rfl
    rw [hsegments]
    simp only [List.mem_cons, List.not_mem_nil, or_false, forall_eq_or_imp, forall_eq]
    decide
  exact ⟨hread, resolves_lookup hread _, resolves_lookup hread _⟩

/-! ### Indexes that are too long -/

/-- A single segment that is a number with too many digits cannot be looked up in an array. -/
theorem leads_of_longNumber {path s : String} (hslash : path.toList.head? = some '/')
    (hsegments : Segment.ofPath path = [s]) {n : Nat}
    (h : Value.indexOfText s = .error (.longNumber n)) (items : List Value) :
    lookup path (.array items) = none ∧
      (ofPath path).leads (.array items) = .error (.longNumber n) := by
  obtain ⟨last, hparts, hlast, hwell⟩ := ofPath_of_slash hslash
  rw [hsegments] at hparts
  obtain ⟨hnil, hs⟩ : [] = (ofPath path).parts ∧ [s] = [last] := List.append_inj' hparts rfl
  obtain rfl : s = last := List.singleton_inj.mp hs
  constructor
  · rw [lookup_of_slash hslash, hsegments, Value.follow?_cons, Value.step?, h]
    rfl
  · simp [leads, locate, hlast, parent, hwell, ← hnil, descend, Value.existingKey, Value.indexBelow,
      Value.parseIndex, h, Except.map]

/-- An index of so many digits, and a line feed after it. -/
def nines (n : Nat) : String :=
  String.ofList (List.replicate n '9' ++ ['\n'])

theorem isIndexText_replicate {n : Nat} (h : 0 < n) :
    Value.isIndexText (List.replicate n '9') = true := by
  cases n with
  | zero => cases h
  | succ n => simp [List.replicate_succ, Value.isIndexText, Value.isIndexDigit]

theorem indexOfText_nines {n : Nat} (h : Value.indexDigitLimit < n) :
    Value.indexOfText (nines n) = .error (.longNumber n) := by
  have hdrop : Value.dropLineFeed (List.replicate n '9' ++ ['\n']) = List.replicate n '9' := by
    simp [Value.dropLineFeed]
  rw [Value.indexOfText, nines, String.toList_ofList, hdrop]
  simp [isIndexText_replicate (Nat.zero_lt_of_lt h), Nat.not_le_of_lt h]

theorem segments_nines (n : Nat) : Segment.ofPath ("/" ++ nines n) = [nines n] := by
  refine Segment.ofPath_plain ?_ ?_
  · simp [nines, List.mem_replicate]
  · simp [nines, List.mem_replicate]

/-- The line feed is no digit, yet what stands before it is taken for an index.  So its digits are
too many to be read, and asking whether the path leads anywhere is a fault, though it leads
nowhere. -/
theorem leads_line_feed :
    (∀ s ∈ Segment.ofPath ("/" ++ nines 4301), s.toList.all Value.isIndexDigit = false) ∧
      lookup ("/" ++ nines 4301) (.array []) = none ∧
      (ofPath ("/" ++ nines 4301)).leads (.array []) = .error (.longNumber 4301) := by
  have hlong : Value.indexOfText (nines 4301) = .error (.longNumber 4301) :=
    indexOfText_nines (by decide)
  refine ⟨?_, leads_of_longNumber (by simp) (segments_nines 4301) hlong []⟩
  intro s hs
  rw [segments_nines, List.mem_singleton] at hs
  subst hs
  have hend : '\n' ∈ (nines 4301).toList := by
    rw [nines, String.toList_ofList]
    exact List.mem_append_right _ (List.mem_singleton_self _)
  exact List.all_eq_false.mpr ⟨'\n', hend, by decide⟩

end Pointer
end JsonPatch
