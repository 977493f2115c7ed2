import JsonPatch.Proofs.Log.Secret
import JsonPatch.Proofs.Value.Parts
import JsonPatch.Proofs.Value.Place

/-! # What redaction keeps and what it takes out

Redaction goes by places.  A place is open if no sensitive name leads to it.  At an open place every
part of a value is still there, changed by nothing but the rules of `Shown`; a sensitive name holds
the marker, wherever it stands; no text that is left has a secret in it; and there is nothing more
to redact (`scrub_redacted`). -/

namespace JsonPatch.Redaction

/-! ### Texts -/

/-- What becomes of a part of a value that no sensitive name leads to. -/
inductive Shown : Value → Value → Prop where
  | bearer {s : String} (h : HasBearer s) : Shown (.string s) (.string marker)
  | address {s : String} (hno : ¬ HasBearer s) (h : HasAddress s) :
      Shown (.string s) (.string addressMarker)
  | clean {s : String} (h : IsClean s) : Shown (.string s) (.string s)
  /-- The elements are redacted, and there are as many. -/
  | array {items items' : List Value} (h : items'.length = items.length) :
      Shown (.array items) (.array items')
  /-- The values of the members are redacted, and the names stay in their order. -/
  | object {members members' : Members} (h : Members.names members' = Members.names members) :
      Shown (.object members) (.object members')
  | other {v : Value} (hs : v.kind? ≠ some .string) (hc : v.isContainer = false) : Shown v v

theorem shown_scrubText (s : String) : Shown (.string s) (.string (scrubText s)) := by
  unfold scrubText
  split_ifs with hbearer haddress
  · exact .bearer (hasBearer_iff.mp hbearer)
  · exact .address (mt hasBearer_iff.mpr hbearer) (hasAddress_iff.mp haddress)
  · exact .clean ⟨mt hasBearer_iff.mpr hbearer, mt hasAddress_iff.mpr haddress⟩

theorem isClean_iff {s : String} :
    IsClean s ↔ hasBearer s.toList = false ∧ hasAddress s.toList = false := by
  rw [IsClean, ← hasBearer_iff, ← hasAddress_iff, Bool.not_eq_true, Bool.not_eq_true]

theorem isClean_marker : IsClean marker := isClean_iff.mpr (by decide)

theorem isClean_addressMarker : IsClean addressMarker := isClean_iff.mpr (by decide)

theorem isClean_scrubText (s : String) : IsClean (scrubText s) := by
  have h := shown_scrubText s
  generalize scrubText s = t at h
  cases h with
  | bearer _ => exact isClean_marker
  | address _ _ => exact isClean_addressMarker
  | clean h => exact h
  | other hs _ => exact absurd rfl hs

theorem scrubText_of_isClean {s : String} (h : IsClean s) : scrubText s = s := by
  obtain ⟨hbearer, haddress⟩ := isClean_iff.mp h
  rw [scrubText, hbearer, haddress]
  rfl

/-! ### Values -/

/-- What becomes of the value under a name. -/
def scrubUnder (name : String) (v : Value) : Value :=
  if isSensitive name then .string marker else scrub v

theorem scrub_array (items : List Value) : scrub (.array items) = .array (items.map scrub) := by
  rw [scrub]
  congr 1
  induction items with
  | nil => rfl
  | cons v rest ih => rw [scrubItems, ih, List.map_cons]

theorem scrub_object (members : Members) :
    scrub (.object members) = .object (members.map fun m => (m.1, scrubUnder m.1 m.2)) := by
  rw [scrub]
  congr 1
  induction members with
  | nil => rfl
  | cons m rest ih =>
      rw [scrubMembers, ih, List.map_cons]
      rfl

theorem shown_scrub (v : Value) : Shown v (scrub v) := by
  cases v with
  | string s => exact shown_scrubText s
  | array items =>
      rw [scrub_array]
      exact .array (List.length_map scrub)
  | object members =>
      rw [scrub_object]
      exact .object (Members.names_mapNamed scrubUnder members)
  | _ => exact .other (by simp [Value.kind?]) rfl

theorem isClean_of_scrub {v : Value} {s : String} (h : .string s = scrub v) : IsClean s := by
  cases v with
  | string t =>
      cases h
      exact isClean_scrubText t
  | _ => cases h

/-- There is nothing more to redact. -/
theorem scrub_scrub (v : Value) : scrub (scrub v) = scrub v := by
  induction v using Value.partsInduction with
  | string s => exact congrArg Value.string (scrubText_of_isClean (isClean_scrubText s))
  | array items ih =>
      rw [scrub_array, scrub_array, List.map_map]
      exact congrArg Value.array (List.map_congr_left ih)
  | object members ih =>
      rw [scrub_object, scrub_object, List.map_map]
      refine congrArg Value.object (List.map_congr_left fun m hm => congrArg (Prod.mk m.1) ?_)
      change scrubUnder m.1 (scrubUnder m.1 m.2) = scrubUnder m.1 m.2
      unfold scrubUnder
      split_ifs
      · rfl
      · exact ih m hm
  | _ => rfl

/-! ### Places -/

/-- What becomes of the value at a key. -/
def scrubAt : Key → Value → Value
  | .member name, v => scrubUnder name v
  | .index _, v => scrub v

theorem child?_scrub (v : Value) (k : Key) : (scrub v).child? k = (v.child? k).map (scrubAt k) := by
  cases v with
  | array items =>
      rw [scrub_array]
      cases k with
      | index i => exact List.getElem?_map
      | member name => rfl
  | object members =>
      rw [scrub_object]
      cases k with
      | index i => rfl
      | member name => exact Members.find?_mapNamed scrubUnder name members
  | _ => rfl

/-- No sensitive name leads to the place. -/
def IsOpen (place : List Key) : Prop :=
  ∀ name, .member name ∈ place → isSensitive name = false

theorem scrubAt_of_isOpen {k : Key} {place : List Key} (h : IsOpen (k :: place)) :
    scrubAt k = scrub := by
  cases k with
  | index i => rfl
  | member name =>
      have hname := h name List.mem_cons_self
      funext v
      rw [scrubAt, scrubUnder, hname]
      rfl

/-- At an open place stands the redacted part of that place. -/
theorem at?_scrub {place : List Key} (h : IsOpen place) (v : Value) :
    (scrub v).at? place = (v.at? place).map scrub := by
  induction place generalizing v with
  | nil => rfl
  | cons k place ih =>
      have hplace : IsOpen place := fun name hname => h name (List.mem_cons_of_mem k hname)
      rw [Value.at?_cons, Value.at?_cons, child?_scrub, scrubAt_of_isOpen h]
      cases v.child? k with
      | none => rfl
      | some w => exact ih hplace w

theorem scrubAt_cases (k : Key) (v : Value) :
    scrubAt k v = .string marker ∨ scrubAt k v = scrub v := by
  cases k with
  | index i => exact .inr rfl
  | member name =>
      rw [scrubAt, scrubUnder]
      split_ifs
      · exact .inl rfl
      · exact .inr rfl

/-- Nothing comes in but markers. -/
theorem at?_scrub_cases {place : List Key} {v w : Value} (h : (scrub v).at? place = some w) :
    w = .string marker ∨ ∃ u, v.at? place = some u ∧ w = scrub u := by
  induction place generalizing v with
  | nil => exact .inr ⟨v, rfl, (Option.some.inj h).symm⟩
  | cons k place ih =>
      rw [Value.at?_cons, child?_scrub] at h
      rw [Value.at?_cons]
      cases hv : v.child? k with
      | none => rw [hv] at h; cases h
      | some u =>
          rw [hv] at h
          change (scrubAt k u).at? place = some w at h
          rcases scrubAt_cases k u with hu | hu <;> rw [hu] at h
          · -- a marker has no parts
            cases place with
            | nil => exact .inl (Option.some.inj h).symm
            | cons _ _ => cases h
          · exact ih h

theorem at?_scrub_sensitive {place : List Key} {name : String} {v w : Value}
    (h : (scrub v).at? (place ++ [.member name]) = some w) (hname : isSensitive name = true) :
    w = .string marker := by
  rw [Value.at?_append] at h
  obtain ⟨x, hx, hchild⟩ := Option.bind_eq_some_iff.mp h
  rcases at?_scrub_cases hx with rfl | ⟨u, -, rfl⟩
  · cases hchild
  · rw [Value.at?_cons, child?_scrub] at hchild
    cases hu : u.child? (.member name) with
    | none => rw [hu] at hchild; cases hchild
    | some y =>
        rw [hu] at hchild
        have hmarker : scrubAt (.member name) y = .string marker := by
          rw [scrubAt, scrubUnder, hname]
          rfl
        rw [← hmarker]
        exact (Option.some.inj hchild).symm

theorem isClean_at?_scrub {place : List Key} {v : Value} {s : String}
    (h : (scrub v).at? place = some (.string s)) : IsClean s := by
  rcases at?_scrub_cases h with hs | ⟨u, -, hs⟩
  · cases hs
    exact isClean_marker
  · exact isClean_of_scrub hs

/-! ### The whole value -/

/-- The second value is the first one with its secrets taken out, and with nothing else changed. -/
structure Redacted (v w : Value) : Prop where
  shown : ∀ {place u}, IsOpen place → v.at? place = some u →
    ∃ u', w.at? place = some u' ∧ Shown u u'
  secret : ∀ {place name u}, w.at? (place ++ [.member name]) = some u → isSensitive name = true →
    u = .string marker
  nothingNew : ∀ {place u'}, w.at? place = some u' →
    u' = .string marker ∨ ∃ u, v.at? place = some u ∧ Shown u u'
  clean : ∀ {place s}, w.at? place = some (.string s) → IsClean s
  stable : scrub w = w

/-- Redaction takes out every secret and changes nothing else, in every value.  In a JSON value no
object has two members of one name, so each of its parts has a place of its own. -/
theorem scrub_redacted (v : Value) : Redacted v (scrub v) where
  shown {place u} hopen hu := by
    refine ⟨scrub u, ?_, shown_scrub u⟩
    rw [at?_scrub hopen, hu]
    rfl
  secret := at?_scrub_sensitive
  nothingNew {place u'} hu' := by
    refine (at?_scrub_cases hu').imp_right ?_
    rintro ⟨u, hu, rfl⟩
    exact ⟨u, hu, shown_scrub u⟩
  clean := isClean_at?_scrub
  stable := scrub_scrub v

example : scrub (.object [
      ("Cookie", .object [("id", .number (.int 7))]),
      ("note", .array [.string "BEARER\tabc", .string "from a@b.org", .string "bearer", .null])]) =
    .object [
      ("Cookie", .string "[REDACTED]"),
      ("note", .array [.string "[REDACTED]", .string "[REDACTED_EMAIL]", .string "bearer", .null])] := by
  rfl

end JsonPatch.Redaction
