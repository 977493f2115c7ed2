import JsonPatch.Proofs.InPlace
import JsonPatch.Proofs.Value.Token

/-! # Containers changed in their place

Reading, overwriting, taking out and inserting in one container by a key that may not fit.  The
functions on values settle the key once, by `existingKey` or `insertionKey`.  Here the same work is
done by programs on a container that is changed in its place: each of them looks at the container
and the key on its own, with a guard of its own, before it changes anything.

* `get_outcome` to `delete_outcome`: a program does what its function says, and a fault leaves the
  container as it is.
* `agreeOnPresence`: whether something is there is the same question for all of them.
* `fixesKey` and `inserts`: which keys an array takes, by the numbers that keys are read as
  (`IsRead`).  The grammar of indexes alone (`IsIndex`) decides this for every key that is not
  misjudged (`Misjudges`).
* `access_agrees` puts these together, and `insert_line_feed` is a key that is misjudged. -/

namespace JsonPatch.Container

open Value (appendMarker indexBelow parseIndex IsNumeral Spells indexDigitLimit)

/-- A program on one container. -/
abbrev Task (α : Type) := InPlace Fault Value α

/-! ### The programs -/

/-- The index that a key stands for, if it lies below a bound. -/
def index (bound : Nat) (key : Value) : Task Nat :=
  MonadExcept.ofExcept (indexBelow bound key)

/-- The value at a key. -/
def get (key : Value) : Task Value := do
  match ← getThe Value with
  | .object members =>
    match key with
    | .string name =>
      match Members.find? name members with
      | some v => return v
      | none => throw (.missingKey key)
    | _ => throw (.missingKey key)
  | .array items =>
    let i ← index items.length key
    return items.getD i .null
  | _ => throw (.missingKey key)

/-- Whether there is a value at a key. -/
def contains (key : Value) : Task Bool := do
  match ← getThe Value with
  | .object members =>
    match key with
    | .string name => return Members.has name members
    | _ => return false
  | .array items =>
    tryCatch (do let _ ← index items.length key; return true) fun
      | .missingKey _ => return false
      | f => throw f
  | _ => return false

/-- Whether a key stands for the place after the last element. -/
def isAppendMarker : Value → Bool
  | .string token => token = appendMarker
  | _ => false

/-- Set a member of an object, or insert into an array before an index or at the end. -/
def insert (key new : Value) : Task Unit := do
  match ← getThe Value with
  | .object members =>
    match key with
    | .string name => set (Value.object (Members.put name new members))
    | _ => throw (.missingKey key)
  | .array items =>
    if isAppendMarker key then set (Value.array (items ++ [new]))
    else
      let i ← index (items.length + 1) key
      set (Value.array (items.insertIdx i new))
  | _ => throw (.missingKey key)

/-- Overwrite the value at a key that is there. -/
def assign (key new : Value) : Task Unit := do
  match ← getThe Value with
  | .object members =>
    match key with
    | .string name =>
      if Members.has name members then set (Value.object (Members.put name new members))
      else throw (.missingKey key)
    | _ => throw (.missingKey key)
  | .array items =>
    let i ← index items.length key
    set (Value.array (items.set i new))
  | _ => throw (.missingKey key)

/-- Take out the value at a key that is there, and return it. -/
def delete (key : Value) : Task Value := do
  match ← getThe Value with
  | .object members =>
    match key with
    | .string name =>
      match Members.find? name members with
      | some v =>
        set (Value.object (Members.erase name members))
        return v
      | none => throw (.missingKey key)
    | _ => throw (.missingKey key)
  | .array items =>
    let i ← index items.length key
    set (Value.array (items.eraseIdx i))
    return items.getD i .null
  | _ => throw (.missingKey key)

/-- What is left of a container and returned, given the changed one or the fault that refuses the
change. -/
def changed (c : Value) : Except Fault Value → Except Fault Unit × Value
  | .ok c' => (.ok (), c')
  | .error f => (.error f, c)

/-- What is left of a container and returned, given what is taken out and the rest. -/
def taken (c : Value) : Except Fault (Value × Value) → Except Fault Value × Value
  | .ok (v, c') => (.ok v, c')
  | .error f => (.error f, c)

/-! ### What the programs do -/

section Outcome

open InPlace (outcome outcome_bind outcome_tryCatch)

variable (key new c : Value)

theorem index_outcome (bound : Nat) :
    outcome (index bound key) c = (indexBelow bound key, c) :=
  InPlace.outcome_ofExcept _ _

theorem get_outcome : outcome (get key) c = (c.get key, c) := by
  rw [get, outcome_bind, InPlace.outcome_get]
  cases c with
  | object members =>
      cases key with
      | string name =>
          dsimp only
          rw [Value.get, Value.existingKey, Members.has]
          cases h : Members.find? name members with
          | some v => simp [Value.child?, h, Except.map]
          | none => simp [Except.map]
      | _ => rfl
  | array items =>
      dsimp only
      rw [outcome_bind, index_outcome, Value.get, Value.existingKey]
      cases indexBelow items.length key with
      | ok i => simp [Value.child?, Except.map]
      | error f => rfl
  | _ => rfl

theorem contains_outcome : outcome (contains key) c = (c.contains key, c) := by
  rw [contains, outcome_bind, InPlace.outcome_get]
  cases c with
  | object members =>
      cases key with
      | string name =>
          dsimp only
          rw [Value.contains, Value.existingKey]
          cases Members.has name members <;> rfl
      | _ => rfl
  | array items =>
      dsimp only
      rw [outcome_tryCatch, outcome_bind, index_outcome, Value.contains, Value.existingKey]
      cases indexBelow items.length key with
      | ok i => rfl
      | error f => cases f <;> rfl
  | _ => rfl

theorem insert_outcome : outcome (insert key new) c = changed c (c.insert key new) := by
  rw [insert, outcome_bind, InPlace.outcome_get]
  cases c with
  | object members => cases key <;> rfl
  | array items =>
      -- the way of all keys but the append marker
      have hindex : ∀ key : Value, outcome (do
            let i ← index (items.length + 1) key
            set (Value.array (items.insertIdx i new)) : Task Unit) (.array items) =
          changed (.array items) (((indexBelow (items.length + 1) key).map Key.index).map fun k =>
            (Value.array items).insertAt k new) := by
        intro key
        rw [outcome_bind, index_outcome]
        cases indexBelow (items.length + 1) key <;> rfl
      cases key with
      | string token =>
          dsimp only
          rw [isAppendMarker, Value.insert, Value.insertionKey]
          by_cases h : token = appendMarker
          · simp [h, Except.map, changed, Value.insertAt]
          · simpa [h] using hindex (.string token)
      | _ => exact hindex _
  | _ => rfl

theorem assign_outcome : outcome (assign key new) c = changed c (c.assign key new) := by
  rw [assign, outcome_bind, InPlace.outcome_get]
  cases c with
  | object members =>
      cases key with
      | string name =>
          dsimp only
          rw [Value.assign, Value.existingKey]
          cases Members.has name members <;> rfl
      | _ => rfl
  | array items =>
      dsimp only
      rw [outcome_bind, index_outcome, Value.assign, Value.existingKey]
      cases indexBelow items.length key <;> rfl
  | _ => rfl

theorem delete_outcome : outcome (delete key) c = taken c (c.delete key) := by
  rw [delete, outcome_bind, InPlace.outcome_get]
  cases c with
  | object members =>
      cases key with
      | string name =>
          dsimp only
          rw [Value.delete, Value.existingKey, Members.has]
          cases h : Members.find? name members with
          | some v =>
              dsimp only
              rw [outcome_bind, InPlace.outcome_set]
              simp [Value.child?, Value.deleteAt, h, Except.map, taken]
          | none => simp [Except.map, taken]
      | _ => rfl
  | array items =>
      dsimp only
      rw [outcome_bind, index_outcome, Value.delete, Value.existingKey]
      cases indexBelow items.length key with
      | ok i =>
          dsimp only
          rw [outcome_bind, InPlace.outcome_set]
          simp [Value.child?, Value.deleteAt, Except.map, taken]
      | error f => rfl
  | _ => rfl

end Outcome

/-! ### What is there -/

theorem parseIndex_error {key : Value} {f : Fault} (h : parseIndex key = .error f) :
    f = .missingKey key ∨ ∃ n, f = .longNumber n := by
  unfold parseIndex at h
  split at h
  · unfold Value.indexOfText at h
    dsimp only at h
    split_ifs at h
    · exact .inr ⟨_, (Except.error.inj h).symm⟩
    · exact .inl (Except.error.inj h).symm
  · cases h
  · exact .inl (Except.error.inj h).symm

theorem indexBelow_error {bound : Nat} {key : Value} {f : Fault}
    (h : indexBelow bound key = .error f) : f = .missingKey key ∨ ∃ n, f = .longNumber n := by
  unfold indexBelow at h
  split at h
  · split_ifs at h
    exact .inl (Except.error.inj h).symm
  · rename_i f' hf
    cases h
    exact parseIndex_error hf

/-- A key names a place, or it is missing, or it has too many digits. -/
theorem existingKey_error {c key : Value} {f : Fault} (h : c.existingKey key = .error f) :
    f = .missingKey key ∨ ∃ n, f = .longNumber n := by
  unfold Value.existingKey at h
  split at h
  · split_ifs at h
    exact .inl (Except.error.inj h).symm
  · rename_i items
    cases hi : indexBelow items.length key with
    | ok i => rw [hi] at h; cases h
    | error f' =>
        rw [hi] at h
        cases h
        exact indexBelow_error hi
  · exact .inl (Except.error.inj h).symm

/-- Whether there is a value at a key, and whether it can be read, overwritten and taken out, is
one and the same question. -/
structure AgreeOnPresence (c key : Value) : Prop where
  get : c.contains key = .ok true ↔ ∃ v, c.get key = .ok v
  assign : ∀ new, c.contains key = .ok true ↔ ∃ c', c.assign key new = .ok c'
  delete : c.contains key = .ok true ↔ ∃ v c', c.delete key = .ok (v, c')
  deleted : (c.delete key).map (·.1) = c.get key
  absent : c.contains key = .ok false → c.get key = .error (.missingKey key) ∧
    (∀ new, c.assign key new = .error (.missingKey key)) ∧
    c.delete key = .error (.missingKey key)
  refused : ∀ f, f.sort = .value → (c.contains key = .error f ↔ c.get key = .error f) ∧
    (∀ new, c.contains key = .error f ↔ c.assign key new = .error f) ∧
    (c.contains key = .error f ↔ c.delete key = .error f)
  onlyRefused : ∀ f, c.contains key = .error f → f.sort = .value

theorem agreeOnPresence (c key : Value) : AgreeOnPresence c key := by
  have hdeleted : (c.delete key).map (·.1) = c.get key := by
    rw [Value.delete, Value.get]
    cases c.existingKey key <;> rfl
  cases hk : c.existingKey key with
  | ok k =>
      have hcontains : c.contains key = .ok true := by rw [Value.contains, hk]
      have hget : c.get key = .ok ((c.child? k).getD .null) := by rw [Value.get, hk]; rfl
      have hassign : ∀ new, c.assign key new = .ok (c.assignAt k new) := by
        intro new
        rw [Value.assign, hk]
        rfl
      have hdelete : c.delete key = .ok ((c.child? k).getD .null, c.deleteAt k) := by
        rw [Value.delete, hk]
        rfl
      constructor <;> simp [hcontains, hget, hassign, hdelete, Except.map]
  | error f =>
      have hget : c.get key = .error f := by rw [Value.get, hk]; rfl
      have hassign : ∀ new, c.assign key new = .error f := by
        intro new
        rw [Value.assign, hk]
        rfl
      have hdelete : c.delete key = .error f := by rw [Value.delete, hk]; rfl
      rcases existingKey_error hk with rfl | ⟨n, rfl⟩
      · have hcontains : c.contains key = .ok false := by rw [Value.contains, hk]
        have hsort : ∀ f : Fault, f.sort = .value → Fault.missingKey key ≠ f := by
          rintro f hf rfl
          cases hf
        constructor <;> simp +contextual [hcontains, hget, hassign, hdelete, Except.map, hsort]
      · have hcontains : c.contains key = .error (.longNumber n) := by rw [Value.contains, hk]
        constructor <;> simp [hcontains, hget, hassign, hdelete, Except.map, Fault.sort]

/-! ### Keys of arrays -/

/-- The number that a key is read as: an integer that is not negative, or a numeral of no more than
so many digits, with a line feed after it or not. -/
inductive IsRead : Value → Nat → Prop where
  | number (i : Nat) : IsRead (.number (.int i)) i
  | token {token : String} {digits : List Char} (spells : Spells token digits)
      (short : digits.length ≤ indexDigitLimit) :
    IsRead (.string token) (Nat.ofDigitChars 10 digits 0)

/-- The index that a key is by the grammar: an integer that is not negative, or a numeral. -/
inductive IsIndex : Value → Nat → Prop where
  | number (i : Nat) : IsIndex (.number (.int i)) i
  | token {token : String} (numeral : IsNumeral token.toList) :
    IsIndex (.string token) (Nat.ofDigitChars 10 token.toList 0)

theorem parseIndex_iff {key : Value} {i : Nat} : parseIndex key = .ok i ↔ IsRead key i := by
  constructor
  · intro h
    unfold parseIndex at h
    split at h
    · obtain ⟨digits, hspells, hshort, rfl⟩ := Value.parseIndex_eq_ok.mp h
      exact .token hspells hshort
    · cases h
      exact .number _
    · cases h
  · rintro (_ | ⟨hspells, hshort⟩)
    · rfl
    · exact Value.parseIndex_eq_ok.mpr ⟨_, hspells, hshort, rfl⟩

/-- The append marker is read as no number. -/
theorem IsRead.ne_appendMarker {key : Value} {i : Nat} (h : IsRead key i) :
    key ≠ .string appendMarker := by
  rintro rfl
  have hindex : Value.indexOfText appendMarker = .ok i := parseIndex_iff.mpr h
  exact Value.ne_appendMarker hindex rfl

theorem IsIndex.ne_appendMarker {key : Value} {i : Nat} (h : IsIndex key i) :
    key ≠ .string appendMarker := by
  rintro rfl
  obtain _ | numeral := h
  rw [← Value.isIndexText_iff] at numeral
  exact absurd numeral (by decide)

section Array

variable {items : List Value} {key new c : Value} {k : Key} {i : Nat}

theorem existingKey_iff :
    (Value.array items).existingKey key = .ok k ↔
      ∃ i, k = .index i ∧ IsRead key i ∧ i < items.length := by
  simp only [← parseIndex_iff]
  exact Value.indexBelow_key

theorem insertionKey_iff :
    (Value.array items).insertionKey key = .ok k ↔ ∃ i ≤ items.length, k = .index i ∧
      (key = .string appendMarker ∧ i = items.length ∨ IsRead key i) := by
  by_cases hkey : key = .string appendMarker
  · subst hkey
    have hread : ∀ i, ¬ IsRead (.string appendMarker) i := fun i h => h.ne_appendMarker rfl
    simp [Value.insertionKey_array, hread]
  · have hindex : (Value.array items).insertionKey key =
        (indexBelow (items.length + 1) key).map Key.index := by
      cases key with
      | string token => exact if_neg fun h => hkey (congrArg Value.string h)
      | _ => rfl
    rw [hindex, Value.indexBelow_key]
    simp only [parseIndex_iff, hkey, false_and, false_or, Nat.lt_succ_iff]
    constructor
    · rintro ⟨i, rfl, hread, hi⟩
      exact ⟨i, hi, rfl, hread⟩
    · rintro ⟨i, hi, rfl, hread⟩
      exact ⟨i, rfl, hread, hi⟩

theorem insert_iff : (Value.array items).insert key new = .ok c ↔ ∃ i ≤ items.length,
    (key = .string appendMarker ∧ i = items.length ∨ IsRead key i) ∧
      c = .array (items.insertIdx i new) := by
  rw [Value.insert]
  constructor
  · intro h
    cases hk : (Value.array items).insertionKey key with
    | error f => rw [hk] at h; cases h
    | ok k =>
        rw [hk] at h
        cases h
        obtain ⟨i, hi, rfl, hread⟩ := insertionKey_iff.mp hk
        exact ⟨i, hi, hread, rfl⟩
  · rintro ⟨i, hi, hread, rfl⟩
    rw [insertionKey_iff.mpr ⟨i, hi, rfl, hread⟩]
    rfl

/-- Reading an array at a key that is read as a number. -/
theorem get_of_isRead (h : IsRead key i) (hi : i < items.length) :
    (Value.array items).get key = .ok items[i] := by
  rw [Value.get, existingKey_iff.mpr ⟨i, rfl, h, hi⟩]
  simp [Except.map, Value.child?, hi]

end Array

/-- A token stands for the index that is read of an array. -/
structure FixesKey (items : List Value) (token : String) : Prop where
  fixed : (∃ key, fixKey (.array items) (.string token) = .ok key) ↔
    (Value.array items).contains (.string token) = .ok true
  index : ∀ key, fixKey (.array items) (.string token) = .ok key →
    ∃ (i : Nat) (h : i < items.length), key = .number (.int i) ∧ IsRead (.string token) i ∧
      (Value.array items).get (.string token) = .ok items[i]

theorem fixKey_iff {items : List Value} {token : String} {key : Value} :
    fixKey (.array items) (.string token) = .ok key ↔
      ∃ i < items.length, key = .number (.int i) ∧ IsRead (.string token) i := by
  simp only [← parseIndex_iff]
  unfold fixKey
  dsimp only
  cases hp : parseIndex (.string token) with
  | error f => cases f <;> simp
  | ok i =>
      dsimp only
      split_ifs with hi
      · simp [hi, eq_comm]
      · simp [hi]

theorem contains_iff {items : List Value} {key : Value} :
    (Value.array items).contains key = .ok true ↔ ∃ i < items.length, IsRead key i := by
  have hkey : (Value.array items).contains key = .ok true ↔
      ∃ k, (Value.array items).existingKey key = .ok k := by
    rw [Value.contains]
    cases (Value.array items).existingKey key with
    | ok k => simp
    | error f => cases f <;> simp
  rw [hkey]
  simp only [existingKey_iff]
  constructor
  · rintro ⟨_, i, rfl, hread, hi⟩
    exact ⟨i, hi, hread⟩
  · rintro ⟨i, hi, hread⟩
    exact ⟨_, i, rfl, hread, hi⟩

theorem fixesKey (items : List Value) (token : String) : FixesKey items token where
  fixed := by
    simp only [fixKey_iff, contains_iff]
    constructor
    · rintro ⟨_, i, hi, rfl, hread⟩
      exact ⟨i, hi, hread⟩
    · rintro ⟨i, hi, hread⟩
      exact ⟨_, i, hi, rfl, hread⟩
  index key h := by
    obtain ⟨i, hi, rfl, hread⟩ := fixKey_iff.mp h
    exact ⟨i, hi, rfl, hread, get_of_isRead hread hi⟩

/-! ### Insertions -/

/-- The key is misjudged in an array of the given length: a numeral with a line feed is taken for
an index of it, or a numeral that is one has too many digits. -/
def Misjudges (length : Nat) (key : Value) : Prop :=
  ∃ token digits, key = .string token ∧ IsNumeral digits ∧
    Nat.ofDigitChars 10 digits 0 ≤ length ∧
    (token.toList = digits ++ ['\n'] ∧ digits.length ≤ indexDigitLimit ∨
      token.toList = digits ∧ indexDigitLimit < digits.length)

/-- Inserting into an array succeeds at its end and at the numbers up to its length, and then the
new value is read there.  The grammar of indexes alone decides for every key that is not
misjudged. -/
structure Inserts (items : List Value) (key new : Value) : Prop where
  succeeds : (∃ c, (Value.array items).insert key new = .ok c) ↔
    key = .string appendMarker ∨ ∃ i ≤ items.length, IsRead key i
  decided : ((∃ c, (Value.array items).insert key new = .ok c) ↔
    key = .string appendMarker ∨ ∃ i ≤ items.length, IsIndex key i) ↔
    ¬ Misjudges items.length key
  read : ∀ c, (Value.array items).insert key new = .ok c → ∃ i ≤ items.length,
    (key = .string appendMarker ∧ i = items.length ∨ IsRead key i ∧ c.get key = .ok new) ∧
      c.get (.number (.int i)) = .ok new

/-- A key is read as the index that it is by the grammar, unless it is misjudged. -/
theorem isRead_iff_of_not_misjudges {length : Nat} {key : Value} (h : ¬ Misjudges length key)
    {i : Nat} (hi : i ≤ length) : IsRead key i ↔ IsIndex key i := by
  constructor
  · rintro (_ | ⟨⟨hnumeral, hplain | hfeed⟩, hshort⟩)
    · exact .number i
    · subst hplain
      exact .token hnumeral
    · exact absurd ⟨_, _, rfl, hnumeral, hi, .inl ⟨hfeed, hshort⟩⟩ h
  · rintro (_ | hnumeral)
    · exact .number i
    · refine .token ⟨hnumeral, .inl rfl⟩ (Nat.le_of_not_lt fun hlong => h ?_)
      exact ⟨_, _, rfl, hnumeral, hi, .inr ⟨rfl, hlong⟩⟩

/-- A key that is misjudged is read and no index, or it is an index and not read. -/
theorem Misjudges.differs {length : Nat} {key : Value} (h : Misjudges length key) :
    (∃ i ≤ length, IsRead key i) ∧ (∀ i, ¬ IsIndex key i) ∨
      (∃ i ≤ length, IsIndex key i) ∧ ∀ i, ¬ IsRead key i := by
  obtain ⟨token, digits, rfl, hnumeral, hi, ⟨hfeed, hshort⟩ | ⟨rfl, hlong⟩⟩ := h
  · refine .inl ⟨⟨_, hi, .token ⟨hnumeral, .inr hfeed⟩ hshort⟩, ?_⟩
    rintro i (_ | hplain)
    refine hplain.getLast?_ne ?_
    rw [hfeed, List.getLast?_concat]
  · refine .inr ⟨⟨_, hi, .token hnumeral⟩, ?_⟩
    rintro i (_ | ⟨⟨hnumeral', hplain | hfeed⟩, hshort⟩)
    · rw [← hplain] at hshort
      omega
    · refine hnumeral.getLast?_ne ?_
      rw [hfeed, List.getLast?_concat]

theorem inserts (items : List Value) (key new : Value) : Inserts items key new := by
  have hsucceeds : (∃ c, (Value.array items).insert key new = .ok c) ↔
      key = .string appendMarker ∨ ∃ i ≤ items.length, IsRead key i := by
    simp only [insert_iff]
    constructor
    · rintro ⟨c, i, hi, ⟨hkey, -⟩ | hread, -⟩
      · exact .inl hkey
      · exact .inr ⟨i, hi, hread⟩
    · rintro (hkey | ⟨i, hi, hread⟩)
      · exact ⟨_, items.length, Nat.le_refl _, .inl ⟨hkey, rfl⟩, rfl⟩
      · exact ⟨_, i, hi, .inr hread, rfl⟩
  refine ⟨hsucceeds, ?_, fun c hc => ?_⟩
  · rw [hsucceeds]
    constructor
    · rintro hagree hmisjudged
      rcases hmisjudged.differs with ⟨⟨i, hi, hread⟩, hnone⟩ | ⟨⟨i, hi, hindex⟩, hnone⟩
      · rcases hagree.mp (.inr ⟨i, hi, hread⟩) with hkey | ⟨j, -, hj⟩
        · exact hread.ne_appendMarker hkey
        · exact hnone j hj
      · rcases hagree.mpr (.inr ⟨i, hi, hindex⟩) with hkey | ⟨j, -, hj⟩
        · exact hindex.ne_appendMarker hkey
        · exact hnone j hj
    · intro h
      have hiff : (∃ i ≤ items.length, IsRead key i) ↔ ∃ i ≤ items.length, IsIndex key i :=
        exists_congr fun i => and_congr_right fun hi => isRead_iff_of_not_misjudges h hi
      rw [hiff]
  · obtain ⟨i, hi, hkey, rfl⟩ := insert_iff.mp hc
    have hlt : i < (items.insertIdx i new).length := by
      rw [List.length_insertIdx_of_le_length hi]
      omega
    have hnew : (items.insertIdx i new)[i] = new := List.getElem_insertIdx_self hlt
    refine ⟨i, hi, hkey.imp_right fun hread => ⟨hread, ?_⟩, ?_⟩
    · rw [get_of_isRead hread hlt, hnew]
    · rw [get_of_isRead (.number i) hlt, hnew]

/-! ### In place -/

/-- The programs do in place what the functions on values say.  A container that is only read stays
as it is, and so does one at which a program ends with a fault. -/
structure Performs (c key new : Value) : Prop where
  get : InPlace.outcome (get key) c = (c.get key, c)
  contains : InPlace.outcome (contains key) c = (c.contains key, c)
  insert : InPlace.outcome (insert key new) c = changed c (c.insert key new)
  assign : InPlace.outcome (assign key new) c = changed c (c.assign key new)
  delete : InPlace.outcome (delete key) c = taken c (c.delete key)

/-- Reading, overwriting and taking out agree on what is there, for every container and every key,
and a fault leaves the container as it is.  In an array a token stands for the index that is read,
and a new value goes to the end or to a number up to the length; only a key that is misjudged tells
this from the grammar of indexes. -/
theorem access_agrees (c key new : Value) (items : List Value) (token : String) :
    Performs c key new ∧ AgreeOnPresence c key ∧ FixesKey items token ∧
      Inserts items key new := by
  refine ⟨?_, agreeOnPresence c key, fixesKey items token, inserts items key new⟩
  exact ⟨get_outcome key c, contains_outcome key c, insert_outcome key new c,
    assign_outcome key new c, delete_outcome key c⟩

/-- A numeral with a line feed is no index, but something is inserted at it. -/
theorem insert_line_feed :
    "1\n" ≠ appendMarker ∧ (∀ i, ¬ IsIndex (.string "1\n") i) ∧
      InPlace.outcome (insert (.string "1\n") (.bool true)) (.array [.null]) =
        (.ok (), .array [.null, .bool true]) := by
  refine ⟨by decide, ?_, rfl⟩
  rintro i (_ | numeral)
  rw [← Value.isIndexText_iff] at numeral
  exact absurd numeral (by decide)

end JsonPatch.Container
