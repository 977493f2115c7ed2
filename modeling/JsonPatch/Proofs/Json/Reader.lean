import Mathlib.Algebra.Group.Nat.Defs
import Mathlib.Data.List.Induction
import Mathlib.Data.List.TakeWhile
import JsonPatch.Json.Reader
import JsonPatch.Proofs.Json.Writable
import JsonPatch.Proofs.Value.Json

/-! # What is read

A property of strings, words and numbers that arrays and objects take over from their parts holds of
whatever is read (`read_holds`).  The fuel of the reader carries the induction: values, items and
members are each read with less of it.  So a JSON text stands for a JSON value (`read_isJson`), and
for one that can be written (`read_isWritable`): as many digits are read as are written. -/

namespace JsonPatch.Json

/-- The property holds of the scalars that are read, and of an array or an object if it holds of all
parts. -/
structure IsKept (P : Value → Prop) : Prop where
  string : ∀ s, P (.string s)
  word : ∀ w ∈ words, P w.2
  number : ∀ {c n after}, readNumber c = .ok (n, after) → P (.number n)
  array : ∀ {items}, (∀ v ∈ items, P v) → P (.array items)
  object : ∀ {members : Members}, (∀ m ∈ members, P m.2) → P (.object members)

/-- The property holds of what the reader gives with some fuel, if it holds of what has been read so
far. -/
structure Reads (P : Value → Prop) (fuel : Nat) : Prop where
  value : ∀ {c v after}, readValue fuel c = .ok (v, after) → P v
  items : ∀ {c done items after}, readItems fuel c done = .ok (items, after) →
    (∀ v ∈ done, P v) → ∀ v ∈ items, P v
  members : ∀ {c done members after}, readMembers fuel c done = .ok (members, after) →
    (∀ m ∈ done, P m.2) → ∀ m ∈ members, P m.2

section Reads

variable {P : Value → Prop} {fuel : Nat} {c after : Cursor}

theorem readValue_holds (hP : IsKept P) (ih : Reads P fuel) {v : Value}
    (h : readValue (fuel + 1) c = .ok (v, after)) : P v := by
  rw [readValue] at h
  split at h
  · split at h <;> cases h
    exact hP.string _
  · dsimp only at h
    split at h
    · cases h
      exact hP.object (List.forall_mem_nil _)
    · split at h
      · cases h
      · rename_i hm
        cases h
        exact hP.object (ih.members hm (List.forall_mem_nil _))
  · dsimp only at h
    split at h
    · cases h
      exact hP.array (List.forall_mem_nil _)
    · split at h
      · cases h
      · rename_i hi
        cases h
        exact hP.array (ih.items hi (List.forall_mem_nil _))
  · split at h
    · rename_i hw
      cases h
      exact hP.word _ (List.mem_of_find?_eq_some hw)
    · split at h
      · cases h
      · rename_i hn
        cases h
        exact hP.number hn

theorem readItems_holds (ih : Reads P fuel) {done items : List Value}
    (h : readItems (fuel + 1) c done = .ok (items, after)) (hdone : ∀ v ∈ done, P v) :
    ∀ v ∈ items, P v := by
  rw [readItems] at h
  split at h
  · cases h
  · rename_i v after' hv
    have hnext := List.forall_mem_cons.mpr ⟨ih.value hv, hdone⟩
    dsimp only at h
    split at h
    · cases h
      exact fun w hw => hnext w (List.mem_reverse.mp hw)
    · exact ih.items h hnext
    · cases h

theorem readMembers_holds (ih : Reads P fuel) {done members : Members}
    (h : readMembers (fuel + 1) c done = .ok (members, after)) (hdone : ∀ m ∈ done, P m.2) :
    ∀ m ∈ members, P m.2 := by
  rw [readMembers] at h
  split at h
  · split at h
    · cases h
    · dsimp only at h
      split at h
      · split at h
        · cases h
        · rename_i v after' hv
          have hnext : ∀ name, ∀ m ∈ Members.put name v done, P m.2 := by
            intro name m hm
            rcases Members.mem_put hm with heq | hm
            · exact heq ▸ ih.value hv
            · exact hdone m hm
          split at h
          · cases h
            exact hnext _
          · exact ih.members h (hnext _)
          · cases h
      · cases h
  · cases h

theorem reads (hP : IsKept P) : ∀ fuel, Reads P fuel
  | 0 => ⟨nofun, nofun, nofun⟩
  | fuel + 1 =>
      have ih := reads hP fuel
      ⟨readValue_holds hP ih, readItems_holds ih, readMembers_holds ih⟩

/-- What is read from a text has every property that is kept. -/
theorem read_holds (hP : IsKept P) {text : List Char} {v : Value} (h : read text = .ok v) :
    P v := by
  have hall : readAll text = .ok v := by
    unfold read at h
    split at h <;> cases h
    assumption
  unfold readAll at hall
  split_ifs at hall
  split at hall
  · cases hall
  · rename_i w after hw
    dsimp only at hall
    split_ifs at hall
    cases hall
    exact (reads hP _).value hw

end Reads

/-! ### JSON values -/

theorem isJson_isKept : IsKept Value.IsJson where
  string _ := rfl
  word := by
    decide
  number _ := rfl
  array := Value.isJsonItems_iff.mpr
  object := Value.isJsonMembers_iff.mpr

/-- A JSON text stands for a JSON value. -/
theorem read_isJson {text : List Char} {v : Value} (h : read text = .ok v) : v.IsJson :=
  read_holds isJson_isKept h

/-! ### Values that can be written -/

/-- Digits stand for a number with no more digits. -/
theorem decimal_lt {digits : List Char} (h : ∀ c ∈ digits, Text.isAsciiDigit c = true) :
    decimal digits < 10 ^ digits.length := by
  induction digits using List.reverseRecOn with
  | nil => exact Nat.one_pos
  | append_singleton digits c ih =>
      rw [List.forall_mem_append, List.forall_mem_singleton] at h
      have hrest := ih h.1
      have hc : c.toNat - 0x30 < 10 := by
        have hle := (Bool.and_eq_true_iff.mp h.2).2
        have hnine : c.toNat ≤ 0x39 := by simpa [Char.le_def, UInt32.le_iff_toNat_le] using hle
        omega
      have hdecimal : decimal (digits ++ [c]) = decimal digits * 10 + (c.toNat - 0x30) := by
        rw [decimal, List.foldl_append]
        rfl
      rw [hdecimal, List.length_append, List.length_singleton, Nat.pow_succ]
      omega

theorem isAsciiDigit_of_wholeDigits? {s digits : List Char} (h : wholeDigits? s = some digits) :
    ∀ c ∈ digits, Text.isAsciiDigit c = true := by
  unfold wholeDigits? at h
  split at h
  · cases h
    exact List.forall_mem_singleton.mpr rfl
  · dsimp only at h
    split_ifs at h
    cases h
    exact fun c hc => List.mem_takeWhile_imp hc

theorem pow_digitLimit : 10 ^ digitLimit = integerBound := by
  decide +kernel

theorem isWritable_of_lt {n : Int} (h : n.natAbs < 10 ^ digitLimit) :
    isWritable (.number (.int n)) = true := by
  rw [isWritable, ← pow_digitLimit]
  exact decide_eq_true h

/-- An integer has no more digits than are written. -/
theorem isWritable_readNumber {c after : Cursor} {n : Number} (h : readNumber c = .ok (n, after)) :
    isWritable (.number n) = true := by
  unfold readNumber at h
  dsimp only at h
  split at h
  · cases h
  · rename_i whole hwhole
    have hdecimal := decimal_lt (isAsciiDigit_of_wholeDigits? hwhole)
    split at h
    · split_ifs at h with hlong hnegative
      all_goals
        have hbound : decimal whole < 10 ^ digitLimit :=
          hdecimal.trans_le (Nat.pow_le_pow_right (by decide) (Nat.le_of_not_lt hlong))
        cases h
      · exact isWritable_of_lt (by rwa [Int.natAbs_neg, Int.natAbs_natCast])
      · exact isWritable_of_lt (by rwa [Int.natAbs_natCast])
    · cases h
      rfl

theorem isWritable_isKept : IsKept fun v => isWritable v = true where
  string _ := rfl
  word := by
    decide
  number := isWritable_readNumber
  array := isWritableItems_iff.mpr
  object := isWritableMembers_iff.mpr

/-- A JSON text stands for a value that can be written. -/
theorem read_isWritable {text : List Char} {v : Value} (h : read text = .ok v) :
    isWritable v = true :=
  read_holds isWritable_isKept h

end JsonPatch.Json
