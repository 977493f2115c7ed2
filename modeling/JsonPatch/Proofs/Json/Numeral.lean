import JsonPatch.Proofs.Json.Lexeme

/-! # The numbers of JSON text

An integer is a zero or digits that start with another one, and a minus may stand before it.  What
makes a double of it is a fraction, an exponent or both.  Reading a number ends where these do, and
an integer with too many digits stops it (`decides_readNumber`). -/

namespace JsonPatch.Json

/-- Digits, at least one of them, as far as they go. -/
structure Digits (digits s rest : List Char) : Prop where
  run : Run Text.isAsciiDigit digits s rest
  ne_nil : digits ≠ []

theorem digits_iff {digits s rest : List Char} :
    Digits digits s rest ↔ digits = leadingDigits s ∧ (leadingDigits s).isEmpty = false ∧
      rest = s.drop digits.length := by
  constructor
  · rintro ⟨hrun, hne⟩
    obtain ⟨rfl, rfl⟩ := run_iff.mp hrun
    refine ⟨rfl, ?_, rfl⟩
    rw [List.isEmpty_eq_false_iff]
    exact hne
  · rintro ⟨rfl, hne, rfl⟩
    exact ⟨run_iff.mpr ⟨rfl, rfl⟩, List.isEmpty_eq_false_iff.mp hne⟩

/-- Digits start with a digit. -/
theorem Digits.head {digits s rest : List Char} (h : Digits digits s rest) :
    ∃ c ∈ s.head?, Text.isAsciiDigit c = true := by
  obtain ⟨hrun, hne⟩ := h
  cases digits with
  | nil => exact absurd rfl hne
  | cons c digits =>
      refine ⟨c, ?_, hrun.kind_of_mem c List.mem_cons_self⟩
      rw [hrun.split]
      rfl

/-- The digits before the point, and how many they are: a zero alone or digits that start with
another one. -/
inductive Whole : Nat → List Char → List Char → Prop where
  | zero (rest : List Char) : Whole 1 ('0' :: rest) rest
  | digits {digits s rest : List Char} (hzero : s.head? ≠ some '0') (h : Digits digits s rest) :
    Whole digits.length s rest

/-- A number without fraction and exponent. -/
inductive Integer : Nat → List Char → List Char → Prop where
  | plain {n : Nat} {s rest : List Char} (h : Whole n s rest) : Integer n s rest
  | negative {n : Nat} {s rest : List Char} (h : Whole n s rest) : Integer n ('-' :: s) rest

/-- A point and digits. -/
inductive Fraction : List Char → List Char → Prop where
  | mk {digits s rest : List Char} (h : Digits digits s rest) : Fraction ('.' :: s) rest

/-- A sign, if there is one. -/
inductive Sign : List Char → List Char → Prop where
  | absent (s : List Char) : Sign s s
  | plus (s : List Char) : Sign ('+' :: s) s
  | minus (s : List Char) : Sign ('-' :: s) s

/-- A mark and an integer, which may start with zeros. -/
inductive Exponent : List Char → List Char → Prop where
  | mk {mark : Char} {digits s t rest : List Char} (hmark : mark = 'e' ∨ mark = 'E')
    (hsign : Sign s t) (h : Digits digits t rest) : Exponent (mark :: s) rest

/-- A number: an integer, which may not have too many digits, or one with a fraction, an exponent
or both. -/
inductive Numeral : List Char → List Char → Prop where
  | integer {n : Nat} {s rest : List Char} (h : Integer n s rest) (hlimit : n ≤ digitLimit)
    (hf : ∀ u, ¬ Fraction rest u) (he : ∀ u, ¬ Exponent rest u) : Numeral s rest
  | fraction {n : Nat} {s t rest : List Char} (h : Integer n s t) (hf : Fraction t rest)
    (he : ∀ u, ¬ Exponent rest u) : Numeral s rest
  | exponent {n : Nat} {s t rest : List Char} (h : Integer n s t) (he : Exponent t rest) :
    Numeral s rest
  | both {n : Nat} {s t u rest : List Char} (h : Integer n s t) (hf : Fraction t u)
    (he : Exponent u rest) : Numeral s rest

/-- An integer of `n` digits, which are too many. -/
structure LongInteger (n : Nat) (s rest : List Char) : Prop where
  integer : Integer n s rest
  limit : digitLimit < n
  not_fraction : ∀ u, ¬ Fraction rest u
  not_exponent : ∀ u, ¬ Exponent rest u

theorem Numeral.exists_integer {s rest : List Char} (h : Numeral s rest) :
    ∃ n t, Integer n s t := by
  cases h <;> exact ⟨_, _, ‹Integer _ _ _›⟩

theorem whole_iff {n : Nat} {s rest : List Char} :
    Whole n s rest ↔
      ∃ digits, wholeDigits? s = some digits ∧ n = digits.length ∧ rest = s.drop n := by
  constructor
  · rintro (_ | ⟨hzero, h⟩)
    · exact ⟨['0'], rfl, rfl, rfl⟩
    · obtain ⟨rfl, hne, rfl⟩ := digits_iff.mp h
      refine ⟨_, ?_, rfl, rfl⟩
      unfold wholeDigits?
      split
      · exact absurd rfl hzero
      · exact if_neg (by rw [hne]; exact Bool.false_ne_true)
  · rintro ⟨digits, h, rfl, rfl⟩
    unfold wholeDigits? at h
    split at h
    · cases h
      exact .zero _
    · rename_i hzero
      dsimp only at h
      split_ifs at h with hne
      cases h
      refine .digits ?_ (digits_iff.mpr ⟨rfl, Bool.eq_false_iff.mpr hne, rfl⟩)
      cases s with
      | nil => nofun
      | cons c s => exact fun h => hzero s (by cases h; rfl)

theorem fraction_iff {s rest : List Char} :
    Fraction s rest ↔ ∃ digits, fraction? s = some digits ∧ rest = s.drop (digits.length + 1) := by
  constructor
  · rintro ⟨h⟩
    obtain ⟨rfl, hne, rfl⟩ := digits_iff.mp h
    exact ⟨_, if_neg (by rw [hne]; exact Bool.false_ne_true), rfl⟩
  · rintro ⟨digits, h, rfl⟩
    unfold fraction? at h
    split at h
    · dsimp only at h
      split_ifs at h with hne
      cases h
      exact .mk (digits_iff.mpr ⟨rfl, Bool.eq_false_iff.mpr hne, rfl⟩)
    · cases h

/-- The exponent after a mark is read from the digits that stand behind its sign. -/
theorem exponent?_of_sign {mark : Char} {s t : List Char} (hmark : mark = 'e' ∨ mark = 'E')
    (hsign : Sign s t) (ht : s = t → ∀ c ∈ t.head?, c ≠ '-' ∧ c ≠ '+') :
    ∃ p : Int × Nat,
      exponent? (mark :: s) = (if (leadingDigits t).isEmpty then none else some p) ∧
        (mark :: s).drop p.2 = t.drop (leadingDigits t).length := by
  have hmark : (mark == 'e' || mark == 'E') = true := by
    rcases hmark with rfl | rfl <;> rfl
  unfold exponent?
  dsimp only
  rw [if_pos hmark]
  cases hsign with
  | minus => exact ⟨(_, 2 + (leadingDigits t).length), rfl, by rw [Nat.add_comm]; rfl⟩
  | plus => exact ⟨(_, 2 + (leadingDigits t).length), rfl, by rw [Nat.add_comm]; rfl⟩
  | absent =>
      refine ⟨(decimal (leadingDigits s), 1 + (leadingDigits s).length), ?_, ?_⟩
      swap
      · rw [Nat.add_comm]
        rfl
      split
      · exact absurd rfl (ht rfl _ rfl).1
      · exact absurd rfl (ht rfl _ rfl).2
      · rfl

theorem exists_sign (s : List Char) :
    ∃ t, Sign s t ∧ (s = t → ∀ c ∈ t.head?, c ≠ '-' ∧ c ≠ '+') := by
  by_cases h : ∀ c ∈ s.head?, c ≠ '-' ∧ c ≠ '+'
  · exact ⟨s, .absent s, fun _ => h⟩
  · cases s with
    | nil => exact absurd nofun h
    | cons c s =>
        refine ⟨s, ?_, fun he => absurd he (List.cons_ne_self c s)⟩
        by_cases hminus : c = '-'
        · exact hminus ▸ .minus s
        · by_cases hplus : c = '+'
          · exact hplus ▸ .plus s
          · refine absurd (fun d hd => ?_) h
            cases hd
            exact ⟨hminus, hplus⟩

theorem exponent_iff {s rest : List Char} :
    Exponent s rest ↔ ∃ p, exponent? s = some p ∧ rest = s.drop p.2 := by
  constructor
  · rintro ⟨hmark, hsign, h⟩
    obtain ⟨c, hc, hdigit⟩ := h.head
    obtain ⟨rfl, hne, rfl⟩ := digits_iff.mp h
    obtain ⟨p, hp, hdrop⟩ := exponent?_of_sign hmark hsign fun _ d hd => by
      cases Option.mem_unique hc hd
      constructor <;> rintro rfl <;> cases hdigit
    rw [hne] at hp
    exact ⟨p, hp, hdrop.symm⟩
  · rintro ⟨p, h, rfl⟩
    cases s with
    | nil => cases h
    | cons mark s =>
        by_cases hmark : mark = 'e' ∨ mark = 'E'
        · obtain ⟨t, hsign, ht⟩ := exists_sign s
          obtain ⟨p', hp', hdrop⟩ := exponent?_of_sign hmark hsign ht
          rw [h] at hp'
          split_ifs at hp' with hne
          cases hp'
          rw [hdrop]
          exact .mk hmark hsign (digits_iff.mpr ⟨rfl, Bool.eq_false_iff.mpr hne, rfl⟩)
        · unfold exponent? at h
          dsimp only at h
          rw [if_neg (by simpa using hmark)] at h
          cases h

theorem not_fraction_iff {s : List Char} : (∀ u, ¬ Fraction s u) ↔ fraction? s = none := by
  rw [Option.eq_none_iff_forall_not_mem]
  constructor
  · exact fun h digits hd => h _ (fraction_iff.mpr ⟨digits, hd, rfl⟩)
  · intro h u hu
    obtain ⟨digits, hd, -⟩ := fraction_iff.mp hu
    exact h digits hd

theorem not_exponent_iff {s : List Char} : (∀ u, ¬ Exponent s u) ↔ exponent? s = none := by
  rw [Option.eq_none_iff_forall_not_mem]
  constructor
  · exact fun h p hp => h _ (exponent_iff.mpr ⟨p, hp, rfl⟩)
  · intro h u hu
    obtain ⟨p, hp, -⟩ := exponent_iff.mp hu
    exact h p hp

theorem Fraction.not_exponent {s t rest : List Char} (h : Fraction s t) : ¬ Exponent s rest := by
  cases h
  rintro ⟨hmark, -, -⟩
  rcases hmark with hmark | hmark <;> cases hmark

/-- The digits of an integer start behind its sign. -/
theorem integer_iff {n : Nat} {s rest : List Char} :
    Integer n s rest ↔ Whole n (splitSign s).2 rest := by
  unfold splitSign
  split
  · refine ⟨?_, .negative⟩
    rintro (⟨h⟩ | ⟨h⟩)
    · cases h with
      | digits hzero h =>
          obtain ⟨c, hc, hdigit⟩ := h.head
          cases hc
          cases hdigit
    · exact h
  · rename_i hminus
    refine ⟨?_, .plain⟩
    rintro (⟨h⟩ | ⟨h⟩)
    · exact h
    · exact absurd rfl (hminus _)

theorem drop_splitSign (s : List Char) (n : Nat) :
    s.drop ((if (splitSign s).1 then 1 else 0) + n) = (splitSign s).2.drop n := by
  unfold splitSign
  split <;> rw [Nat.add_comm] <;> rfl

section Numeral

variable {s t : List Char} {k : Nat} (h : ∀ n rest, Integer n s rest ↔ n = k ∧ rest = t)
include h

theorem numeral_iff {rest : List Char} :
    Numeral s rest ↔
      (k ≤ digitLimit ∧ (∀ u, ¬ Fraction t u) ∧ (∀ u, ¬ Exponent t u)) ∧ t = rest ∨
        (∃ u, Fraction t u ∧ (Exponent u rest ∨ (∀ u', ¬ Exponent u u') ∧ u = rest)) ∨
        Exponent t rest := by
  constructor
  · rintro (⟨hi, hlimit, hf, he⟩ | ⟨hi, hf, he⟩ | ⟨hi, he⟩ | ⟨hi, hf, he⟩) <;>
      obtain ⟨rfl, rfl⟩ := (h _ _).mp hi
    · exact .inl ⟨⟨hlimit, hf, he⟩, rfl⟩
    · exact .inr (.inl ⟨_, hf, .inr ⟨he, rfl⟩⟩)
    · exact .inr (.inr he)
    · exact .inr (.inl ⟨_, hf, .inl he⟩)
  · have hi : Integer k s t := (h _ _).mpr ⟨rfl, rfl⟩
    rintro (⟨⟨hlimit, hf, he⟩, rfl⟩ | ⟨u, hf, he | ⟨he, rfl⟩⟩ | he)
    · exact .integer hi hlimit hf he
    · exact .both hi hf he
    · exact .fraction hi hf he
    · exact .exponent hi he

theorem longInteger_iff {n : Nat} :
    (∃ rest, LongInteger n s rest) ↔
      n = k ∧ digitLimit < k ∧ (∀ u, ¬ Fraction t u) ∧ ∀ u, ¬ Exponent t u := by
  constructor
  · rintro ⟨rest, hi, hlimit, hf, he⟩
    obtain ⟨rfl, rfl⟩ := (h _ _).mp hi
    exact ⟨rfl, hlimit, hf, he⟩
  · rintro ⟨rfl, hlimit, hf, he⟩
    exact ⟨t, (h _ _).mpr ⟨rfl, rfl⟩, hlimit, hf, he⟩

end Numeral

/-- Where the reader finds no digits, there is no integer. -/
theorem not_integer_of_wholeDigits {s : List Char} (h : wholeDigits? (splitSign s).2 = none)
    {n : Nat} {rest : List Char} : ¬ Integer n s rest := by
  intro hi
  obtain ⟨digits, hd, -⟩ := whole_iff.mp (integer_iff.mp hi)
  rw [h] at hd
  cases hd

/-- The integer has the digits that the reader finds. -/
theorem integer_iff_of_wholeDigits {s whole : List Char}
    (h : wholeDigits? (splitSign s).2 = some whole) (n : Nat) (rest : List Char) :
    Integer n s rest ↔ n = whole.length ∧ rest = (splitSign s).2.drop whole.length := by
  rw [integer_iff, whole_iff, h]
  constructor
  · rintro ⟨_, ⟨⟩, rfl, rfl⟩
    exact ⟨rfl, rfl⟩
  · rintro ⟨rfl, rfl⟩
    exact ⟨_, rfl, rfl, rfl⟩

/-- Reading a number ends where the number does, and an integer with too many digits stops it. -/
theorem decides_readNumber (c : Cursor) :
    Decides ((readNumber c).map (·.2)) (Numeral c.rest)
      fun n => ∃ rest, LongInteger n c.rest rest := by
  have hnone := @not_integer_of_wholeDigits c.rest
  have hsome := @integer_iff_of_wholeDigits c.rest
  have hdrop := drop_splitSign c.rest
  unfold readNumber
  generalize splitSign c.rest = signed at hnone hsome hdrop ⊢
  obtain ⟨negative, body⟩ := signed
  dsimp only at hnone hsome hdrop ⊢
  cases hwhole : wholeDigits? body with
  | none =>
      refine .problem (fun rest h => ?_) fun n h => ?_
      · obtain ⟨n, u, hi⟩ := h.exists_integer
        exact hnone hwhole hi
      · obtain ⟨rest, hlong⟩ := h
        exact hnone hwhole hlong.integer
  | some whole =>
      have hi := hsome hwhole
      have hrest : ∀ n, (c.advance ((if negative then 1 else 0) + whole.length + n)).rest =
          (body.drop whole.length).drop n := fun n => by
        rw [Cursor.advance, List.drop_drop, ← hdrop, Nat.add_assoc]
      dsimp only
      generalize body.drop whole.length = t at hi hrest ⊢
      generalize (if negative then 1 else 0) = signed at hrest ⊢
      cases hf : fraction? t with
      | none =>
          have hnf : ∀ u, ¬ Fraction t u := not_fraction_iff.mpr hf
          cases he : exponent? t with
          | none =>
              have hne : ∀ u, ¬ Exponent t u := not_exponent_iff.mpr he
              dsimp only
              split
              · rename_i hlimit
                refine .tooLong (fun rest => ?_) fun n => ?_
                · simp [numeral_iff hi, hnf, hne, Nat.not_le_of_lt hlimit]
                · simp [longInteger_iff hi, hnf, hne, hlimit]
              · rename_i hlimit
                refine .ok (fun rest => ?_) fun n => ?_
                · have hend : (c.advance (signed + whole.length)).rest = t := hrest 0
                  simp [numeral_iff hi, hnf, hne, Nat.le_of_not_lt hlimit, hend]
                · simp [longInteger_iff hi, hlimit]
          | some p =>
              refine .ok (fun rest => ?_) fun n => ?_
              · simp [numeral_iff hi, hnf, exponent_iff, he, hrest, eq_comm]
              · simp [longInteger_iff hi, not_exponent_iff, he]
      | some digits =>
          have hf' : Fraction t (t.drop (digits.length + 1)) := fraction_iff.mpr ⟨digits, hf, rfl⟩
          have hne : ∀ u, ¬ Exponent t u := fun u => hf'.not_exponent
          cases he : exponent? (t.drop (digits.length + 1)) with
          | none =>
              refine .ok (fun rest => ?_) fun n => ?_
              · simp [numeral_iff hi, fraction_iff, hne, hf, exponent_iff, he, hrest]
              · simp [longInteger_iff hi, not_fraction_iff, hf]
          | some p =>
              obtain ⟨power, length⟩ := p
              have hend : (c.advance (signed + whole.length + (digits.length + 1) + length)).rest =
                  t.drop (digits.length + 1 + length) := by
                rw [Nat.add_assoc]
                exact hrest _
              refine .ok (fun rest => ?_) fun n => ?_
              · simp [numeral_iff hi, fraction_iff, hne, hf, exponent_iff, he, hend, eq_comm]
              · simp [longInteger_iff hi, not_fraction_iff, hf]

/-! ### What numbers start with -/

theorem Whole.head {n : Nat} {s rest : List Char} (h : Whole n s rest) :
    ∃ c ∈ s.head?, Text.isAsciiDigit c = true := by
  cases h with
  | zero => exact ⟨'0', rfl, rfl⟩
  | digits _ h => exact h.head

/-- Behind its sign, an integer starts with a digit. -/
theorem Integer.head {n : Nat} {s rest : List Char} (h : Integer n s rest) :
    ∃ c ∈ (splitSign s).2.head?, Text.isAsciiDigit c = true :=
  (integer_iff.mp h).head

/-- An integer starts with a minus or a digit. -/
theorem not_integer_cons {c : Char} (hminus : c ≠ '-') (hdigit : Text.isAsciiDigit c = false)
    {n : Nat} {s rest : List Char} : ¬ Integer n (c :: s) rest := by
  rintro (⟨h⟩ | ⟨h⟩)
  · obtain ⟨d, hd, hdigit'⟩ := h.head
    cases hd
    rw [hdigit] at hdigit'
    cases hdigit'
  · exact hminus rfl

/-! ### What numbers end with -/

theorem Digits.suffix {digits s rest : List Char} (h : Digits digits s rest) : rest <:+ s :=
  ⟨digits, h.run.split.symm⟩

theorem Whole.suffix {n : Nat} {s rest : List Char} (h : Whole n s rest) : rest <:+ s := by
  cases h with
  | zero => exact List.suffix_cons _ _
  | digits _ h => exact h.suffix

theorem Integer.suffix {n : Nat} {s rest : List Char} (h : Integer n s rest) : rest <:+ s := by
  cases h with
  | plain h => exact h.suffix
  | negative h => exact h.suffix.trans (List.suffix_cons _ _)

theorem Fraction.suffix {s rest : List Char} (h : Fraction s rest) : rest <:+ s := by
  obtain ⟨h⟩ := h
  exact h.suffix.trans (List.suffix_cons _ _)

theorem Sign.suffix {s rest : List Char} (h : Sign s rest) : rest <:+ s := by
  cases h with
  | absent => exact List.suffix_rfl
  | plus => exact List.suffix_cons _ _
  | minus => exact List.suffix_cons _ _

theorem Exponent.suffix {s rest : List Char} (h : Exponent s rest) : rest <:+ s := by
  obtain ⟨-, hsign, h⟩ := h
  exact (h.suffix.trans hsign.suffix).trans (List.suffix_cons _ _)

theorem Numeral.suffix {s rest : List Char} (h : Numeral s rest) : rest <:+ s := by
  cases h with
  | integer h => exact h.suffix
  | fraction h hf => exact hf.suffix.trans h.suffix
  | exponent h he => exact he.suffix.trans h.suffix
  | both h hf he => exact (he.suffix.trans hf.suffix).trans h.suffix

end JsonPatch.Json
