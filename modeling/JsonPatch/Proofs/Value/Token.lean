import JsonPatch.Proofs.Pointer.Lookup
import JsonPatch.Proofs.Value.Index

/-! # Index tokens

An array index is a numeral: a zero, or digits of which the first is no zero (`IsNumeral`).  A token
is read if it is a numeral with at most so many digits, or such a numeral with one line feed after
it; then it stands for the number with these digits.  The grammar alone decides for all tokens but
those that are misread, a numeral that is too long or has a line feed after it (`isStrict_iff`).  A
number has one numeral (`IsNumeral.toDigits`), so two tokens for one element differ in a line feed
at most (`index_tokens`), and they can differ in one (`parseIndex_line_feed`). -/

namespace JsonPatch.Value

/-! ### Numerals -/

/-- The grammar of array indexes. -/
inductive IsNumeral : List Char → Prop where
  | zero : IsNumeral ['0']
  | positive {first : Char} {rest : List Char} (lower : '1' ≤ first) (upper : first ≤ '9')
      (digits : ∀ c ∈ rest, '0' ≤ c ∧ c ≤ '9') : IsNumeral (first :: rest)

theorem isIndexText_iff {s : List Char} : isIndexText s = true ↔ IsNumeral s := by
  constructor
  · intro h
    unfold isIndexText at h
    split at h
    · cases h
    · exact .zero
    · simp only [Bool.and_eq_true, decide_eq_true_eq, List.all_eq_true, isIndexDigit] at h
      exact .positive h.1.1 h.1.2 h.2
  · intro h
    cases h with
    | zero => rfl
    | positive lower upper digits =>
        rw [isIndexText]
        · simpa [lower, upper, isIndexDigit] using digits
        · rintro rfl
          exact absurd lower (by decide)

theorem toNat_bounds {c : Char} (h : '0' ≤ c ∧ c ≤ '9') : 48 ≤ c.toNat ∧ c.toNat ≤ 57 := by
  simpa [Char.le_def, UInt32.le_iff_toNat_le] using h

/-- A character between two digits is the digit of its value. -/
theorem digitChar_of_digit {c : Char} (h : '0' ≤ c ∧ c ≤ '9') :
    (c.toNat - '0'.toNat).digitChar = c := by
  obtain ⟨hlower, hupper⟩ := toNat_bounds h
  change (c.toNat - 48).digitChar = c
  apply Char.toNat_inj.mp
  rw [Nat.toNat_digitChar_of_lt_ten (by omega)]
  omega

/-- Digits after those of a positive number are the last digits of a greater one. -/
theorem toDigits_append {rest : List Char} (h : ∀ c ∈ rest, '0' ≤ c ∧ c ≤ '9') {n : Nat}
    (hn : 0 < n) :
    Nat.toDigits 10 n ++ rest = Nat.toDigits 10 (Nat.ofDigitChars 10 rest n) := by
  induction rest generalizing n with
  | nil => rw [List.append_nil, Nat.ofDigitChars_nil]
  | cons c rest ih =>
      rw [List.forall_mem_cons] at h
      obtain ⟨hlower, hupper⟩ := toNat_bounds h.1
      have hlt : c.toNat - '0'.toNat < 10 := by
        change c.toNat - 48 < 10
        omega
      have hnext : Nat.toDigits 10 n ++ [c] = Nat.toDigits 10 (10 * n + (c.toNat - '0'.toNat)) := by
        rw [← Nat.toDigits_append_toDigits (by decide) hn hlt, Nat.toDigits_of_lt_base hlt,
          digitChar_of_digit h.1]
      rw [Nat.ofDigitChars_cons, ← ih h.2 (by omega), ← hnext, List.append_assoc]
      rfl

/-- A numeral is the one that its number is written with. -/
theorem IsNumeral.toDigits {s : List Char} (h : IsNumeral s) :
    Nat.toDigits 10 (Nat.ofDigitChars 10 s 0) = s := by
  cases h with
  | zero => rfl
  | @positive first rest lower upper digits =>
      have hlower : 49 ≤ first.toNat := by
        simpa [Char.le_def, UInt32.le_iff_toNat_le] using lower
      have hfirst : '0' ≤ first ∧ first ≤ '9' :=
        ⟨Char.le_trans (by decide : '0' ≤ '1') lower, upper⟩
      obtain ⟨-, hupper⟩ := toNat_bounds hfirst
      have hpos : 0 < first.toNat - '0'.toNat := by
        change 0 < first.toNat - 48
        omega
      have hlt : first.toNat - '0'.toNat < 10 := by
        change first.toNat - 48 < 10
        omega
      rw [Nat.ofDigitChars_cons, Nat.mul_zero, Nat.zero_add, ← toDigits_append digits hpos,
        Nat.toDigits_of_lt_base hlt, digitChar_of_digit hfirst]
      rfl

theorem IsNumeral.inj {s t : List Char} (hs : IsNumeral s) (ht : IsNumeral t)
    (h : Nat.ofDigitChars 10 s 0 = Nat.ofDigitChars 10 t 0) : s = t := by
  rw [← hs.toDigits, ← ht.toDigits, h]

theorem indexValue_eq (s : List Char) : indexValue s = Nat.ofDigitChars 10 s 0 := by
  simp only [indexValue, Nat.ofDigitChars_eq_foldl, Nat.mul_comm]

/-! ### Tokens -/

/-- The token is a numeral, or one with a line feed after it. -/
def Spells (token : String) (digits : List Char) : Prop :=
  IsNumeral digits ∧ (token.toList = digits ∨ token.toList = digits ++ ['\n'])

theorem IsNumeral.getLast?_ne {s : List Char} (h : IsNumeral s) : s.getLast? ≠ some '\n' := by
  intro hlast
  have hmem := List.mem_of_getLast? hlast
  cases h with
  | zero => exact absurd hmem (by decide)
  | positive lower upper digits =>
      rcases List.mem_cons.mp hmem with rfl | hrest
      · exact absurd lower (by decide)
      · exact absurd (digits _ hrest).1 (by decide)

theorem dropLineFeed_eq_iff {s digits : List Char} (h : digits.getLast? ≠ some '\n') :
    dropLineFeed s = digits ↔ s = digits ∨ s = digits ++ ['\n'] := by
  unfold dropLineFeed
  split_ifs with hlast
  · obtain ⟨before, rfl⟩ : ∃ before, s = before ++ ['\n'] :=
      ⟨s.dropLast, (List.dropLast_append_getLast? '\n' hlast).symm⟩
    rw [List.dropLast_concat, List.append_left_inj]
    refine ⟨.inr, fun hs => hs.resolve_left ?_⟩
    rintro rfl
    exact h hlast
  · refine ⟨.inl, fun hs => hs.resolve_right ?_⟩
    rintro rfl
    exact hlast List.getLast?_concat

theorem spells_iff {token : String} {digits : List Char} : Spells token digits ↔
    isIndexText (dropLineFeed token.toList) = true ∧ dropLineFeed token.toList = digits := by
  constructor
  · rintro ⟨hnumeral, htoken⟩
    have hdrop := (dropLineFeed_eq_iff hnumeral.getLast?_ne).mpr htoken
    exact ⟨by rw [hdrop, isIndexText_iff]; exact hnumeral, hdrop⟩
  · rintro ⟨hindex, rfl⟩
    have hnumeral := isIndexText_iff.mp hindex
    exact ⟨hnumeral, (dropLineFeed_eq_iff hnumeral.getLast?_ne).mp rfl⟩

theorem parseIndex_eq_ok {token : String} {n : Nat} : parseIndex (.string token) = .ok n ↔
    ∃ digits, Spells token digits ∧ digits.length ≤ indexDigitLimit ∧
      n = Nat.ofDigitChars 10 digits 0 := by
  simp only [spells_iff, parseIndex, indexOfText, indexValue_eq]
  constructor
  · intro h
    split_ifs at h with hindex hlength
    exact ⟨_, ⟨hindex, rfl⟩, hlength, (Except.ok.inj h).symm⟩
  · rintro ⟨digits, ⟨hindex, rfl⟩, hlength, rfl⟩
    rw [if_pos hindex, if_pos hlength]

/-- What becomes of a token: a numeral is read, unless it is too long, and any other token is a key
that is not there. -/
structure Tokenized (token : String) : Prop where
  accepted : ∀ n, parseIndex (.string token) = .ok n ↔
    ∃ digits, Spells token digits ∧ digits.length ≤ indexDigitLimit ∧
      n = Nat.ofDigitChars 10 digits 0
  tooLong : ∀ k, parseIndex (.string token) = .error (.longNumber k) ↔
    ∃ digits, Spells token digits ∧ digits.length = k ∧ indexDigitLimit < k
  refused : parseIndex (.string token) = .error (.missingKey (.string token)) ↔
    ∀ digits, ¬ Spells token digits

theorem tokenized (token : String) : Tokenized token where
  accepted _ := parseIndex_eq_ok
  tooLong k := by
    rw [parseIndex, indexOfText_eq_longNumber, IsLong]
    simp only [spells_iff]
    constructor
    · rintro ⟨hindex, hlength, hlong⟩
      exact ⟨_, ⟨hindex, rfl⟩, hlength, hlong⟩
    · rintro ⟨_, ⟨hindex, rfl⟩, hlength, hlong⟩
      exact ⟨hindex, hlength, hlong⟩
  refused := by
    simp only [spells_iff, parseIndex, indexOfText]
    constructor
    · rintro h digits ⟨hindex, -⟩
      rw [if_pos hindex] at h
      split_ifs at h
      cases h
    · intro h
      exact if_neg fun hindex => h _ ⟨hindex, rfl⟩

/-- The grammar alone decides: a numeral stands for the number with its digits, and any other token
is a key that is not there. -/
structure IsStrict (token : String) : Prop where
  numeral : IsNumeral token.toList →
    parseIndex (.string token) = .ok (Nat.ofDigitChars 10 token.toList 0)
  other : ¬ IsNumeral token.toList →
    parseIndex (.string token) = .error (.missingKey (.string token))

/-- The token is a numeral with too many digits, or one with a line feed after it. -/
def IsMisread (token : String) : Prop :=
  ∃ digits, IsNumeral digits ∧
    (token.toList = digits ∧ indexDigitLimit < digits.length ∨ token.toList = digits ++ ['\n'])

theorem isStrict_iff {token : String} : IsStrict token ↔ ¬ IsMisread token := by
  have htoken := tokenized token
  constructor
  · rintro hstrict ⟨digits, hnumeral, ⟨rfl, hlong⟩ | hfeed⟩
    · have hread := hstrict.numeral hnumeral
      rw [(htoken.tooLong _).mpr ⟨_, ⟨hnumeral, .inl rfl⟩, rfl, hlong⟩] at hread
      cases hread
    · have hother : ¬ IsNumeral token.toList := fun h =>
        h.getLast?_ne (by rw [hfeed]; exact List.getLast?_concat)
      exact htoken.refused.mp (hstrict.other hother) digits ⟨hnumeral, .inr hfeed⟩
  · intro hmisread
    constructor
    · intro hnumeral
      refine (htoken.accepted _).mpr ⟨_, ⟨hnumeral, .inl rfl⟩, ?_, rfl⟩
      exact Nat.le_of_not_lt fun hlong => hmisread ⟨_, hnumeral, .inl ⟨rfl, hlong⟩⟩
    · rintro hother
      refine htoken.refused.mpr ?_
      rintro digits ⟨hnumeral, rfl | hfeed⟩
      · exact hother hnumeral
      · exact hmisread ⟨digits, hnumeral, .inr hfeed⟩

/-- Tokens for one element are the same, but for a line feed at their end. -/
theorem eq_of_parseIndex {token token' : String} {n : Nat}
    (h : parseIndex (.string token) = .ok n) (h' : parseIndex (.string token') = .ok n) :
    token = token' ∨ token = token' ++ "\n" ∨ token' = token ++ "\n" := by
  obtain ⟨digits, ⟨hnumeral, htoken⟩, -, hn⟩ := parseIndex_eq_ok.mp h
  obtain ⟨digits', ⟨hnumeral', htoken'⟩, -, hn'⟩ := parseIndex_eq_ok.mp h'
  obtain rfl := hnumeral.inj hnumeral' (hn.symm.trans hn')
  have hfeed : ∀ {s t : String}, s.toList = t.toList ++ ['\n'] → s = t ++ "\n" := by
    intro s t hs
    rw [← String.toList_inj, hs, String.toList_append]
    rfl
  rcases htoken with hs | hs <;> rcases htoken' with ht | ht
  · exact .inl (String.toList_inj.mp (hs.trans ht.symm))
  · exact .inr (.inr (hfeed (by rw [ht, hs])))
  · exact .inr (.inl (hfeed (by rw [hs, ht])))
  · exact .inl (String.toList_inj.mp (hs.trans ht.symm))

/-- A token is read as an index exactly if it is a numeral, but for a line feed at its end and a
limit on the digits, and it stands for the number with these digits.  The grammar alone decides for
every token but the numerals that are too long or have a line feed after them.  So two tokens that
stand for the same element of an array differ in a line feed at most. -/
theorem index_tokens (token : String) :
    Tokenized token ∧ (IsStrict token ↔ ¬ IsMisread token) ∧
      ∀ (items : List Value) (token' : String) (k : Key),
        (array items).existingKey (.string token) = .ok k →
        (array items).existingKey (.string token') = .ok k →
        token = token' ∨ token = token' ++ "\n" ∨ token' = token ++ "\n" := by
  refine ⟨tokenized token, isStrict_iff, fun items token' k h h' => ?_⟩
  obtain ⟨n, rfl, hn, -⟩ := existingKey_array.mp h
  obtain ⟨n', hkey, hn', -⟩ := existingKey_array.mp h'
  cases hkey
  exact eq_of_parseIndex hn hn'

/-- Two tokens for the second element. -/
theorem index_tokens_second :
    (array [.null, .null]).existingKey (.string "1") = .ok (.index 1) ∧
      (array [.null, .null]).existingKey (.string "1\n") = .ok (.index 1) ∧
      ("1" = "1\n" ∨ "1" = "1\n" ++ "\n" ∨ "1\n" = "1" ++ "\n") := by
  have h : (array [.null, .null]).existingKey (.string "1") = .ok (.index 1) := rfl
  have h' : (array [.null, .null]).existingKey (.string "1\n") = .ok (.index 1) := rfl
  exact ⟨h, h', (index_tokens "1").2.2 _ _ _ h h'⟩

/-- A token with a line feed is no numeral, but it is read, and two tokens stand for one element. -/
theorem parseIndex_line_feed :
    ¬ IsNumeral "1\n".toList ∧ parseIndex (.string "1\n") = .ok 1 ∧
      parseIndex (.string "1") = .ok 1 := by
  have hnumeral : ¬ IsNumeral "1\n".toList := by
    rw [← isIndexText_iff]
    decide
  exact ⟨hnumeral, rfl, rfl⟩

end JsonPatch.Value
