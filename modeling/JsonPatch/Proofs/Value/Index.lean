import Mathlib.Data.Nat.Digits.Defs
import JsonPatch.Value.Index

/-! # Numbers as index texts

A number in decimal digits is the text of an index, and it is read back as this number unless it has
too many digits (`indexOfText_toString`). -/

namespace JsonPatch.Value

theorem isIndexDigit_of_isDigit {c : Char} (h : c.isDigit = true) : isIndexDigit c = true := by
  simpa [Char.isDigit, isIndexDigit, Char.le_def] using h

theorem isIndexDigit_of_mem {c : Char} {n : Nat} (h : c ∈ Nat.toDigits 10 n) :
    isIndexDigit c = true :=
  isIndexDigit_of_isDigit (Nat.isDigit_of_mem_toDigits (by decide) (by decide) h)

theorem digitChar_pos : ∀ d < 10, 0 < d → ('1' ≤ d.digitChar && d.digitChar ≤ '9') = true := by
  decide

/-- The digits of a positive number do not start with a zero. -/
theorem toDigits_of_pos {n : Nat} (h : 0 < n) :
    ∃ c rest, Nat.toDigits 10 n = c :: rest ∧ ('1' ≤ c && c ≤ '9') = true := by
  induction n using Nat.strong_induction_on with
  | _ n ih =>
      by_cases hn : n < 10
      · exact ⟨n.digitChar, [], Nat.toDigits_of_lt_base hn, digitChar_pos n hn h⟩
      · obtain ⟨c, rest, hd, hc⟩ := ih (n / 10) (by omega) (by omega)
        refine ⟨c, rest ++ [(n % 10).digitChar], ?_, hc⟩
        rw [Nat.toDigits_of_base_le (by decide) (by omega), hd, List.cons_append]

theorem isIndexText_toDigits (n : Nat) : isIndexText (Nat.toDigits 10 n) = true := by
  rcases Nat.eq_zero_or_pos n with rfl | h
  · rfl
  · obtain ⟨c, rest, hd, hc⟩ := toDigits_of_pos h
    have hrest : ∀ x ∈ rest, isIndexDigit x = true := fun x hx =>
      isIndexDigit_of_mem (hd ▸ List.mem_cons_of_mem c hx)
    have hzero : c ≠ '0' := by
      rintro rfl
      revert hc
      decide
    rw [hd, isIndexText, hc, List.all_eq_true.mpr hrest]
    · rfl
    · intro e
      exact absurd e hzero

theorem dropLineFeed_toDigits (n : Nat) : dropLineFeed (Nat.toDigits 10 n) = Nat.toDigits 10 n := by
  refine if_neg fun h => ?_
  have hdigit := isIndexDigit_of_mem (List.mem_of_getLast? h)
  revert hdigit
  decide

theorem indexValue_toDigits (n : Nat) : indexValue (Nat.toDigits 10 n) = n := by
  have h : indexValue (Nat.toDigits 10 n) = Nat.ofDigitChars 10 (Nat.toDigits 10 n) 0 := by
    simp only [indexValue, Nat.ofDigitChars_eq_foldl, Nat.mul_comm]
  rw [h, Nat.ofDigitChars_ten_toDigits]

/-- A number is read from its digits, if these are not too many. -/
theorem indexOfText_toString {n : Nat} (h : n < 10 ^ indexDigitLimit) :
    indexOfText (toString n) = .ok n := by
  have hlength : (Nat.toDigits 10 n).length ≤ indexDigitLimit :=
    (Nat.length_toDigits_le_iff (by decide) (by decide)).mpr h
  rw [indexOfText, Nat.toString_eq_ofList_toDigits, String.toList_ofList, dropLineFeed_toDigits]
  simp only [isIndexText_toDigits, hlength, if_true, indexValue_toDigits]

end JsonPatch.Value
