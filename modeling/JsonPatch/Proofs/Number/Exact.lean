import JsonPatch.Proofs.Number.Order
import Mathlib.Algebra.Order.Field.Rat
import Mathlib.Algebra.Order.Ring.Cast
import Mathlib.Data.Rat.Cast.CharZero
import Mathlib.Order.WithBot

/-! # The exact value of a number

An integer has itself as its value, a finite double a fraction, and the infinities lie below and
above all fractions; `nan` has no value.  Numbers are compared by rank and in units of `2 ^ -1074`,
which says the same (`eq_iff_exact`, `lt_iff_exact`). -/

namespace JsonPatch

/-- A rational number or one of two infinities. -/
abbrev Exact := WithBot (WithTop ℚ)

/-- A finite value. -/
def Exact.rational (q : ℚ) : Exact := WithBot.some (WithTop.some q)

theorem Exact.rational_inj {q r : ℚ} : rational q = rational r ↔ q = r := by
  simp [rational]

theorem Exact.rational_lt {q r : ℚ} : rational q < rational r ↔ q < r := by
  simp [rational]

namespace Number

/-- The value of a number, if it has one. -/
def exactValue? : Number → Option Exact
  | int n => some (.rational n)
  | double .nan => none
  | double (.infinity true) => some ⊥
  | double (.infinity false) => some ⊤
  | double (.finite true units) => some (.rational (-(units / 2 ^ Double.unitBits)))
  | double (.finite false units) => some (.rational (units / 2 ^ Double.unitBits))

/-! ### Ranks and units -/

/-- The value of a rank and a number of units. -/
def exactOf (rank units : ℤ) : Exact :=
  if rank = -1 then ⊥ else if rank = 1 then ⊤ else .rational (units / 2 ^ Double.unitBits)

theorem exactValue?_eq {x : Number} (h : x.isNan = false) :
    x.exactValue? = some (exactOf x.rank x.signedUnits) := by
  cases x with
  | int n =>
      have hpos : (2 : ℚ) ^ Double.unitBits ≠ 0 := pow_ne_zero _ two_ne_zero
      have hvalue : ((int n).signedUnits / 2 ^ Double.unitBits : ℚ) = n := by
        rw [signedUnits, Nat.pow_eq]
        push_cast
        exact mul_div_cancel_right₀ _ hpos
      exact congrArg (some ∘ Exact.rational) hvalue.symm
  | double d =>
      cases d with
      | nan => cases h
      | infinity negative => cases negative <;> rfl
      | finite negative units =>
          cases negative with
          | false =>
              refine congrArg (some ∘ Exact.rational) ?_
              rw [signedUnits, Double.signedUnits, Int.cast_natCast]
          | true =>
              refine congrArg (some ∘ Exact.rational) ?_
              rw [signedUnits, Double.signedUnits, Int.cast_neg, Int.cast_natCast, neg_div]

theorem exactValue?_eq_none {x : Number} : x.exactValue? = none ↔ x.isNan = true := by
  cases h : x.isNan with
  | false => simp [exactValue?_eq h]
  | true =>
      cases x with
      | int n => cases h
      | double d =>
          cases d with
          | nan => simp [exactValue?]
          | infinity negative => cases h
          | finite negative units => cases h

theorem isNan_of_exactValue? {x : Number} {q : Exact} (h : x.exactValue? = some q) :
    x.isNan = false := by
  rw [Bool.eq_false_iff, ne_eq, ← exactValue?_eq_none, h]
  exact Option.some_ne_none q

/-- An infinity counts no units. -/
theorem rank_cases (x : Number) :
    x.rank = 0 ∨ (x.rank = -1 ∨ x.rank = 1) ∧ x.signedUnits = 0 := by
  cases x with
  | int n => exact .inl rfl
  | double d =>
      cases d with
      | infinity negative =>
          cases negative with
          | true => exact .inr ⟨.inl rfl, rfl⟩
          | false => exact .inr ⟨.inr rfl, rfl⟩
      | _ => exact .inl rfl

/-- The value tells the ranks apart, and the units of rank zero. -/
theorem exactOf_inj {x y : Number}
    (h : exactOf x.rank x.signedUnits = exactOf y.rank y.signedUnits) :
    x.rank = y.rank ∧ x.signedUnits = y.signedUnits := by
  have hfinite : ∀ m n : ℤ, exactOf 0 m = exactOf 0 n → m = n := by
    intro m n hmn
    have hpos : (2 : ℚ) ^ Double.unitBits ≠ 0 := pow_ne_zero _ two_ne_zero
    have hquot : (m / 2 ^ Double.unitBits : ℚ) = n / 2 ^ Double.unitBits :=
      Exact.rational_inj.mp hmn
    exact Int.cast_injective ((div_left_inj' hpos).mp hquot)
  rcases rank_cases x with hx | ⟨hx | hx, hux⟩ <;> rcases rank_cases y with hy | ⟨hy | hy, huy⟩
  case inl.inl =>
    rw [hx, hy] at h
    exact ⟨hx.trans hy.symm, hfinite _ _ h⟩
  case inr.inl.inr.inl => exact ⟨hx.trans hy.symm, hux.trans huy.symm⟩
  case inr.inr.inr.inr => exact ⟨hx.trans hy.symm, hux.trans huy.symm⟩
  all_goals
    rw [hx, hy] at h
    simp [exactOf, Exact.rational] at h

/-- Numbers are equal if they have the same value, be they integers or doubles. -/
theorem eq_iff_exact {x y : Number} :
    x.eq y = true ↔ ∃ q, x.exactValue? = some q ∧ y.exactValue? = some q := by
  rw [eq_iff]
  constructor
  · rintro ⟨hx, hy, hrank, hunits⟩
    exact ⟨_, exactValue?_eq hx, by rw [exactValue?_eq hy, hrank, hunits]⟩
  · rintro ⟨q, hqx, hqy⟩
    have hx := isNan_of_exactValue? hqx
    have hy := isNan_of_exactValue? hqy
    rw [exactValue?_eq hx] at hqx
    rw [exactValue?_eq hy] at hqy
    exact ⟨hx, hy, exactOf_inj (Option.some.inj (hqx.trans hqy.symm))⟩

/-! ### Order -/

theorem exactOf_lt (x y : Number) :
    exactOf x.rank x.signedUnits < exactOf y.rank y.signedUnits ↔
      x.rank < y.rank ∨ x.rank = y.rank ∧ x.signedUnits < y.signedUnits := by
  have hpos : (0 : ℚ) < 2 ^ Double.unitBits := pow_pos two_pos _
  have hfinite : ∀ m n : ℤ, exactOf 0 m < exactOf 0 n ↔ m < n := by
    intro m n
    change Exact.rational (m / 2 ^ Double.unitBits) < Exact.rational (n / 2 ^ Double.unitBits) ↔ _
    rw [Exact.rational_lt, div_lt_div_iff_of_pos_right hpos, Int.cast_lt]
  rcases rank_cases x with hx | ⟨hx | hx, hux⟩ <;> rcases rank_cases y with hy | ⟨hy | hy, huy⟩
  case inl.inl =>
    rw [hx, hy, hfinite]
    simp
  case inl.inr.inr =>
    rw [hx, hy]
    exact iff_of_true (WithBot.coe_lt_coe.mpr (WithTop.coe_lt_top _)) (.inl (by decide))
  all_goals
    rw [hx, hy]
    simp [exactOf, Exact.rational, *]

theorem lt_iff {x y : Number} : x.lt y = true ↔
    x.isNan = false ∧ y.isNan = false ∧
      (x.rank < y.rank ∨ x.rank = y.rank ∧ x.signedUnits < y.signedUnits) := by
  simp [lt, and_assoc]

/-- Numbers are ordered as their values are. -/
theorem lt_iff_exact {x y : Number} :
    x.lt y = true ↔ ∃ q r, x.exactValue? = some q ∧ y.exactValue? = some r ∧ q < r := by
  rw [lt_iff, ← exactOf_lt]
  constructor
  · rintro ⟨hx, hy, h⟩
    exact ⟨_, _, exactValue?_eq hx, exactValue?_eq hy, h⟩
  · rintro ⟨q, r, hq, hr, h⟩
    have hx := isNan_of_exactValue? hq
    have hy := isNan_of_exactValue? hr
    rw [exactValue?_eq hx] at hq
    rw [exactValue?_eq hy] at hr
    cases hq
    cases hr
    exact ⟨hx, hy, h⟩

theorem lt_eq_decide {x y : Number} {q r : Exact} (hx : x.exactValue? = some q)
    (hy : y.exactValue? = some r) : x.lt y = decide (q < r) := by
  rw [Bool.eq_iff_iff, decide_eq_true_iff, lt_iff_exact]
  constructor
  · rintro ⟨q', r', hq, hr, h⟩
    obtain rfl := Option.some.inj (hx.symm.trans hq)
    obtain rfl := Option.some.inj (hy.symm.trans hr)
    exact h
  · exact fun h => ⟨q, r, hx, hy, h⟩

theorem eq_eq_decide {x y : Number} {q r : Exact} (hx : x.exactValue? = some q)
    (hy : y.exactValue? = some r) : x.eq y = decide (q = r) := by
  rw [Bool.eq_iff_iff, decide_eq_true_iff, eq_iff_exact]
  constructor
  · rintro ⟨q', hq, hr⟩
    exact (Option.some.inj (hx.symm.trans hq)).trans (Option.some.inj (hr.symm.trans hy))
  · exact fun h => ⟨q, hx, h ▸ hy⟩

/-- A number that has no value is in no relation to any number. -/
theorem compare_nan {x y : Number} (h : x.isNan = true ∨ y.isNan = true) :
    x.lt y = false ∧ y.lt x = false ∧ x.eq y = false := by
  have hnumbers : ¬ (x.isNan = false ∧ y.isNan = false) := by
    rintro ⟨hx, hy⟩
    simp [hx, hy] at h
  refine ⟨?_, ?_, ?_⟩ <;> rw [Bool.eq_false_iff] <;> intro hrel
  · obtain ⟨hx, hy, -⟩ := lt_iff.mp hrel
    exact hnumbers ⟨hx, hy⟩
  · obtain ⟨hy, hx, -⟩ := lt_iff.mp hrel
    exact hnumbers ⟨hx, hy⟩
  · obtain ⟨hx, hy, -⟩ := eq_iff.mp hrel
    exact hnumbers ⟨hx, hy⟩

end Number
end JsonPatch
