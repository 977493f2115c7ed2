import JsonPatch.Number

/-! # Comparison of numbers

Every number but `nan` has a value, finite or infinite, and numbers are compared by their values.
So equality is an equivalence of the numbers that are not `nan`, and the order cannot tell equal
numbers apart, be they integers or doubles. -/

namespace JsonPatch.Number

variable {x y z : Number}

theorem eq_refl (h : x.isNan = false) : x.eq x = true :=
  eq_iff.mpr ⟨h, h, rfl, rfl⟩

/-- A natural number is equal to the double of as many units. -/
theorem int_eq_double (n : Nat) :
    (int n).eq (double (.finite false (n * Nat.pow 2 Double.unitBits))) = true := by
  refine eq_iff.mpr ⟨rfl, rfl, rfl, ?_⟩
  simp only [signedUnits, Double.signedUnits, Int.natCast_mul]

theorem eq_symm (h : x.eq y = true) : y.eq x = true := by
  obtain ⟨hx, hy, hr, hu⟩ := eq_iff.mp h
  exact eq_iff.mpr ⟨hy, hx, hr.symm, hu.symm⟩

theorem eq_trans (h : x.eq y = true) (h' : y.eq z = true) : x.eq z = true := by
  obtain ⟨hx, -, hr, hu⟩ := eq_iff.mp h
  obtain ⟨-, hz, hr', hu'⟩ := eq_iff.mp h'
  exact eq_iff.mpr ⟨hx, hz, hr.trans hr', hu.trans hu'⟩

/-- Equal numbers are less than the same numbers. -/
theorem lt_congr_left (h : x.eq y = true) (z : Number) : x.lt z = y.lt z := by
  obtain ⟨hx, hy, hr, hu⟩ := eq_iff.mp h
  simp only [lt, hx, hy, hr, hu]

/-- The same numbers are less than equal numbers. -/
theorem lt_congr_right (h : x.eq y = true) (z : Number) : z.lt x = z.lt y := by
  obtain ⟨hx, hy, hr, hu⟩ := eq_iff.mp h
  simp only [lt, hx, hy, hr, hu]

end JsonPatch.Number
