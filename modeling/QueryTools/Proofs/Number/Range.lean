import QueryTools.Number.Double

/-!
# The range of binary floating-point numbers

Which whole numbers have a nearest value of the 64-bit format that is finite.  The greatest finite
value is `(2 ^ 53 - 1) * 2 ^ 971`; whole numbers beyond it still round to it up to half the distance
to the next power of two.

Main statement: below `Double.roundedBound` no whole number becomes an infinity
(`Double.isFinite_ofInt`).
-/

namespace QueryTools.Double

/-- The least size of a whole number that rounds to an infinity. -/
def roundedBound : Nat := Nat.pow 2 1024 - Nat.pow 2 970

/-- A quotient rounds to no more than a bound that it stays less than a half above. -/
theorem roundHalfEven_le {n d q : Nat} (positive : 0 < d) (below : 2 * n < (2 * q + 1) * d) :
    roundHalfEven n d ≤ q := by
  have split : d * (n / d) + n % d = n := Nat.div_add_mod n d
  have atMost : n / d < q + 1 := by
    rw [Nat.div_lt_iff_lt_mul positive]
    rw [Nat.add_mul, Nat.one_mul, Nat.mul_assoc] at below
    rw [Nat.add_mul, Nat.one_mul]
    omega
  have under : n / d = q → 2 * (n % d) < d := by
    intro same
    rw [same, Nat.mul_comm] at split
    rw [Nat.add_mul, Nat.one_mul, Nat.mul_assoc] at below
    omega
  have least : n / d ≤ q := Nat.le_of_lt_succ atMost
  by_cases low : 2 * (n % d) < d
  · simpa only [roundHalfEven, low, if_true] using least
  · have room : n / d + 1 ≤ q := by
      rcases Nat.lt_or_eq_of_le least with less | same
      · exact less
      · exact absurd (under same) low
    simp only [roundHalfEven, low, if_false]
    by_cases high : 2 * (n % d) > d
    · simpa only [high, if_true] using room
    · simp only [high, if_false]
      by_cases even : n / d % 2 = 0
      · simpa only [even, if_true] using least
      · simpa only [even, if_false] using room

/-- Of a whole number the logarithm is that of its numerator. -/
theorem floorLog2_one {n : Nat} (positive : n ≠ 0) : floorLog2 n 1 = (Nat.log2 n : Int) := by
  have power : 1 * Nat.pow 2 (Nat.log2 n) ≤ n := by
    rw [Nat.one_mul]
    exact Nat.log2_self_le positive
  have units : Nat.log2 1 = 0 := by decide
  simp only [floorLog2, units, scaled, Int.natCast_zero, Int.sub_zero, Int.natCast_nonneg, if_true,
    Int.toNat_natCast, power]

/-- A quotient rounds below a bound where its numerator lies below the half before the bound. -/
theorem roundHalfEven_lt {n d bound limit : Nat} (positive : 0 < d) (some : 0 < bound)
    (half : 2 * limit = (2 * (bound - 1) + 1) * d) (below : n < limit) :
    roundHalfEven n d < bound := by
  have atMost : roundHalfEven n d ≤ bound - 1 := by
    refine roundHalfEven_le positive ?_
    rw [← half]
    exact Nat.mul_lt_mul_of_pos_left below Nat.two_pos
  exact Nat.lt_of_le_of_lt atMost (Nat.sub_lt some Nat.one_pos)

/-- Below the bound no significand carries into the exponent after the last. -/
theorem roundHalfEven_lt_significandBound {size shift : Nat} (last : shift = 971)
    (within : size < roundedBound) : roundHalfEven size (Nat.pow 2 shift) < significandBound := by
  have half : 2 * roundedBound = (2 * (significandBound - 1) + 1) * Nat.pow 2 shift := by
    rw [last]
    decide +kernel
  exact roundHalfEven_lt (Nat.pow_pos Nat.two_pos) (by decide +kernel) half within

/-- A number below the bound of rounding has fewer than 1024 binary digits. -/
theorem log2_lt_of_lt_roundedBound {size : Nat} (positive : size ≠ 0)
    (within : size < roundedBound) : Nat.log2 size < 1024 := by
  have power : roundedBound < 2 ^ 1024 := by decide +kernel
  rw [Nat.log2_lt positive]
  exact Nat.lt_trans within power

/-- Rounding at an exponent gives a finite value where neither the exponent nor a carry exceeds the
greatest exponent. -/
theorem isFinite_rounded {negative : Bool} {m : Nat} {e : Int} (fits : e ≤ maxExponent)
    (carry : m = significandBound → e + 1 ≤ maxExponent) :
    (match if m = significandBound then (Nat.pow 2 52, e + 1) else (m, e) with
      | (m, e) => if maxExponent < e then Double.infinity negative
        else .finite negative m e).isFinite = true := by
  by_cases carried : m = significandBound
  · simp only [carried, if_true, Int.not_lt.2 (carry carried), if_false]
    rfl
  · simp only [carried, if_false, Int.not_lt.2 fits]
    rfl

/-- A whole number below the bound does not become an infinity. -/
theorem isFinite_ofInt {n : Int} (within : n.natAbs < roundedBound) :
    (ofInt n).isFinite = true := by
  unfold ofInt ofRatio
  generalize n.natAbs = size at within
  by_cases zero : size = 0
  · simp only [zero, if_true]
    rfl
  have short := log2_lt_of_lt_roundedBound zero within
  have exponent : max (floorLog2 size 1 - 52) minExponent = (Nat.log2 size : Int) - 52 := by
    rw [floorLog2_one zero, minExponent]
    omega
  simp only [zero, if_false, exponent]
  have greatest : maxExponent = 971 := rfl
  refine isFinite_rounded (by omega) ?_
  intro carried
  by_cases last : Nat.log2 size = 1023
  · have shift : ((Nat.log2 size : Int) - 52).toNat = 971 := by omega
    have noCarry := Nat.ne_of_lt (roundHalfEven_lt_significandBound shift within)
    have wholes : scaled size 1 ((Nat.log2 size : Int) - 52) =
        (size, Nat.pow 2 ((Nat.log2 size : Int) - 52).toNat) := by
      rw [scaled, if_pos (by omega), Nat.one_mul]
    simp only [wholes] at carried
    exact (noCarry carried).elim
  · omega

end QueryTools.Double
