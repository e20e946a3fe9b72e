import OperatorPanel.Number.Arithmetic

/-!
# Finite numbers

Which results of arithmetic are finite. A number that is rounded from no more than the greatest
finite number is finite (`Number.isFinite_nearest`), so a quotient by one or more is as finite as
its dividend, and so is a product with one or minus one.
-/

namespace OperatorPanel
namespace Number

/-! ### Parts -/

theorem rest_ofParts (negative : Bool) {rest : Nat} (h : rest < valuesOf 63) :
    (ofParts negative rest).rest = rest := by
  have h64 : (2 : Nat) ^ 64 = valuesOf 63 + valuesOf 63 := rfl
  simp only [Number.rest, ofParts, UInt64.toNat_ofNat', h64]
  generalize valuesOf 63 = half at h
  rw [Nat.mod_eq_of_lt h]
  split
  · rw [Nat.mod_eq_of_lt (a := rest + half) (by omega), Nat.add_mod_right, Nat.mod_eq_of_lt h]
  · rw [Nat.add_zero, Nat.mod_eq_of_lt (b := half + half) (by omega), Nat.mod_eq_of_lt h]

theorem infinityRest_lt : infinityRest < valuesOf 63 := by decide

theorem isFinite_of_not_nan {x : Number} (hx : x.isNaN = false) :
    x.isFinite = !x.isInfinite := by
  simp only [isNaN, decide_eq_false_iff_not, Nat.not_lt] at hx
  rw [Bool.eq_iff_iff]
  simp only [isFinite, isInfinite, decide_eq_true_eq, Bool.not_eq_true', decide_eq_false_iff_not]
  omega

/-! ### Rounding -/

/-- The greatest finite number, counted in least positive numbers. -/
def maxUnits : Nat := (valuesOf 53 - 1) * valuesOf 2045

theorem units_le {x : Number} (h : x.isFinite = true) : x.units ≤ maxUnits := by
  have hrest : x.rest < valuesOf 52 * 2047 := of_decide_eq_true h
  have hexponent : x.exponent < 2047 := Nat.div_lt_of_lt_mul hrest
  have hfraction : x.fraction < valuesOf 52 := Nat.mod_lt _ (valuesOf_pos 52)
  have h53 : valuesOf 53 = valuesOf 52 + valuesOf 52 := rfl
  unfold units maxUnits
  split
  · exact Nat.le_trans (by omega) (Nat.le_mul_of_pos_right _ (valuesOf_pos 2045))
  · refine Nat.mul_le_mul (by omega) (valuesOf_mono ?_)
    exact Nat.sub_le_of_le_add (Nat.le_of_lt_succ hexponent)

theorem maxUnits_lt : maxUnits < valuesOf (53 + 2045) := by
  rw [valuesOf_add, maxUnits]
  exact Nat.mul_lt_mul_of_pos_right (by decide) (valuesOf_pos 2045)

theorem log2_lt_of_lt {n bits : Nat} (hbits : 0 < bits) (h : n < valuesOf bits) :
    n.log2 < bits := by
  by_cases hn : n = 0
  · rw [hn, Nat.log2_zero]
    exact hbits
  · exact (Nat.log2_lt hn).2 h

/-- What is left of a quotient without the digits that are dropped has 53 digits, or one more when
it is rounded up. -/
theorem roundDiv_dropped {num den dropped : Nat} (hden : 0 < den)
    (hdropped : (num / den).log2 - 52 ≤ dropped) :
    roundDiv num (den * valuesOf dropped) ≤ valuesOf 53 := by
  have hdigits : num / den < valuesOf (53 + dropped) :=
    Nat.lt_of_lt_of_le Nat.lt_log2_self (valuesOf_mono (by omega))
  have hnum := Nat.lt_mul_of_div_lt hdigits hden
  rw [valuesOf_add, Nat.mul_assoc, Nat.mul_comm (valuesOf dropped)] at hnum
  exact roundDiv_le (Nat.mul_pos hden (valuesOf_pos dropped)) (Nat.le_of_lt hnum)

/-- **What is rounded from no more than the greatest finite number is finite.** -/
theorem isFinite_nearest (negative : Bool) {num den : Nat} (hden : 0 < den)
    (h : num ≤ maxUnits * den) : (nearest negative num den).isFinite = true := by
  have hquotient : num / den ≤ maxUnits := Nat.div_le_of_le_mul (Nat.mul_comm maxUnits den ▸ h)
  have hlog : (num / den).log2 < 53 + 2045 :=
    log2_lt_of_lt (by decide) (Nat.lt_of_le_of_lt hquotient maxUnits_lt)
  -- with as many digits dropped as can be, nothing is rounded up beyond 53 digits
  have hmost : roundDiv num (den * valuesOf 2045) ≤ valuesOf 53 - 1 := by
    refine roundDiv_le (Nat.mul_pos hden (valuesOf_pos 2045)) ?_
    rw [Nat.mul_comm den, ← Nat.mul_assoc]
    exact h
  have h53 : valuesOf 53 = valuesOf 52 + valuesOf 52 := rfl
  have h52 := valuesOf_pos 52
  have hrest : ((num / den).log2 - 52) * valuesOf 52
      + roundDiv num (den * valuesOf ((num / den).log2 - 52)) < 2047 * valuesOf 52 := by
    generalize hdropped : (num / den).log2 - 52 = dropped
    have hround := roundDiv_dropped hden (Nat.le_of_eq hdropped)
    rcases Nat.lt_or_eq_of_le (by omega : dropped ≤ 2045) with hlt | rfl
    · have hplaces : dropped * valuesOf 52 ≤ 2044 * valuesOf 52 :=
          Nat.mul_le_mul_right (valuesOf 52) (Nat.le_of_lt_succ hlt)
      omega
    · omega
  change _ < infinityRest at hrest
  unfold nearest
  dsimp only
  rw [Nat.min_eq_right (Nat.le_of_lt hrest), isFinite,
    rest_ofParts negative (Nat.lt_trans hrest infinityRest_lt)]
  exact decide_eq_true hrest

/-! ### Operations -/

theorem isInfinite_of_isFinite {x : Number} (h : x.isFinite = true) : x.isInfinite = false := by
  have hfinite := isFinite_of_not_nan (isNaN_of_isFinite h)
  rw [h] at hfinite
  simpa using hfinite

theorem units_of_isZero {x : Number} (h : x.isZero = true) : x.units = 0 := by
  have hrest : x.rest = 0 := of_decide_eq_true h
  simp [units, exponent, fraction, hrest]

/-- What comes of `x` is a number again, and finite just where `x` is. -/
def Likened (x y : Number) : Prop := y.isNaN = false ∧ y.isFinite = x.isFinite

theorem Likened.infinity {x : Number} (hx : x.isNaN = false) (hinfinite : x.isInfinite = true)
    (negative : Bool) : x.Likened (infinity negative) := by
  have hfinite := isFinite_of_not_nan hx
  rw [hinfinite] at hfinite
  rw [Likened, hfinite]
  cases negative <;> exact ⟨by decide, by decide⟩

theorem Likened.nearest {x : Number} (hx : x.isNaN = false) (hinfinite : x.isInfinite = false)
    (negative : Bool) {num den : Nat} (hden : 0 < den) (h : num ≤ x.units * den) :
    x.Likened (nearest negative num den) := by
  have hfinite := isFinite_of_not_nan hx
  rw [hinfinite] at hfinite
  have hnearest := isFinite_nearest negative hden
    (Nat.le_trans h (Nat.mul_le_mul_right den (units_le hfinite)))
  exact ⟨isNaN_of_isFinite hnearest, hnearest.trans hfinite.symm⟩

/-- **Division by one or more** makes nothing infinite. -/
theorem likened_div {x y : Number} (hx : x.isNaN = false) (hy : y.isFinite = true)
    (hunits : one ≤ y.units) : x.Likened (x / y) := by
  have hzero : y.isZero = false := by
    refine Bool.eq_false_iff.2 fun hzero => ?_
    rw [units_of_isZero hzero] at hunits
    exact absurd hunits (Nat.not_le_of_lt (valuesOf_pos 1074))
  show x.Likened (x.div y)
  unfold div orNaN
  rw [hx, isNaN_of_isFinite hy, isInfinite_of_isFinite hy, hzero]
  cases hinfinite : x.isInfinite with
  | true => exact .infinity hx hinfinite _
  | false =>
      exact .nearest hx hinfinite _ (Nat.lt_of_lt_of_le (valuesOf_pos 1074) hunits)
        (Nat.mul_le_mul_left _ hunits)

/-- **A change of sign** makes nothing infinite, also as a product. -/
theorem likened_mul {d x : Number} (hd : d = 1 ∨ d = -1) (hx : x.isNaN = false) :
    x.Likened (d * x) := by
  -- both directions are one unit long, which is all that matters below
  have hone : d.isFinite = true ∧ d.isZero = false ∧ d.units = one := by
    rcases hd with rfl | rfl <;> decide +kernel
  obtain ⟨hfinite, hzero, hunits⟩ := hone
  show x.Likened (d.mul x)
  unfold mul orNaN
  rw [isNaN_of_isFinite hfinite, hx, isInfinite_of_isFinite hfinite, hzero, hunits]
  cases hinfinite : x.isInfinite with
  | true =>
      have hrest : x.isZero = false := by
        -- an infinite number is no zero, so the product is not an invalid one
        have hinfinite : x.rest = infinityRest := of_decide_eq_true hinfinite
        rw [isZero, hinfinite]
        decide
      rw [hrest]
      exact .infinity hx hinfinite _
  | false => exact .nearest hx hinfinite _ (valuesOf_pos 1074) (Nat.le_of_eq (Nat.mul_comm ..))

end Number
end OperatorPanel
