/-!
# Rounding

Quotients as whole numbers. `roundDiv` takes the nearest one and from the middle the even one, so
that errors do not add up in one direction. It goes beyond no whole number that bounds the quotient
(`roundDiv_le`).
-/

namespace OperatorPanel

/-- A quotient rounded to the nearest whole number, the middle to the even one. -/
def roundDiv (num den : Nat) : Nat :=
  let floor := num / den
  let rest := 2 * (num % den)
  if den < rest || (rest = den && floor % 2 = 1) then floor + 1 else floor

theorem roundDiv_le {num den n : Nat} (hden : 0 < den) (h : num ≤ n * den) :
    roundDiv num den ≤ n := by
  have hfloor : num / den ≤ n := Nat.div_le_of_le_mul (Nat.mul_comm n den ▸ h)
  have hnum := Nat.div_add_mod num den
  rcases Nat.lt_or_eq_of_le hfloor with hlt | rfl
  · unfold roundDiv
    dsimp only
    split <;> omega
  · -- nothing is left to be rounded
    rw [Nat.mul_comm] at h
    have hrest : num % den = 0 := by omega
    apply Nat.le_of_eq
    unfold roundDiv
    simp only [hrest, Nat.mul_zero, Bool.or_eq_true, Bool.and_eq_true, decide_eq_true_eq]
    rw [if_neg (by omega)]

end OperatorPanel
