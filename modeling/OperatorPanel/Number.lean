import OperatorPanel.Limits

/-!
# Numbers

Floating-point numbers of 64 bits, known by their bits: a sign, and below it the rest, in which
the exponent stands above the fraction. What is not a number has bits, too, and they are kept:
`ofParts` and the two parts that it is made from determine each other (`ofParts_parts`).

Equality is that of the bits. `same`, `<` and `≤` compare numbers as numbers: the two zeros are
the same, and what is not a number is the same as nothing, itself included.
-/

namespace OperatorPanel

/-- A floating-point number. -/
structure Number where
  bits : UInt64
  deriving DecidableEq, Repr, Inhabited

namespace Number

/-! ### Parts -/

/-- Whether the sign bit is set. -/
def isNegative (x : Number) : Bool := valuesOf 63 ≤ x.bits.toNat

/-- The bits below the sign. -/
def rest (x : Number) : Nat := x.bits.toNat % valuesOf 63

/-- A number from its sign and its other bits. -/
def ofParts (negative : Bool) (rest : Nat) : Number :=
  ⟨UInt64.ofNat (rest % valuesOf 63 + if negative then valuesOf 63 else 0)⟩

theorem ofParts_parts (x : Number) : ofParts x.isNegative x.rest = x := by
  have h := x.bits.toNat_lt
  have h64 : (2 : Nat) ^ 64 = valuesOf 63 + valuesOf 63 := rfl
  obtain ⟨bits⟩ := x
  simp only [ofParts, isNegative, rest, Nat.mod_mod, decide_eq_true_eq] at h ⊢
  congr 1
  apply UInt64.toNat_inj.1
  rw [UInt64.toNat_ofNat', h64]
  generalize valuesOf 63 = half at *
  split  -- the sign bit decides whether the half was taken off
  · next hb =>
    rw [Nat.mod_eq_sub_mod hb, Nat.mod_eq_of_lt (a := bits.toNat - half) (by omega),
      Nat.mod_eq_of_lt (by omega)]
    omega
  · next hb =>
    rw [Nat.mod_eq_of_lt (a := bits.toNat) (by omega), Nat.add_zero, Nat.mod_eq_of_lt (by omega)]

/-- The exponent as it stands in the bits; zero for the numbers below the least full one. -/
def exponent (x : Number) : Nat := x.rest / valuesOf 52

/-- The bits below the exponent. -/
def fraction (x : Number) : Nat := x.rest % valuesOf 52

/-- The bits of an infinity below its sign. -/
def infinityRest : Nat := 2047 * valuesOf 52

def isNaN (x : Number) : Bool := infinityRest < x.rest
def isInfinite (x : Number) : Bool := x.rest = infinityRest
def isFinite (x : Number) : Bool := x.rest < infinityRest
def isZero (x : Number) : Bool := x.rest = 0

/-! ### Sign -/

/-- The number with the other sign; so is what is not a number. -/
def neg (x : Number) : Number := ofParts (!x.isNegative) x.rest

instance : Neg Number := ⟨neg⟩

/-- The number without its sign; so is what is not a number. -/
def abs (x : Number) : Number := ofParts false x.rest

/-! ### Order -/

/-- A whole number that grows with the number; both zeros have zero. -/
def rank (x : Number) : Int := if x.isNegative then -x.rest else x.rest

/-- Equality as numbers. -/
def same (x y : Number) : Bool := !x.isNaN && !y.isNaN && x.rank = y.rank

/-- Whether a number is less than another. -/
def less (x y : Number) : Bool := !x.isNaN && !y.isNaN && x.rank < y.rank

/-- Whether a number is less than another, or the same. -/
def atMost (x y : Number) : Bool := !x.isNaN && !y.isNaN && x.rank ≤ y.rank

instance : LT Number := ⟨fun x y => x.less y = true⟩
instance : LE Number := ⟨fun x y => x.atMost y = true⟩

instance (x y : Number) : Decidable (x < y) := inferInstanceAs (Decidable (x.less y = true))
instance (x y : Number) : Decidable (x ≤ y) := inferInstanceAs (Decidable (x.atMost y = true))

theorem isNaN_of_isFinite {x : Number} (h : x.isFinite = true) : x.isNaN = false := by
  simp only [isFinite, isNaN, decide_eq_true_eq, decide_eq_false_iff_not] at h ⊢
  omega

/-- What can be compared is less, or it is not. -/
theorem le_of_not_lt {x y : Number} (hx : x.isNaN = false) (hy : y.isNaN = false) (h : ¬y < x) :
    x ≤ y := by
  have hless : ¬y.less x = true := h
  show x.atMost y = true
  simpa [less, atMost, hx, hy] using hless

end Number
end OperatorPanel
