import OperatorPanel.Number
import OperatorPanel.Rounding

/-!
# Arithmetic of numbers

A finite number is a whole multiple of the least positive number: `units` says which. An operation
gives the number nearest to the exact result, of two the even one, and infinity beyond the greatest
number. Where an operand is not a number, the result is the first such operand; its highest bit of
fraction is set. Where the operands are numbers and the operation has no result, the result is
`invalid`.
-/

namespace OperatorPanel
namespace Number

/-! ### Units -/

/-- How many of the least positive number make one. -/
def one : Nat := valuesOf 1074

/-- A finite number without its sign, counted in least positive numbers. -/
def units (x : Number) : Nat :=
  if x.exponent = 0 then x.fraction
  else (valuesOf 52 + x.fraction) * valuesOf (x.exponent - 1)

/-- The number nearest to a quotient that is counted in least positive numbers. Where the quotient
has more than 53 digits the last ones are rounded off; one place in the exponent is one of them. -/
def nearest (negative : Bool) (num den : Nat) : Number :=
  let dropped := (num / den).log2 - 52
  -- a carry out of the fraction lands in the exponent, where it belongs
  ofParts negative
    (min infinityRest (dropped * valuesOf 52 + roundDiv num (den * valuesOf dropped)))

/-- The number nearest to a decimal. -/
def ofDecimal (negative : Bool) (digits : Nat) (exponent : Int) : Number :=
  nearest negative (digits * one * Nat.pow 10 exponent.toNat) (Nat.pow 10 (-exponent).toNat)

def ofInt (n : Int) : Number := nearest (n < 0) (n.natAbs * one) 1

def ofNat (n : Nat) : Number := nearest false (n * one) 1

instance (n : Nat) : OfNat Number n := ⟨ofNat n⟩

instance : OfScientific Number where
  ofScientific digits below exponent :=
    ofDecimal false digits (if below then -exponent else exponent)

/-! ### Numbers that are none -/

/-- Infinity, with a sign. -/
def infinity (negative : Bool) : Number := ofParts negative infinityRest

/-- Not a number, as it is written by this name. -/
def nan : Number := ⟨0x7ff8000000000000⟩

/-- Not a number, as the result of an operation that has none. -/
def invalid : Number := ⟨0xfff8000000000000⟩

/-- What an operation makes of an operand that is not a number. -/
def quiet (x : Number) : Number := ⟨x.bits ||| 0x0008000000000000⟩

/-- The result of an operation where an operand is not a number, and otherwise another one. -/
def orNaN (x y : Number) (result : Number) : Number :=
  if x.isNaN then x.quiet else if y.isNaN then y.quiet else result

/-! ### Operations -/

/-- Whether a product or quotient is negative. -/
def opposed (x y : Number) : Bool := x.isNegative != y.isNegative

def mul (x y : Number) : Number :=
  x.orNaN y <|
    if x.isInfinite || y.isInfinite then
      if x.isZero || y.isZero then invalid else infinity (x.opposed y)  -- zero times infinity
    -- both are counted in units, so one of the two is divided out
    else nearest (x.opposed y) (x.units * y.units) one

/-- The quotient. Infinity by infinity and zero by zero have no value. -/
def div (x y : Number) : Number :=
  x.orNaN y <|
    if x.isInfinite then if y.isInfinite then invalid else infinity (x.opposed y)
    else if y.isInfinite then ofParts (x.opposed y) 0
    else if y.isZero then if x.isZero then invalid else infinity (x.opposed y)
    else nearest (x.opposed y) (x.units * one) y.units

/-- A finite number, counted in least positive numbers. -/
def signedUnits (x : Number) : Int := if x.isNegative then -x.units else x.units

/-- The difference of two numbers. The zero between equal ones is negative only in `-0.0 - 0.0`. -/
def sub (x y : Number) : Number :=
  x.orNaN y <|
    if x.isInfinite then
      if y.isInfinite && x.isNegative = y.isNegative then invalid else x
    else if y.isInfinite then -y
    else
      let difference := x.signedUnits - y.signedUnits
      if difference = 0 then ofParts (x.isNegative && !y.isNegative) 0
      else nearest (difference < 0) difference.natAbs 1

instance : Mul Number := ⟨mul⟩
instance : Div Number := ⟨div⟩
instance : Sub Number := ⟨sub⟩

end Number
end OperatorPanel
