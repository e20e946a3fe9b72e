import OperatorPanel.Number.Arithmetic
import OperatorPanel.Text.Digits

/-!
# Decimal text of numbers

The numbers that round to a finite number fill an interval around it, ends included when its last
bit is zero. `Number.shortest` is the decimal with the fewest digits in that interval, and of those
the nearest one; `Number.text` writes it in positional notation, however long that gets, and
without a fraction when there is none.
-/

namespace OperatorPanel

/-! ### Decimals -/

/-- The decimal `digits * 10 ^ exponent`. -/
structure Decimal where
  digits : Nat
  exponent : Int
  deriving DecidableEq, Repr

namespace Decimal

/-- Move trailing zeros of the digits into the exponent; `fuel` bounds how many. -/
def strip : (fuel : Nat) → Decimal → Decimal
  | 0, d => d
  | fuel + 1, d =>
    if d.digits ≠ 0 ∧ d.digits % 10 = 0 then strip fuel ⟨d.digits / 10, d.exponent + 1⟩ else d

/-- Positional notation. -/
def text (d : Decimal) : String :=
  let cs := Nat.toDigits 10 d.digits
  if 0 ≤ d.exponent then
    String.ofList (cs ++ List.replicate d.exponent.toNat '0')
  else
    let places := (-d.exponent).toNat  -- at least one digit stands before the point
    let cs := List.replicate (places + 1 - cs.length) '0' ++ cs
    String.ofList (cs.take (cs.length - places) ++ '.' :: cs.drop (cs.length - places))

/-- The nearest number, with a sign. Far outside the range of numbers it is not computed: `size` is
as many binary digits as there would be if eight stood for ten, which is too many for a negative
exponent and too few for others. -/
def toNumber (negative : Bool) (d : Decimal) : Number :=
  -- eight is less than ten: one bound is safe for positive exponents, the other for negative
  let size := d.digits.log2 + 3 * d.exponent
  if d.digits = 0 || size < -1100 then .ofParts negative 0
  else if 0 ≤ d.exponent && 1100 < size then .infinity negative
  else .ofDecimal negative d.digits d.exponent

end Decimal

/-! ### The shortest decimal -/

/-- A number in the interval of what rounds to it, over one denominator. -/
structure Interval where
  /-- The number itself. -/
  num : Nat
  /-- The least number that rounds to it. -/
  low : Nat
  /-- The greatest number that rounds to it. -/
  high : Nat
  den : Nat
  /-- The ends round to it, too. -/
  closed : Bool

namespace Interval

/-- Whether the interval reaches over a fraction of its denominator. -/
def holds (x : Interval) (num : Nat) (scale : Nat) : Bool :=
  if x.closed then x.low * scale ≤ num && num ≤ x.high * scale
  else x.low * scale < num && num < x.high * scale

/-- The number of digits before the decimal point; zero or less for numbers below one tenth. -/
def leading (x : Interval) : Int :=
  if x.den ≤ x.num then (Nat.toDigits 10 (x.num / x.den)).length
  else 1 - (Nat.toDigits 10 (x.den / x.num)).length

/-- The multiple of `10 ^ k` nearest to the number, if one rounds to it; from the middle between
two multiples the greater one is taken. -/
def onGrid? (x : Interval) (k : Int) : Option Decimal :=
  let scale := Nat.pow 10 (-k).toNat
  let den := x.den * Nat.pow 10 k.toNat
  let floor := x.num * scale / den
  let rest := x.num * scale - floor * den
  -- a decimal without digits is never the shortest one
  let down := 0 < floor && x.holds (floor * den) scale
  let up := x.holds ((floor + 1) * den) scale
  if up && (!down || den ≤ 2 * rest) then some ⟨floor + 1, k⟩
  else if down then some ⟨floor, k⟩
  else none

/-- The first grid with a hit, from `n` digits on; `fuel` bounds how many grids are tried. -/
def search (x : Interval) (places : Int) : (fuel n : Nat) → Decimal
  | 0, n => ⟨x.num / x.den, places - n⟩
  | fuel + 1, n =>
    match x.onGrid? (places - n) with
    | some d => d
    | none => search x places fuel (n + 1)

end Interval

namespace Number

/-- The interval of what rounds to a finite number. Below a power of two the neighbour is only half
as far away. -/
def interval (x : Number) : Interval :=
  let last := valuesOf (x.exponent - 1)
  let below := if x.fraction = 0 ∧ 1 < x.exponent then last else 2 * last
  { num := 4 * x.units
    low := 4 * x.units - below
    high := 4 * x.units + 2 * last
    den := 4 * one
    closed := x.fraction % 2 = 0 }

/-- The shortest decimal that rounds to a finite number other than zero, and of the shortest the
nearest; the sign is left out. Seventeen digits always suffice. -/
def shortest (x : Number) : Decimal := (x.interval.search x.interval.leading 17 1).strip 400

/-- The text of a number. -/
def text (x : Number) : String :=
  if x.isNaN then "NaN"
  else
    let sign := if x.isNegative then "-" else ""
    if x.isInfinite then sign ++ "inf"
    else if x.isZero then sign ++ "0"
    else sign ++ x.shortest.text

end Number
end OperatorPanel
