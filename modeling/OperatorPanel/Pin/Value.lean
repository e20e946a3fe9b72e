import OperatorPanel.Number.Arithmetic

/-!
# Pin values
-/

namespace OperatorPanel

/-- A sampled value. -/
inductive PinValue where
  | bit (b : Bool)
  | word (n : UInt16)
  | float (x : Number)
  deriving DecidableEq

namespace PinValue

/-- Anything but zero is active, not-a-number included. -/
def asBit : PinValue → Bool
  | .bit b => b
  | .word n => n != 0
  | .float x => !x.isZero

/-- The value as a number. -/
def asFloat : PinValue → Number
  | .bit b => if b then 1 else 0
  | .word n => .ofNat n.toNat
  | .float x => x

/-- Equality of values as numbers: `0.0` equals `-0.0`, not-a-number differs from itself. -/
def same : PinValue → PinValue → Bool
  | .bit a, .bit b => a == b
  | .word a, .word b => a == b
  | .float a, .float b => a.same b
  | _, _ => false

end PinValue

/-- A name and a value, as they stand in a pin frame. -/
structure NamedPin where
  name : String
  value : PinValue
  deriving DecidableEq

end OperatorPanel
