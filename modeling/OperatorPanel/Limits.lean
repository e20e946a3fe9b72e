/-!
# Limits

The numbers every part of the panel agrees on.
-/

namespace OperatorPanel

/-- Axes that pins and commands can address: indices `0` to `8`. -/
def maxAxes : Nat := 9

/-- Axes with a component in a velocity vector. -/
def vectorAxes : Nat := 6

/-- Configured lines that pins can run. -/
def maxLines : Nat := 64

/-- Bytes of UTF-8 that one manual line may take. -/
def maxLineBytes : Nat := 255

/-- Bytes of UTF-8 that the text of one notice may take. -/
def maxNoticeBytes : Nat := 255

/-- How many values so many bits can have. -/
def valuesOf (bits : Nat) : Nat := Nat.pow 2 bits

theorem valuesOf_pos (bits : Nat) : 0 < valuesOf bits := Nat.two_pow_pos bits

theorem valuesOf_mono {m n : Nat} (h : m ≤ n) : valuesOf m ≤ valuesOf n :=
  Nat.pow_le_pow_right (by decide) h

theorem valuesOf_add (m n : Nat) : valuesOf (m + n) = valuesOf m * valuesOf n := Nat.pow_add 2 m n

end OperatorPanel
