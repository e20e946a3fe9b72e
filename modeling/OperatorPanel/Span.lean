import OperatorPanel.Number.Arithmetic

/-!
# Spans of time

Lengths of time in whole nanoseconds. `Span.ofSeconds?` reads a number of seconds, rounding to
the nearest nanosecond.
-/

namespace OperatorPanel

/-- A length of time. -/
structure Span where
  nanos : Nat
  deriving DecidableEq, Repr, Inhabited

namespace Span

def nanosPerSecond : Nat := 1000000000
def nanosPerMilli : Nat := 1000000

def zero : Span := ⟨0⟩

/-- The longest span: one nanosecond short of `2 ^ 64` seconds. -/
def longest : Span := ⟨valuesOf 64 * nanosPerSecond - 1⟩

def ofMillis (n : Nat) : Span := ⟨n * nanosPerMilli⟩

def ofParts (seconds nanos : Nat) : Span := ⟨seconds * nanosPerSecond + nanos⟩

/-- One after the other. -/
def add (t t' : Span) : Span := ⟨t.nanos + t'.nanos⟩

@[simp] theorem nanos_add (t t' : Span) : (t.add t').nanos = t.nanos + t'.nanos := rfl

/-- Whole seconds. -/
def seconds (t : Span) : Nat := t.nanos / nanosPerSecond

/-- Nanoseconds beyond the whole seconds. -/
def subsecond (t : Span) : Nat := t.nanos % nanosPerSecond

/-- Whole milliseconds. -/
def millis (t : Span) : Nat := t.nanos / nanosPerMilli

/-- Whole microseconds. -/
def micros (t : Span) : Nat := t.nanos / 1000

/-- A number of seconds; none for numbers that are negative, not finite or too great. -/
def ofSeconds? (x : Number) : Option Span :=
  if x < 0 || !x.isFinite then none
  else
    let t := roundDiv (x.units * nanosPerSecond) Number.one
    if t ≤ longest.nanos then some ⟨t⟩ else none

/-- A number of seconds, cut off at both ends: none below zero, the longest span above it. -/
def ofSeconds (x : Number) : Span :=
  if 0 < x then (ofSeconds? x).getD longest else zero

end Span
end OperatorPanel
