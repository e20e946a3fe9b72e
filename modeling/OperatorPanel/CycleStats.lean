import OperatorPanel.Console.Cycle

/-!
# Statistics of cycles

Counts and times over all cycles of a run. Times are in microseconds and stop growing at the
greatest number of 64 bits.
-/

namespace OperatorPanel

/-- Counts and times of the cycles so far. -/
structure CycleStats where
  cycles : UInt64 := 0
  longest : UInt64 := 0
  total : UInt64 := 0
  /-- Cycles that took longer than they should. -/
  overruns : UInt64 := 0
  dispatchFailures : UInt64 := 0
  refreshFailures : UInt64 := 0
  deriving DecidableEq, Repr

namespace CycleStats

/-- A number, or the greatest one of 64 bits where it is greater. -/
def capped (n : Nat) : UInt64 := UInt64.ofNat (min n (valuesOf 64 - 1))

/-- Count a cycle. -/
def record (s : CycleStats) (elapsed budget : Span) (failed : Nat) (refreshFailed : Bool) :
    CycleStats :=
  let micros := capped elapsed.micros
  { cycles := s.cycles + 1
    longest := max s.longest micros
    total := capped (s.total.toNat + micros.toNat)
    overruns := if budget.nanos < elapsed.nanos then s.overruns + 1 else s.overruns
    dispatchFailures := s.dispatchFailures + UInt64.ofNat failed
    refreshFailures := if refreshFailed then s.refreshFailures + 1 else s.refreshFailures }

/-- The average time; zero before the first cycle. -/
def average (s : CycleStats) : UInt64 := if s.cycles = 0 then 0 else s.total / s.cycles

end CycleStats
end OperatorPanel
