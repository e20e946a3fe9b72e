import Mathlib.Algebra.Ring.Nat
import OperatorPanel.CycleStats

/-!
# What the statistics of cycles say

The statistics are kept one cycle at a time, in numbers of 64 bits. `CycleStats.Tells` says of which
cycles they tell what: how many there were, what went wrong in them, and the longest and the total
time. Counting one more cycle keeps this (`Tells.count`), so it holds for any sequence of cycles
(`Tells.counts`). Single times and their total are capped in two places; the average stays below
the longest time all the same (`Tells.average_le`), since neither cap lifts the total.
-/

namespace OperatorPanel

/-- What there is to count of one cycle: how long it took and how long it might take, how many
commands failed, and whether the status could not be refreshed. -/
structure Lap where
  elapsed : Span
  budget : Span
  failed : UInt32
  refreshFailed : Bool

namespace Lap

/-- The time in whole microseconds, as far as it fits into 64 bits. -/
def micros (l : Lap) : Nat := min (l.elapsed.nanos / 1000) (valuesOf 64 - 1)

/-- Whether the cycle took longer than it might. -/
def late (l : Lap) : Bool := l.budget.nanos < l.elapsed.nanos

end Lap

namespace CycleStats

variable {s : CycleStats} {laps : List Lap}

/-- Count a cycle. -/
def count (s : CycleStats) (l : Lap) : CycleStats :=
  s.record l.elapsed l.budget l.failed.toNat l.refreshFailed

/-- The statistics of some cycles. -/
def ofLaps (laps : List Lap) : CycleStats := laps.foldl count {}

theorem toNat_capped (n : Nat) : (capped n).toNat = min n (valuesOf 64 - 1) := by
  apply UInt64.toNat_ofNat_of_lt'
  have hmin : min n (valuesOf 64 - 1) ≤ valuesOf 64 - 1 := Nat.min_le_right ..
  exact Nat.lt_of_le_of_lt hmin (by decide)

theorem toNat_max (a b : UInt64) : (max a b).toNat = max a.toNat b.toNat := by
  show (if a ≤ b then b else a).toNat = _
  split
  · next hle => exact (Nat.max_eq_right (UInt64.le_iff_toNat_le.1 hle)).symm
  · next hle => exact (Nat.max_eq_left (Nat.le_of_lt (UInt64.not_le.1 hle))).symm

/-- What the statistics tell of these cycles. -/
structure Tells (s : CycleStats) (laps : List Lap) : Prop where
  cycles : s.cycles.toNat = laps.length
  longest : s.longest.toNat = (laps.map Lap.micros).foldl max 0
  total : s.total.toNat = min (laps.map Lap.micros).sum (valuesOf 64 - 1)
  overruns : s.overruns.toNat = laps.countP Lap.late
  dispatchFailures : s.dispatchFailures.toNat = (laps.map fun l => l.failed.toNat).sum
  refreshFailures : s.refreshFailures.toNat = laps.countP Lap.refreshFailed

theorem tells_nil : Tells {} [] := ⟨rfl, rfl, rfl, rfl, rfl, rfl⟩

/-- Sums that fit into 64 bits. -/
theorem toNat_add {a b : UInt64} (hfits : a.toNat + b.toNat < valuesOf 64) :
    (a + b).toNat = a.toNat + b.toNat := by
  rw [UInt64.toNat_add]
  exact Nat.mod_eq_of_lt hfits

theorem failures_le (laps : List Lap) :
    (laps.map fun l => l.failed.toNat).sum ≤ laps.length * valuesOf 32 := by
  induction laps with
  | nil => simp
  | cons l laps ih =>
      have hfailed : l.failed.toNat < valuesOf 32 := l.failed.toNat_lt
      rw [List.map_cons, List.sum_cons, List.length_cons, Nat.succ_mul]
      omega

/-- So few cycles cannot have more failures than fit. -/
theorem failures_lt (hfew : laps.length < valuesOf 32) :
    (laps.map fun l => l.failed.toNat).sum < valuesOf 64 := by
  apply Nat.lt_of_le_of_lt (failures_le laps)
  rw [valuesOf_add 32 32]
  exact Nat.mul_lt_mul_of_pos_right hfew (valuesOf_pos 32)

/-- A counter that goes up by one for some of the cycles. -/
theorem toNat_counted {n : UInt64} {p : Lap → Bool} (l : Lap) (hn : n.toNat = laps.countP p)
    (hfew : laps.length < valuesOf 32) :
    (if p l then n + 1 else n).toNat = (laps ++ [l]).countP p := by
  have hle : laps.countP p ≤ laps.length := List.countP_le_length
  have hfits : n.toNat + (1 : UInt64).toNat < valuesOf 64 := by
    have hroom : valuesOf 32 + 1 < valuesOf 64 := by decide
    show n.toNat + 1 < _
    omega
  rw [List.countP_append, List.countP_singleton, ← hn]
  split
  · exact toNat_add hfits
  · rfl

namespace Tells

/-- **One more cycle is counted.** -/
theorem count (h : s.Tells laps) (l : Lap) (hfew : (laps ++ [l]).length < valuesOf 32) :
    (s.count l).Tells (laps ++ [l]) := by
  have hlength : (laps ++ [l]).length = laps.length + 1 := List.length_append
  have hmicros : (capped l.elapsed.micros).toNat = l.micros := toNat_capped _
  refine ⟨?_, ?_, ?_, ?_, ?_, ?_⟩
  · -- every lap counts as a cycle, so the general count applies with a predicate that always holds
    have hall : s.cycles.toNat = laps.countP fun _ => true := by
      rw [List.countP_true]
      exact h.cycles
    have hcounted := toNat_counted l hall (by omega)
    rw [List.countP_true] at hcounted
    exact hcounted
  · show (max s.longest (capped l.elapsed.micros)).toNat = _
    rw [toNat_max, h.longest, hmicros]
    simp
  · show (capped (s.total.toNat + (capped l.elapsed.micros).toNat)).toNat = _
    rw [toNat_capped, h.total, hmicros]
    simp
    omega
  · have hlate := toNat_counted l h.overruns (by omega)
    simp only [Lap.late, decide_eq_true_eq] at hlate
    exact hlate
  · -- fewer than 2 ^ 32 laps with fewer than 2 ^ 32 failures each fit into 64 bits
    show (s.dispatchFailures + UInt64.ofNat l.failed.toNat).toNat = _
    have hsum : ((laps ++ [l]).map fun l => l.failed.toNat).sum
        = (laps.map fun l => l.failed.toNat).sum + l.failed.toNat := by
      simp
    have hfits := failures_lt hfew
    have hfailed : (UInt64.ofNat l.failed.toNat).toNat = l.failed.toNat :=
      UInt64.toNat_ofNat_of_lt' (Nat.lt_trans l.failed.toNat_lt (by decide))
    rw [hsum] at hfits ⊢
    rw [toNat_add (by rw [h.dispatchFailures, hfailed]; exact hfits), h.dispatchFailures, hfailed]
  · exact toNat_counted l h.refreshFailures (by omega)

/-- **Any number of cycles is counted.** -/
theorem counts (h : s.Tells laps) (more : List Lap)
    (hfew : (laps ++ more).length < valuesOf 32) :
    (more.foldl CycleStats.count s).Tells (laps ++ more) := by
  induction more generalizing s laps with
  | nil => simpa using h
  | cons l more ih =>
      rw [List.append_cons] at hfew ⊢
      have hless : (laps ++ [l]).length ≤ (laps ++ [l] ++ more).length :=
        (List.sublist_append_left ..).length_le
      exact ih (h.count l (Nat.lt_of_le_of_lt hless hfew)) hfew

/-- The total is not more than the longest time would give for every cycle. -/
theorem total_le (h : s.Tells laps) : s.total.toNat ≤ s.longest.toNat * s.cycles.toNat := by
  rw [h.total, h.longest, h.cycles]
  apply Nat.le_trans (Nat.min_le_left ..)
  cases laps with
  | nil => simp
  | cons l laps =>
      have hsum := List.sum_le_max_mul_length_nat (List.cons_ne_nil l.micros (laps.map Lap.micros))
      simpa [List.max] using hsum

theorem toNat_average (h : s.Tells laps) : s.average.toNat = s.total.toNat / laps.length := by
  rw [← h.cycles]
  unfold average
  split
  · next hnone => simp [hnone]
  · rw [UInt64.toNat_div]

/-- **The average is not above the longest time**, of whatever cycles the statistics tell. -/
theorem average_le (h : s.Tells laps) : s.average ≤ s.longest := by
  rw [UInt64.le_iff_toNat_le, h.toNat_average, ← h.cycles]
  apply Nat.div_le_of_le_mul
  rw [Nat.mul_comm]
  exact h.total_le

end Tells

theorem foldl_max_eq (times : List Nat) : times.foldl max 0 = times.max?.getD 0 := by
  cases times with
  | nil => rfl
  | cons t times =>
      rw [List.max?_cons', List.foldl_cons, Nat.zero_max]
      rfl

/-- **What the statistics of fewer than `2 ^ 32` cycles say**: the number of cycles, of the commands
that failed in them, of those in which the status could not be refreshed and of those that took too
long; and, of the times in whole microseconds, each cut off where it does not fit into 64 bits, the
longest and the sum, which is cut off there too. The average is that of the sum, and is not above
the longest time, also where the sum was cut off. Before the first cycle both are zero. -/
theorem figures (laps : List Lap) (hfew : laps.length < valuesOf 32) :
    let s := ofLaps laps
    let times := laps.map Lap.micros
    s.cycles.toNat = laps.length ∧
      s.dispatchFailures.toNat = (laps.map fun l => l.failed.toNat).sum ∧
      s.refreshFailures.toNat = laps.countP Lap.refreshFailed ∧
      s.overruns.toNat = laps.countP Lap.late ∧
      s.longest.toNat = times.max?.getD 0 ∧
      s.total.toNat = min times.sum (valuesOf 64 - 1) ∧
      s.average.toNat = s.total.toNat / laps.length ∧
      s.average ≤ s.longest := by
  intro s times
  have htells : s.Tells laps := tells_nil.counts laps hfew
  exact ⟨htells.cycles, htells.dispatchFailures, htells.refreshFailures, htells.overruns,
    htells.longest.trans (foldl_max_eq times), htells.total, htells.toNat_average,
    htells.average_le⟩

/-- Three cycles, of which two take as long as a span of time can be. -/
def endless : List Lap :=
  [⟨.longest, .zero, 4294967295, true⟩, ⟨.ofMillis 30, .ofMillis 30, 0, false⟩,
    ⟨.longest, .longest, 4294967295, false⟩]

theorem figures_endless :
    endless.length < valuesOf 32 ∧
      let s := ofLaps endless
      s.cycles.toNat = 3 ∧ s.dispatchFailures.toNat = 8589934590 ∧ s.refreshFailures.toNat = 1 ∧
        s.overruns.toNat = 1 ∧ s.longest.toNat = valuesOf 64 - 1 ∧
        s.total.toNat = valuesOf 64 - 1 ∧ s.average.toNat = 6148914691236517205 := by
  obtain ⟨hcycles, hfailures, hrefresh, hoverruns, hlongest, htotal, haverage, -⟩ :=
    figures endless (by decide)
  exact ⟨by decide, hcycles, hfailures.trans (by decide), hrefresh.trans (by decide),
    hoverruns.trans (by decide), hlongest.trans (by decide), htotal.trans (by decide),
    haverage.trans (by rw [htotal]; decide)⟩

end CycleStats
end OperatorPanel
