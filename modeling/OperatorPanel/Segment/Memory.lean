import OperatorPanel.Frame

/-!
# Memory

Bytes at addresses, zero where nothing was written. Only what was written is kept, so that a
large empty memory costs nothing. `get_write` is the one law: a write changes the bytes that it
covers and no others.
-/

namespace OperatorPanel

/-- Bytes written at one place. -/
structure Patch where
  start : Nat
  bytes : Array UInt8
  deriving DecidableEq

namespace Patch

/-- The byte that the patch holds at an address. -/
def get? (p : Patch) (i : Nat) : Option UInt8 :=
  if p.start ≤ i then p.bytes[i - p.start]? else none

/-- The address after the last byte. -/
def finish (p : Patch) : Nat := p.start + p.bytes.size

/-- Whether `p` hides all of `q`. -/
def covers (p q : Patch) : Bool := p.start ≤ q.start && q.finish ≤ p.finish

theorem get?_eq_none_of_covers {p q : Patch} (h : p.covers q = true) {i : Nat}
    (hp : p.get? i = none) : q.get? i = none := by
  rw [covers, Bool.and_eq_true, decide_eq_true_iff, decide_eq_true_iff] at h
  simp only [finish] at h
  simp only [get?] at hp ⊢
  split
  · next hq =>
    have hpi : p.start ≤ i := by omega
    rw [if_pos hpi, Array.getElem?_eq_none_iff] at hp
    rw [Array.getElem?_eq_none_iff]
    omega
  · rfl

end Patch

/-- Bytes at addresses. -/
structure Memory where
  /-- What was written, newest first. -/
  patches : List Patch := []
  deriving DecidableEq

namespace Memory

/-- The byte at an address. -/
def get (m : Memory) (i : Nat) : UInt8 := (m.patches.findSome? (·.get? i)).getD 0

/-- Write bytes from an address on. -/
def write (m : Memory) (start : Nat) (bytes : List UInt8) : Memory :=
  let p : Patch := ⟨start, bytes.toArray⟩
  ⟨p :: m.patches.filter (!p.covers ·)⟩

/-- The address after which nothing was written. -/
def extent (m : Memory) : Nat := m.patches.foldl (fun n p => max n p.finish) 0

theorem findSome?_filter_covers {p : Patch} {i : Nat} (h : p.get? i = none) :
    ∀ patches : List Patch,
      (patches.filter (!p.covers ·)).findSome? (·.get? i) = patches.findSome? (·.get? i)
  | [] => rfl
  | q :: patches => by
    by_cases hc : p.covers q = true
    · simp [hc, Patch.get?_eq_none_of_covers hc h, findSome?_filter_covers h patches]
    · simp only [Bool.not_eq_true] at hc
      simp [hc, List.findSome?_cons, findSome?_filter_covers h patches]

/-- A write changes the bytes that it covers and no others. -/
theorem get_write (m : Memory) (start : Nat) (bytes : List UInt8) (i : Nat) :
    (m.write start bytes).get i
      = if start ≤ i ∧ i - start < bytes.length then bytes.getD (i - start) 0 else m.get i := by
  simp only [get, write, List.findSome?_cons]
  by_cases h : start ≤ i ∧ i - start < bytes.length
  · simp [Patch.get?, h]
  · have hp : (Patch.mk start bytes.toArray).get? i = none := by
      simp only [Patch.get?]
      split
      · next hs =>
        rw [Array.getElem?_eq_none_iff]
        simp only [List.size_toArray]
        omega
      · rfl
    rw [if_neg h, hp]
    simp only [findSome?_filter_covers hp]

theorem get_empty (i : Nat) : get {} i = 0 := rfl

end Memory

/-! ### Blocks -/

/-- A stretch of bytes: those that are listed, and zeros up to its length. -/
structure Block where
  length : Nat
  leading : List UInt8
  leading_le : leading.length ≤ length
  deriving DecidableEq

namespace Block

/-- The first bytes, as many as there are. -/
def take (b : Block) (n : Nat) : List UInt8 :=
  let n := min n b.length
  b.leading.take n ++ List.replicate (n - b.leading.length) 0

/-- The bytes of the frame that stands in front, as far as they are there. -/
def frame (b : Block) : List UInt8 :=
  b.take (Frame.headerLength + Frame.bodyLength (b.take Frame.headerLength))

/-- The bytes without the zeros that end them. -/
def trimmed (b : Block) : List UInt8 := (b.leading.reverse.dropWhile (· == 0)).reverse

end Block

/-- The bytes of a stretch. -/
def Memory.block (m : Memory) (start length : Nat) : Block where
  length := length
  leading := (List.range (min length (m.extent - start))).map fun i => m.get (start + i)
  leading_le := by rw [List.length_map, List.length_range]; exact Nat.min_le_left _ _

end OperatorPanel
