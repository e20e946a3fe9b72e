import OperatorPanel.Path

/-!
# Faults of segments
-/

namespace OperatorPanel

/-- What a segment operation can fail with. -/
inductive SegmentFault where
  /-- A live process owns the name. -/
  | alreadyExists (name : String)
  | notFound (name : String)
  | invalidSize (size : Nat)
  /-- The file does not describe a segment. -/
  | corrupted (name : String)
  /-- A write was in progress all the time. -/
  | versionConflict
  | misaligned (address : Nat)
  | file (fault : FileFault)
  deriving DecidableEq, Repr

namespace Segment

/-- Bytes before the data. -/
def headerLength : Nat := 128

/-- The least size of the data, of which every size is a multiple. -/
def minSize : Nat := 4096

/-- The greatest size of the data. -/
def maxSize : Nat := 1073741824

/-- What addresses of segments are multiples of. -/
def alignment : Nat := 64

/-- The number that marks a segment. -/
def magic : UInt64 := 0x484d4953484d3031

end Segment

/-- What is said about a fault. -/
def SegmentFault.text : SegmentFault → String
  | alreadyExists name => "Segment already exists: " ++ name
  | notFound name => "Segment not found: " ++ name
  | invalidSize size =>
    "Invalid segment size: " ++ Text.decimal size ++ " bytes (must be 4KB-1GB, page-aligned)"
  | corrupted name => "Segment header invalid: " ++ name
  | versionConflict => "Version conflict detected - retry recommended"
  | misaligned address =>
    "Memory alignment error: address " ++ Text.hexadecimal address ++ " not aligned to "
      ++ Text.decimal Segment.alignment
  | file fault => "IO error: " ++ fault.text

namespace Segment

/-- The check that sizes pass. -/
def sizeFault? (size : Nat) : Option SegmentFault :=
  if minSize ≤ size ∧ size ≤ maxSize ∧ size % minSize = 0 then none else some (.invalidSize size)

/-- The check that addresses pass. -/
def addressFault? (address : Nat) : Option SegmentFault :=
  if address % alignment = 0 then none else some (.misaligned address)

end Segment
end OperatorPanel
