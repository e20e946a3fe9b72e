import OperatorPanel.Segment.Fault
import OperatorPanel.Segment.Memory

/-!
# Segment files

A segment lives in a file: a header and the data after it. The header counts its readers and the
writes: the version is odd while a write is in progress and even otherwise.
-/

namespace OperatorPanel

/-- The header of a segment. -/
structure SegmentHeader where
  magic : UInt64 := 0
  version : UInt64 := 0
  writerPid : UInt32 := 0
  readerCount : UInt32 := 0
  size : UInt64 := 0
  created : Nat := 0
  lastWrite : Nat := 0
  deriving DecidableEq

namespace SegmentHeader

/-- The header of a new segment. -/
def forWriter (size : Nat) (pid : UInt32) (now : Nat) : SegmentHeader :=
  { magic := Segment.magic, writerPid := pid, size := UInt64.ofNat size
    created := now, lastWrite := now }

/-- The check that headers pass. -/
def fault? (h : SegmentHeader) (name : String) : Option SegmentFault :=
  if h.magic = Segment.magic then none else some (.corrupted name)

/-- Count a reader. -/
def addReader (h : SegmentHeader) : SegmentHeader := { h with readerCount := h.readerCount + 1 }

/-- Count a reader less. -/
def removeReader (h : SegmentHeader) : SegmentHeader := { h with readerCount := h.readerCount - 1 }

/-- Begin or end a write. -/
def advance (h : SegmentHeader) : SegmentHeader := { h with version := h.version + 1 }

end SegmentHeader

namespace Segment

/-- Whether no write is in progress at a version. -/
def stable (version : UInt64) : Bool := version % 2 == 0

end Segment

/-- A file that may hold a segment. -/
structure SegmentFile where
  /-- Bytes, header included. -/
  length : Nat
  header : SegmentHeader := {}
  data : Memory := {}
  /-- When the file was changed last. -/
  modified : Nat := 0
  deriving DecidableEq

instance : Inhabited SegmentFile := ⟨{ length := 0 }⟩

/-- What is wrong with a file that should hold a segment. The size is checked before the length
that the file must have for it. -/
def SegmentFile.fault? (f : SegmentFile) (name : String) : Option SegmentFault :=
  if f.length < Segment.headerLength then some (.corrupted name)
  else
    (f.header.fault? name).or
      ((Segment.sizeFault? f.header.size.toNat).or
        (if f.length < Segment.headerLength + f.header.size.toNat then some (.corrupted name)
          else none))

end OperatorPanel
