import OperatorPanel.Segment.Writer

/-!
# Readers

Any process may read a segment. A reader remembers the version that it read last and so knows
when there is something new. While a write is in progress nothing can be read.
-/

namespace OperatorPanel

/-- An attachment to a segment. -/
structure SegmentReader where
  name : String
  /-- The number of the file. -/
  number : Nat
  /-- The size of the data. -/
  size : Nat
  /-- The version that was read last. -/
  version : UInt64 := 0
  deriving DecidableEq

namespace Directory

/-- Whether the first file is to be read rather than the second: live owners come first, and then
the file that was changed last. -/
def preferred (d : Directory) (a b : Match) : Bool :=
  let aliveA := d.alive a.pid
  let aliveB := d.alive b.pid
  if aliveA = aliveB then (d.file b.number).modified ≤ (d.file a.number).modified else aliveA

/-- The file to be read; of files that nothing tells apart the first. -/
def best? (d : Directory) : List Match → Option Match
  | [] => none
  | m :: ms =>
    match d.best? ms with
    | none => some m
    -- `m` stands before `n`: in a tie it wins
    | some n => if d.preferred m n then some m else some n

/-- The file of a segment that is to be read. -/
def select (d : Directory) (name : String) : Except SegmentFault Match :=
  match d.find name with
  | .error fault => .error fault
  | .ok ms =>
    match d.best? ms with
    | some m => .ok m
    | none => .error (.notFound name)

/-- Attach to a segment. Nothing is counted unless the file is in order. -/
def attach (d : Directory) (name : String) : Except SegmentFault SegmentReader × Directory :=
  match d.select name with
  | .error fault => (.error fault, d)
  | .ok m =>
    match (d.file m.number).fault? name with
    | some fault => (.error fault, d)
    | none =>
      (.ok { name, number := m.number, size := (d.file m.number).header.size.toNat },
        d.modifyHeader m.number (·.addReader))

end Directory

namespace SegmentReader

/-- The header of the segment. -/
def header (r : SegmentReader) (d : Directory) : SegmentHeader := (d.file r.number).header

/-- Read a range of the data section. -/
def readRange (r : SegmentReader) (start length : Nat) (d : Directory) :
    Except SegmentFault (Block × SegmentReader) :=
  let finish := Segment.rangeEnd start length
  if r.size < finish then .error (.invalidSize finish)
  else
    -- a writer at work shows an odd version; nothing else can be seen of it
    let version := (r.header d).version
    if Segment.stable version then
      .ok ((d.file r.number).data.block start length, { r with version })
    else .error .versionConflict

/-- Read the whole data section. -/
def read (r : SegmentReader) (d : Directory) : Except SegmentFault (Block × SegmentReader) :=
  r.readRange 0 r.size d

/-- Whether there is something new, and no write is in progress. -/
def hasChanged (r : SegmentReader) (d : Directory) : Bool :=
  let version := (r.header d).version
  version != r.version && Segment.stable version

/-- Whether the process that created the segment is still running. -/
def writerAlive (r : SegmentReader) (d : Directory) : Bool := d.alive (r.header d).writerPid

/-- The number of readers that are attached. -/
def readerCount (r : SegmentReader) (d : Directory) : UInt32 := (r.header d).readerCount

/-- Detach. -/
def drop (r : SegmentReader) (d : Directory) : Directory :=
  d.modifyHeader r.number (·.removeReader)

end SegmentReader
end OperatorPanel
