import OperatorPanel.Segment.Directory

/-!
# Writers

The one process that writes a segment. Creating a segment claims its name: files that dead
processes left behind are removed, and a live owner is respected. Dropping the writer removes
its file.
-/

namespace OperatorPanel

/-- The right to write a segment. -/
structure SegmentWriter where
  name : String
  /-- The name of its file. -/
  file : String
  /-- The number of its file. -/
  number : Nat
  /-- The size of the data. -/
  size : Nat
  /-- The version after the last write. -/
  version : UInt64 := 0
  deriving DecidableEq

namespace Segment

/-- The end of a range; a sum beyond the greatest address stands at it. -/
def rangeEnd (start length : Nat) : Nat := min (start + length) (valuesOf 64 - 1)

end Segment

namespace Directory

/-- What claiming a name led to. -/
structure Claim where
  fault : Option SegmentFault := none
  directory : Directory
  /-- The dead owners whose files were removed, in order. -/
  removed : List UInt32 := []

/-- Remove the files of dead owners until a live one is met. -/
def claimFrom (d : Directory) (name : String) : List Match → Claim
  | [] => { directory := d }
  | m :: ms =>
    if m.pid = d.self || d.alive m.pid then { fault := some (.alreadyExists name), directory := d }
    else
      let claim := claimFrom (d.remove m.file) name ms
      { claim with removed := m.pid :: claim.removed }

/-- Claim the name of a segment. -/
def claim (d : Directory) (name : String) : Claim :=
  match d.find name with
  | .error fault => { fault := some fault, directory := d }
  | .ok ms => claimFrom d name ms

/-- What creating a segment led to. -/
structure Creation where
  result : Except SegmentFault SegmentWriter
  directory : Directory
  /-- The dead owners whose files were removed, in order. -/
  removed : List UInt32 := []

/-- Create a segment with a zeroed data section. -/
def create (d : Directory) (name : String) (size : Nat) : Creation :=
  match Segment.sizeFault? size with
  | some fault => { result := .error fault, directory := d }
  | none => -- files of dead owners go before the new one is made, also when that fails
    let claim := d.claim name
    let d := claim.directory
    let removed := claim.removed
    match claim.fault with
    | some fault => { result := .error fault, directory := d, removed }
    | none =>
      match d.locate (fileName name d.self) with
      | .error fault => { result := .error (.file fault), directory := d, removed }
      | .ok file =>
        { result := .ok { name, file, number := d.files.length, size }
          directory := d.add file
            { length := Segment.headerLength + size
              header := .forWriter size d.self d.now
              modified := d.now }
          removed }

end Directory

namespace SegmentWriter

/-- Write bytes into the data section. -/
def writeAt (w : SegmentWriter) (start : Nat) (bytes : List UInt8) (d : Directory) :
    Except SegmentFault SegmentWriter × Directory :=
  let finish := Segment.rangeEnd start bytes.length
  if w.size < finish then (.error (.invalidSize finish), d)
  else
    let d := (d.modify w.number fun file =>
      { file with
        header := { file.header.advance.advance with lastWrite := d.now }
        data := file.data.write start bytes }).tick
    (.ok { w with version := (d.file w.number).header.version }, d)

/-- Write bytes from the start of the data section on. -/
def write (w : SegmentWriter) (bytes : List UInt8) (d : Directory) :
    Except SegmentFault SegmentWriter × Directory :=
  w.writeAt 0 bytes d

/-- The number of readers that are attached. -/
def readerCount (w : SegmentWriter) (d : Directory) : UInt32 :=
  (d.file w.number).header.readerCount

/-- Give the segment up. -/
def drop (w : SegmentWriter) (d : Directory) : Directory := d.remove w.file

end SegmentWriter
end OperatorPanel
