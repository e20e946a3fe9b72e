import OperatorPanel.Clock
import OperatorPanel.Journal
import OperatorPanel.Segment.Reader
import OperatorPanel.Simulator

/-!
# The world

Everything outside the panel that its actions reach: the simulated controller, the segment
directory, the clock, the switch for channel diagnostics, and the journal.
-/

namespace OperatorPanel

/-- The switch that silences channel diagnostics; it counts how often it was used. -/
structure Gate where
  silenced : Nat := 0
  restored : Nat := 0
  deriving DecidableEq, Repr

/-- Whether channel diagnostics are silenced now. -/
def Gate.isSilent (g : Gate) : Bool := g.restored < g.silenced

/-- What lies outside the panel. -/
structure World where
  simulator : Simulator
  directory : Directory
  clock : Clock := {}
  gate : Gate := {}
  /-- The journal, oldest record first. -/
  journal : List Record := []

namespace World

/-- Write a record. -/
def note (w : World) (level : LogLevel) (source : Source) (message : String)
    (fields : List (String × String) := []) : World :=
  { w with
    journal := w.journal ++ [{ level, source, message, fields, silenced := w.gate.isSilent }] }

/-- Silence channel diagnostics. -/
def silence (w : World) : World :=
  { w with gate := { w.gate with silenced := w.gate.silenced + 1 } }

/-- Let channel diagnostics be heard again. -/
def restore (w : World) : World :=
  { w with gate := { w.gate with restored := w.gate.restored + 1 } }

/-- Look at the clock. -/
def time (w : World) : Nat × World :=
  let (now, clock) := w.clock.look
  (now, { w with clock })

/-- Sleep. -/
def sleep (w : World) (t : Span) : World := { w with clock := w.clock.sleep t }

/-- Write a record for every file that was removed while a name was claimed. -/
def noteRemoved (w : World) (name : String) (pids : List UInt32) : World :=
  pids.foldl
    (fun w pid => w.note .warn .segmentWriter "removing stale segment"
      [("segment", name), ("stale_pid", Text.decimal pid.toNat)]) w

/-- Create a segment. -/
def createSegment (w : World) (name : String) (size : Nat) :
    Except SegmentFault SegmentWriter × World :=
  let c := w.directory.create name size
  (c.result, { w with directory := c.directory }.noteRemoved name c.removed)

/-- Attach to a segment. -/
def attachSegment (w : World) (name : String) : Except SegmentFault SegmentReader × World :=
  let (r, directory) := w.directory.attach name
  (r, { w with directory })

/-- Write to a segment. -/
def writeSegment (w : World) (writer : SegmentWriter) (bytes : List UInt8) :
    Except SegmentFault SegmentWriter × World :=
  let (r, directory) := writer.write bytes w.directory
  (r, { w with directory })

/-- Give up a segment. -/
def dropWriter (w : World) (writer : SegmentWriter) : World :=
  { w with directory := writer.drop w.directory }

/-- Detach from a segment. -/
def dropReader (w : World) (reader : SegmentReader) : World :=
  { w with directory := reader.drop w.directory }

/-! ### What does not reach the controller -/

@[simp] theorem simulator_note (w : World) (level : LogLevel) (source : Source)
    (message : String) (fields : List (String × String)) :
    (w.note level source message fields).simulator = w.simulator := rfl

@[simp] theorem simulator_time (w : World) : w.time.2.simulator = w.simulator := rfl

@[simp] theorem simulator_writeSegment (w : World) (writer : SegmentWriter) (bytes : List UInt8) :
    (w.writeSegment writer bytes).2.simulator = w.simulator := rfl

end World
end OperatorPanel
