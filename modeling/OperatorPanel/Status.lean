import OperatorPanel.Number.Arithmetic

/-!
# Controller status

`Status` is a copy of everything that the controller reports about itself, `Notice` one of the
diagnostic messages that it sends beside it.
-/

namespace OperatorPanel

/-- How far the controller got with the command that it echoes. -/
inductive ExecState where
  | uninitialized | done | exec | error
  deriving DecidableEq, Repr, Inhabited

/-- The state of the machine. -/
inductive TaskState where
  | estop | estopReset | off | on
  deriving DecidableEq, Repr, Inhabited

/-- The mode in which the machine takes its orders. -/
inductive TaskMode where
  | manual | auto | mdi
  deriving DecidableEq, Repr, Inhabited

/-- The state of the program interpreter. -/
inductive InterpState where
  | idle | reading | paused | waiting
  deriving DecidableEq, Repr, Inhabited

/-- A waiting program is running, too. -/
def InterpState.isRunning : InterpState → Bool
  | .reading | .waiting => true
  | .idle | .paused => false

/-- How the axes move: each for itself, coordinated, or along a velocity vector. -/
inductive TrajMode where
  | free | coord | teleop
  deriving DecidableEq, Repr, Inhabited

/-- The linear units of the active program. -/
inductive ProgramUnits where
  | inches | mm | cm
  /-- Anything that has no unit of display. -/
  | unknown
  deriving DecidableEq, Repr, Inhabited

/-- The angular units of the active program. -/
inductive ProgramAngle where
  | deg | rad | grad | unknown
  deriving DecidableEq, Repr, Inhabited

/-- The direction in which the spindle turns. -/
inductive SpindleDirection where
  | reverse | stopped | forward
  deriving DecidableEq, Repr, Inhabited

/-! ### Axes -/

/-- What the controller reports about one axis, a bit each; bits without a name are kept. -/
abbrev AxisFlags := UInt16

namespace AxisFlags

def homed : AxisFlags := 0x01
def fault : AxisFlags := 0x04
def minSoftLimit : AxisFlags := 0x08
def maxSoftLimit : AxisFlags := 0x10
def minHardLimit : AxisFlags := 0x20
def maxHardLimit : AxisFlags := 0x40
def enabled : AxisFlags := 0x80

/-- Whether a flag is set. -/
def has (flags flag : AxisFlags) : Bool := flags &&& flag == flag

/-- Set a flag. -/
def set (flags flag : AxisFlags) : AxisFlags := flags ||| flag

/-- Clear a flag. -/
def clear (flags flag : AxisFlags) : AxisFlags := flags &&& ~~~flag

end AxisFlags

/-- The axes that the controller reports, as many as can be addressed at most. -/
structure AxisTable where
  flags : List AxisFlags
  length_le : flags.length ≤ maxAxes
  deriving DecidableEq

namespace AxisTable

/-- No axis. -/
def empty : AxisTable := ⟨[], Nat.zero_le _⟩

instance : Inhabited AxisTable := ⟨empty⟩

/-- The first axes of a list, as many as fit. -/
def ofList (flags : List AxisFlags) : AxisTable :=
  ⟨flags.take maxAxes, by rw [List.length_take]; exact Nat.min_le_left _ _⟩

/-- Change the flags of one axis, if it is there. -/
def modify (table : AxisTable) (index : Nat) (f : AxisFlags → AxisFlags) : AxisTable :=
  ⟨table.flags.modify index f, by rw [List.length_modify]; exact table.length_le⟩

/-- The flags of an axis; none is set for an axis that is not there. -/
def get (table : AxisTable) (index : Nat) : AxisFlags := table.flags.getD index 0

end AxisTable

/-! ### The status -/

/-- What the controller reports at one time. -/
structure Status where
  /-- The serial of the command that was accepted last. -/
  echo : Int32 := 0
  state : ExecState := .uninitialized
  taskState : TaskState := .estop
  taskMode : TaskMode := .manual
  interpState : InterpState := .idle
  /-- Empty when no program is open. -/
  programFile : String := ""
  axes : AxisTable := .empty
  toolNumber : UInt16 := 0
  /-- In native units. -/
  toolLengthOffset : Number := 0
  feedScale : Number := 0
  spindleScale : Number := 0
  spindleSpeed : Number := 0
  spindleDirection : SpindleDirection := .stopped
  spindleBrake : Bool := false
  /-- The active speed word; its sign is ignored. -/
  activeSpindleSetting : Number := 0
  mist : Bool := false
  flood : Bool := false
  lube : Bool := false
  probeTripped : Bool := false
  /-- The last probed position, in native units. -/
  probeValue : Number := 0
  trajMode : TrajMode := .free
  /-- Native linear units per millimetre. -/
  linearUnits : Number := 0
  programUnits : ProgramUnits := .mm
  programAngle : ProgramAngle := .deg
  deriving DecidableEq, Inhabited

namespace Status

/-- A controller at rest with some enabled axes. -/
def atRest (axes : Nat) : Status :=
  { state := .done
    axes := .ofList (List.replicate axes AxisFlags.enabled)
    feedScale := 1
    spindleScale := 1
    linearUnits := 1 }

def machineOn (s : Status) : Bool := s.taskState = .on

def estopReset (s : Status) : Bool := s.taskState ≠ .estop

def programOpen (s : Status) : Bool := s.programFile ≠ ""

def teleop (s : Status) : Bool := s.trajMode = .teleop

def spindleOn (s : Status) : Bool := !s.spindleSpeed.isZero

/-- Native linear units per millimetre; one unless the controller reports a positive number. -/
def nativeScale (s : Status) : Number :=
  if s.linearUnits.isFinite && 0 < s.linearUnits then s.linearUnits else 1

end Status

/-! ### Notices -/

/-- Where a notice comes from. -/
inductive NoticeKind where
  | operator | text | display | nml
  deriving DecidableEq, Repr, Inhabited

/-- A text of at most `limit` bytes of UTF-8. -/
structure BoundedText (limit : Nat) where
  text : String
  size_le : text.utf8ByteSize ≤ limit
  deriving DecidableEq

namespace BoundedText

/-- A text that fits. -/
def ofString? (limit : Nat) (text : String) : Option (BoundedText limit) :=
  if h : text.utf8ByteSize ≤ limit then some ⟨text, h⟩ else none

/-- Append whole characters as long as they fit. -/
def fill {limit : Nat} (held : BoundedText limit) : List Char → BoundedText limit
  | [] => held
  | c :: cs =>
    if h : (held.text.push c).utf8ByteSize ≤ limit then fill ⟨held.text.push c, h⟩ cs else held

/-- The longest beginning of a text, in whole characters, that fits. -/
def cutOff (limit : Nat) (text : String) : BoundedText limit :=
  fill ⟨"", Nat.zero_le _⟩ text.toList

end BoundedText

/-- A diagnostic message of the controller. -/
structure Notice where
  kind : NoticeKind
  text : BoundedText maxNoticeBytes
  deriving DecidableEq

/-- A notice with its text cut off where it would grow too long. -/
def Notice.ofText (kind : NoticeKind) (text : String) : Notice :=
  ⟨kind, .cutOff maxNoticeBytes text⟩

end OperatorPanel
