import OperatorPanel.Command
import OperatorPanel.Frame.Codec
import OperatorPanel.Pin.Value

/-!
# Bodies of frames

The codecs of the four things that frames carry: messages to the controller, its status and its
notices, and named pins. Fields come in the order of the structures.
-/

namespace OperatorPanel
namespace Codec

/-! ### Status -/

def execState : Codec ExecState := oneOf [.uninitialized, .done, .exec, .error]
def taskState : Codec TaskState := oneOf [.estop, .estopReset, .off, .on]
def taskMode : Codec TaskMode := oneOf [.manual, .auto, .mdi]
def interpState : Codec InterpState := oneOf [.idle, .reading, .paused, .waiting]
def spindleDirection : Codec SpindleDirection := oneOf [.reverse, .stopped, .forward]
def trajMode : Codec TrajMode := oneOf [.free, .coord, .teleop]
def programUnits : Codec ProgramUnits := oneOf [.inches, .mm, .cm, .unknown]
def programAngle : Codec ProgramAngle := oneOf [.deg, .rad, .grad, .unknown]
def noticeKind : Codec NoticeKind := oneOf [.operator, .text, .display, .nml]

def axisTable : Codec AxisTable :=
  (listUpTo maxAxes u16).as (fun flags => ⟨flags.1, flags.2⟩) (fun t => ⟨t.flags, t.length_le⟩)

/-- The status, field by field. -/
def status : Codec Status :=
  (pair i32 <| pair execState <| pair taskState <| pair taskMode <| pair interpState <|
    pair text <| pair axisTable <| pair u16 <| pair f64 <| pair f64 <| pair f64 <| pair f64 <|
    pair spindleDirection <| pair bool <| pair f64 <| pair bool <| pair bool <| pair bool <|
    pair bool <| pair f64 <| pair trajMode <| pair f64 <| pair programUnits programAngle).as
    -- the order of the fields on the wire is the order of the pairs above
    (fun (echo, state, taskState, taskMode, interpState, programFile, axes, toolNumber,
        toolLengthOffset, feedScale, spindleScale, spindleSpeed, spindleDirection, spindleBrake,
        activeSpindleSetting, mist, flood, lube, probeTripped, probeValue, trajMode, linearUnits,
        programUnits, programAngle) =>
      { echo, state, taskState, taskMode, interpState, programFile, axes, toolNumber,
        toolLengthOffset, feedScale, spindleScale, spindleSpeed, spindleDirection, spindleBrake,
        activeSpindleSetting, mist, flood, lube, probeTripped, probeValue, trajMode, linearUnits,
        programUnits, programAngle })
    (fun s =>
      (s.echo, s.state, s.taskState, s.taskMode, s.interpState, s.programFile, s.axes,
        s.toolNumber, s.toolLengthOffset, s.feedScale, s.spindleScale, s.spindleSpeed,
        s.spindleDirection, s.spindleBrake, s.activeSpindleSetting, s.mist, s.flood, s.lube,
        s.probeTripped, s.probeValue, s.trajMode, s.linearUnits, s.programUnits, s.programAngle))

/-- A notice. -/
def notice : Codec Notice :=
  (pair noticeKind (bounded maxNoticeBytes)).as
    (fun (kind, text) => { kind, text }) (fun n => (n.kind, n.text))

/-! ### Pins -/

/-- A value after the number of its kind. -/
def writePinValue : PinValue → List UInt8
  | .bit b => bytesOf 4 0 ++ bool.write b
  | .word n => bytesOf 4 1 ++ u16.write n
  | .float x => bytesOf 4 2 ++ f64.write x

def readPinValue : ByteReader PinValue := do
  match ← readNat 4 with
  | 0 => return .bit (← bool.read)
  | 1 => return .word (← u16.read)
  | 2 => return .float (← f64.read)
  | index => throw (.noSuchCase index 3)

def pinValue : Codec PinValue := ⟨writePinValue, readPinValue⟩

/-- A list of named values. -/
def pins : Codec (List NamedPin) :=
  list <| (pair text pinValue).as (fun (name, value) => { name, value })
    (fun pin => (pin.name, pin.value))

/-! ### Messages -/

def velocityVector : Codec VelocityVector :=
  (pair f64 <| pair f64 <| pair f64 <| pair f64 <| pair f64 f64).as
    (fun (x, y, z, a, b, c) => { x, y, z, a, b, c })
    (fun v => (v.x, v.y, v.z, v.a, v.b, v.c))

/-- The number of commands. -/
def commandCount : Nat := 37

/-- The number that stands for a command. -/
def commandIndex : Command → Nat
  | .null => 0
  | .setTaskState _ => 1
  | .setTaskMode _ => 2
  | .taskAbort => 3
  | .taskPlanInit => 4
  | .programRun _ => 5
  | .programPause => 6
  | .programResume => 7
  | .programStep => 8
  | .mdiExecute _ => 9
  | .jogContinuous _ _ => 10
  | .jogIncrement _ _ _ => 11
  | .jogStop _ => 12
  | .teleopVector _ => 13
  | .setTeleopEnable _ => 14
  | .home _ => 15
  | .axisEnable _ => 16
  | .axisDisable _ => 17
  | .axisOverrideLimits _ => 18
  | .spindleOn _ => 19
  | .spindleOff => 20
  | .spindleIncrease => 21
  | .spindleDecrease => 22
  | .spindleConstant => 23
  | .spindleBrakeEngage => 24
  | .spindleBrakeRelease => 25
  | .mistOn => 26
  | .mistOff => 27
  | .floodOn => 28
  | .floodOff => 29
  | .lubeOn => 30
  | .lubeOff => 31
  | .setFeedScale _ => 32
  | .setSpindleScale _ => 33
  | .toolSetOffset _ _ _ => 34
  | .probe _ _ _ => 35
  | .clearProbeTrippedFlag => 36

/-- What a command carries. -/
def writePayload : Command → List UInt8
  | .setTaskState state => taskState.write state
  | .setTaskMode mode => taskMode.write mode
  | .programRun line => i32.write line
  | .mdiExecute line => (bounded maxLineBytes).write line
  | .jogContinuous axis velocity => (pair u8 f64).write (axis, velocity)
  | .jogIncrement axis velocity increment =>
    (pair u8 (pair f64 f64)).write (axis, velocity, increment)
  | .jogStop axis => u8.write axis
  | .teleopVector velocity => velocityVector.write velocity
  | .setTeleopEnable on => bool.write on
  | .home axis => u8.write axis
  | .axisEnable axis => u8.write axis
  | .axisDisable axis => u8.write axis
  | .axisOverrideLimits axis => u8.write axis
  | .spindleOn speed => f64.write speed
  | .setFeedScale scale => f64.write scale
  | .setSpindleScale scale => f64.write scale
  | .toolSetOffset tool length diameter =>
    (pair u16 (pair f64 f64)).write (tool, length, diameter)
  | .probe x y z => (pair f64 (pair f64 f64)).write (x, y, z)
  | _ => []  -- the commands without arguments

/-- What follows the number of a command. -/
def readPayload (index : Nat) : ByteReader Command :=
  match index with
  | 0 => return .null
  | 1 => return .setTaskState (← taskState.read)
  | 2 => return .setTaskMode (← taskMode.read)
  | 3 => return .taskAbort
  | 4 => return .taskPlanInit
  | 5 => return .programRun (← i32.read)
  | 6 => return .programPause
  | 7 => return .programResume
  | 8 => return .programStep
  | 9 => return .mdiExecute (← (bounded maxLineBytes).read)
  | 10 => do
    let (axis, velocity) ← (pair u8 f64).read
    return .jogContinuous axis velocity
  | 11 => do
    let (axis, velocity, increment) ← (pair u8 (pair f64 f64)).read
    return .jogIncrement axis velocity increment
  | 12 => return .jogStop (← u8.read)
  | 13 => return .teleopVector (← velocityVector.read)
  | 14 => return .setTeleopEnable (← bool.read)
  | 15 => return .home (← u8.read)
  | 16 => return .axisEnable (← u8.read)
  | 17 => return .axisDisable (← u8.read)
  | 18 => return .axisOverrideLimits (← u8.read)
  | 19 => return .spindleOn (← f64.read)
  | 20 => return .spindleOff
  | 21 => return .spindleIncrease
  | 22 => return .spindleDecrease
  | 23 => return .spindleConstant
  | 24 => return .spindleBrakeEngage
  | 25 => return .spindleBrakeRelease
  | 26 => return .mistOn
  | 27 => return .mistOff
  | 28 => return .floodOn
  | 29 => return .floodOff
  | 30 => return .lubeOn
  | 31 => return .lubeOff
  | 32 => return .setFeedScale (← f64.read)
  | 33 => return .setSpindleScale (← f64.read)
  | 34 => do
    let (tool, length, diameter) ← (pair u16 (pair f64 f64)).read
    return .toolSetOffset tool length diameter
  | 35 => do
    let (x, y, z) ← (pair f64 (pair f64 f64)).read
    return .probe x y z
  | 36 => return .clearProbeTrippedFlag
  -- the count goes into the fault, so that a reader sees which numbers exist
  | index => throw (.noSuchCase index commandCount)

/-- A command: its number and what it carries. -/
def command : Codec Command where
  write c := bytesOf 4 (commandIndex c) ++ writePayload c
  read := do readPayload (← readNat 4)

/-- A command after its serial. -/
def message : Codec Message :=
  (pair i32 command).as (fun (serial, command) => { serial, command })
    (fun m => (m.serial, m.command))

end Codec
end OperatorPanel
