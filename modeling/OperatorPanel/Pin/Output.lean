import OperatorPanel.Limits
import OperatorPanel.Pin.Input
import OperatorPanel.Pin.Value

/-!
# Output pins

The pins that the bridge writes for panels to show.
-/

namespace OperatorPanel

/-- The output pins of one axis. -/
@[ext] structure JointPins where
  isHomed : Bool := false
  hasFault : Bool := false
  onSoftMinLimit : Bool := false
  onSoftMaxLimit : Bool := false
  onHardMinLimit : Bool := false
  onHardMaxLimit : Bool := false
  deriving DecidableEq, Inhabited

/-- All output pins. -/
@[ext] structure OutputPins where
  machineIsOn : Bool := false
  estopIsReset : Bool := false
  modeIsManual : Bool := false
  modeIsAuto : Bool := false
  modeIsMdi : Bool := false
  modeIsTeleop : Bool := false
  modeIsJoint : Bool := false
  mistIsOn : Bool := false
  floodIsOn : Bool := false
  lubeIsOn : Bool := false
  spindleIsOn : Bool := false
  spindleBrakeIsOn : Bool := false
  programIsIdle : Bool := false
  programIsRunning : Bool := false
  programIsPaused : Bool := false
  joints : List JointPins := []
  toolNumber : UInt16 := 0
  toolLengthOffset : Number := 0
  probeIsTripped : Bool := false
  probeValue : Number := 0
  deriving DecidableEq, Inhabited

/-- The exported names and values of one axis. -/
def JointPins.named (joint : JointPins) (index : Nat) : List NamedPin :=
  let bit (signal : String) (b : Bool) : NamedPin :=
    ⟨pinNamespace ++ ".joint." ++ Text.decimal index ++ "." ++ signal, .bit b⟩
  [bit "is-homed" joint.isHomed,
    bit "has-fault" joint.hasFault,
    bit "on-soft-min-limit" joint.onSoftMinLimit,
    bit "on-soft-max-limit" joint.onSoftMaxLimit,
    bit "on-hard-min-limit" joint.onHardMinLimit,
    bit "on-hard-max-limit" joint.onHardMaxLimit]

namespace OutputPins

/-- What is shown before any status has arrived: everything inactive. -/
def inactive (axes : Nat) : OutputPins :=
  { joints := List.replicate (min axes maxAxes) {} }

/-- The pins that exist once, as exported names and values. -/
def namedOnce (out : OutputPins) : List NamedPin :=
  let pin (label : String) (value : PinValue) : NamedPin := ⟨pinNamespace ++ "." ++ label, value⟩
  [pin "machine.is-on" (.bit out.machineIsOn),
    pin "estop.is-reset" (.bit out.estopIsReset),
    pin "mode.is-manual" (.bit out.modeIsManual),
    pin "mode.is-auto" (.bit out.modeIsAuto),
    pin "mode.is-mdi" (.bit out.modeIsMdi),
    pin "mode.is-teleop" (.bit out.modeIsTeleop),
    pin "mode.is-joint" (.bit out.modeIsJoint),
    pin "mist.is-on" (.bit out.mistIsOn),
    pin "flood.is-on" (.bit out.floodIsOn),
    pin "lube.is-on" (.bit out.lubeIsOn),
    pin "spindle.is-on" (.bit out.spindleIsOn),
    pin "spindle.brake-is-on" (.bit out.spindleBrakeIsOn),
    pin "program.is-idle" (.bit out.programIsIdle),
    pin "program.is-running" (.bit out.programIsRunning),
    pin "program.is-paused" (.bit out.programIsPaused),
    pin "probe.is-tripped" (.bit out.probeIsTripped),
    pin "tool.number" (.word out.toolNumber),
    pin "tool.length-offset" (.float out.toolLengthOffset),
    pin "probe.has-value" (.float out.probeValue)]

/-- The pins of the axes from `index` on, as exported names and values. -/
def namedJoints : (index : Nat) → List JointPins → List NamedPin
  | _, [] => []
  | index, joint :: joints => joint.named index ++ namedJoints (index + 1) joints

/-- All pins as exported names and values. -/
def named (out : OutputPins) : List NamedPin := out.namedOnce ++ namedJoints 0 out.joints

/-- Equality with numbers compared as numbers: `0.0` equals `-0.0`, and pins that hold a
not-a-number equal no others. -/
def same (a b : OutputPins) : Bool :=
  { a with toolLengthOffset := 0, probeValue := 0 }
      = { b with toolLengthOffset := 0, probeValue := 0 }
    && a.toolLengthOffset.same b.toolLengthOffset
    && a.probeValue.same b.probeValue

end OutputPins
end OperatorPanel
