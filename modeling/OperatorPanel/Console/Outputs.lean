import OperatorPanel.Pin.Output
import OperatorPanel.Settings

/-!
# What panels are shown

The output pins for a status.
-/

namespace OperatorPanel

/-- The output pins for the flags of an axis. -/
def JointPins.ofFlags (flags : AxisFlags) : JointPins where
  isHomed := flags.has .homed
  hasFault := flags.has .fault
  onSoftMinLimit := flags.has .minSoftLimit
  onSoftMaxLimit := flags.has .maxSoftLimit
  onHardMinLimit := flags.has .minHardLimit
  onHardMaxLimit := flags.has .maxHardLimit

/-- The output pins for a status, with lengths in the units of the display and a group of pins
for each of so many axes. -/
def OutputPins.ofStatus (s : Status) (display : Display) (axes : Nat) : OutputPins :=
  let shown (value : Number) : Number :=
    Units.linear value s.nativeScale s.programUnits display.linear
  { machineIsOn := s.machineOn
    estopIsReset := s.estopReset
    modeIsManual := s.taskMode = .manual
    modeIsAuto := s.taskMode = .auto
    modeIsMdi := s.taskMode = .mdi
    modeIsTeleop := s.trajMode = .teleop
    modeIsJoint := s.trajMode = .free
    mistIsOn := s.mist
    floodIsOn := s.flood
    lubeIsOn := s.lube
    spindleIsOn := s.spindleOn
    spindleBrakeIsOn := s.spindleBrake
    programIsIdle := s.interpState = .idle
    programIsRunning := s.interpState.isRunning
    programIsPaused := s.interpState = .paused
    -- axes beyond the table of the status show no flag
    joints := (List.range (min axes maxAxes)).map fun n => .ofFlags (s.axes.get n)
    toolNumber := s.toolNumber
    toolLengthOffset := shown s.toolLengthOffset
    probeIsTripped := s.probeTripped
    probeValue := shown s.probeValue }

end OperatorPanel
