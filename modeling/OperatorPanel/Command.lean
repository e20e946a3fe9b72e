import OperatorPanel.Number.Decimal
import OperatorPanel.Status

/-!
# Commands

Everything that the controller can be told. `Command.fault?` is the check that a command passes
before a serial is spent on it.
-/

namespace OperatorPanel

/-- A velocity along the six coordinates. -/
structure VelocityVector where
  x : Number
  y : Number
  z : Number
  a : Number
  b : Number
  c : Number
  deriving DecidableEq

namespace VelocityVector

def zero : VelocityVector := ⟨0, 0, 0, 0, 0, 0⟩

/-- Motion of one axis alone; axes without a component give no motion. -/
def along (axis : UInt8) (velocity : Number) : VelocityVector :=
  match axis with
  | 0 => { zero with x := velocity }
  | 1 => { zero with y := velocity }
  | 2 => { zero with z := velocity }
  | 3 => { zero with a := velocity }
  | 4 => { zero with b := velocity }
  | 5 => { zero with c := velocity }
  | _ => zero

def components (v : VelocityVector) : List Number := [v.x, v.y, v.z, v.a, v.b, v.c]

/-- Whether nothing moves. -/
def isZero (v : VelocityVector) : Bool := v.components.all (·.isZero)

end VelocityVector

/-- A manual line: a text short enough to be sent. -/
abbrev ManualLine := BoundedText maxLineBytes

/-- One operation of the controller. -/
inductive Command where
  /-- Does nothing; it brings the echoed serial back at the end. -/
  | null
  | setTaskState (state : TaskState)
  | setTaskMode (mode : TaskMode)
  | taskAbort
  | taskPlanInit
  | programRun (line : Int32)
  | programPause
  | programResume
  | programStep
  | mdiExecute (line : ManualLine)
  | jogContinuous (axis : UInt8) (velocity : Number)
  | jogIncrement (axis : UInt8) (velocity increment : Number)
  | jogStop (axis : UInt8)
  | teleopVector (velocity : VelocityVector)
  | setTeleopEnable (on : Bool)
  | home (axis : UInt8)
  | axisEnable (axis : UInt8)
  | axisDisable (axis : UInt8)
  | axisOverrideLimits (axis : UInt8)
  | spindleOn (speed : Number)
  | spindleOff
  | spindleIncrease
  | spindleDecrease
  | spindleConstant
  | spindleBrakeEngage
  | spindleBrakeRelease
  | mistOn
  | mistOff
  | floodOn
  | floodOff
  | lubeOn
  | lubeOff
  | setFeedScale (scale : Number)
  | setSpindleScale (scale : Number)
  | toolSetOffset (tool : UInt16) (length diameter : Number)
  | probe (x y z : Number)
  | clearProbeTrippedFlag
  deriving DecidableEq

namespace Command

/-- The name of the operation. -/
def name : Command → String
  | null => "null"
  | setTaskState _ => "set_task_state"
  | setTaskMode _ => "set_task_mode"
  | taskAbort => "task_abort"
  | taskPlanInit => "task_plan_init"
  | programRun _ => "program_run"
  | programPause => "program_pause"
  | programResume => "program_resume"
  | programStep => "program_step"
  | mdiExecute _ => "mdi_execute"
  | jogContinuous _ _ => "jog_continuous"
  | jogIncrement _ _ _ => "jog_increment"
  | jogStop _ => "jog_stop"
  | teleopVector _ => "teleop_vector"
  | setTeleopEnable _ => "set_teleop_enable"
  | home _ => "home"
  | axisEnable _ => "axis_enable"
  | axisDisable _ => "axis_disable"
  | axisOverrideLimits _ => "axis_override_limits"
  | spindleOn _ => "spindle_on"
  | spindleOff => "spindle_off"
  | spindleIncrease => "spindle_increase"
  | spindleDecrease => "spindle_decrease"
  | spindleConstant => "spindle_constant"
  | spindleBrakeEngage => "spindle_brake_engage"
  | spindleBrakeRelease => "spindle_brake_release"
  | mistOn => "mist_on"
  | mistOff => "mist_off"
  | floodOn => "flood_on"
  | floodOff => "flood_off"
  | lubeOn => "lube_on"
  | lubeOff => "lube_off"
  | setFeedScale _ => "set_feed_scale"
  | setSpindleScale _ => "set_spindle_scale"
  | toolSetOffset _ _ _ => "tool_set_offset"
  | probe _ _ _ => "probe"
  | clearProbeTrippedFlag => "clear_probe_tripped_flag"

/-- The axis that the command addresses, if it addresses one. -/
def axis? : Command → Option UInt8
  | jogContinuous axis _ => some axis
  | jogIncrement axis _ _ => some axis
  | jogStop axis => some axis
  | home axis => some axis
  | axisEnable axis => some axis
  | axisDisable axis => some axis
  | axisOverrideLimits axis => some axis
  | _ => none

/-- What can be wrong with a command before it is sent. -/
inductive Fault where
  | axisOutOfRange (axis : UInt8)
  | badScale (command : String) (scale : Number)
  | badVelocity (velocity : Number)
  | emptyLine
  deriving DecidableEq

/-- What is said about a fault. -/
def Fault.text : Fault → String
  | axisOutOfRange axis =>
    "axis " ++ Text.decimal axis.toNat ++ " out of range (max " ++ Text.decimal (maxAxes - 1) ++ ")"
  | badScale command scale =>
    command ++ " scale must be finite and >= 0, got " ++ scale.text
  | badVelocity velocity => "jog velocity must be finite, got " ++ velocity.text
  | emptyLine => "empty mdi command"

/-- What is wrong with the payload, the axis apart. -/
def payloadFault? (command : Command) : Option Fault :=
  match command with
  | setFeedScale scale | setSpindleScale scale =>
    if !scale.isFinite || scale < 0 then some (.badScale command.name scale) else none
  | jogContinuous _ velocity | jogIncrement _ velocity _ =>
    if !velocity.isFinite then some (.badVelocity velocity) else none
  | mdiExecute line => if line.text = "" then some .emptyLine else none
  | _ => none

/-- The first thing that is wrong with a command; none if it may be sent. -/
def fault? (command : Command) : Option Fault :=
  match command.axis? with
  | some axis =>
    if maxAxes ≤ axis.toNat then some (.axisOutOfRange axis) else command.payloadFault?
  | none => command.payloadFault?

end Command

/-- A command under the serial that it was sent with. -/
structure Message where
  serial : Int32
  command : Command
  deriving DecidableEq

end OperatorPanel
