import OperatorPanel.Console.Setup

/-!
# Scanning

One pass over the registered pins decides what a cycle does. Momentary pins act when they turn
active, jog pins when they turn active or inactive, and override pins when they have moved by
more than the least change. Every decision is made from the sample, the previous one, and the
status as it was when the cycle began.
-/

namespace OperatorPanel

/-- What a pin makes the panel do. -/
inductive Action where
  | send (command : Command)
  /-- Start moving an axis; the tracker follows when the command is accepted. -/
  | startJog (axis : UInt8) (command : Command)
  /-- Run the open program, if one is open. -/
  | runProgram
  deriving DecidableEq

/-- What is remembered from one cycle to the next. -/
structure Console where
  setup : Setup
  /-- The values of the registered pins in the last cycle. -/
  previous : InputSample := .empty
  /-- The axis that a jog pin set in motion last. -/
  jogging : Option UInt8 := none
  /-- The overrides that were sent last. -/
  feedOverride : Number := 0
  spindleOverride : Number := 0
  /-- The last refresh of the status failed. -/
  refreshFailing : Bool := false

/-- A number where it is positive, and zero for all others, not-a-number included. -/
def clamped (x : Number) : Number := if 0 < x then x else 0

/-- Jog speeds on pins are per minute, velocities in commands per second. -/
def secondsPerMinute : Number := 60

/-- The jog speed of a sample, per second. -/
def jogSpeed (s : InputSample) : Number := clamped (s.float (.control .jogSpeed)) / secondsPerMinute

namespace Console

/-- The speed at which the spindle starts. -/
def spindleSpeed (c : Console) (status : Status) : Number :=
  let active := status.activeSpindleSetting.abs
  if active.isZero then c.setup.spindleSpeed else active

/-- Move an axis by its increment. -/
def incrementJog (c : Console) (axis : UInt8) (direction : Number) (now : InputSample) : Command :=
  let velocity := direction * jogSpeed now
  .jogIncrement axis (if c.setup.inverted axis then -velocity else velocity)
    (now.float (.axis .increment axis))

/-- What a control does when it turns active. -/
def controlAction (c : Console) (status : Status) : Control → Option Action
  | .machineOn => some (.send (.setTaskState .on))
  | .machineOff => some (.send (.setTaskState .off))
  | .estopActivate => some (.send (.setTaskState .estop))
  | .estopReset => some (.send (.setTaskState .estopReset))
  | .modeManual => some (.send (.setTaskMode .manual))
  | .modeAuto => some (.send (.setTaskMode .auto))
  | .modeMdi => some (.send (.setTaskMode .mdi))
  | .modeTeleop => some (.send (.setTeleopEnable true))
  | .modeJoint => some (.send (.setTeleopEnable false))
  | .mistOn => some (.send .mistOn)
  | .mistOff => some (.send .mistOff)
  | .floodOn => some (.send .floodOn)
  | .floodOff => some (.send .floodOff)
  | .lubeOn => some (.send .lubeOn)
  | .lubeOff => some (.send .lubeOff)
  | .programRun => some .runProgram
  | .programPause => some (.send .programPause)
  | .programResume => some (.send .programResume)
  | .programStep => some (.send .programStep)
  | .spindleStart | .spindleForward => some (.send (.spindleOn (c.spindleSpeed status)))
  | .spindleReverse => some (.send (.spindleOn (-c.spindleSpeed status)))
  | .spindleStop => some (.send .spindleOff)
  | .spindleIncrease => some (.send .spindleIncrease)
  | .spindleDecrease => some (.send .spindleDecrease)
  | .spindleBrakeOn => some (.send .spindleBrakeEngage)
  | .spindleBrakeOff => some (.send .spindleBrakeRelease)
  | .probeStart =>
    let target := c.setup.probeTarget
    some (.send (.probe target.x target.y target.z))
  | .probeClear => some (.send .clearProbeTrippedFlag)
  | .abort => some (.send .taskAbort)
  -- these three are read as numbers; they never turn active
  | .jogSpeed | .feedOverride | .spindleOverride => none

/-- What a momentary pin does when it turns active. -/
def momentaryAction (c : Console) (now : InputSample) (status : Status) :
    InputPin → Option Action
  | .control control => c.controlAction status control
  | .axis .home axis => some (.send (.home axis))
  | .axis .incrementPlus axis => some (.send (c.incrementJog axis 1 now))
  | .axis .incrementMinus axis => some (.send (c.incrementJog axis (-1) now))
  | .line index => c.setup.lines[index.toNat]?.map fun line => .send (.mdiExecute line)
  | .axis .jogPlus _ | .axis .jogMinus _ | .axis .increment _ => none

/-- The command that starts to move an axis. Along a vector, polarities do not count. -/
def startCommand (c : Console) (axis : UInt8) (direction : Number) (now : InputSample)
    (status : Status) : Command :=
  let speed := direction * jogSpeed now
  if status.teleop then .teleopVector (.along axis speed)
  else .jogContinuous axis (if c.setup.inverted axis then -speed else speed)

/-- The command that ends the motion of an axis. Along a vector, everything stops. -/
def stopCommand (axis : UInt8) (status : Status) : Command :=
  if status.teleop then .teleopVector .zero else .jogStop axis

/-- What a jog pin does. Its release also ends the tracking of its axis. -/
def jogAction (c : Console) (pin : InputPin) (axis : UInt8) (direction : Number)
    (now : InputSample) (status : Status) : Option Action × Console :=
  if c.previous.rises now pin then
    (some (.startJog axis (c.startCommand axis direction now status)), c)
  else if c.previous.falls now pin then
    (some (.send (stopCommand axis status)),
      if c.jogging = some axis then { c with jogging := none } else c)
  else (none, c)

/-- Whether an override has moved by no more than the least change. -/
def settled (c : Console) (value last : Number) : Bool :=
  (value - last).abs ≤ c.setup.overrideEpsilon

/-- What one pin does. -/
def pinAction (c : Console) (now : InputSample) (status : Status) (pin : InputPin) :
    Option Action × Console :=
  match pin with
  | .axis .jogPlus axis => c.jogAction pin axis 1 now status
  | .axis .jogMinus axis => c.jogAction pin axis (-1) now status
  | .control .feedOverride =>
    let value := clamped (now.float pin)
    if c.settled value c.feedOverride then (none, c)
    else (some (.send (.setFeedScale value)), { c with feedOverride := value })
  | .control .spindleOverride =>
    let value := clamped (now.float pin)
    if c.settled value c.spindleOverride then (none, c)
    else (some (.send (.setSpindleScale value)), { c with spindleOverride := value })
  | pin =>
    if c.previous.rises now pin then (c.momentaryAction now status pin, c) else (none, c)

/-- What some pins do, one after the other. -/
def scanPins (now : InputSample) (status : Status) :
    List InputPin → Console → List (InputPin × Action) × Console
  | [], c => ([], c)
  | pin :: pins, c =>
    let (action?, c) := c.pinAction now status pin
    let (actions, c) := scanPins now status pins c
    match action? with
    | some action => ((pin, action) :: actions, c)
    | none => (actions, c)

/-- What the registered pins do. -/
def scan (c : Console) (now : InputSample) (status : Status) :
    List (InputPin × Action) × Console :=
  scanPins now status c.setup.registered c

end Console
end OperatorPanel
