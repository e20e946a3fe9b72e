import OperatorPanel.Command
import OperatorPanel.Frame

/-!
# A simulated controller

It carries out every command on a status of its own and acknowledges the serial, so that the
panel can run without a machine. Tests script how it acknowledges and what goes wrong.
-/

namespace OperatorPanel

/-- What one look at a status channel finds. -/
inductive Peek where
  /-- The channel does not work. -/
  | fault (reason : String)
  /-- Nothing new since the last look. -/
  | noData
  | status (s : Status)
  /-- A frame that is no status. -/
  | other (type : FrameType)
  deriving DecidableEq

/-- How commands are acknowledged. -/
inductive Acknowledgement where
  /-- At once, as done. -/
  | complete
  /-- At once as executing, and as done after so many looks at the status. -/
  | completeAfter (polls : Nat)
  /-- At once, as executing for ever. -/
  | receive
  /-- At once, as failed. -/
  | fail
  /-- Never. -/
  | ignore
  deriving DecidableEq, Repr

/-- The looks that an acknowledgement makes wait for. -/
def Acknowledgement.polls : Acknowledgement → Option Nat
  | .completeAfter polls => some polls
  | _ => none

/-- The state of a simulated controller. -/
structure Simulator where
  status : Status
  /-- Advanced at every change of the status. -/
  version : UInt64 := 1
  ack : Acknowledgement := .complete
  /-- Looks left until the command is done. -/
  pollsUntilDone : Option Nat := none
  /-- The messages received, oldest first. -/
  received : List Message := []
  /-- Attempts to open a channel that will fail. -/
  failingOpens : Nat := 0
  /-- Attempts so far; the count wraps around. -/
  openAttempts : UInt32 := 0
  commandValid : Bool := true
  /-- A frame of this type is found at the next look. -/
  unexpected : Option FrameType := none
  /-- Every look at the status fails with this reason. -/
  fault : Option String := none
  /-- Notices not yet taken, oldest first. -/
  notices : List Notice := []

namespace Simulator

/-- Let the next look at the status find something new. -/
def touch (c : Simulator) : Simulator := { c with version := c.version + 1 }

/-- Change the status. -/
def update (c : Simulator) (f : Status → Status) : Simulator :=
  touch { c with status := f c.status }

/-- What a command does to the status, acknowledgement apart. -/
def effect (s : Status) : Command → Status
  | .setTaskState state => { s with taskState := state }
  | .setTaskMode mode => { s with taskMode := mode }
  | .taskAbort => { s with interpState := .idle }
  | .programRun _ => -- without an open program nothing but the echo shows the run
    if s.programOpen then { s with taskMode := .auto, interpState := .reading } else s
  | .programPause | .programStep => { s with interpState := .paused }
  | .programResume => { s with interpState := .reading }
  | .mdiExecute _ => { s with taskMode := .mdi }
  | .setTeleopEnable on => { s with trajMode := if on then .teleop else .free }
  | .home axis => { s with axes := s.axes.modify axis.toNat (·.set .homed) }
  | .axisEnable axis => { s with axes := s.axes.modify axis.toNat (·.set .enabled) }
  | .axisDisable axis => { s with axes := s.axes.modify axis.toNat (·.clear .enabled) }
  | .spindleOn speed =>
    { s with
      spindleSpeed := speed
      spindleDirection := if speed < 0 then .reverse else .forward
      spindleBrake := false }
  | .spindleOff => { s with spindleSpeed := 0, spindleDirection := .stopped }
  | .spindleBrakeEngage => { s with spindleBrake := true }
  | .spindleBrakeRelease => { s with spindleBrake := false }
  | .mistOn => { s with mist := true }
  | .mistOff => { s with mist := false }
  | .floodOn => { s with flood := true }
  | .floodOff => { s with flood := false }
  | .lubeOn => { s with lube := true }
  | .lubeOff => { s with lube := false }
  | .setFeedScale scale => { s with feedScale := scale }
  | .setSpindleScale scale => { s with spindleScale := scale }
  | .toolSetOffset tool length _ => -- offsets of other tools do not show in the status
    if tool = s.toolNumber then { s with toolLengthOffset := length } else s
  | .probe _ _ z => { s with probeTripped := true, probeValue := z }
  | .clearProbeTrippedFlag => { s with probeTripped := false }
  | _ => s  -- everything else shows in the echo only

/-- Echo a serial. -/
def echo (s : Status) (serial : Int32) (state : ExecState) : Status :=
  { s with echo := serial, state }

/-- Acknowledge a serial. -/
def acknowledge (s : Status) (serial : Int32) : Acknowledgement → Status
  | .complete => echo s serial .done
  | .completeAfter _ | .receive => echo s serial .exec
  | .fail => echo s serial .error
  | .ignore => s

/-- Receive a message: carry it out and acknowledge it. -/
def receive (c : Simulator) (m : Message) : Simulator :=
  touch
    { c with
      received := c.received ++ [m]
      status := acknowledge (effect c.status m.command) m.serial c.ack
      pollsUntilDone := c.ack.polls }

/-- Try to open a channel; whether that worked. -/
def openChannel (c : Simulator) : Bool × Simulator :=
  let c := { c with openAttempts := c.openAttempts + 1 }
  if 0 < c.failingOpens then (false, { c with failingOpens := c.failingOpens - 1 }) else (true, c)

/-- Let one look pass for the command that is executing. -/
def advance (c : Simulator) : Simulator :=
  match c.pollsUntilDone with
  | none => c
  | some 0 => touch { c with pollsUntilDone := none, status := { c.status with state := .done } }
  | some (n + 1) => { c with pollsUntilDone := some n }

/-- Look at the status; `seen` is the version that was found last. -/
def peek (c : Simulator) (seen : UInt64) : Peek × UInt64 × Simulator :=
  match c.fault with
  | some reason => (.fault reason, seen, c)
  | none =>
    match c.unexpected with
    | some type => (.other type, seen, { c with unexpected := none })
    | none =>
      let c := c.advance
      if c.version = seen then (.noData, seen, c) else (.status c.status, c.version, c)

/-- Take the oldest notice. -/
def takeNotice (c : Simulator) : Option Notice × Simulator :=
  match c.notices with
  | [] => (none, c)
  | notice :: notices => (some notice, { c with notices })

/-! ### What a look leaves alone -/

/-- What stands still while the status is only looked at. How far the echoed command got may
move, and with it the version; a frame that is no status is gone once it was found. -/
structure SameButLooks (c c' : Simulator) : Prop where
  received : c'.received = c.received
  ack : c'.ack = c.ack
  commandValid : c'.commandValid = c.commandValid
  fault : c'.fault = c.fault
  notices : c'.notices = c.notices
  failingOpens : c'.failingOpens = c.failingOpens
  openAttempts : c'.openAttempts = c.openAttempts
  status : c'.status = { c.status with state := c'.status.state }

namespace SameButLooks

variable {c c' c'' : Simulator}

theorem refl (c : Simulator) : SameButLooks c c := ⟨rfl, rfl, rfl, rfl, rfl, rfl, rfl, rfl⟩

theorem trans (h : SameButLooks c c') (h' : SameButLooks c' c'') : SameButLooks c c'' where
  received := h'.received.trans h.received
  ack := h'.ack.trans h.ack
  commandValid := h'.commandValid.trans h.commandValid
  fault := h'.fault.trans h.fault
  notices := h'.notices.trans h.notices
  failingOpens := h'.failingOpens.trans h.failingOpens
  openAttempts := h'.openAttempts.trans h.openAttempts
  status := by rw [h'.status, h.status]

theorem echo (h : SameButLooks c c') : c'.status.echo = c.status.echo := by rw [h.status]

end SameButLooks

theorem sameButLooks_advance (c : Simulator) : SameButLooks c c.advance := by
  unfold advance
  split
  · exact .refl c
  · exact ⟨rfl, rfl, rfl, rfl, rfl, rfl, rfl, rfl⟩
  · exact ⟨rfl, rfl, rfl, rfl, rfl, rfl, rfl, rfl⟩

theorem sameButLooks_peek (c : Simulator) (seen : UInt64) : SameButLooks c (c.peek seen).2.2 := by
  unfold peek
  split
  · exact .refl c
  · split
    · exact ⟨rfl, rfl, rfl, rfl, rfl, rfl, rfl, rfl⟩
    · dsimp only
      split <;> exact sameButLooks_advance c

end Simulator
end OperatorPanel
