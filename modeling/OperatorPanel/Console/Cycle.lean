import OperatorPanel.Client
import OperatorPanel.Console.Outputs
import OperatorPanel.Console.Scan
import OperatorPanel.PinBus

/-!
# Cycles

A cycle takes a sample, carries out what the scan decided, passes on notices, refreshes the
status, shows it on the output pins, and remembers the sample. Commands that fail are reported
and counted; nothing stops a cycle.
-/

namespace OperatorPanel

/-- Notices that one cycle passes on at most. -/
def maxNoticesPerCycle : Nat := 8

/-- What a cycle did. -/
structure CycleReport where
  dispatched : Nat := 0
  failed : Nat := 0
  noticesPassed : Nat := 0
  status : Option Freshness := none
  refreshFailed : Bool := false
  publishFailed : Bool := false
  deriving DecidableEq, Repr

/-- The word for the kind of a notice. -/
def NoticeKind.label : NoticeKind → String
  | operator => "Operator"
  | text => "Text"
  | display => "Display"
  | nml => "Nml"

/-- What takes part in a cycle. -/
structure CycleState (T : Transport) where
  console : Console
  client : Client T
  report : CycleReport := {}
  world : World

namespace CycleState

variable {T : Transport}

/-- Send what one action asks for. -/
def dispatch (action : Action) (client : Client T) (world : World) :
    Option (Except PanelError Int32 × Client T × World) :=
  match action with
  | .send command | .startJog _ command => client.dispatch command world
  | .runProgram => client.runProgram 0 world

/-- The tracked axis after an action was accepted. -/
def tracked (action : Action) (jogging : Option UInt8) : Option UInt8 :=
  match action with
  | .startJog axis _ => some axis
  | .send _ | .runProgram => jogging

/-- Carry out one action. -/
def perform (s : CycleState T) (pin : InputPin) (action : Action) : Option (CycleState T) :=
  match dispatch action s.client s.world with
  | none => none
  | some (.ok _, client, world) =>
    some
      { console := { s.console with jogging := tracked action s.console.jogging }
        client
        report := { s.report with dispatched := s.report.dispatched + 1 }
        world }
  | some (.error e, client, world) => -- a jog that was not accepted is not tracked
    some
      { console := s.console
        client
        report := { s.report with failed := s.report.failed + 1 }
        world :=
          world.note .warn .bridge "pin command failed" [("pin", pin.name), ("error", e.text)] }

/-- Carry out actions one after the other, whatever becomes of each. -/
def performAll (s : CycleState T) : List (InputPin × Action) → Option (CycleState T)
  | [] => some s
  | (pin, action) :: actions =>
    match s.perform pin action with
    | none => none
    | some s => s.performAll actions

/-- Pass on at most so many notices. -/
def passNotices (s : CycleState T) : Nat → CycleState T
  | 0 => s
  | n + 1 =>
    match s.client.poll s.world with
    | (.ok (some notice), client, world) =>
      passNotices
        { s with
          client
          report := { s.report with noticesPassed := s.report.noticesPassed + 1 }
          world :=
            world.note .warn .bridge ("controller: " ++ notice.text.text)
              [("kind", notice.kind.label)] } n
    | (.ok none, client, world) => { s with client, world }
    -- a failure to take a notice is not reported, and ends the passing for this cycle
    | (.error _, client, world) => { s with client, world }

/-- Refresh the status. Of failures in a row only the first is a warning. -/
def refresh (s : CycleState T) : CycleState T :=
  match s.client.refresh s.world with
  | (.ok freshness, client, world) =>
    { console := { s.console with refreshFailing := false }
      client
      report := { s.report with status := some freshness }
      world :=
        if s.console.refreshFailing then world.note .info .bridge "status channel recovered"
        else world }
  | (.error e, client, world) =>
    { console := { s.console with refreshFailing := true }
      client
      report := { s.report with refreshFailed := true }
      world :=
        if s.console.refreshFailing then world
        else
          world.note .warn .bridge "status refresh failed, keeping last snapshot"
            [("error", e.text)] }

end CycleState

namespace Console

variable {T : Transport}

/-- The output pins for the status that a client saw last. -/
def outputs (c : Console) (client : Client T) : OutputPins :=
  .ofStatus client.status c.setup.display c.setup.axisCount

/-- One cycle after its sample was taken, up to the publishing of the outputs. -/
def act (c : Console) (now : InputSample) (client : Client T) (world : World) :
    Option (CycleState T) :=
  let (actions, console) := c.scan now client.status
  match CycleState.performAll { console, client, world } actions with
  | none => none
  | some s => some (s.passNotices maxNoticesPerCycle).refresh

/-- One cycle. -/
def cycle (c : Console) (client : Client T) (bus : PinBus) (world : World) :
    Option (CycleReport × Console × Client T × PinBus × World) :=
  let (now, bus, world) := bus.sample world
  match c.act now client world with
  | none => none
  | some s =>
    let (published, bus, world) := bus.publish (s.console.outputs s.client) s.world
    let (report, world) := match published with
      | .ok () => (s.report, world)
      | .error e =>
        ({ s.report with publishFailed := true },
          world.note .warn .bridge "output pin publish failed" [("error", e.text)])
    let console :=
      { s.console with previous := s.console.previous.takeOver s.console.setup.registered now }
    some (report, console, s.client, bus, world)

end Console
end OperatorPanel
