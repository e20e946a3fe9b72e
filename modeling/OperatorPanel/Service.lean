import OperatorPanel.CommandLine
import OperatorPanel.LogFilter
import OperatorPanel.Panel
import OperatorPanel.Route
import OperatorPanel.Settings.File

/-!
# The service

The program as a whole: it loads its settings, builds the pin bus and the panel, works until it is
told to stop, and ends in order. What it wrote to the journal passes the log filter that is in
force at the time.
-/

namespace OperatorPanel
namespace Service

/-- The version of the program. -/
def version : String := "0.1.0"

/-- The line that a request for the version is answered with. -/
def versionLine : String := "hmi_bridge " ++ version

/-- The program at work. -/
structure Working where
  panel : Routed Panel
  world : World
  gate : LogGate
  /-- The records that passed the filter, oldest first. -/
  log : List Record := []

/-- How the program ended. -/
structure Ending where
  /-- The code for whoever started it. -/
  exit : UInt8
  /-- The records that passed the filter, oldest first. -/
  log : List Record
  world : World

/-- The log filter at the start: the one that was asked for, or one for the options. -/
def firstFilter (o : Options) (asked : Option String) : String :=
  asked.getD (if o.verbose then "debug" else "info")

/-- The log filter once the settings are known. They count only where nothing else was said. -/
def laterFilter (o : Options) (asked : Option String) (s : Settings) : String :=
  if asked.isNone && !o.verbose then s.logLevel.word else firstFilter o asked

/-- Move what the journal holds through the filter into the log. -/
def flush (gate : LogGate) (log : List Record) (w : World) : List Record × World :=
  (log ++ w.journal.filter gate.lets, { w with journal := [] })

/-- The code with which the program breaks off when it cannot go on. -/
def brokenOff : UInt8 := 101

/-- End the program because of a failure. -/
def fail (gate : LogGate) (log : List Record) (reason : String) (w : World) : Ending :=
  let (log, world) :=
    flush gate log (w.note .error .service ("HMI bridge failed: " ++ reason))
  { exit := 1, log, world }

/-- What is said about settings that were loaded. -/
def loadedText (s : Settings) : String :=
  "Loaded config: channel_id=" ++ s.channelId ++ ", " ++ Text.decimal s.polarities.length
    ++ " axes, " ++ Text.decimal s.lines.length ++ " MDI commands, wait_policy="
    ++ s.waitPolicy.label

/-- The way to the controller that options and settings ask for. -/
def route (o : Options) (s : Settings) : Route :=
  if o.simulate then .simulated else .shared s.channelId

/-- Put a simulated controller in place, if the options ask for one. -/
def prepare (o : Options) (s : Settings) (w : World) : World :=
  let w := w.note .info .service (loadedText s)
  -- its axes are those of the settings, all enabled
  if o.simulate then
    { w with simulator := { status := .atRest s.polarities.length } }.note .info .service
      "Simulation mode enabled"
  else w

/-- Build a panel on the bus and start it; what it failed with. Nothing is left of a panel that
could not be started. -/
def start (route : Route) (s : Settings) (bus : SegmentBus) (w : World) :
    Option (Except PanelError (Panel route.transport) × World) :=
  match Panel.create route.transport s { carrier := .segment bus } with
  -- the bus is not in a panel yet, so it has to be given up here
  | .error e => some (.error e, bus.drop w)
  | .ok p =>
    match p.startup w with
    | (.error e, p, w) => (p.drop w).map (.error e, ·)
    | (.ok (), p, w) => some (.ok p, w)

/-- Begin the work on settings that were loaded: the program at work, or how it ended. -/
def beginWith (o : Options) (s : Settings) (gate : LogGate) (log : List Record) (w : World) :
    Option (Working ⊕ Ending) :=
  match SegmentBus.create s.channelId (prepare o s w) with
  | (.error e, w) => some (.inr (fail gate log e.text w))
  | (.ok bus, w) =>
    match start (route o s) s bus w with
    | none => none
    | some (.error e, w) => some (.inr (fail gate log e.text w))
    | some (.ok p, w) =>
      let (_, w) := p.enterLoop w
      let (log, world) := flush gate log w
      some (.inl { panel := ⟨route o s, p⟩, world, gate, log })

/-- Begin the work: load the settings, and work with them. A log filter that cannot be taken apart
breaks the program off at once. -/
def begin? (o : Options) (asked : Option String) (file : SettingsFile) (w : World) :
    Option (Working ⊕ Ending) :=
  match LogGate.ofText? (firstFilter o asked) with
  | none => some (.inr { exit := brokenOff, log := [], world := w })
  | some gate =>
    let w := w.note .info .service ("HMI bridge v" ++ version ++ " starting...")
    match file.load with
    | .error e =>
      some (.inr (fail gate [] ("failed to load " ++ o.settings ++ ": " ++ e.text) w))
    | .ok s => -- what was noted so far passes the first filter, not the one of the settings
      let (log, w) := flush gate [] w
      beginWith o s ((LogGate.ofText? (laterFilter o asked s)).getD gate) log w

namespace Working

/-- Do one cycle. -/
def cycle (s : Working) : Option Working :=
  match s.panel with
  | ⟨route, p⟩ =>
    match p.cycle s.world with
    | none => none
    | some (_, p, w) =>
      let (log, world) := flush s.gate s.log w
      some { s with panel := ⟨route, p⟩, world, log }

/-- Do some cycles. -/
def cycles (s : Working) : Nat → Option Working
  | 0 => some s
  | n + 1 =>
    match s.cycle with
    | none => none
    | some s => s.cycles n

/-- Follow the order to stop. -/
def stop (s : Working) : Option Ending :=
  match s.panel with
  | ⟨_, p⟩ =>
    let w := s.world.note .info .service "Received shutdown signal"
    match p.shutdown (p.leaveLoop w) with
    | none => none
    | some (p, w) =>
      match p.drop (w.note .info .service "HMI bridge shutdown complete") with
      | none => none
      | some w =>
        let (log, world) := flush s.gate s.log w
        some { exit := 0, log, world }

end Working

/-- Run the program on a settings file until the order to stop comes, after so many cycles; none
where it would never end. -/
def run (o : Options) (asked : Option String) (file : SettingsFile) (cycles : Nat) (w : World) :
    Option Ending :=
  match begin? o asked file w with
  | none => none
  | some (.inr ending) => some ending
  | some (.inl s) =>
    match s.cycles cycles with
    | none => none
    | some s => s.stop

end Service
end OperatorPanel
