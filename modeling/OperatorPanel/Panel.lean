import OperatorPanel.CycleStats

/-!
# The panel

A `Panel` is the program at work: it connects, takes the serial that the controller echoes as its
baseline, runs cycles, and in the end lets the controller echo the baseline again, so that other
clients see what they saw before.
-/

namespace OperatorPanel

/-- The limit of the wait at shutdown, where waits have no limit. -/
def shutdownLimit : Span := .ofParts 10 0

/-- The program at work. -/
structure Panel (T : Transport) where
  client : Client T
  console : Console
  bus : PinBus
  running : Bool := false
  /-- The serial that the controller echoed at startup. -/
  baseline : Option Int32 := none
  cycleTime : Span
  stats : CycleStats := {}
  /-- Shutdown has begun. -/
  ended : Bool := false

namespace Panel

variable {T : Transport}

/-- A panel that is not connected yet. -/
def create (T : Transport) (settings : Settings) (bus : PinBus) : Except PanelError (Panel T) :=
  match settings.fault? with
  | some fault => .error (.settings (.invalid fault))
  | none => -- the same bound on the lines once more; settings without a fault pass it
    match Setup.ofSettings settings with
    | .error e => .error e
    | .ok setup =>
      .ok
        { client :=
            { link :=
                { retry := { total := settings.retryTotal, interval := settings.retryPause }
                  silences := !settings.showsChannels }
              wait :=
                { policy := settings.waitPolicy
                  limit := settings.waitLimit
                  interval := settings.pollInterval } }
          console := { setup }
          bus
          cycleTime := settings.cycleTime }

/-! ### Startup -/

/-- Show inactive outputs and take the echoed serial as the baseline. -/
def captureBaseline (p : Panel T) (w : World) : Except PanelError Unit × Panel T × World :=
  match p.bus.publish (.inactive p.console.setup.axisCount) w with
  | (.error e, bus, w) => (.error e, { p with bus }, w)
  | (.ok (), bus, w) =>
    match p.client.refresh w with
    | (.error e, client, w) => (.error e, { p with bus, client }, w)
    | (.ok _, client, w) =>
      let baseline := client.status.echo
      (.ok (), { p with bus, client := { client with serial := baseline }, baseline },
        w.note .info .lifecycle "controller status received" [("baseline", serialText baseline)])

/-- Connect and take the baseline. When that fails nothing stays open. -/
def startup (p : Panel T) (w : World) : Except PanelError Unit × Panel T × World :=
  let w := w.note .info .lifecycle "starting bridge"
    [("transport", T.name), ("axes", Text.decimal p.console.setup.axisCount)]
  match p.client.connect w with
  | (.error e, client, w) => (.error e, { p with client }, w)
  | (.ok (), client, w) =>
    match { p with client }.captureBaseline w with
    | (.ok (), p, w) => (.ok (), { p with running := true }, w)
    | (.error e, p, w) =>
      let w := w.note .error .lifecycle "startup failed after connect" [("error", e.text)]
      let (client, w) := p.client.close w
      (.error e, { p with client }, w)

/-! ### Cycles -/

/-- One cycle, with its statistics. -/
def cycle (p : Panel T) (w : World) : Option (CycleReport × Panel T × World) :=
  let (start, w) := w.time
  match p.console.cycle p.client p.bus w with
  | none => none
  | some (report, console, client, bus, w) =>
    let (now, w) := w.time
    let stats := p.stats.record ⟨now - start⟩ p.cycleTime report.failed report.refreshFailed
    some (report, { p with console, client, bus, stats }, w)

/-- Enter the loop of cycles, which needs a baseline. -/
def enterLoop (p : Panel T) (w : World) : Except PanelError Unit × World :=
  match p.baseline with
  | none => (.error (.invalid "bridge loop started before startup"), w)
  | some _ =>
    (.ok (), w.note .info .lifecycle "bridge loop running"
      [("cycle_time_ms", Text.decimal p.cycleTime.millis)])

/-- Cycles while the panel is running; the order to stop comes in the last of so many. -/
def cycles (p : Panel T) (w : World) : Nat → Option (Panel T × World)
  | 0 => some ({ p with running := false }, w)
  | n + 1 =>
    if p.running then
      let (start, w) := w.time
      match p.cycle w with
      | none => none
      | some (_, p, w) =>
        let (now, w) := w.time
        p.cycles (w.sleep ⟨p.cycleTime.nanos - (now - start)⟩) n
    else some (p, w)

/-- Leave the loop of cycles. -/
def leaveLoop (p : Panel T) (w : World) : World :=
  w.note .info .lifecycle "bridge loop stopped"
    [("cycles", Text.decimal p.stats.cycles.toNat),
      ("overruns", Text.decimal p.stats.overruns.toNat),
      ("dispatch_failures", Text.decimal p.stats.dispatchFailures.toNat)]

/-- Run until the order to stop comes, in the `n`th cycle or, for zero, before the first one. -/
def run (p : Panel T) (w : World) (n : Nat) : Option (Except PanelError Unit × Panel T × World) :=
  match p.enterLoop w with
  | (.error e, w) => some (.error e, p, w)
  | (.ok (), w) =>
    match p.cycles w n with
    | none => none
    | some (p, w) => some (.ok (), p, p.leaveLoop w)

/-! ### Shutdown -/

/-- Wait until the last command has arrived, within a limit in any case. -/
def settle (p : Panel T) (baseline : Int32) (w : World) : Option (Panel T × World) :=
  let last := p.client.serial
  if last = baseline then some (p, w)
  else
    match p.client.waitReceivedFor last (some (p.client.wait.limit.getD shutdownLimit)) w with
    | none => none
    | some (.ok (), client, w) => some ({ p with client }, w)
    | some (.error e, client, w) =>
      some ({ p with client },
        w.note .warn .lifecycle "last command not acknowledged before shutdown"
          [("serial", serialText last), ("error", e.text)])

/-- Let the controller echo the baseline again. -/
def restoreBaseline (p : Panel T) (baseline : Int32) (w : World) : Panel T × World :=
  match p.client.send baseline .null w with
  | (.ok (), client, w) =>
    ({ p with client },
      w.note .info .lifecycle "controller serial restored" [("baseline", serialText baseline)])
  | (.error e, client, w) =>
    ({ p with client },
      w.note .warn .lifecycle "could not restore controller serial"
        [("baseline", serialText baseline), ("error", e.text)])

/-- End the work: restore the baseline, if there is one, and close the channels. Only the first
shutdown does so; failures are reported and stop nothing. -/
def shutdown (p : Panel T) (w : World) : Option (Panel T × World) :=
  let p := { p with running := false }
  if p.ended then some (p, w)
  else
    -- from here on it is over, whatever comes of the wait and of the baseline
    let p := { p with ended := true }
    let handed := match p.baseline with
      | none => some (p, w)
      | some baseline =>
        match p.settle baseline w with
        | none => none
        | some (p, w) => some (p.restoreBaseline baseline w)
    match handed with
    | none => none
    | some (p, w) =>
      let (client, w) := p.client.close w
      some ({ p with client }, w.note .info .lifecycle "bridge shut down")

/-- Shut down and give everything up. -/
def drop (p : Panel T) (w : World) : Option World :=
  match p.shutdown w with
  | none => none
  | some (p, w) => some (p.bus.drop (p.client.link.release w).2)

end Panel
end OperatorPanel
