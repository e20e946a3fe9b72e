import Mathlib.Data.Nat.Bitwise
import OperatorPanel.Proofs.Edges
import OperatorPanel.Proofs.Following
import OperatorPanel.Proofs.Serial

/-!
# The outputs mirror the controller

What a cycle publishes is the status that the client holds, and that is the one that was seen
last (`Follows.upToDate`). A look that succeeds at the end of a cycle sees all that the commands of
this cycle have done: `Simulator.Carries` says for a list of messages what becomes of a status.

What the pins have to say about a status is `OutputPins.Mirrors`, a clause for every pin. It does
not go by the function that the program uses, and leaves just one value for every pin
(`OutputPins.mirrors_iff`).

The main result is `Panel.outputs_mirror`.
-/

namespace OperatorPanel

/-! ### What the pins say

A pin that is on or off tells of one question about the status, and a pin of an axis of one bit of
its flags. Lengths are those of the status in the units of the display.
-/

/-- Whether a flag of one bit is set is whether its bit is. -/
theorem AxisFlags.has_eq_testBit {flag : AxisFlags} {k : Nat} (hflag : flag.toNat = 2 ^ k)
    (flags : AxisFlags) : flags.has flag = flags.toNat.testBit k := by
  have hand : (flags &&& flag).toNat = (flags.toNat.testBit k).toNat * 2 ^ k := by
    rw [UInt16.toNat_and, hflag, Nat.and_two_pow]
  rw [has, Bool.eq_iff_iff, beq_iff_eq, ← UInt16.toNat_inj, hand, hflag]
  cases flags.toNat.testBit k with
  | true => simp
  | false => simp [(Nat.two_pow_pos k).ne]

/-- The pins of an axis tell of its flags, one bit each. -/
structure JointPins.Tells (joint : JointPins) (flags : AxisFlags) : Prop where
  homed : joint.isHomed = flags.toNat.testBit 0
  fault : joint.hasFault = flags.toNat.testBit 2
  softMin : joint.onSoftMinLimit = flags.toNat.testBit 3
  softMax : joint.onSoftMaxLimit = flags.toNat.testBit 4
  hardMin : joint.onHardMinLimit = flags.toNat.testBit 5
  hardMax : joint.onHardMaxLimit = flags.toNat.testBit 6

namespace JointPins

variable {joint joint' : JointPins} {flags : AxisFlags}

theorem tells_ofFlags (flags : AxisFlags) : (ofFlags flags).Tells flags := by
  constructor <;> exact AxisFlags.has_eq_testBit rfl flags

theorem Tells.unique (h : joint.Tells flags) (h' : joint'.Tells flags) : joint = joint' :=
  JointPins.ext (h.homed.trans h'.homed.symm) (h.fault.trans h'.fault.symm)
    (h.softMin.trans h'.softMin.symm) (h.softMax.trans h'.softMax.symm)
    (h.hardMin.trans h'.hardMin.symm) (h.hardMax.trans h'.hardMax.symm)

end JointPins

/-- The output pins tell of a status, with lengths in the units of a display, and with a group of
pins for each of so many axes. -/
structure OutputPins.Mirrors (out : OutputPins) (s : Status) (display : Display) (axes : Nat) :
    Prop where
  -- pins that are on or off
  machine : out.machineIsOn = true ↔ s.taskState = .on
  estop : out.estopIsReset = true ↔ s.taskState ≠ .estop
  manual : out.modeIsManual = true ↔ s.taskMode = .manual
  auto : out.modeIsAuto = true ↔ s.taskMode = .auto
  mdi : out.modeIsMdi = true ↔ s.taskMode = .mdi
  teleop : out.modeIsTeleop = true ↔ s.trajMode = .teleop
  free : out.modeIsJoint = true ↔ s.trajMode = .free
  fluids : out.mistIsOn = s.mist ∧ out.floodIsOn = s.flood ∧ out.lubeIsOn = s.lube
  spindle : out.spindleIsOn = true ↔ s.spindleSpeed.isZero = false
  brake : out.spindleBrakeIsOn = s.spindleBrake
  idle : out.programIsIdle = true ↔ s.interpState = .idle
  running : out.programIsRunning = true ↔ s.interpState = .reading ∨ s.interpState = .waiting
  paused : out.programIsPaused = true ↔ s.interpState = .paused
  /-- There is a group of pins for every axis that is set up, nine at most. -/
  groups : out.joints.length = min axes 9
  -- pins of axes and numbers
  joints : ∀ (n : Nat) (joint : JointPins), out.joints[n]? = some joint →
    joint.Tells (s.axes.get n)
  tool : out.toolNumber = s.toolNumber
  toolLength : out.toolLengthOffset
    = Units.linear s.toolLengthOffset s.nativeScale s.programUnits display.linear
  tripped : out.probeIsTripped = s.probeTripped
  probe : out.probeValue
    = Units.linear s.probeValue s.nativeScale s.programUnits display.linear

namespace OutputPins

variable {out out' : OutputPins} {s : Status} {display : Display} {axes : Nat}

/-- The pins for a status mirror it. -/
theorem mirrors_ofStatus (s : Status) (display : Display) (axes : Nat) :
    (ofStatus s display axes).Mirrors s display axes where
  machine := decide_eq_true_iff
  estop := decide_eq_true_iff
  manual := decide_eq_true_iff
  auto := decide_eq_true_iff
  mdi := decide_eq_true_iff
  teleop := decide_eq_true_iff
  free := decide_eq_true_iff
  fluids := ⟨rfl, rfl, rfl⟩
  spindle := iff_of_eq (Bool.not_eq_true' _)
  brake := rfl
  idle := decide_eq_true_iff
  -- a program runs while it is read and while it waits
  running := by
    show s.interpState.isRunning = true ↔ _
    cases s.interpState <;> decide
  paused := decide_eq_true_iff
  groups := by
    dsimp only [ofStatus]
    rw [List.length_map, List.length_range]
    rfl
  joints n joint hjoint := by
    dsimp only [ofStatus] at hjoint
    -- the pins of an axis are those of its flags
    rw [List.getElem?_map, Option.map_eq_some_iff] at hjoint
    obtain ⟨m, hm, rfl⟩ := hjoint
    obtain ⟨_, rfl⟩ := List.getElem?_eq_some_iff.1 hm
    rw [List.getElem_range]
    exact JointPins.tells_ofFlags _
  tool := rfl
  toolLength := rfl
  tripped := rfl
  probe := rfl

/-- Two lists of pins for the axes of a status are the same. -/
theorem Mirrors.joints_eq (h : out.Mirrors s display axes) (h' : out'.Mirrors s display axes) :
    out.joints = out'.joints := by
  refine List.ext_getElem (h.groups.trans h'.groups.symm) fun n hn hn' => ?_
  exact (h.joints n _ (List.getElem?_eq_getElem hn)).unique
    (h'.joints n _ (List.getElem?_eq_getElem hn'))

/-- **The pins for a status are all that mirror it**, and no others do. -/
theorem mirrors_iff : out.Mirrors s display axes ↔ out = ofStatus s display axes := by
  constructor
  · -- every clause determines its pin, so two groups of pins that mirror one status are the same
    intro h
    have h' := mirrors_ofStatus s display axes
    have hjoints := h.joints_eq h'
    have same {b b' : Bool} {p : Prop} (hb : b = true ↔ p) (hb' : b' = true ↔ p) : b = b' :=
      Bool.eq_iff_iff.2 (hb.trans hb'.symm)
    generalize ofStatus s display axes = out' at h' hjoints
    obtain ⟨hmist, hflood, hlube⟩ := h.fluids
    obtain ⟨hmist', hflood', hlube'⟩ := h'.fluids
    exact OutputPins.ext (same h.machine h'.machine) (same h.estop h'.estop)
      (same h.manual h'.manual) (same h.auto h'.auto) (same h.mdi h'.mdi)
      (same h.teleop h'.teleop) (same h.free h'.free) (hmist.trans hmist'.symm)
      (hflood.trans hflood'.symm) (hlube.trans hlube'.symm) (same h.spindle h'.spindle)
      (h.brake.trans h'.brake.symm) (same h.idle h'.idle) (same h.running h'.running)
      (same h.paused h'.paused) hjoints (h.tool.trans h'.tool.symm)
      (h.toolLength.trans h'.toolLength.symm) (h.tripped.trans h'.tripped.symm)
      (h.probe.trans h'.probe.symm)
  · rintro rfl
    exact mirrors_ofStatus s display axes

end OutputPins

/-! ### Messages carried out

The status at the controller changes by the messages it is sent, one after another. The state of the
last command is kept apart in all of this: it may still go on while the controller is looked at, and
no later message asks for it.
-/

namespace Simulator

/-- What becomes of a status when a message is carried out and acknowledged. -/
def carryOut (ack : Acknowledgement) (s : Status) (m : Message) : Status :=
  acknowledge (effect s m.command) m.serial ack

/-- No command asks for the state of the one before it. -/
theorem effect_state (s : Status) (state : ExecState) (command : Command) :
    effect { s with state } command = { effect s command with state } := by
  cases command
  -- two commands depend on the status, but neither on the state
  case programRun line =>
    by_cases hopen : s.programOpen = true
    · have heffect : effect s (.programRun line)
          = { s with taskMode := .auto, interpState := .reading } := if_pos hopen
      rw [heffect]
      exact if_pos hopen
    · have heffect : effect s (.programRun line) = s := if_neg hopen
      rw [heffect]
      exact if_neg hopen
  case toolSetOffset tool length diameter =>
    by_cases htool : tool = s.toolNumber
    · have heffect : effect s (.toolSetOffset tool length diameter)
          = { s with toolLengthOffset := length } := if_pos htool
      rw [heffect]
      exact if_pos htool
    · have heffect : effect s (.toolSetOffset tool length diameter) = s := if_neg htool
      rw [heffect]
      exact if_neg htool
  all_goals rfl

/-- Messages do not ask how far the command before them got. -/
theorem carryOut_state (ack : Acknowledgement) (s : Status) (state : ExecState) (m : Message) :
    carryOut ack { s with state } m
      = { carryOut ack s m with state := (carryOut ack { s with state } m).state } := by
  unfold carryOut
  rw [effect_state]
  cases ack <;> rfl

/-- So it makes no difference to several messages either. -/
theorem foldl_carryOut_state (ack : Acknowledgement) (ms : List Message) {s s' : Status}
    (h : s' = { s with state := s'.state }) :
    ms.foldl (carryOut ack) s'
      = { ms.foldl (carryOut ack) s with state := (ms.foldl (carryOut ack) s').state } := by
  induction ms generalizing s s' with
  | nil => exact h
  | cons m ms ih =>
      refine ih ?_
      rw [h]
      exact carryOut_state ack s s'.state m

/-- Between the two the messages were carried out, and nothing else happened to the status save
that the command that was echoed last may have come further. -/
structure Carries (c : Simulator) (ms : List Message) (c' : Simulator) : Prop where
  ack : c'.ack = c.ack
  status : c'.status = { ms.foldl (carryOut c.ack) c.status with state := c'.status.state }

namespace Carries

variable {c c₁ c' : Simulator} {ms ms' : List Message}

/-- Where nothing was sent, nothing was carried out. -/
theorem refl (c : Simulator) : Carries c [] c := ⟨rfl, rfl⟩

/-- Messages are carried out in their order. -/
theorem trans (h : Carries c ms c₁) (h' : Carries c₁ ms' c') : Carries c (ms ++ ms') c' where
  ack := h'.ack.trans h.ack
  status := by
    have hrest := foldl_carryOut_state c.ack ms' h.status
    rw [h'.status, h.ack, hrest, List.foldl_append]

/-- To be looked at carries nothing out. -/
theorem ofLooks (h : c.SameButLooks c') : Carries c [] c' := ⟨h.ack, h.status⟩

/-- To receive a message is to carry it out. -/
theorem receive (c : Simulator) (m : Message) : Carries c [m] (c.receive m) := ⟨rfl, rfl⟩

end Carries
end Simulator

open Attempt

namespace Client

/-- What was written of these attempts was carried out. -/
def Carries (c : Client Simulated.transport) (w : World) (attempts : List Attempt) (w' : World) :
    Prop :=
  w.simulator.Carries (messages c.serial attempts) w'.simulator

/-- An attempt has its own message carried out, if it was written, and no other. -/
theorem carries_attempt {c c' : Client Simulated.transport} {command : Command}
    {policy : WaitPolicy} {w w' : World} {a : Attempt}
    (h : c.attempt command policy w = some (a, c', w')) : c.Carries w [a] w' := by
  cases attempted h with
  | refused _ => exact .refl _
  | unsent _ _ => exact .refl _
  | sent _ _ hwaits _ =>
      exact (Simulator.Carries.receive ..).trans (.ofLooks hwaits.quiet.simulator)

theorem carries_attemptRun {c c' : Client Simulated.transport} {line : Int32} {w w' : World}
    {a : Attempt} (h : c.attemptRun line w = some (a, c', w')) : c.Carries w [a] w' := by
  have hlook : w.simulator.Carries [] (c.refresh w).2.2.simulator :=
    .ofLooks (c.quiet_refresh w).simulator
  unfold attemptRun at h
  dsimp only at h
  split at h
  · have hsent := carries_attempt h
    exact hlook.trans hsent
  · cases h
    exact hlook

end Client

/-- So it is with the action of a pin. -/
theorem Action.carries_attempt {action : Action} {c c' : Client Simulated.transport} {w w' : World}
    {a : Attempt} (h : action.attempt c w = some (a, c', w')) : c.Carries w [a] w' := by
  cases action with
  | send command => exact Client.carries_attempt h
  | startJog axis command => exact Client.carries_attempt h
  | runProgram => exact Client.carries_attemptRun h

namespace CycleState

/-- **All attempts of a cycle** have their messages carried out, one behind the other. -/
theorem Performs.carries {s s' : CycleState Simulated.transport}
    {actions : List (InputPin × Action)} {made : List (InputPin × Attempt)}
    (h : s.Performs actions made s') : s.client.Carries s.world (made.map (·.2)) s'.world := by
  induction h with
  | nil s => exact .refl _
  | @cons s s' pin action a client world actions made hattempt _ ih =>
      have hfirst := Action.carries_attempt hattempt
      -- the next message has the serial after this one
      have hserial : client.serial = serialAfterAll s.client.serial [a] := by
        rw [serialAfterAll_eq]
        exact (Action.books_attempt hattempt).serial
      rw [Client.Carries, client_after, simulator_after, hserial] at ih
      rw [Client.Carries, List.map_cons, ← List.singleton_append, messages_append]
      exact hfirst.trans ih

/-- Notices carry nothing out. -/
theorem carries_passNotices (s : CycleState Simulated.transport) (n : Nat) :
    s.world.simulator.Carries [] (s.passNotices n).world.simulator := by
  apply passNotices_invariant (P := fun _ w => s.world.simulator.Carries [] w.simulator)
  · intro c w hcarries
    obtain ⟨notices, hpolled⟩ := c.link.simulator_poll w
    have hsimulator : (c.poll w).2.2.simulator = { w.simulator with notices } := hpolled
    rw [hsimulator]
    exact ⟨hcarries.ack, hcarries.status⟩
  · intro c w w' hnoted hcarries
    rw [hnoted]
    exact hcarries
  · exact .refl _

/-- Neither does a look at the status. -/
theorem carries_refresh (s : CycleState Simulated.transport) :
    s.world.simulator.Carries [] s.refresh.world.simulator := by
  have hquiet := s.client.quiet_refresh s.world
  rcases hlook : s.client.refresh s.world with ⟨r, client, world⟩
  rw [hlook] at hquiet
  rw [(refresh_eq hlook).2.1]
  exact .ofLooks hquiet.simulator

end CycleState

namespace Panel

variable {p p' : Panel Simulated.transport} {w w' : World} {report : CycleReport}

/-- What the attempts of a cycle have sent was carried out when it ends. -/
theorem carries_cycle (h : p.cycle w = some (report, p', w')) :
    p.client.Carries w ((p.attempts w).map (·.2)) w' := by
  obtain ⟨acted, tidied, hcycled⟩ := Panel.cycled h
  have hacted := hcycled.performs.carries
  rw [Client.Carries, simulator_scanned] at hacted
  have htidied : acted.world.simulator.Carries [] w'.simulator := by
    rw [hcycled.simulator, hcycled.tidied_eq]
    exact (acted.carries_passNotices maxNoticesPerCycle).trans (CycleState.carries_refresh _)
  have hall := hacted.trans htidied
  rw [List.append_nil] at hall
  exact hall

/-- A cycle ends with a look, and unless that fails the channel has the version of now. -/
theorem seen_cycle (h : p.cycle w = some (report, p', w'))
    (hlooked : report.refreshFailed = false) :
    p'.client.link.status = some w'.simulator.version := by
  obtain ⟨acted, tidied, hcycled⟩ := Panel.cycled h
  rcases hlook : (acted.passNotices maxNoticesPerCycle).client.refresh
    (acted.passNotices maxNoticesPerCycle).world with ⟨r, client, world⟩
  obtain ⟨hclient, hsimulator, hok⟩ := CycleState.refresh_eq hlook
  rw [← hcycled.tidied_eq] at hclient hsimulator hok
  rw [hcycled.refreshFailed] at hlooked
  obtain ⟨f, rfl⟩ := hok hlooked
  rw [hcycled.client, hcycled.simulator, hclient, hsimulator]
  cases Client.looked hlook with
  | succeeded _ _ hseen _ => exact hseen

/-- A bus in memory always has the outputs for the status that the client holds. -/
theorem outputs_cycle {b : MemoryBus} (hbus : p.bus = { carrier := .memory b })
    (h : p.cycle w = some (report, p', w')) :
    ∃ b', p'.bus = { carrier := .memory b' } ∧
      b'.outputs = .ofStatus p'.client.status p.console.setup.display
        p.console.setup.axisCount := by
  obtain ⟨acted, tidied, hcycled⟩ := Panel.cycled h
  have hpublished := hcycled.bus
  rw [hbus, Console.outputs, ← hcycled.client, ← hcycled.setup, hcycled.console.1] at hpublished
  generalize OutputPins.ofStatus .. = out at hpublished ⊢
  exact ⟨b.publish out, hpublished, rfl⟩

/-- **The outputs mirror the controller.** Whatever happened in a session before, its startups
and shutdowns included, a cycle publishes the status that was seen last: that of the controller at
the last look that succeeded, in this cycle or before it. So it is for every history between the
beginning and the end of the cycle, and there is one. Every pin says of this status what it is
there to say. Where the look at the end of the cycle succeeds, that is the status that the
controller has now, with all that this cycle has sent carried out.

The controller counts its statuses from one, and the count must not come round to zero. -/
theorem outputs_mirror {settings : Settings} {bus : PinBus} {p p' : Panel Simulated.transport}
    {w w' : World} {events : List Event} {turns : List Turn} {s : Session} {b : MemoryBus}
    {report : CycleReport} (hcreate : Panel.create Simulated.transport settings bus = .ok p)
    (hcounted : 0 < w.simulator.version) (hruns : Session.Runs ⟨p, w⟩ events turns s)
    (hbus : s.panel.bus = { carrier := .memory b })
    (hcycle : s.panel.cycle s.world = some (report, p', w')) :
    ∃ b', p'.bus = { carrier := .memory b' } ∧
      (∃ signs, p.client.Follows w signs p'.client w') ∧
      ∀ signs, p.client.Follows w signs p'.client w' →
        w.simulator.version.toNat + changes signs < UInt64.size →
        b'.outputs = .ofStatus (lastSeen p.client.status signs) p.console.setup.display
            p.console.setup.axisCount ∧
          b'.outputs.Mirrors (lastSeen p.client.status signs) p.console.setup.display
            p.console.setup.axisCount ∧
          (report.refreshFailed = false →
            lastSeen p.client.status signs = w'.simulator.status ∧
            s.world.simulator.Carries
              (messages s.panel.client.serial ((s.panel.attempts s.world).map (·.2)))
              w'.simulator) := by
  have hnew := new_of_create hcreate
  have hsetup := (hruns.remembers (Console.remembers_empty hnew.previous)).1
  obtain ⟨b', hbus', houtputs⟩ := outputs_cycle hbus hcycle
  have hled : p.client.Led w p'.client w' := hruns.led.trans (led_cycle hcycle)
  refine ⟨b', hbus', hled, ?_⟩
  -- the status that the client holds is the one that was seen last, by the invariant of following
  intro signs hfollows hfew
  have huptodate := hfollows.upToDate (.ofClosed hnew.link.2 hcounted) hfew
  have hsame : b'.outputs = .ofStatus (lastSeen p.client.status signs) p.console.setup.display
      p.console.setup.axisCount := by
    rw [houtputs, huptodate.status, hsetup]
  refine ⟨hsame, OutputPins.mirrors_iff.2 hsame, fun hlooked => ?_⟩
  have hseen := (huptodate.seen _ (seen_cycle hcycle hlooked)).2 rfl
  exact ⟨hseen.symm, carries_cycle hcycle⟩

end Panel

/-! ### A first cycle

For a theorem with several hypotheses a history is played in which they all hold, and in which the
outputs have changed on the way.
-/

/-- A controller that was told to switch the machine on, by the first message after serial 7. -/
def World.switchedOn : World where
  simulator := (World.echoing 7).simulator.receive { serial := 8, command := .setTaskState .on }
  directory := (World.echoing 7).directory

/-- A client opens its channel and sees the status, and after the message it sees it again. -/
theorem Client.follows_switchedOn {c c' : Client Simulated.transport} {w' : World}
    (hupdates : c'.watch.updates = c.watch.updates + 2)
    (hwatch : c'.watch.status = World.switchedOn.simulator.status)
    (hchannel : c'.link.status = some 2)
    (hstatus : w'.simulator.status = World.switchedOn.simulator.status)
    (hversion : w'.simulator.version = 2) (hpolls : w'.simulator.pollsUntilDone = none) :
    c.Follows (.echoing 7) [.seen (World.echoing 7).simulator.status, .changed,
      .seen World.switchedOn.simulator.status] c' w' := by
  have hopened : Apart c (.echoing 7) { c with link := { c.link with status := some 0 } }
      (.echoing 7) := ⟨rfl, .inr (.inr rfl), rfl, rfl, rfl⟩
  have hwatched : c'.watch
      = { status := World.switchedOn.simulator.status, updates := c.watch.updates + 2 } := by
    rw [← hupdates, ← hwatch]
  refine .apart hopened (.looked rfl (.received { serial := 8, command := .setTaskState .on } ?_))
  refine .looked rfl (.ofApart ?_)
  exact ⟨hwatched, .inl hchannel, hstatus, hversion, hpolls⟩

/-- A panel starts at a controller that echoes 7, and in its first cycle the machine is switched
on: the status changes once, and the outputs are those for the status after it. -/
theorem Panel.outputs_mirror_default :
    ∃ p turns s report p' w' b' signs,
      Panel.create Simulated.transport {} { carrier := .memory {} } = .ok p ∧
      Session.Runs ⟨p, .echoing 7⟩ [.startup, .work (.pins (pressing (.control .machineOn)))]
        turns s ∧
      s.panel.cycle s.world = some (report, p', w') ∧
      p.client.Follows (.echoing 7) signs p'.client w' ∧ changes signs = 1 ∧
      p'.bus = { carrier := .memory b' } ∧ w'.simulator.status.machineOn = true ∧
      b'.outputs = .ofStatus w'.simulator.status p.console.setup.display
        p.console.setup.axisCount := by
  have hplays : Plays [.startup, .work (.pins (pressing (.control .machineOn)))] (fun p _ s =>
      decide (p.client.watch.updates = 0) &&
      (s.panel.cycle s.world).any fun cycled =>
        !cycled.1.refreshFailed && decide (cycled.2.1.client.watch.updates = 2 ∧
          cycled.2.1.client.watch.status = World.switchedOn.simulator.status ∧
          cycled.2.1.client.link.status = some 2 ∧
          cycled.2.2.simulator.status = World.switchedOn.simulator.status ∧
          cycled.2.2.simulator.version = 2 ∧ cycled.2.2.simulator.pollsUntilDone = none)) := by
    decide +kernel
  obtain ⟨p, turns, s, hcreate, hruns, hholds⟩ := hplays.runs
  obtain ⟨hnever, hcycles⟩ := Bool.and_eq_true_iff.1 hholds
  obtain ⟨⟨report, p', w'⟩, hcycle, hended⟩ := (Option.any_eq_true _ _).1 hcycles
  obtain ⟨hlooked, hshown⟩ := Bool.and_eq_true_iff.1 hended
  obtain ⟨hupdates, hwatch, hchannel, hstatus, hversion, hpolls⟩ := of_decide_eq_true hshown
  rw [← Nat.zero_add 2, ← of_decide_eq_true hnever] at hupdates
  have hfollows := Client.follows_switchedOn hupdates hwatch hchannel hstatus hversion hpolls
  -- nothing in the history changes the bus after the button was pressed
  have hbus : s.panel.bus = pressing (.control .machineOn) := by
    cases hruns with
    | cons _ hrest =>
        cases hrest with
        | cons hpins hdone =>
            cases hpins
            cases hdone
            rfl
  obtain ⟨b', hbus', _, hmirror⟩ := outputs_mirror hcreate (by decide) hruns hbus hcycle
  obtain ⟨houtputs, _, hfresh⟩ := hmirror _ hfollows (by decide)
  have hlooked := (hfresh (by simpa using hlooked)).1
  rw [hlooked] at houtputs
  refine ⟨p, turns, s, report, p', w', b', _, hcreate, hruns, hcycle, hfollows, rfl, hbus', ?_,
    houtputs⟩
  rw [hstatus]
  decide

end OperatorPanel
