import OperatorPanel.Proofs.Progress
import OperatorPanel.Proofs.Releases
import OperatorPanel.Proofs.Serial

/-!
# Standstill

While single axes are moved, an axis stands still when nobody holds it: if both its jog pins are
inactive in the last sample, then the last message about its motion was to stop it
(`Panel.standstill`).

One cycle keeps this (`Session.standing_next`). Where no pin of the axis turns inactive, none was
active before, and nothing is said about the axis; where one does, what is said is to stop, and is
said at least once.
-/

namespace OperatorPanel

/-! ### What is said about an axis

A machine that is told to move an axis moves it until told to stop. So what an axis does is decided
by the last message about it, and the messages about other axes can be left out.
-/

/-- Whether a command sets this axis in continuous motion, or ends that. -/
def Command.moves (axis : UInt8) : Command → Bool
  | .jogContinuous other _ | .jogStop other => other = axis
  | _ => false

/-- What moves an axis is a jog or the end of one. -/
theorem Command.jogs_of_moves {axis : UInt8} {command : Command}
    (h : command.moves axis = true) : command.jogs = true := by
  unfold moves at h
  split at h
  · rfl
  · rfl
  · cases h

/-- The last command about the motion of an axis. -/
def lastJog (axis : UInt8) (log : List Message) : Option Command :=
  ((log.map (·.command)).filter (·.moves axis)).getLast?

@[simp] theorem lastJog_append (axis : UInt8) (log more : List Message) :
    lastJog axis (log ++ more) = (lastJog axis more).or (lastJog axis log) := by
  simp only [lastJog, List.map_append, List.filter_append, List.getLast?_append]

/-- The last command about an axis is one of those that were sent. -/
theorem mem_of_lastJog {axis : UInt8} {log : List Message} {command : Command}
    (h : lastJog axis log = some command) :
    command ∈ log.map (·.command) ∧ command.moves axis = true :=
  List.mem_filter.1 (List.mem_of_getLast? h)

/-- Where there was a command about the axis, there was a last one. -/
theorem lastJog_isSome {axis : UInt8} {log : List Message} {command : Command}
    (hmem : command ∈ log.map (·.command)) (hmoves : command.moves axis = true) :
    (lastJog axis log).isSome = true := by
  rw [lastJog, Option.isSome_iff_ne_none, Ne, List.getLast?_eq_none_iff]
  exact List.ne_nil_of_mem (List.mem_filter.2 ⟨hmem, hmoves⟩)

/-- Messages carry the commands of the attempts that were written. -/
theorem Attempt.commands_messages (n : Int32) (as : List Attempt) :
    (messages n as).map (·.command) = (as.filter (·.written)).map (·.command) := by
  induction as generalizing n with
  | nil => rfl
  | cons a as ih =>
      have hrest := ih (serialAfter n a)
      unfold messages at hrest ⊢
      cases hwritten : a.written <;> simp [numbered, message?, hwritten, hrest]

/-! ### What passes its checks

Between being tried and being written stands the check of the command. A stop passes it on every
registered axis, so the only thing that can keep a stop from the controller is the command channel.
-/

theorem Client.passed_attempt {c c' : Client Simulated.transport} {command : Command}
    {policy : WaitPolicy} {w w' : World} {a : Attempt}
    (h : c.attempt command policy w = some (a, c', w')) (hfault : a.command.fault? = none) :
    a.passed = true := by
  cases attempted h with
  | refused hrefused =>
      rw [hrefused] at hfault
      cases hfault
  | unsent => rfl
  | sent => rfl

/-- Only to run a program is refused for another reason. -/
theorem Action.passed_attempt {action : Action} {c c' : Client Simulated.transport}
    {w w' : World} {a : Attempt} (h : action.attempt c w = some (a, c', w'))
    (hfault : a.command.fault? = none) (hrun : a.command ≠ .programRun 0) : a.passed = true := by
  have hcommand := Action.command_attempt h
  cases action with
  | send command => exact Client.passed_attempt h hfault
  | startJog axis command => exact Client.passed_attempt h hfault
  | runProgram => exact absurd hcommand hrun

theorem CycleState.Performs.passed {s s' : CycleState Simulated.transport}
    {actions : List (InputPin × Action)} {made : List (InputPin × Attempt)}
    (h : s.Performs actions made s') :
    ∀ m ∈ made, m.2.command.fault? = none → m.2.command ≠ .programRun 0 → m.2.passed = true :=
  h.forall_made Action.passed_attempt

/-! ### One cycle

At an axis at rest a cycle can do two things. It says nothing about it, and then no pin of it was
active before; or it says something, which can only be to stop. These are the two cases of the step
lemma.
-/

/-- Both jog pins of an axis are inactive. -/
structure InputSample.Rests (now : InputSample) (axis : UInt8) : Prop where
  plus : now.bit (.axis .jogPlus axis) = false
  minus : now.bit (.axis .jogMinus axis) = false

/-- No jog pin of an axis at rest is active. -/
theorem InputSample.Rests.jog {now : InputSample} {axis : UInt8} (h : now.Rests axis)
    {pin : InputPin} {direction : Number} (hjog : pin.jog? = some (axis, direction)) :
    now.bit pin = false := by
  rcases InputPin.jog?_eq_some hjog with rfl | rfl
  · exact h.plus
  · exact h.minus

/-- The jog pins of an axis are scanned. -/
theorem InputPin.axis_mem_registered {axes lines : Nat} {axis : UInt8} (a : AxisControl)
    (haxis : axis.toNat < axes) (haxes : axes ≤ maxAxes) :
    .axis a axis ∈ registered axes lines := by
  refine mem_registered.2 (.inr (.inl ⟨a, axis.toNat, ?_, ?_⟩))
  · rw [Nat.min_eq_left haxes]
    exact haxis
  · rw [UInt8.ofNat_toNat]

namespace Panel

variable {p p' : Panel Simulated.transport} {w w' : World} {report : CycleReport}
  {before : InputSample} {axis : UInt8}

/-- While single axes are moved, all that is said about an axis at rest is to stop. -/
theorem stops_at_rest (hremembers : p.console.Remembers before)
    (hcycle : p.cycle w = some (report, p', w')) (hjoint : p.client.status.teleop = false)
    (hrests : (p.sampled w).Rests axis) {m : InputPin × Attempt} (hm : m ∈ p.attempts w)
    (hmoves : m.2.command.moves axis = true) : m.2.command = .jogStop axis := by
  have hmem := List.mem_map_of_mem (f := fun m => (m.1, m.2.command)) hm
  rw [attempts_eq hremembers hcycle] at hmem
  obtain ⟨pin, _, hpin⟩ := List.mem_filterMap.1 hmem
  obtain ⟨command, hdue, heq⟩ := Option.map_eq_some_iff.1 hpin
  cases heq
  obtain ⟨other, direction, hjog, ⟨hrises, hstart⟩ | ⟨_, hstop⟩⟩ :=
    Console.due_jog hdue (Command.jogs_of_moves hmoves)
  · -- what starts is an axis with an active pin
    rw [hstart, Console.startCommand, hjoint] at hmoves
    have hsame : other = axis := of_decide_eq_true hmoves
    rw [hsame] at hjog
    rw [InputSample.rises, hrests.jog hjog] at hrises
    cases hrises
  · rw [hstop, Console.stopCommand, hjoint] at hmoves ⊢
    have hsame : other = axis := of_decide_eq_true hmoves
    rw [hsame]
    rfl

/-- A release is one of the attempts, and passes its check. -/
theorem stop_of_release {pin : InputPin} {direction : Number}
    (hremembers : p.console.Remembers before) (hcycle : p.cycle w = some (report, p', w'))
    (hjoint : p.client.status.teleop = false) (hpin : pin ∈ p.console.setup.registered)
    (hjog : pin.jog? = some (axis, direction))
    (hfalls : before.falls (p.sampled w) pin = true) :
    ∃ m ∈ p.attempts w, m.2.command = .jogStop axis ∧ m.2.passed = true := by
  obtain ⟨stop, hmade, hstop⟩ :=
    attempt_of_due hremembers hcycle hpin (Console.due_falls hjog hfalls)
  have hfault := Console.fault?_stopCommand hpin hjog p.client.status
  rw [← hstop] at hfault
  have hcommand : stop.command = .jogStop axis := by
    rw [hstop, Console.stopCommand, hjoint]
    rfl
  obtain ⟨acted, tidied, hcycled⟩ := Panel.cycled hcycle
  refine ⟨_, hmade, hcommand, hcycled.performs.passed _ hmade hfault ?_⟩
  rw [hcommand]
  intro hrun
  cases hrun

end Panel

/-! ### Every moment of a session

`Standing` is the invariant of a history: it is about the last sample and all that was said so far.
A cycle brings a new sample and keeps it; everything else says nothing about axes, and takes no
sample.
-/

/-- Every axis that rests was told to stop last, if it was told anything. -/
def Standing (axes : Nat) (now : InputSample) (log : List Message) : Prop :=
  ∀ axis : UInt8, axis.toNat < axes → now.Rests axis →
    lastJog axis log = none ∨ lastJog axis log = some (.jogStop axis)

/-- Where nothing was said, it holds. -/
theorem standing_nil (axes : Nat) (now : InputSample) : Standing axes now [] :=
  fun _ _ _ => .inl rfl

/-- What is about no axis leaves it so. -/
theorem Standing.append {axes : Nat} {now : InputSample} {log more : List Message}
    (h : Standing axes now log) (hmore : ∀ axis, lastJog axis more = none) :
    Standing axes now (log ++ more) := by
  intro axis haxis hrests
  rw [lastJog_append, hmore]
  exact h axis haxis hrests

/-- What passed its checks was written. -/
def Turn.Delivered (turn : Turn) : Prop :=
  ∀ a ∈ turn.attempts, a.passed = true → a.written = true

/-- Nobody sends commands but the pins. -/
def Event.byPins : Event → Bool
  | .work (.dispatch _ _) | .work (.runProgram _) => false
  | _ => true

/-- One cycle. -/
theorem Panel.standing_cycle {p p' : Panel Simulated.transport} {w w' : World}
    {report : CycleReport} {before : InputSample} (hremembers : p.console.Remembers before)
    (haxes : p.console.setup.axisCount ≤ maxAxes) (hcycle : p.cycle w = some (report, p', w'))
    (hjoint : p.client.status.teleop = false)
    (hdelivered : ∀ m ∈ p.attempts w, m.2.passed = true → m.2.written = true) :
    ∃ more, w'.simulator.received = w.simulator.received ++ more ∧
      ∀ log, Standing p.console.setup.axisCount before log →
        Standing p.console.setup.axisCount (p.sampled w) (log ++ more) := by
  refine ⟨_, (Panel.books_cycle hcycle).received, fun log hstanding axis haxis hrests => ?_⟩
  rw [lastJog_append]
  cases hlast : lastJog axis (Attempt.messages p.client.serial ((p.attempts w).map (·.2))) with
  | none => -- no jog pin of the axis has turned inactive, for that would have been said
      have inactive {pin : InputPin} {direction : Number}
          (hpin : pin ∈ p.console.setup.registered) (hjog : pin.jog? = some (axis, direction)) :
          before.bit pin = false := by
        cases hbefore : before.bit pin with
        | false => rfl
        | true =>
            have hfalls : before.falls (p.sampled w) pin = true := by
              rw [InputSample.falls, hrests.jog hjog, hbefore]
              rfl
            obtain ⟨m, hm, hcommand, hpassed⟩ :=
              stop_of_release hremembers hcycle hjoint hpin hjog hfalls
            have hsaid : Command.jogStop axis
                ∈ (Attempt.messages p.client.serial ((p.attempts w).map (·.2))).map
                    (·.command) := by
              rw [Attempt.commands_messages, ← hcommand]
              refine List.mem_map_of_mem (List.mem_filter.2 ⟨List.mem_map_of_mem hm, ?_⟩)
              exact hdelivered m hm hpassed
            have hmoves : (Command.jogStop axis).moves axis = true := decide_eq_true rfl
            have hsome := lastJog_isSome hsaid hmoves
            rw [hlast] at hsome
            cases hsome
      exact hstanding axis haxis
        { plus := inactive (InputPin.axis_mem_registered _ haxis haxes) rfl
          minus := inactive (InputPin.axis_mem_registered _ haxis haxes) rfl }
  -- the last word of the cycle is a stop, since nothing else is said about an axis at rest
  | some command =>
      obtain ⟨hmem, hmoves⟩ := mem_of_lastJog hlast
      rw [Attempt.commands_messages] at hmem
      obtain ⟨a, ha, rfl⟩ := List.mem_map.1 hmem
      obtain ⟨m, hm, rfl⟩ := List.mem_map.1 (List.mem_filter.1 ha).1
      rw [Panel.stops_at_rest hremembers hcycle hjoint hrests hm hmoves]
      exact .inr rfl

namespace Session

variable {s s' : Session} {before : InputSample}

/-- Whatever is not a cycle says nothing about any axis. -/
theorem silent_next {event : Event} {turn : Turn} (h : s.next event = some (turn, s'))
    (hpins : event.byPins = true) (hcycle : event ≠ .work .cycle) :
    turn.sample = none ∧ ∃ more, s'.world.simulator.received
      = s.world.simulator.received ++ more ∧ ∀ axis, lastJog axis more = none := by
  cases event with
  | startup =>
      have hreceived := (s.panel.silent_startup s.world).1
      cases h
      refine ⟨rfl, [], ?_, fun _ => rfl⟩
      rw [List.append_nil]
      exact hreceived
  | shutdown =>
      obtain ⟨panel, world, hshutdown, rfl, rfl⟩ := shutdown_of_next h
      refine ⟨rfl, ?_⟩
      obtain ⟨_, _, rfl⟩ | ⟨c, v, hshut⟩ := Panel.shutdown_eq_some hshutdown
      · exact ⟨[], (List.append_nil _).symm, fun _ => rfl⟩
      · cases hbaseline : s.panel.baseline with
        | none =>
            refine ⟨[], ?_, fun _ => rfl⟩
            rw [hshut.received_of_none hbaseline, List.append_nil]
        | some b =>
            refine ⟨_, hshut.received hbaseline, fun axis => ?_⟩
            split <;> rfl
  | work work => -- of the work by the pins only a cycle sends anything
      have hbooks := books_does h
      cases work with
      | cycle => exact absurd rfl hcycle
      | dispatch command policy => cases hpins
      | runProgram line => cases hpins
      | _ =>
          cases h
          exact ⟨rfl, [], hbooks.received, fun _ => rfl⟩

/-- If this is a cycle, it begins with a status in which single axes are moved. -/
def jointly (s : Session) : Event → Bool
  | .work .cycle => !s.panel.client.status.teleop
  | _ => true

/-- Every cycle of a history does. -/
def inJointMode : Session → List Event → Bool
  | _, [] => true
  | s, event :: events =>
    s.jointly event && (s.next event).all fun (_, s') => s'.inJointMode events

/-- The rest of such a history is one too. -/
theorem inJointMode_cons {event : Event} {events : List Event} {turn : Turn}
    (h : s.inJointMode (event :: events) = true) (hnext : s.next event = some (turn, s')) :
    s.jointly event = true ∧ s'.inJointMode events = true := by
  rw [inJointMode, hnext, Bool.and_eq_true_iff] at h
  exact h

/-- One event keeps the axes at rest standing. -/
theorem standing_next {event : Event} {turn : Turn} (hremembers : s.panel.console.Remembers before)
    (haxes : s.panel.console.setup.axisCount ≤ maxAxes) (h : s.next event = some (turn, s'))
    (hpins : event.byPins = true) (hjoint : s.jointly event = true)
    (hdelivered : turn.Delivered) :
    ∃ more, s'.world.simulator.received = s.world.simulator.received ++ more ∧
      ∀ log, Standing s.panel.console.setup.axisCount before log →
        Standing s.panel.console.setup.axisCount (turn.sample.getD before) (log ++ more) := by
  -- a cycle brings a sample, and every other event leaves the last one in force
  by_cases hevent : event = .work .cycle
  · subst hevent
    rw [next] at h
    obtain ⟨report, panel, world, hcycle, rfl, rfl⟩ := cycle_of_does h
    unfold Turn.Delivered at hdelivered
    dsimp only at hdelivered
    rw [List.forall_mem_map] at hdelivered
    rw [jointly, Bool.not_eq_true'] at hjoint
    exact Panel.standing_cycle hremembers haxes hcycle hjoint hdelivered
  · obtain ⟨hsample, more, hreceived, hsilent⟩ := silent_next h hpins hevent
    rw [hsample]
    exact ⟨more, hreceived, fun log hstanding => hstanding.append hsilent⟩

/-- **And so does every history.** -/
theorem Runs.standing {events : List Event} {turns : List Turn} (h : Runs s events turns s')
    (hremembers : s.panel.console.Remembers before)
    (haxes : s.panel.console.setup.axisCount ≤ maxAxes)
    (hpins : ∀ event ∈ events, event.byPins = true) (hjoint : s.inJointMode events = true)
    (hdelivered : ∀ turn ∈ turns, turn.Delivered) :
    ∃ more, s'.world.simulator.received = s.world.simulator.received ++ more ∧
      ∀ log, Standing s.panel.console.setup.axisCount before log →
        Standing s.panel.console.setup.axisCount (lastSample before turns) (log ++ more) := by
  -- by induction on the history, with the last sample carried along
  induction h generalizing before with
  | nil =>
      refine ⟨[], (List.append_nil _).symm, fun log hstanding => ?_⟩
      rw [List.append_nil]
      exact hstanding
  | cons hnext _ ih =>
      rw [List.forall_mem_cons] at hpins hdelivered
      obtain ⟨hmode, hjoint⟩ := inJointMode_cons hjoint hnext
      obtain ⟨hsetup, hremembers'⟩ := remembers_next hremembers hnext
      obtain ⟨more, hreceived, hkept⟩ :=
        standing_next hremembers haxes hnext hpins.1 hmode hdelivered.1
      rw [← hsetup] at haxes
      obtain ⟨more', hreceived', hkept'⟩ := ih hremembers' haxes hpins.2 hjoint hdelivered.2
      rw [hsetup] at hkept'
      refine ⟨more ++ more', ?_, fun log hstanding => ?_⟩
      · rw [hreceived', hreceived, List.append_assoc]
      · rw [lastSample_cons, ← List.append_assoc]
        exact hkept' _ (hkept log hstanding)

end Session

/-! ### No axis runs away

A panel begins with an empty sample, and before it has said anything no axis was told to move. The
last cycle is taken apart from the history, so that the statement is about a cycle that is still to
come, and says that it ends.
-/

namespace Panel

/-- **No runaway jog**: drive a panel with a limit on waits by its pins, let every command that
passes its checks be written, and let no cycle begin with a status of motion along a vector. Then
every cycle ends, and after it the last message about an axis whose jog pins are both inactive in
the sample of that cycle, if there is one, is to stop it. -/
theorem standstill {settings : Settings} {bus : PinBus} {p : Panel Simulated.transport} {w : World}
    {events : List Event} {turns : List Turn} {s : Session}
    (hcreate : Panel.create Simulated.transport settings bus = .ok p)
    (hlimit : settings.waitLimit.isSome = true) (hruns : Session.Runs ⟨p, w⟩ events turns s)
    (hpins : ∀ event ∈ events, event.byPins = true)
    (hjoint : Session.inJointMode ⟨p, w⟩ events = true)
    (hmode : s.panel.client.status.teleop = false)
    (hdelivered : ∀ turn ∈ turns, turn.Delivered)
    (hwritten : ∀ m ∈ s.panel.attempts s.world, m.2.passed = true → m.2.written = true) :
    ∃ report p' w' log, s.panel.cycle s.world = some (report, p', w') ∧
      w'.simulator.received = w.simulator.received ++ log ∧
      ∀ axis : UInt8, axis.toNat < settings.polarities.length →
        (s.panel.sampled s.world).Rests axis →
        lastJog axis log = none ∨ lastJog axis log = some (.jogStop axis) := by
  have hnew := new_of_create hcreate
  have hcount := (setup_of_create hcreate).1
  have hempty := Console.remembers_empty hnew.previous
  have haxes : p.console.setup.axisCount ≤ maxAxes := by
    rw [hcount]
    exact Settings.axes_le hnew.valid
  -- with a finite limit every wait ends, and so does the cycle
  have hbounded : s.panel.client.Bounded := (bounded_of_create hcreate hlimit).keep hruns.wait
  obtain ⟨⟨report, p', w'⟩, hcycle⟩ :=
    Option.isSome_iff_exists.1 (Panel.cycle_ends hbounded s.world)
  obtain ⟨hsetup, hremembers⟩ := hruns.remembers hempty
  -- the log so far keeps the rule, and so does what this cycle adds
  obtain ⟨more, hreceived, hkept⟩ := hruns.standing hempty haxes hpins hjoint hdelivered
  obtain ⟨more', hreceived', hkept'⟩ :=
    standing_cycle hremembers (by rw [hsetup]; exact haxes) hcycle hmode hwritten
  refine ⟨report, p', w', more ++ more', hcycle, ?_, ?_⟩
  · rw [hreceived', hreceived, List.append_assoc]
  · have hstanding := hkept' _ (by rw [hsetup]; exact hkept [] (standing_nil _ _))
    rw [hsetup, List.nil_append] at hstanding
    dsimp only at hstanding
    rw [hcount] at hstanding
    exact hstanding

/-- The plus pin of the first axis is held for one cycle, and then let go. -/
def tap : List Event :=
  [.startup, .work (.pins (holding [.axis .jogPlus 0])), .work .cycle, .work (.pins (holding []))]

/-- What is asked of a history, in a form that can be evaluated. -/
def drivesStandstill (p : Panel Simulated.transport) (turns : List Turn) (s : Session) : Bool :=
  decide (Session.inJointMode ⟨p, .echoing 7⟩ tap = true ∧
    s.panel.client.status.teleop = false ∧
    (∀ turn ∈ turns, ∀ a ∈ turn.attempts, a.passed = true → a.written = true) ∧
    (∀ m ∈ s.panel.attempts s.world, m.2.passed = true → m.2.written = true) ∧
    (s.panel.sampled s.world).bit (.axis .jogPlus 0) = false ∧
    (s.panel.sampled s.world).bit (.axis .jogMinus 0) = false ∧
    lastJog 0 s.world.simulator.received = some (.jogContinuous 0 10) ∧
    (s.panel.cycle s.world).all fun (_, _, w') => (lastJog 0 w'.simulator.received).isSome)

/-- The axis that moves is stopped in the cycle in which its pin is let go. -/
theorem standstill_tap :
    ∃ p turns s report p' w',
      Panel.create Simulated.transport timed { carrier := .memory {} } = .ok p ∧
      Session.Runs ⟨p, .echoing 7⟩ tap turns s ∧
      lastJog 0 s.world.simulator.received = some (.jogContinuous 0 10) ∧
      s.panel.cycle s.world = some (report, p', w') ∧
      lastJog 0 w'.simulator.received = some (.jogStop 0) := by
  have hplays : PlaysWith timed tap drivesStandstill := by decide +kernel
  obtain ⟨p, turns, s, hcreate, hruns, hholds⟩ := hplays.runs
  obtain ⟨hjoint, hmode, hdelivered, hwritten, hplus, hminus, hmoving, hsaid⟩ :=
    of_decide_eq_true hholds
  obtain ⟨report, p', w', log, hcycle, hreceived, hstanding⟩ :=
    standstill hcreate (by decide +kernel) hruns (by decide) hjoint hmode hdelivered hwritten
  refine ⟨p, turns, s, report, p', w', hcreate, hruns, hmoving, hcycle, ?_⟩
  have hlog : w'.simulator.received = log := hreceived
  rw [hcycle, Option.all_some] at hsaid
  dsimp only at hsaid
  rw [hlog] at hsaid ⊢
  -- something was said about the axis, so it is the stop
  rcases hstanding 0 (by decide) ⟨hplus, hminus⟩ with hnone | hstopped
  · rw [hnone] at hsaid
    cases hsaid
  · exact hstopped

end Panel
end OperatorPanel
