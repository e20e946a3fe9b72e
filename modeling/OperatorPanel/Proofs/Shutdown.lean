import OperatorPanel.Proofs.Deadlines
import OperatorPanel.Proofs.Session
import OperatorPanel.Proofs.Startup

/-!
# Shutdown

The first shutdown waits for the last command, within a limit in any case, lets the controller
echo the baseline again where the command channel still works, and closes every channel. So
(`Panel.shutdown_handshake`) whatever went before, the controller gets one message more or none,
and what comes afterwards adds no message at all: an operation of a panel that is over comes to
its end, reaches nobody, and leaves the panel over (`Session.over_next`).
-/

namespace OperatorPanel

/-! ### Closing

Closing is the end of every shutdown. At a simulated controller it releases nothing that anybody
could notice, so all that remains of it is a link whose channels are gone.
-/

/-- A link with every channel closed. -/
def Link.shut {T : Transport} (l : Link T) : Link T :=
  if l.state = .closed then l
  else { l with command := none, status := none, notices := none, state := .closed }

/-- Channels to a simulated controller are given up without a trace. -/
theorem Link.release_simulated (l : Link Simulated.transport) (w : World) :
    l.release w = ({ l with command := none, status := none, notices := none }, w) := by
  unfold release
  dsimp only
  cases l.command <;> cases l.status <;> cases l.notices <;> rfl

theorem Link.close_simulated (l : Link Simulated.transport) (w : World) :
    (l.close w).1 = l.shut ∧ (l.close w).2.simulator = w.simulator := by
  unfold close shut
  split
  · exact ⟨rfl, rfl⟩
  · rw [release_simulated]
    exact ⟨rfl, rfl⟩

theorem Client.close_simulated (c : Client Simulated.transport) (w : World) :
    (c.close w).1 = { c with link := c.link.shut } ∧ (c.close w).2.simulator = w.simulator := by
  obtain ⟨hlink, hsimulator⟩ := c.link.close_simulated w
  unfold close
  rw [← hlink]
  exact ⟨rfl, hsimulator⟩

/-! ### The steps of a shutdown

A shutdown settles, hands the baseline back and closes, in this order. The lemmas below take these
apart, so that what follows speaks of the first shutdown by what it did (`Shut`), and of every later
one by the mark that the first one left.
-/

namespace Panel

variable {p p' : Panel Simulated.transport} {w w' : World} {b : Int32}

/-- Settling is waiting, and a line in the journal at most. -/
theorem settle_eq_some (h : p.settle b w = some (p', w')) :
    ∃ (client : Client Simulated.transport) (w₁ : World),
      p.client.Waits w client w₁ ∧ p' = { p with client } ∧ w'.simulator = w₁.simulator := by
  unfold settle at h
  dsimp only at h
  split at h
  · cases h
    -- no number was spent since the startup, so there is no wait
    exact ⟨p.client, w, .done _ _, rfl, rfl⟩
  · split at h
    · cases h
    · next client w₁ hwait =>
        cases h
        exact ⟨client, _, Client.waitReceivedFor_waits hwait, rfl, rfl⟩
    · -- running out of time is only written to the journal
      next e client w₁ hwait =>
        cases h
        exact ⟨client, _, Client.waitReceivedFor_waits hwait, rfl, rfl⟩

/-- What the controller has after it was told to echo the baseline again. -/
def handedBack (b : Int32) (l : Link Simulated.transport) (w : World) : Simulator :=
  if l.canSend w then w.simulator.receive { serial := b, command := .null } else w.simulator

/-- Handing the baseline back leaves the panel as it is, so closing afterwards meets the same link.
-/
theorem restoreBaseline_simulated (p : Panel Simulated.transport) (b : Int32) (w : World) :
    (p.restoreBaseline b w).1 = p ∧
      (p.restoreBaseline b w).2.simulator = handedBack b p.client.link w := by
  unfold restoreBaseline handedBack
  rw [Client.send_simulated]
  cases p.client.link.canSend w <;> exact ⟨rfl, rfl⟩

/-- What the first shutdown does. -/
structure Shut (p : Panel Simulated.transport) (w : World) (p' : Panel Simulated.transport)
    (w' : World) (settled : Client Simulated.transport) (settledWorld : World) : Prop where
  waits : p.client.Waits w settled settledWorld
  panel : p' = { p with
    running := false
    ended := true
    client := { settled with link := settled.link.shut } }
  simulator : w'.simulator = match p.baseline with
    | some b => handedBack b settled.link settledWorld
    | none => settledWorld.simulator

theorem shutdown_eq_some (h : p.shutdown w = some (p', w')) :
    p.ended = true ∧ p' = { p with running := false } ∧ w' = w ∨
      ∃ settled settledWorld, p.Shut w p' w' settled settledWorld := by
  unfold shutdown at h
  dsimp only at h
  split at h
  · next hended =>
      cases h
      exact .inl ⟨hended, rfl, rfl⟩
  · right
    split at h  -- all that follows the handing back is closing
    · cases h
    · next q v hhanded =>
        obtain ⟨hclient, hsimulator⟩ := q.client.close_simulated v
        cases h
        split at hhanded  -- the two branches are a panel that never started and one that did
        · next hbaseline =>
            cases hhanded
            refine ⟨p.client, w, .done _ _, ?_, ?_⟩
            · exact congrArg (fun client => { p with running := false, ended := true, client })
                hclient
            · rw [hbaseline]
              exact hsimulator
        · next b hbaseline =>
            split at hhanded
            · cases hhanded
            · next q₁ w₁ hsettle =>
                obtain ⟨settled, settledWorld, hwaits, hq₁, hw₁⟩ := settle_eq_some hsettle
                obtain ⟨hq, hv⟩ := q₁.restoreBaseline_simulated b w₁
                rw [Option.some.inj hhanded] at hq hv
                dsimp only at hq hv
                subst hq
                -- the world that the message is sent in is the one after the wait
                refine ⟨settled, settledWorld, hwaits, ?_, ?_⟩
                · rw [hclient, hq₁]
                · rw [hbaseline]
                  refine hsimulator.trans (hv.trans ?_)
                  rw [hq₁]
                  unfold handedBack Link.canSend
                  rw [hw₁]

/-- **A shutdown ends**, also when the settings put no limit on waits. -/
theorem shutdown_isSome (w : World) (hpause : 0 < p.client.wait.interval.nanos) :
    (p.shutdown w).isSome :=
  (endsWithin_shutdown Route.simulated.keepsTime hpause w).isSome

end Panel

/-! ### The last message

The baseline is the last serial number the controller ever sees from this panel. It goes out past
the counter of the client, and whether it can go out at all was decided before the wait.
-/

/-- Whatever the controller does with a command that it knows, it echoes the number of an empty one
at once, unless it ignores everything. -/
theorem Simulator.echo_receive_null (c : Simulator) (b : Int32) (hack : c.ack ≠ .ignore) :
    (c.receive { serial := b, command := .null }).status.echo = b := by
  show (Simulator.acknowledge c.status b c.ack).echo = b
  cases hc : c.ack with
  | ignore => exact absurd hc hack
  | complete => rfl
  | completeAfter polls => rfl
  | receive => rfl
  | fail => rfl

namespace Panel.Shut

variable {p p' : Panel Simulated.transport} {w w' v : World} {b : Int32}
  {c : Client Simulated.transport}

/-- The wait before the last message changes nothing about whether it arrives. -/
theorem canSend (h : p.Shut w p' w' c v) : c.link.canSend v = p.client.link.canSend w := by
  unfold Link.canSend
  rw [h.waits.keeps.command, h.waits.quiet.simulator.commandValid]

/-- The baseline is the last message, if the command channel still works, and else there is no
message. -/
theorem received (h : p.Shut w p' w' c v) (hbaseline : p.baseline = some b) :
    w'.simulator.received = w.simulator.received ++
      if p.client.link.canSend w then [{ serial := b, command := .null }] else [] := by
  rw [h.simulator, hbaseline]
  show (handedBack b c.link v).received = _
  unfold handedBack
  rw [h.canSend, ← h.waits.quiet.simulator.received]
  cases p.client.link.canSend w with
  | true => rfl
  | false => exact (List.append_nil _).symm

/-- A panel that never started has no number to hand back. -/
theorem received_of_none (h : p.Shut w p' w' c v) (hbaseline : p.baseline = none) :
    w'.simulator.received = w.simulator.received := by
  rw [h.simulator, hbaseline]
  exact h.waits.quiet.simulator.received

/-- A controller that listens echoes the baseline by the time the shutdown is over. -/
theorem echo (h : p.Shut w p' w' c v) (hbaseline : p.baseline = some b)
    (hcan : p.client.link.canSend w = true) (hack : w.simulator.ack ≠ .ignore) :
    w'.simulator.status.echo = b := by
  rw [h.simulator, hbaseline]
  show (handedBack b c.link v).status.echo = b
  unfold handedBack
  rw [h.canSend, hcan, if_pos rfl]
  refine Simulator.echo_receive_null v.simulator b ?_
  rw [h.waits.quiet.simulator.ack]
  exact hack

end Panel.Shut

/-! ### Without channels

A client without channels is the same after every operation as far as the outside is concerned. Each
operation comes to its end, since a wait needs something written before it, and leaves the world as
it found it.
-/

namespace Client

variable {c c' : Client Simulated.transport}

theorem eq_none_of_isSome_eq {α : Type} {o o' : Option α} (h : o'.isSome = o.isSome)
    (ho : o = none) : o' = none := by
  rw [ho] at h
  exact Option.isNone_iff_eq_none.1 (Option.isSome_eq_false_iff.1 h)

/-- No operation opens a channel, so a client without any stays without. -/
theorem Steady.empty (h : c.Steady c') (hc : c.link.Empty) : c'.link.Empty where
  command := eq_none_of_isSome_eq h.command hc.command
  status := eq_none_of_isSome_eq h.status hc.status
  notices := eq_none_of_isSome_eq h.notices hc.notices

/-- Dispatching comes to its end: nothing is written, so there is nothing to wait for. -/
theorem attempt_empty (h : c.link.Empty) (command : Command) (policy : WaitPolicy) (w : World) :
    ∃ a c', c.attempt command policy w = some (a, c', w) := by
  have hsend := c.sendNext_simulated command w
  rw [h.canSend] at hsend
  unfold Client.attempt dispatchWith
  cases command.fault? with
  | some fault => exact ⟨_, _, rfl⟩
  | none =>
      dsimp only
      unfold sendNext at hsend
      rw [hsend]
      exact ⟨_, _, rfl⟩

/-- A look finds that the channel is closed. -/
theorem refresh_empty (h : c.link.Empty) (w : World) : (c.refresh w).2.2 = w := by
  rw [refresh_world, Link.peek, h.status]

/-- Neither is a program run. -/
theorem attemptRun_empty (h : c.link.Empty) (line : Int32) (w : World) :
    ∃ a c', c.attemptRun line w = some (a, c', w) := by
  -- the status from before the channel was closed may still show an open program
  have hempty := (c.steady_refresh w).empty h
  have hworld := c.refresh_empty h w
  unfold Client.attemptRun
  generalize c.refresh w = looked at hempty hworld ⊢
  obtain ⟨r, c₁, w₁⟩ := looked
  dsimp only at hempty hworld ⊢
  subst hworld
  split
  · exact attempt_empty hempty ..
  · exact ⟨_, _, rfl⟩

/-- A poll has nothing to read. -/
theorem poll_empty (h : c.link.Empty) (w : World) : (c.poll w).2.2 = w := by
  show (c.link.poll w).2.2 = w
  rw [Link.poll, h.notices]

end Client

/-- Each action of a scan is a dispatch, a program run or nothing. -/
theorem Action.attempt_empty {c : Client Simulated.transport} (h : c.link.Empty)
    (action : Action) (w : World) : ∃ a c', action.attempt c w = some (a, c', w) := by
  cases action with
  | send command => exact Client.attempt_empty h ..
  | startJog axis command => exact Client.attempt_empty h ..
  | runProgram => exact Client.attemptRun_empty h ..

/-- The actions of a scan come to their end, and none reaches the controller. -/
theorem CycleState.performAll_empty {s : CycleState Simulated.transport}
    (h : s.client.link.Empty) (actions : List (InputPin × Action)) :
    ∃ s', s.performAll actions = some s' ∧ s'.world.simulator = s.world.simulator := by
  -- by induction on the actions; the client stays without channels from one to the next
  induction actions generalizing s with
  | nil => exact ⟨s, rfl, rfl⟩
  | cons action actions ih =>
      obtain ⟨pin, action⟩ := action
      obtain ⟨a, client, hattempt⟩ := action.attempt_empty h s.world
      have hempty := (Action.steady_attempt hattempt).empty h
      rw [← client_after s pin action a client s.world] at hempty
      obtain ⟨s', hrest, hsimulator⟩ := ih hempty
      rw [simulator_after] at hsimulator
      refine ⟨s', ?_, hsimulator⟩
      rw [performAll, perform_eq, hattempt]
      exact hrest

/-- A cycle comes to its end, and reaches nobody. -/
theorem Panel.cycle_empty {p : Panel Simulated.transport} (h : p.client.link.Empty) (w : World) :
    ∃ report p' w', p.cycle w = some (report, p', w') ∧
      w'.simulator.received = w.simulator.received := by
  obtain ⟨acted, hacted, hsimulator⟩ :=
    CycleState.performAll_empty (s := p.scanned w) h (p.decided w).1
  obtain ⟨⟨report, p', w'⟩, hcycle⟩ := Option.isSome_iff_exists.1 (Panel.cycle_isSome hacted)
  obtain ⟨acted', tidied, hcycled⟩ := Panel.cycled hcycle
  have hsame : acted' = acted := Option.some.inj (hcycled.performed.symm.trans hacted)
  subst hsame
  refine ⟨report, p', w', hcycle, ?_⟩
  rw [hcycled.simulator, hcycled.tidies.received, hsimulator, Panel.simulator_scanned]

theorem Link.empty_shut {l : Link Simulated.transport} (h : l.state ≠ .closed ∨ l.Empty) :
    l.shut.Empty := by
  unfold shut
  split
  · next hclosed => exact h.resolve_left fun hstate => hstate hclosed
  · exact ⟨rfl, rfl, rfl⟩

namespace Session

/-- **A panel without channels reaches nobody**: whatever it is used for comes to its end. -/
theorem does_empty {s : Session} (h : s.panel.client.link.Empty) (work : Work) :
    ∃ turn s', s.does work = some (turn, s') ∧
      s'.world.simulator.received = s.world.simulator.received := by
  -- only the four kinds of work that use the client need an argument
  cases work with
  | script script => exact ⟨_, _, rfl, script.received_apply _⟩
  | pins bus => exact ⟨_, _, rfl, rfl⟩
  | files directory => exact ⟨_, _, rfl, rfl⟩
  | pause t => exact ⟨_, _, rfl, rfl⟩
  | cycle =>
      obtain ⟨report, p', w', hcycle, hreceived⟩ := Panel.cycle_empty h s.world
      rw [does, hcycle, Option.map_some]
      exact ⟨_, _, rfl, hreceived⟩
  | dispatch command policy =>
      obtain ⟨a, c, hattempt⟩ :=
        Client.attempt_empty h command (policy.getD s.panel.client.wait.policy) s.world
      rw [does, hattempt, Option.map_some]
      exact ⟨_, _, rfl, rfl⟩
  | runProgram line =>
      obtain ⟨a, c, hattempt⟩ := Client.attemptRun_empty h line s.world
      rw [does, hattempt, Option.map_some]
      exact ⟨_, _, rfl, rfl⟩
  | refresh =>
      have hworld := Client.refresh_empty h s.world
      exact ⟨_, _, rfl, congrArg (fun w => w.simulator.received) hworld⟩
  | poll =>
      have hworld := Client.poll_empty h s.world
      exact ⟨_, _, rfl, congrArg (fun w => w.simulator.received) hworld⟩

/-- No work makes a panel run, or stops it. -/
theorem running_does {s s' : Session} {work : Work} {turn : Turn}
    (h : s.does work = some (turn, s')) : s'.panel.running = s.panel.running := by
  cases did h with
  | cycled hcycle =>
      obtain ⟨acted, tidied, hcycled⟩ := Panel.cycled hcycle
      exact hcycled.running
  | _ => rfl

end Session

/-! ### Afterwards

A shutdown leaves three marks: the channels are gone, the panel does not run, and it knows that it
is over. The first keeps the controller out of reach, and the last keeps a second shutdown from
sending the baseline again. All of them last.
-/

/-- A client that is cut off: every channel is closed. -/
structure Client.Cut (c : Client Simulated.transport) : Prop where
  command : c.link.command = none
  status : c.link.status = none
  notices : c.link.notices = none
  state : c.link.state = .closed

/-- A panel that is over. -/
structure Panel.Over (p : Panel Simulated.transport) : Prop where
  cut : p.client.Cut
  running : p.running = false
  ended : p.ended = true

theorem Client.Cut.empty {c : Client Simulated.transport} (h : c.Cut) : c.link.Empty :=
  ⟨h.command, h.status, h.notices⟩

theorem Client.Cut.steady {c c' : Client Simulated.transport} (h : c.Cut)
    (hsteady : c.Steady c') : c'.Cut where
  command := (hsteady.empty h.empty).command
  status := (hsteady.empty h.empty).status
  notices := (hsteady.empty h.empty).notices
  state := hsteady.state.trans h.state

namespace Panel.Over

variable {p : Panel Simulated.transport}

/-- Shutting down again does nothing. -/
theorem shutdown (h : p.Over) (w : World) : p.shutdown w = some (p, w) := by
  obtain ⟨client, console, bus, running, baseline, cycleTime, stats, ended⟩ := p
  obtain ⟨hcut, hrunning, hended⟩ := h
  dsimp only at hrunning hended
  subst hrunning hended
  rfl

/-- Neither does giving everything up reach the controller. -/
theorem drop (h : p.Over) (w : World) :
    ∃ w', p.drop w = some w' ∧ w'.simulator = w.simulator := by
  unfold Panel.drop
  rw [h.shutdown]
  refine ⟨_, rfl, ?_⟩
  rw [PinBus.simulator_drop, Link.release_simulated]

end Panel.Over

namespace Session

/-- **Nothing brings a panel back that is over**: every event but a startup comes to its end, and
adds no message. -/
theorem over_next {s : Session} (h : s.panel.Over) {event : Event} (hevent : event ≠ .startup) :
    ∃ turn s', s.next event = some (turn, s') ∧ s'.panel.Over ∧
      s'.world.simulator.received = s.world.simulator.received := by
  -- no work opens a channel, makes the panel run, or takes the mark away
  cases event with
  | startup => exact absurd rfl hevent
  | shutdown =>
      refine ⟨{}, s, ?_, h, rfl⟩
      rw [next, h.shutdown]
      rfl
  | work work =>
      obtain ⟨turn, s', hdoes, hreceived⟩ := does_empty h.cut.empty work
      have hlasts := lasts_does hdoes
      refine ⟨turn, s', hdoes, ?_, hreceived⟩
      exact
        { cut := h.cut.steady hlasts.steady
          running := (running_does hdoes).trans h.running
          ended := hlasts.ended.trans h.ended }

/-- A history of a panel that is over can always be gone through. -/
theorem over_exists {s : Session} (h : s.panel.Over) {events : List Event}
    (hevents : Event.startup ∉ events) : ∃ turns s', Runs s events turns s' := by
  -- by induction on the events; only a startup would take a panel out of being over
  induction events generalizing s with
  | nil => exact ⟨[], s, .nil s⟩
  | cons event events ih =>
      rw [List.mem_cons, not_or] at hevents
      obtain ⟨turn, s₁, hnext, hover, _⟩ := over_next h (Ne.symm hevents.1)
      obtain ⟨turns, s', hruns⟩ := ih hover hevents.2
      exact ⟨turn :: turns, s', .cons hnext hruns⟩

/-- And nothing in it adds a message. -/
theorem over_runs {s s' : Session} (h : s.panel.Over) {events : List Event} {turns : List Turn}
    (hevents : Event.startup ∉ events) (hruns : Runs s events turns s') :
    s'.panel.Over ∧ s'.world.simulator.received = s.world.simulator.received := by
  induction hruns with
  | nil => exact ⟨h, rfl⟩
  | cons hnext _ ih =>
      rw [List.mem_cons, not_or] at hevents
      obtain ⟨turn, s₂, hnext', hover, hreceived⟩ := over_next h (Ne.symm hevents.1)
      cases hnext.symm.trans hnext'
      obtain ⟨hover', hreceived'⟩ := ih hover hevents.2
      exact ⟨hover', hreceived'.trans hreceived⟩

end Session

/-! ### The handshake

Everything above comes together here. The startup leaves the three facts that a shutdown needs, an
open channel, a baseline and a panel that is not over, and no work takes any of them away.
-/

/-- The first shutdown of a panel leaves it over. -/
theorem Panel.Shut.over {p p' : Panel Simulated.transport} {w w' v : World}
    {c : Client Simulated.transport} (h : p.Shut w p' w' c v)
    (hconnected : p.client.link.state = .connected) : p'.Over := by
  have hstate : c.link.state ≠ .closed := by
    rw [h.waits.steady.state, hconnected]
    decide
  rw [h.panel]
  have hshut : c.link.shut
      = { c.link with command := none, status := none, notices := none, state := .closed } :=
    if_neg hstate
  refine ⟨⟨?_, ?_, ?_, ?_⟩, rfl, rfl⟩ <;> rw [hshut]

/-- **The handshake at shutdown**: after a startup and any work at all, shutting down comes to its
end, sends the baseline and nothing else if the command channel still works, and sends nothing if
not. The panel is over, and whatever is done with it from then on, giving it up included, comes to
its end and sends nothing. -/
theorem Panel.shutdown_handshake {settings : Settings} {bus : PinBus}
    {p p₁ : Panel Simulated.transport} {w w₁ : World} {works : List Work} {turns : List Turn}
    {s : Session} (hcreate : Panel.create Simulated.transport settings bus = .ok p)
    (hstart : p.startup w = (.ok (), p₁, w₁)) (hworks : Session.Works ⟨p₁, w₁⟩ works turns s) :
    ∃ b q v, p₁.baseline = some b ∧ s.panel.shutdown s.world = some (q, v) ∧
      v.simulator.received = s.world.simulator.received ++
        (if s.world.simulator.commandValid then [{ serial := b, command := .null }] else []) ∧
      (s.world.simulator.commandValid = true → s.world.simulator.ack ≠ .ignore →
        v.simulator.status.echo = b) ∧
      q.Over ∧
      ∀ later : List Event, Event.startup ∉ later →
        (∃ turns t, Session.Runs ⟨q, v⟩ later turns t) ∧
        ∀ turns t, Session.Runs ⟨q, v⟩ later turns t →
          t.world.simulator.received = v.simulator.received ∧
          ∃ x, t.panel.drop t.world = some x ∧
            x.simulator.received = v.simulator.received := by
  have hnew := Panel.new_of_create hcreate
  obtain ⟨b, hstarted⟩ := Panel.started hstart
  have hlasts := hworks.lasts
  have hconnected : s.panel.client.link.state = .connected :=
    hlasts.steady.state.trans hstarted.connected
  have hbaseline : s.panel.baseline = some b := hlasts.baseline.trans hstarted.baseline
  have hopen : s.panel.client.link.command.isSome = true := by
    refine hlasts.steady.command.trans (hstarted.isOpen ?_).command
    rw [hnew.link.1]
    decide
  have hpause : 0 < s.panel.client.wait.interval.nanos := by
    rw [hlasts.steady.wait, hstarted.wait, hnew.interval]
    exact Settings.pollInterval_pos hnew.valid
  have hended : s.panel.ended = false :=
    hlasts.ended.trans (hstarted.ended.trans hnew.ended)
  have hcan : s.panel.client.link.canSend s.world = s.world.simulator.commandValid := by
    rw [Link.canSend, hopen, Bool.true_and]
  obtain ⟨⟨q, v⟩, hshutdown⟩ :=
    Option.isSome_iff_exists.1 (Panel.shutdown_isSome s.world hpause)
  rcases Panel.shutdown_eq_some hshutdown with ⟨hover, _⟩ | ⟨c, w₂, hshut⟩
  · -- no work ends a panel, so this is the first shutdown
    rw [hended] at hover
    cases hover
  · have hover := hshut.over hconnected
    refine ⟨b, q, v, hstarted.baseline, hshutdown, ?_, ?_, hover, ?_⟩
    · rw [hshut.received hbaseline, hcan]
    · intro hvalid hack
      exact hshut.echo hbaseline (hcan.trans hvalid) hack
    · intro later hlater
      refine ⟨Session.over_exists hover hlater, fun turns t hruns => ?_⟩
      obtain ⟨hover', hreceived⟩ := Session.over_runs hover hlater hruns
      obtain ⟨x, hdrop, hsimulator⟩ := hover'.drop t.world
      refine ⟨hreceived, x, hdrop, ?_⟩
      rw [hsimulator]
      exact hreceived

/-! ### Histories to begin with

The histories that show a result at work all begin alike: a panel is created from settings, and
plays its events against a controller that echoes 7. What holds afterwards is one decidable
condition, so that a history is gone through once.
-/

namespace Panel

/-- With these settings, at a controller that echoes 7, the history can be played, and this holds
afterwards. -/
def PlaysWith (settings : Settings) (events : List Event)
    (holds : Panel Simulated.transport → List Turn → Session → Bool) : Prop :=
  (Panel.create Simulated.transport settings { carrier := .memory {} }).toOption.any
    (fun p => (Session.play ⟨p, .echoing 7⟩ events).any
      fun (turns, s) => holds p turns s) = true

instance (settings : Settings) (events : List Event)
    (holds : Panel Simulated.transport → List Turn → Session → Bool) :
    Decidable (PlaysWith settings events holds) :=
  inferInstanceAs (Decidable (_ = true))

/-- So it is with the default settings. -/
abbrev Plays (events : List Event)
    (holds : Panel Simulated.transport → List Turn → Session → Bool) : Prop :=
  PlaysWith {} events holds

/-- What can be played is a history. -/
theorem PlaysWith.runs {settings : Settings} {events : List Event}
    {holds : Panel Simulated.transport → List Turn → Session → Bool}
    (h : PlaysWith settings events holds) :
    ∃ p turns s, Panel.create Simulated.transport settings { carrier := .memory {} } = .ok p ∧
      Session.Runs ⟨p, .echoing 7⟩ events turns s ∧ holds p turns s = true := by
  obtain ⟨p, hcreate, hplays⟩ := (Option.any_eq_true _ _).1 h
  obtain ⟨⟨turns, s⟩, hplay, hholds⟩ := (Option.any_eq_true _ _).1 hplays
  exact ⟨p, turns, s, create_of_toOption hcreate, Session.runs_of_play hplay, hholds⟩

/-- A command is sent while the controller ignores what it is told, and nobody waits for it. Then
the controller listens again. -/
def unanswered : List Work :=
  [.script (.acknowledge .ignore), .dispatch .mistOn (some .none),
    .script (.acknowledge .complete)]

/-- The command that nobody has acknowledged makes the shutdown wait, in vain. Then the baseline is
sent all the same, and is echoed again. -/
theorem shutdown_handshake_unanswered :
    ∃ p p₁ w₁ turns s q v,
      Panel.create Simulated.transport {} { carrier := .memory {} } = .ok p ∧
      p.startup (.echoing 7) = (.ok (), p₁, w₁) ∧
      Session.Works ⟨p₁, w₁⟩ unanswered turns s ∧
      s.panel.client.serial = 8 ∧ s.world.simulator.status.echo = 7 ∧
      s.panel.shutdown s.world = some (q, v) ∧ q.Over ∧
      v.simulator.received
        = [{ serial := 8, command := .mistOn }, { serial := 7, command := .null }] ∧
      v.simulator.status.echo = 7 := by
  have hplays : Plays (.startup :: unanswered.map .work) fun p _ s => decide (
      (p.startup (.echoing 7)).1.isOk = true ∧
      (p.startup (.echoing 7)).2.1.baseline = some 7 ∧
      s.panel.client.serial = 8 ∧ s.world.simulator.status.echo = 7 ∧
      s.world.simulator.commandValid = true ∧ s.world.simulator.ack = .complete ∧
      s.world.simulator.received = [{ serial := 8, command := .mistOn }]) := by
    decide +kernel
  obtain ⟨p, turns, s, hcreate, hruns, hholds⟩ := hplays.runs
  obtain ⟨hok, hseven, hserial, hecho, hvalid, hack, hsent⟩ := of_decide_eq_true hholds
  -- the session begins with the startup; what comes after it are the works
  cases hruns with
  | cons hnext hworks =>
      obtain ⟨r, p₁, w₁, hstart, rfl, rfl⟩ := Session.startup_of_next hnext
      rw [hstart] at hok hseven
      cases r with
      | error e => cases hok
      | ok _ =>
          obtain ⟨b, q, v, hbaseline, hshutdown, hreceived, hechoes, hover, _⟩ :=
            shutdown_handshake hcreate hstart hworks
          have hb : b = 7 := Option.some.inj (hbaseline.symm.trans hseven)
          rw [hsent, hvalid, hb] at hreceived
          refine ⟨p, p₁, w₁, _, s, q, v, hcreate, hstart, hworks, hserial, hecho, hshutdown, hover,
            hreceived, ?_⟩
          rw [hechoes hvalid (by rw [hack]; decide), hb]

end Panel

end OperatorPanel
