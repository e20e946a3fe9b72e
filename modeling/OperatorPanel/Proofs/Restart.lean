import OperatorPanel.Proofs.Contact
import OperatorPanel.Proofs.Edges
import OperatorPanel.Proofs.Progress
import OperatorPanel.Proofs.Serial

/-!
# Starting again

Startups and shutdowns may come in any order. A shutdown that is the last event leaves no channel
open, and the controller echoes what it echoed in the beginning, exactly when (`Panel.restart_iff`)

* it echoed that when the panel was started last, and
* this startup failed, or came before every shutdown.

For only the first shutdown of a panel does anything, and every startup takes the serial that is
echoed then for its baseline, also the serial of a command that the panel has sent itself.
-/

namespace OperatorPanel

/-! ### A controller that answers

The serial that is echoed can be read off the log as long as the controller acknowledges: it is that
of the last message, and before any message the one from the beginning.
-/

/-- The serial of the last message of a log. -/
def lastSerial (before : Int32) (log : List Message) : Int32 :=
  (log.map (·.serial)).getLastD before

theorem lastSerial_concat (before : Int32) (log : List Message) (m : Message) :
    lastSerial before (log ++ [m]) = m.serial := by
  simp [lastSerial]

namespace Simulator

/-- The controller gets the messages that are sent, and acknowledges them. -/
structure Responds (c : Simulator) : Prop where
  valid : c.commandValid = true
  acknowledges : c.ack ≠ .ignore

/-- A controller that responds echoes the last message that it received. -/
structure Echoes (before c : Simulator) : Prop where
  responds : c.Responds
  last : ∃ more, c.received = before.received ++ more ∧
    c.status.echo = lastSerial before.status.echo more

namespace Echoes

variable {before c c' : Simulator}

theorem refl (h : c.Responds) : Echoes c c := ⟨h, [], (List.append_nil _).symm, rfl⟩

/-- What touches neither the log nor the echo. -/
theorem keep (h : before.Echoes c) (hvalid : c'.commandValid = c.commandValid)
    (hack : c'.ack = c.ack) (hreceived : c'.received = c.received)
    (hecho : c'.status.echo = c.status.echo) : before.Echoes c' := by
  refine ⟨⟨hvalid.trans h.responds.valid, ?_⟩, ?_⟩
  · rw [hack]
    exact h.responds.acknowledges
  · rw [hreceived, hecho]
    exact h.last

theorem receive (h : before.Echoes c) (m : Message) : before.Echoes (c.receive m) := by
  obtain ⟨more, hreceived, _⟩ := h.last
  refine ⟨⟨h.responds.valid, h.responds.acknowledges⟩, more ++ [m], ?_, ?_⟩
  · show c.received ++ [m] = _
    rw [hreceived, List.append_assoc]
  · rw [lastSerial_concat]
    show (acknowledge (effect c.status m.command) m.serial c.ack).echo = m.serial
    -- whichever way a message is acknowledged, its serial is echoed; only a controller that ignores
    -- it does not
    have hack := h.responds.acknowledges
    cases hcase : c.ack with
    | ignore => exact absurd hcase hack
    | _ => rfl

theorem used (hused : c.Used c') (h : before.Echoes c) : before.Echoes c' := by
  refine hused.invariant (P := before.Echoes) ?_ ?_ ?_ ?_ h
  · intro c c' hreached hc
    refine hc.keep hreached.commandValid ?_ hreached.received hreached.echo
    rw [hreached]
  · intro c seen hc
    have hlooks := c.sameButLooks_peek seen
    exact hc.keep hlooks.commandValid hlooks.ack hlooks.received hlooks.echo
  · intro c notices hc
    exact hc.keep rfl rfl rfl rfl
  · intro c m hc
    exact hc.receive m

/-- Where nothing was received, the echo is as before. -/
theorem same (h : before.Echoes c) (hreceived : c.received = before.received) :
    c.status.echo = before.status.echo := by
  obtain ⟨more, hmore, hecho⟩ := h.last
  have hnil : more = [] := List.self_eq_append_right.1 (hreceived.symm.trans hmore)
  rw [hecho, hnil]
  rfl

end Echoes

end Simulator

/-- A script that lets the controller respond, and does not change the serial that is echoed. -/
def Script.Calm : Script → Prop
  | .acknowledge ack => ack ≠ .ignore
  | .validate valid => valid = true
  | .edit f => ∀ t, (f t).echo = t.echo
  | _ => True

/-- Scripts may change a good deal of a controller, but calm ones leave the log and the echoed
serial alone. -/
theorem Script.Calm.echoes {script : Script} (hcalm : script.Calm) {before c : Simulator}
    (h : before.Echoes c) : before.Echoes (script.apply c) := by
  cases script with
  | acknowledge ack => exact ⟨⟨h.responds.valid, hcalm⟩, h.last⟩
  | validate valid => exact ⟨⟨hcalm, h.responds.acknowledges⟩, h.last⟩
  | edit f => exact h.keep rfl rfl rfl (hcalm _)
  | _ => exact h.keep rfl rfl rfl rfl

/-- In these events the controller goes on responding. -/
def Calm (events : List Event) : Prop :=
  ∀ script, Event.work (.script script) ∈ events → script.Calm

theorem Calm.head {event : Event} {events : List Event} (h : Calm (event :: events)) :
    Calm [event] := by
  intro script hscript
  rw [List.mem_singleton] at hscript
  refine h script ?_
  rw [hscript]
  exact List.mem_cons_self ..

theorem Calm.tail {event : Event} {events : List Event} (h : Calm (event :: events)) :
    Calm events :=
  fun script hscript => h script (List.mem_cons_of_mem _ hscript)

namespace Session

theorem Runs.echoes {s s' : Session} {events : List Event} {turns : List Turn}
    (h : Runs s events turns s') (hcalm : Calm events) (hs : s.world.simulator.Responds) :
    s.world.simulator.Echoes s'.world.simulator :=
  h.controller (fun _ _ hused hc => hc.used hused)
    (fun script hscript _ hc => (hcalm script hscript).echoes hc) (.refl hs)

end Session

/-! ### Without channels

What a panel cannot say, the controller does not hear: without channels the log stays as it is, and
with it the serial that is echoed.
-/

theorem Client.Steady.isOpen {c c' : Client Simulated.transport} (h : c.Steady c')
    (hc : c.link.Open) : c'.link.Open where
  command := h.command.trans hc.command
  status := h.status.trans hc.status
  notices := h.notices.trans hc.notices

namespace Session

variable {s s' : Session} {turn : Turn}

/-- **Only a startup opens channels**, and without them nobody is reached. -/
theorem unheard_next {event : Event} (hs : s.panel.client.link.Empty) (hevent : event ≠ .startup)
    (h : s.next event = some (turn, s')) :
    s'.panel.client.link.Empty ∧
      s'.world.simulator.received = s.world.simulator.received := by
  cases event with
  | startup => exact absurd rfl hevent
  | shutdown =>
      obtain ⟨q, v, hshutdown, rfl, rfl⟩ := shutdown_of_next h
      obtain ⟨_, rfl, rfl⟩ | ⟨settled, settledWorld, hshut⟩ := Panel.shutdown_eq_some hshutdown
      · exact ⟨hs, rfl⟩
      · constructor
        · rw [hshut.panel]
          exact Link.empty_shut (.inr (hshut.waits.steady.empty hs))
        · cases hbaseline : s.panel.baseline with
          | none => exact hshut.received_of_none hbaseline
          | some b =>
              rw [hshut.received hbaseline, Link.canSend, hs.command]
              exact List.append_nil _
  | work work => -- a work that is done without channels comes to the same as before
      obtain ⟨turn', s₁, hdoes, hreceived⟩ := does_empty hs work
      cases hdoes.symm.trans h
      exact ⟨(lasts_does h).steady.empty hs, hreceived⟩

end Session

/-! ### What a shutdown will leave

Whether the last shutdown restores the serial is settled long before it. The panel owes it, or has
paid already, or can never pay it (`Owes`, the right half of `Held`, `Stuck`), and nothing but a
startup leads from one of these to another.
-/

/-- A panel that is connected, was not shut down, and has this baseline to hand back. -/
structure Panel.Owes (b : Int32) (p : Panel Simulated.transport) : Prop where
  ended : p.ended = false
  connected : p.client.link.state = .connected
  isOpen : p.client.link.Open
  baseline : p.baseline = some b

/-- A panel that is connected, but was shut down before. -/
structure Panel.Stuck (p : Panel Simulated.transport) : Prop where
  ended : p.ended = true
  isOpen : p.client.link.Open

namespace Panel

variable {p p' : Panel Simulated.transport} {w w' : World} {b : Int32}

theorem Owes.lasts (h : p.Owes b) (hlasts : p.Lasts p') : p'.Owes b where
  ended := hlasts.ended.trans h.ended
  connected := hlasts.steady.state.trans h.connected
  isOpen := hlasts.steady.isOpen h.isOpen
  baseline := hlasts.baseline.trans h.baseline

/-- A panel that is stuck does not get free by working. -/
theorem Stuck.lasts (h : p.Stuck) (hlasts : p.Lasts p') : p'.Stuck where
  ended := hlasts.ended.trans h.ended
  isOpen := hlasts.steady.isOpen h.isOpen

/-- The panel pays what it owes. -/
theorem Owes.shutdown (h : p.Owes b) (hresponds : w.simulator.Responds)
    (hshutdown : p.shutdown w = some (p', w')) :
    p'.client.link.Empty ∧ w'.simulator.status.echo = b := by
  obtain ⟨hended, _⟩ | ⟨settled, settledWorld, hshut⟩ := shutdown_eq_some hshutdown
  · rw [h.ended] at hended
    cases hended
  · have hstate : settled.link.state ≠ .closed := by
      rw [hshut.waits.steady.state, h.connected]
      decide
    have hcan : p.client.link.canSend w = true := by
      rw [Link.canSend, h.isOpen.command, hresponds.valid]
      rfl
    refine ⟨?_, hshut.echo h.baseline hcan hresponds.acknowledges⟩
    rw [hshut.panel]
    exact Link.empty_shut (.inl hstate)

/-- Another shutdown does nothing. -/
theorem shutdown_of_ended (h : p.ended = true) (w : World) :
    p.shutdown w = some ({ p with running := false }, w) := by
  unfold Panel.shutdown
  dsimp only
  rw [if_pos h]

end Panel

namespace Session

variable {s s' : Session} {turn : Turn} {b : Int32}

/-- A shutdown now leaves no channel open, and the controller echoes this serial. -/
def Held (b : Int32) (s : Session) : Prop :=
  s.panel.Owes b ∨ s.panel.client.link.Empty ∧ s.world.simulator.status.echo = b

/-- Without channels the echo stays. -/
theorem echo_next {event : Event} (hs : s.panel.client.link.Empty) (hevent : event ≠ .startup)
    (hcalm : Calm [event]) (hresponds : s.world.simulator.Responds)
    (h : s.next event = some (turn, s')) :
    s'.panel.client.link.Empty ∧
      s'.world.simulator.status.echo = s.world.simulator.status.echo := by
  obtain ⟨hempty, hreceived⟩ := unheard_next hs hevent h
  have hechoes := (Runs.cons h (.nil s')).echoes hcalm hresponds
  exact ⟨hempty, hechoes.same hreceived⟩

/-- What is owed is paid by a shutdown, and nothing else takes it away. -/
theorem held_next {event : Event} (hs : s.Held b) (hevent : event ≠ .startup)
    (hcalm : Calm [event]) (hresponds : s.world.simulator.Responds)
    (h : s.next event = some (turn, s')) : s'.Held b := by
  obtain howes | ⟨hempty, hecho⟩ := hs
  · cases event with
    | startup => exact absurd rfl hevent
    | work work => exact .inl (howes.lasts (lasts_does h))
    | shutdown =>
        obtain ⟨q, v, hshutdown, rfl, rfl⟩ := shutdown_of_next h
        exact .inr (howes.shutdown hresponds hshutdown)
  · obtain ⟨hempty', hecho'⟩ := echo_next hempty hevent hcalm hresponds h
    exact .inr ⟨hempty', hecho'.trans hecho⟩

/-- **What a shutdown will leave, no event changes** but a startup. -/
theorem Runs.held {events : List Event} {turns : List Turn} (h : Runs s events turns s')
    (hstart : Event.startup ∉ events) (hcalm : Calm events)
    (hresponds : s.world.simulator.Responds) (hs : s.Held b) : s'.Held b := by
  -- by induction on the events; the controller responds at each of them, as the history is calm
  induction h with
  | nil => exact hs
  | cons hnext _ ih =>
      rw [List.mem_cons, not_or] at hstart
      have hechoes := (Runs.cons hnext (.nil _)).echoes hcalm.head hresponds
      exact ih hstart.2 hcalm.tail hechoes.responds
        (held_next hs (Ne.symm hstart.1) hcalm.head hresponds hnext)

theorem Held.shutdown (hs : s.Held b) (hresponds : s.world.simulator.Responds)
    {q : Panel Simulated.transport} {v : World}
    (h : s.panel.shutdown s.world = some (q, v)) :
    q.client.link.Empty ∧ v.simulator.status.echo = b := by
  obtain howes | ⟨hempty, hecho⟩ := hs
  · exact howes.shutdown hresponds h
  · have hnext : s.next .shutdown = some ({}, ⟨q, v⟩) := by
      rw [next, h]
      rfl
    -- a shutdown is no script, so it is calm
    have hcalm : Calm [.shutdown] := by
      intro script hscript
      cases List.mem_singleton.1 hscript
    have hevent : Event.shutdown ≠ .startup := by
      intro hsame
      cases hsame
    obtain ⟨hempty', hecho'⟩ := echo_next hempty hevent hcalm hresponds hnext
    exact ⟨hempty', hecho'.trans hecho⟩

/-- Another shutdown does nothing, so the panel stays stuck. -/
theorem stuck_next {event : Event} (hs : s.panel.Stuck) (hevent : event ≠ .startup)
    (h : s.next event = some (turn, s')) : s'.panel.Stuck := by
  cases event with
  | startup => exact absurd rfl hevent
  | work work => exact hs.lasts (lasts_does h)
  | shutdown =>
      rw [next, Panel.shutdown_of_ended hs.ended] at h
      cases h
      exact ⟨hs.ended, hs.isOpen⟩

/-- A panel that was started after a shutdown stays connected, whatever is done with it. -/
theorem Runs.stuck {events : List Event} {turns : List Turn} (h : Runs s events turns s')
    (hstart : Event.startup ∉ events) (hs : s.panel.Stuck) : s'.panel.Stuck := by
  induction h with
  | nil => exact hs
  | cons hnext _ ih =>
      rw [List.mem_cons, not_or] at hstart
      exact ih hstart.2 (stuck_next hs (Ne.symm hstart.1) hnext)

end Session

/-! ### What a startup leaves

A startup that fails has closed whatever it opened. One that succeeds owes the serial that it has
seen, if the panel was not shut down before; and else it is stuck.
-/

namespace Link

theorem connect_eq_error {l l' : Link Simulated.transport} {w w' : World} {e : PanelError}
    (h : l.connect w = (.error e, l', w')) : l'.Empty ∧ l'.state ≠ .connected := by
  unfold connect at h
  split at h
  · cases h
  · dsimp only at h
    split at h
    · cases h
    · cases h
      exact ⟨⟨rfl, rfl, rfl⟩, nofun⟩

/-- A link that is connected stays as it is. -/
theorem connect_of_connected {l : Link Simulated.transport} (h : l.state = .connected)
    (w : World) : l.connect w = (.ok (), l, w) := by
  unfold connect isConnected
  rw [if_pos (decide_eq_true h)]

end Link

namespace Panel

variable {p p' : Panel Simulated.transport} {w w' : World}

theorem steady_captureBaseline (p : Panel Simulated.transport) (w : World) :
    p.client.Steady (p.captureBaseline w).2.1.client ∧
      (p.captureBaseline w).2.1.ended = p.ended := by
  unfold captureBaseline
  split
  · exact ⟨.refl _, rfl⟩
  · next w₁ _ =>
      have hsteady := p.client.steady_refresh w₁
      split <;> next hlook =>
        rw [hlook] at hsteady
        exact ⟨⟨hsteady.wait, hsteady.command, hsteady.status, hsteady.notices, hsteady.state⟩, rfl⟩

/-- A startup that fails leaves no channel open. -/
theorem startup_eq_error {e : PanelError} (h : p.startup w = (.error e, p', w')) :
    p'.client.link.Empty ∧ p'.client.link.state ≠ .connected := by
  unfold startup at h
  dsimp only at h
  split at h
  · -- nothing could be opened, or the baseline could not be taken
    next client _ hconnect =>
      cases h
      generalize w.note .info .lifecycle "starting bridge"
        [("transport", Simulated.transport.name),
          ("axes", Text.decimal p.console.setup.axisCount)] = noted at hconnect
      unfold Client.connect at hconnect
      rcases hlink : p.client.link.connect noted with ⟨r, link, w₁⟩
      rw [hlink] at hconnect
      cases hconnect
      exact Link.connect_eq_error hlink
  · next client w₁ hconnect =>
      obtain ⟨link, hlink, rfl⟩ := Client.connect_eq_ok hconnect
      obtain ⟨_, _, hstate, _⟩ := Link.connect_eq_ok hlink
      have hcaptured := (steady_captureBaseline { p with client := { p.client with link } } w₁).1
      split at h
      · cases h
      · next q v hbaseline =>
          rw [hbaseline] at hcaptured
          cases h
          -- a connect that has succeeded leaves the link open, so that closing it has an effect
          have hconnected : q.client.link.state ≠ .closed := by
            rw [hcaptured.state]
            show link.state ≠ .closed
            rw [hstate]
            decide
          dsimp only
          rw [(Client.close_simulated _ _).1]
          refine ⟨Link.empty_shut (.inl hconnected), ?_⟩
          dsimp only
          rw [Link.shut, if_neg hconnected]
          exact nofun

/-- A startup that succeeds has its baseline from the status that the client holds, its channel has
the version of now, and if the panel was connected before, the same channels are open. -/
theorem startup_eq_ok (h : p.startup w = (.ok (), p', w')) :
    p'.baseline = some p'.client.status.echo ∧
      p'.client.link.status = some w'.simulator.version ∧
      (p.client.link.state = .connected → p.client.link.Open → p'.client.link.Open) := by
  unfold startup at h
  dsimp only at h
  split at h
  · cases h
  · next client w₁ hconnect =>
      obtain ⟨link, hlink, rfl⟩ := Client.connect_eq_ok hconnect
      split at h
      · next hbaseline =>
          cases h
          -- the baseline is the echo of the status that the last look of the startup has found
          obtain ⟨w₂, w₃, f, bus, client, _, hlook, hw', rfl⟩ := captureBaseline_eq_ok hbaseline
          have hsteady := Client.steady_refresh { p.client with link } w₂
          rw [hlook] at hsteady
          refine ⟨rfl, ?_, fun hconnected hopen => ?_⟩
          · rw [hw']
            cases Client.looked hlook with
            | succeeded _ _ hseen _ => exact hseen
          · rw [Link.connect_of_connected hconnected] at hlink
            cases hlink
            exact hsteady.isOpen hopen
      · cases h

/-- A panel that was connected before keeps its channels, and one that was not has opened them. -/
theorem open_startup (h : p.startup w = (.ok (), p', w'))
    (hwhole : p.client.link.state = .connected → p.client.link.Open) : p'.client.link.Open := by
  obtain ⟨b, hstarted⟩ := Panel.started h
  by_cases hconnected : p.client.link.state = .connected
  · exact (startup_eq_ok h).2.2 hconnected (hwhole hconnected)
  · exact hstarted.isOpen hconnected

/-- Where the client is up to date, the baseline is the serial that was echoed. -/
theorem baseline_startup {S : Status} (h : p.startup w = (.ok (), p', w'))
    (hS : Client.UpToDate S p'.client w') : p'.baseline = some w.simulator.status.echo := by
  obtain ⟨hbaseline, hseen, _⟩ := startup_eq_ok h
  have hstatus : w'.simulator.status = S := (hS.seen _ hseen).2 rfl
  have hecho := (p.silent_startup w).2
  rw [h] at hecho
  rw [hbaseline, hS.status, ← hstatus, ← hecho]

/-- No startup takes a shutdown back. -/
theorem ended_startup (p : Panel Simulated.transport) (w : World) :
    (p.startup w).2.1.ended = p.ended := by
  unfold startup
  dsimp only
  split
  · rfl
  · next client w₁ _ =>
      have hended := (steady_captureBaseline { p with client } w₁).2
      split <;> next hbaseline =>
        rw [hbaseline] at hended
        exact hended

end Panel

namespace Session

variable {s s' : Session}

/-- All channels of a connected panel are open. -/
theorem whole_next {event : Event} {turn : Turn}
    (hs : s.panel.client.link.state = .connected → s.panel.client.link.Open)
    (h : s.next event = some (turn, s')) :
    s'.panel.client.link.state = .connected → s'.panel.client.link.Open := by
  -- a startup opens all or nothing, work keeps what is open, and a shutdown closes all
  cases event with
  | startup =>
      rcases hstart : s.panel.startup s.world with ⟨_ | _, q, v⟩
      · rw [next, hstart] at h
        cases h
        exact fun hstate => absurd hstate (Panel.startup_eq_error hstart).2
      · rw [next, hstart] at h
        cases h
        exact fun _ => Panel.open_startup hstart hs
  | work work =>
      intro hstate
      have hsteady := (lasts_does h).steady
      exact hsteady.isOpen (hs (hsteady.state.symm.trans hstate))
  | shutdown =>
      obtain ⟨q, v, hshutdown, rfl, rfl⟩ := shutdown_of_next h
      obtain ⟨_, rfl, rfl⟩ | ⟨settled, settledWorld, hshut⟩ := Panel.shutdown_eq_some hshutdown
      · exact hs
      · rw [hshut.panel]
        intro hstate
        dsimp only [Link.shut] at hstate
        split at hstate
        · next hclosed =>
            rw [hclosed] at hstate
            cases hstate
        · cases hstate

/-- From a whole panel on, every connected panel is whole. -/
theorem Runs.whole {events : List Event} {turns : List Turn} (h : Runs s events turns s')
    (hs : s.panel.client.link.state = .connected → s.panel.client.link.Open) :
    s'.panel.client.link.state = .connected → s'.panel.client.link.Open := by
  induction h with
  | nil => exact hs
  | cons hnext _ ih => exact ih (whole_next hs hnext)

/-- A panel was shut down if there was a shutdown. -/
theorem Runs.ended_iff {events : List Event} {turns : List Turn} (h : Runs s events turns s') :
    s'.panel.ended = true ↔ s.panel.ended = true ∨ Event.shutdown ∈ events := by
  -- by induction on the history; only a shutdown sets the mark, and nothing takes it away
  induction h with
  | nil => simp
  | @cons s s₁ s' event events turn turns hnext _ ih =>
      rw [ih, List.mem_cons]
      cases event with
      | startup =>
          have hended := s.panel.ended_startup s.world
          obtain ⟨r, p, w, hstart, rfl, rfl⟩ := startup_of_next hnext
          rw [hstart] at hended
          dsimp only at hended ⊢
          rw [hended]
          simp
      | work work =>
          rw [(lasts_does hnext).ended]
          simp
      | shutdown =>
          obtain ⟨q, v, hshutdown, rfl, rfl⟩ := shutdown_of_next hnext
          have hended : q.ended = true := by
            obtain ⟨hended, rfl, _⟩ | ⟨_, _, hshut⟩ := Panel.shutdown_eq_some hshutdown
            · exact hended
            · rw [hshut.panel]
          simp [hended]

/-- There is one way through a history. -/
theorem Runs.unique {s₁ s₂ : Session} {events : List Event} {turns₁ turns₂ : List Turn}
    (h₁ : Runs s events turns₁ s₁) (h₂ : Runs s events turns₂ s₂) :
    turns₁ = turns₂ ∧ s₁ = s₂ := by
  induction h₁ generalizing turns₂ with
  | nil =>
      cases h₂
      exact ⟨rfl, rfl⟩
  | cons hnext _ ih =>
      cases h₂ with
      | cons hnext' hrest =>
          cases hnext.symm.trans hnext'
          obtain ⟨hturns, hend⟩ := ih hrest
          exact ⟨by rw [hturns], hend⟩

/-- A run can be stopped and gone on with anywhere. -/
theorem Runs.split {before after : List Event} {turns : List Turn}
    (h : Runs s (before ++ after) turns s') :
    ∃ turns₁ s₁ turns₂, Runs s before turns₁ s₁ ∧ Runs s₁ after turns₂ s' := by
  induction before generalizing s turns with
  | nil => exact ⟨[], s, turns, .nil s, h⟩
  | cons event before ih =>
      cases h with
      | cons hnext hrest =>
          obtain ⟨turns₁, s₁, turns₂, hbefore, hafter⟩ := ih hrest
          exact ⟨_, s₁, turns₂, .cons hnext hbefore, hafter⟩

/-- What a shutdown will leave after a startup, unless this succeeds after another shutdown. -/
theorem held_startup {r : Except PanelError Unit} {p₁ : Panel Simulated.transport} {w₁ : World}
    (h : s.panel.startup s.world = (r, p₁, w₁))
    (hwhole : s.panel.client.link.state = .connected → s.panel.client.link.Open)
    (hbaseline : r = .ok () → p₁.baseline = some s.world.simulator.status.echo)
    (hfirst : r = .ok () → s.panel.ended = false) :
    Held s.world.simulator.status.echo ⟨p₁, w₁⟩ := by
  cases r with
  | error e =>
      have hecho := (s.panel.silent_startup s.world).2
      rw [h] at hecho
      exact .inr ⟨(Panel.startup_eq_error h).1, hecho⟩
  | ok =>
      obtain ⟨b, hstarted⟩ := Panel.started h
      exact .inl
        { ended := hstarted.ended.trans (hfirst rfl)
          connected := hstarted.connected
          isOpen := Panel.open_startup h hwhole
          baseline := hbaseline rfl }

end Session

/-! ### The last startup decides

The history is cut at its last startup. What was before decides which of the three it leads to, and
what comes after changes nothing of that.
-/

namespace Panel

theorem empty_of_create {settings : Settings} {bus : PinBus} {p : Panel Simulated.transport}
    (h : Panel.create Simulated.transport settings bus = .ok p) : p.client.link.Empty := by
  obtain ⟨_, setup, _, rfl⟩ := create_eq_ok h
  exact ⟨rfl, rfl, rfl⟩

/-- **What a shutdown leaves**, at the end of any history of startups, shutdowns and work, where
the controller goes on responding and nobody else changes the serial that it echoes. Without a
startup all is as it was. Otherwise no channel is open and the controller echoes what it echoed in
the beginning exactly when it did so at the last startup, and this one, if it succeeded, came before
every shutdown.

As in `outputs_mirror`, the count of statuses must not have come round to zero at that startup. -/
theorem restart_iff {settings : Settings} {bus : PinBus} {p : Panel Simulated.transport} {w : World}
    {events : List Event} {turns : List Turn} {s : Session}
    (hcreate : Panel.create Simulated.transport settings bus = .ok p)
    (hcounted : 0 < w.simulator.version) (hresponds : w.simulator.Responds)
    (hcalm : Calm events) (hruns : Session.Runs ⟨p, w⟩ events turns s) :
    ∃ q v, s.panel.shutdown s.world = some (q, v) ∧
      (Event.startup ∉ events →
        q.client.link.Empty ∧ v.simulator.status.echo = w.simulator.status.echo) ∧
      ∀ before after, events = before ++ .startup :: after → Event.startup ∉ after →
        ∀ turns₁ s₁ r p₁ w₁, Session.Runs ⟨p, w⟩ before turns₁ s₁ →
          s₁.panel.startup s₁.world = (r, p₁, w₁) →
          (∃ signs, p.client.Follows w signs p₁.client w₁) ∧
          ∀ signs, p.client.Follows w signs p₁.client w₁ →
            w.simulator.version.toNat + changes signs < UInt64.size →
            (q.client.link.Empty ∧ v.simulator.status.echo = w.simulator.status.echo ↔
              s₁.world.simulator.status.echo = w.simulator.status.echo ∧
                (r = .ok () → Event.shutdown ∉ before)) := by
  have hnew := new_of_create hcreate
  have hempty : p.client.link.Empty := empty_of_create hcreate
  have hend : s.world.simulator.Responds := (hruns.echoes hcalm hresponds).responds
  have hinterval : 0 < s.panel.client.wait.interval.nanos := by
    rw [hruns.wait, hnew.interval]
    exact Settings.pollInterval_pos hnew.valid
  obtain ⟨⟨q, v⟩, hshutdown⟩ := Option.isSome_iff_exists.1 (shutdown_isSome s.world hinterval)
  refine ⟨q, v, hshutdown, ?_, ?_⟩
  · intro hnever
    have hheld := hruns.held hnever hcalm hresponds (.inr ⟨hempty, rfl⟩)
    exact hheld.shutdown hend hshutdown
  · -- between the last startup and the end there are work and shutdowns alone
    rintro before after rfl hlast turns₁ s₁ r p₁ w₁ hbefore hstart
    -- the history goes through this startup
    obtain ⟨turns', s', turns₂, hbefore', hrest⟩ := hruns.split
    obtain ⟨rfl, rfl⟩ := hbefore.unique hbefore'
    have hnext : s₁.next .startup = some ({}, ⟨p₁, w₁⟩) := by
      rw [Session.next, hstart]
    have hled := hbefore.led.trans (Session.led_next hnext)
    refine ⟨hled, fun signs hfollows hfew => ?_⟩
    cases hrest with
    | cons hnext' hafter =>
      cases hnext.symm.trans hnext'
      have hcalm₁ : Calm before := fun script h => hcalm script (List.mem_append_left _ h)
      have hcalm₂ : Calm (.startup :: after) :=
        fun script h => hcalm script (List.mem_append_right _ h)
      have hresponds₁ := (hbefore.echoes hcalm₁ hresponds).responds
      have hresponds₂ :=
        ((Session.Runs.cons hnext (.nil _)).echoes hcalm₂.head hresponds₁).responds
      have hwhole := hbefore.whole fun hconnected => by
        rw [hnew.link.1] at hconnected
        cases hconnected
      have hended := hbefore.ended_iff
      rw [hnew.ended, or_iff_right Bool.false_ne_true] at hended
      by_cases hlate : r = .ok () ∧ Event.shutdown ∈ before
      · -- the panel is connected for good
        obtain ⟨rfl, hmem⟩ := hlate
        obtain ⟨b, hstarted⟩ := Panel.started hstart
        have hstuck : p₁.Stuck :=
          ⟨hstarted.ended.trans (hended.2 hmem), open_startup hstart hwhole⟩
        have hstuck' := hafter.stuck hlast hstuck
        rw [shutdown_of_ended hstuck'.ended] at hshutdown
        cases hshutdown
        exact iff_of_false (fun h => h.1.not_open hstuck'.isOpen) fun h => h.2 rfl hmem
      · -- the panel is closed, or it will hand back what it saw at this startup
        have hfirst : r = .ok () → Event.shutdown ∉ before := fun hok hmem => hlate ⟨hok, hmem⟩
        have huptodate := hfollows.upToDate (.ofClosed hnew.link.2 hcounted) hfew
        have hheld := Session.held_startup hstart hwhole
          (fun hok => by
            rw [hok] at hstart
            exact baseline_startup hstart huptodate)
          (fun hok => Bool.eq_false_iff.2 fun h => hfirst hok (hended.1 h))
        have hheld' := hafter.held hlast hcalm₂.tail hresponds₂ hheld
        obtain ⟨hclosed, hecho⟩ := hheld'.shutdown hend hshutdown
        rw [hecho]
        exact ⟨fun h => ⟨h.2, hfirst⟩, fun h => ⟨hclosed, h.1⟩⟩

/-- A client that opens its channel and looks for the first time sees the status. -/
theorem follows_echoing {c c' : Client Simulated.transport} {w' : World}
    (hupdates : c'.watch.updates = c.watch.updates + 1)
    (hwatch : c'.watch.status = (World.echoing 7).simulator.status)
    (hchannel : c'.link.status = some 1)
    (hstatus : w'.simulator.status = (World.echoing 7).simulator.status)
    (hversion : w'.simulator.version = 1) (hpolls : w'.simulator.pollsUntilDone = none) :
    c.Follows (.echoing 7) [.seen (World.echoing 7).simulator.status] c' w' := by
  have hopened : c.Apart (.echoing 7) { c with link := { c.link with status := some 0 } }
      (.echoing 7) := ⟨rfl, .inr (.inr rfl), rfl, rfl, rfl⟩
  have hwatched : c'.watch
      = { status := (World.echoing 7).simulator.status, updates := c.watch.updates + 1 } := by
    rw [← hupdates, ← hwatch]
  refine .apart hopened (.looked rfl (.ofApart ?_))
  exact ⟨hwatched, .inl hchannel, hstatus, hversion, hpolls⟩

/-- A startup and a command. -/
def oneCommand : List Event := [.startup, .work (.dispatch .mistOn none)]

/-- After one startup and a command with serial 8, the shutdown leaves serial 7 as it was before. -/
theorem restart_iff_once :
    ∃ p turns s q v, Panel.create Simulated.transport {} { carrier := .memory {} } = .ok p ∧
      Session.Runs ⟨p, .echoing 7⟩ oneCommand turns s ∧ s.world.simulator.status.echo = 8 ∧
      s.panel.shutdown s.world = some (q, v) ∧ q.client.link.Empty ∧
      v.simulator.status.echo = 7 := by
  have hplays : Plays oneCommand (fun p _ s =>
      decide (s.world.simulator.status.echo = 8) &&
      let started := p.startup (.echoing 7)
      decide (started.2.1.client.watch.updates = p.client.watch.updates + 1 ∧
        started.2.1.client.watch.status = (World.echoing 7).simulator.status ∧
        started.2.1.client.link.status = some 1 ∧
        started.2.2.simulator.status = (World.echoing 7).simulator.status ∧
        started.2.2.simulator.version = 1 ∧ started.2.2.simulator.pollsUntilDone = none)) := by
    decide +kernel
  obtain ⟨p, turns, s, hcreate, hruns, hholds⟩ := hplays.runs
  rcases hstart : p.startup (.echoing 7) with ⟨r, p₁, w₁⟩
  rw [hstart, Bool.and_eq_true_iff] at hholds
  obtain ⟨hspent, hstarted⟩ := hholds
  obtain ⟨hupdates, hwatch, hchannel, hstatus, hversion, hpolls⟩ := of_decide_eq_true hstarted
  have hfollows := follows_echoing hupdates hwatch hchannel hstatus hversion hpolls
  -- the command of this history is no script
  have hcalm : Calm oneCommand := by
    intro script hscript
    simp [oneCommand] at hscript
  -- the theorem is applied to the shutdown after the one startup
  obtain ⟨q, v, hshutdown, _, hrestart⟩ :=
    restart_iff hcreate (by decide) ⟨rfl, by decide⟩ hcalm hruns
  obtain ⟨_, hrestored⟩ := hrestart [] [.work (.dispatch .mistOn none)] rfl (by simp) [] _ r p₁ w₁
    (.nil _) hstart
  obtain ⟨hclosed, hecho⟩ :=
    (hrestored _ hfollows (by decide)).2 ⟨rfl, fun _ hnone => by cases hnone⟩
  exact ⟨p, turns, s, q, v, hcreate, hruns, of_decide_eq_true hspent, hshutdown, hclosed, hecho⟩

/-- **A handshake that is lost**: a panel that is shut down before it is started stays connected
after its last shutdown, and the controller echoes its command. And one that is started twice takes
the serial of its own command for the baseline. -/
theorem restart_loses_handshake :
    (∃ p turns s q v, Panel.create Simulated.transport {} { carrier := .memory {} } = .ok p ∧
      Session.Runs ⟨p, .echoing 7⟩ (.shutdown :: oneCommand) turns s ∧
      s.panel.shutdown s.world = some (q, v) ∧ q.client.link.Open ∧
      v.simulator.status.echo = 8) ∧
    ∃ p turns s q v, Panel.create Simulated.transport {} { carrier := .memory {} } = .ok p ∧
      Session.Runs ⟨p, .echoing 7⟩ (oneCommand ++ [.startup]) turns s ∧
      s.panel.shutdown s.world = some (q, v) ∧ q.client.link.Empty ∧
      v.simulator.status.echo = 8 := by
  -- a panel that was shut down before its first startup, and one that was started twice
  constructor
  · have hplays : Plays (.shutdown :: oneCommand) (fun _ _ s =>
        (s.panel.shutdown s.world).any fun shut => decide (
          shut.1.client.link.command.isSome = true ∧ shut.1.client.link.status.isSome = true ∧
          shut.1.client.link.notices.isSome = true ∧ shut.2.simulator.status.echo = 8)) := by
      decide +kernel
    obtain ⟨p, turns, s, hcreate, hruns, hholds⟩ := hplays.runs
    obtain ⟨⟨q, v⟩, hshutdown, hleft⟩ := (Option.any_eq_true _ _).1 hholds
    obtain ⟨hcommand, hstatus, hnotices, hecho⟩ := of_decide_eq_true hleft
    exact ⟨p, turns, s, q, v, hcreate, hruns, hshutdown, ⟨hcommand, hstatus, hnotices⟩, hecho⟩
  · have hplays : Plays (oneCommand ++ [.startup]) (fun _ _ s =>
        (s.panel.shutdown s.world).any fun shut => decide (
          shut.1.client.link.command = none ∧ shut.1.client.link.status = none ∧
          shut.1.client.link.notices = none ∧ shut.2.simulator.status.echo = 8)) := by
      decide +kernel
    obtain ⟨p, turns, s, hcreate, hruns, hholds⟩ := hplays.runs
    obtain ⟨⟨q, v⟩, hshutdown, hleft⟩ := (Option.any_eq_true _ _).1 hholds
    obtain ⟨hcommand, hstatus, hnotices, hecho⟩ := of_decide_eq_true hleft
    exact ⟨p, turns, s, q, v, hcreate, hruns, hshutdown, ⟨hcommand, hstatus, hnotices⟩, hecho⟩

end Panel

end OperatorPanel
