import OperatorPanel.Proofs.Restart
import OperatorPanel.Proofs.Standstill
import OperatorPanel.Proofs.Twins

/-!
# The wait policy is not seen

Two panels with the same settings but for the wait policy send the same, remember the same, and
show the same (`Panel.policy_unseen`), whatever becomes of their commands: a wait looks at the
status and sleeps, and neither the next scan nor the output pins depend on how often that was done.

Between two events the sessions of the two are twins (`Session.Twins`): all that they have is the
same, save how far the echoed command got, what the journals say, and the time.
-/

namespace OperatorPanel

/-! ### Cycles

A cycle is taken apart again here, since the outputs that it publishes and the files that it leaves
depend on both of its halves.
-/

namespace Panel

variable {p p' : Panel Simulated.transport} {w w' : World} {report : CycleReport}
  {acted tidied : CycleState Simulated.transport}

/-- The rest of a cycle, once its actions were performed. -/
theorem Cycled.act (h : p.Cycled w report p' w' acted tidied) :
    p.console.act (p.sampled w) p.client (p.bus.sample w.time.2).2.2 = some tidied := by
  have hperformed := h.performed
  unfold scanned decided at hperformed
  rw [h.tidied_eq]
  unfold Console.act
  generalize p.console.scan (p.sampled w) p.client.status = scanned at hperformed ⊢
  obtain ⟨actions, console⟩ := scanned
  dsimp only at hperformed ⊢
  rw [hperformed]

/-- What a cycle leaves of its console and of the files. -/
theorem Cycled.leaves (h : p.Cycled w report p' w' acted tidied)
    (hcycle : p.cycle w = some (report, p', w')) :
    p'.console = { tidied.console with
        previous := tidied.console.previous.takeOver tidied.console.setup.registered
          (p.sampled w) } ∧
      w'.directory = ((p.bus.sample w.time.2).2.1.publish
        (tidied.console.outputs tidied.client) tidied.world).2.2.directory := by
  have hact := h.act
  unfold cycle at hcycle  -- the cycle of the console stays closed until its end is known
  generalize hcycled : p.console.cycle p.client p.bus = cycle at hcycle
  dsimp only at hcycle
  rcases hended : cycle w.time.2 with _ | ⟨report₁, console, client, bus, w₁⟩
  · rw [hended] at hcycle
    cases hcycle
  · rw [hended] at hcycle
    cases hcycle
    rw [← hcycled] at hended
    obtain ⟨s, hsame, _, _, hconsole, _⟩ := Console.cycle_eq_some hended
    have hfiles := Console.cycle_files hended hact
    cases hsame.symm.trans hact
    exact ⟨hconsole, hfiles⟩

/-! ### Shutdowns

A shutdown has three outcomes: nothing, when there was one before; only the closing, when there was
no startup; and the handing back of the baseline between the two. Which of them it is depends on
what the panel remembers, and there the twins agree.
-/

/-- Settling is waiting for the echo of the last command, if there was one. -/
theorem settle_cases {b : Int32} (h : p.settle b w = some (p', w')) :
    p.client.serial = b ∧ p' = p ∧ w' = w ∨
      p.client.serial ≠ b ∧ ∃ limit r client w₁,
        p.client.waitReceivedFor p.client.serial limit w = some (r, client, w₁) ∧
          p' = { p with client } ∧ w'.simulator = w₁.simulator ∧ w'.directory = w₁.directory := by
  unfold settle at h
  dsimp only at h
  split at h  -- there is a wait only if a number was spent
  · next hserial =>
      cases h
      exact .inl ⟨hserial, rfl, rfl⟩
  · next hserial =>
      refine .inr ⟨hserial, ?_⟩
      split at h
      · cases h
      · next hwait =>
          cases h
          exact ⟨_, _, _, _, hwait, rfl, rfl, rfl⟩
      · next hwait =>
          cases h
          exact ⟨_, _, _, _, hwait, rfl, rfl, rfl⟩

/-- Handing the baseline back is a message, and messages touch no file. -/
theorem directory_restoreBaseline (p : Panel Simulated.transport) (b : Int32) (w : World) :
    (p.restoreBaseline b w).2.directory = w.directory := by
  unfold restoreBaseline
  rw [Client.send_simulated]
  cases p.client.link.canSend w <;> rfl

/-- The end of a shutdown. -/
def finish (handed : Panel Simulated.transport × World) : Panel Simulated.transport × World :=
  ({ handed.1 with client := (handed.1.client.close handed.2).1 },
    (handed.1.client.close handed.2).2.note .info .lifecycle "bridge shut down")

/-- What a shutdown does: nothing if it was done before, and else it closes the channels, after
it has handed back the baseline that there is. -/
structure Quits (p : Panel Simulated.transport) (w : World)
    (quit : Panel Simulated.transport × World) : Prop where
  again : p.ended = true → quit = ({ p with running := false }, w)
  early : p.ended = false → p.baseline = none →
    quit = finish ({ p with running := false, ended := true }, w)
  late : ∀ b, p.ended = false → p.baseline = some b →
    ∃ p₁ w₁, settle { p with running := false, ended := true } b w = some (p₁, w₁) ∧
      quit = finish (p₁.restoreBaseline b w₁)

theorem quits (h : p.shutdown w = some (p', w')) : p.Quits w (p', w') := by
  obtain ⟨client, console, bus, running, baseline, cycleTime, stats, ended⟩ := p
  unfold shutdown at h
  dsimp only at h
  -- the three outcomes in turn; the two flags decide which one it is
  refine ⟨fun hended => ?_, fun hended hbaseline => ?_, fun b hended hbaseline => ?_⟩
  · dsimp only at hended
    subst hended
    cases h
    rfl
  · dsimp only at hended hbaseline
    subst hended hbaseline
    cases h
    rfl
  · dsimp only at hended hbaseline ⊢
    subst hended hbaseline
    rcases hsettle : settle
        { client, console, bus, running := false, baseline := some b, cycleTime, stats,
          ended := true } b w with _ | ⟨p₁, w₁⟩
    · simp only [hsettle] at h
      cases h
    · simp only [hsettle] at h
      cases h
      exact ⟨p₁, w₁, rfl, rfl⟩

end Panel

/-! ### Twin sessions

Between two events nothing waits, and both know what their controllers showed last. This is more
than what holds in the middle of a cycle, where one of the two may know of an echo that the other
has not looked for yet.
-/

/-- What happened in a turn, whatever came of it: the sample, and what became of the commands
before anybody waited for them. -/
def Turn.course (turn : Turn) : Option InputSample × List (Command × Bool × Bool) :=
  (turn.sample, turn.attempts.map (·.fate))

namespace Session

variable {s s' t t' : Session} {last edits : Nat}

/-- **Two sessions in which the same was sent**, between two events. -/
structure Twins (last edits : Nat) (s s' : Session) : Prop where
  console : s.panel.console.Matches s'.panel.console
  bus : s'.panel.bus = s.panel.bus
  baseline : s'.panel.baseline = s.panel.baseline
  ended : s'.panel.ended = s.panel.ended
  client : s.panel.client.Twins last edits s.world s'.panel.client s'.world
  known : s.panel.client.status.Matches s'.panel.client.status

namespace Twins

/-- What the operations of the client leave alone. -/
theorem withClient (h : Twins last edits s s') {c c' : Client Simulated.transport} {w w' : World}
    (hclient : c.Twins last edits w c' w') (hknown : c.status.Matches c'.status) :
    Twins last edits (s.withClient c w) (s'.withClient c' w') :=
  ⟨h.console, h.bus, h.baseline, h.ended, hclient, hknown⟩

/-! #### Cycles -/

/-- Both take the same sample, and it leaves the same behind. -/
theorem sampling (h : Twins last edits s s') :
    s'.panel.sampled s'.world = s.panel.sampled s.world ∧
      (s'.panel.bus.sample s'.world.time.2).2.1 = (s.panel.bus.sample s.world.time.2).2.1 ∧
      (s'.panel.bus.sample s'.world.time.2).2.2.directory
        = (s.panel.bus.sample s.world.time.2).2.2.directory := by
  have hfiles : s'.world.time.2.directory = s.world.time.2.directory := h.client.link.directory
  unfold Panel.sampled
  rw [h.bus]
  exact s.panel.bus.sample_files hfiles

/-- And both decide on the same. -/
theorem scanned (h : Twins last edits s s') :
    (s'.panel.decided s'.world).1 = (s.panel.decided s.world).1 ∧
      (s.panel.scanned s.world).Twins last edits (s'.panel.scanned s'.world) := by
  obtain ⟨hsampled, _, hfiles⟩ := h.sampling
  obtain ⟨hactions, hconsole⟩ := h.console.scan h.known (s.panel.sampled s.world)
  have hclient := h.client.inWorlds (s.panel.simulator_scanned s.world)
    (s'.panel.simulator_scanned s'.world) hfiles
  refine ⟨?_, ?_, hclient⟩
  · rw [Panel.decided, Panel.decided, hsampled]
    exact hactions
  · unfold Panel.scanned Panel.decided
    dsimp only
    rw [hsampled]
    exact hconsole

/-- **A cycle by both**: the same sample, the same attempts, and the same outputs. -/
theorem cycle (h : Twins last edits s s') {report report' : CycleReport}
    {p p' : Panel Simulated.transport} {w w' : World}
    (hcycle : s.panel.cycle s.world = some (report, p, w))
    (hcycle' : s'.panel.cycle s'.world = some (report', p', w'))
    (hlast : w.simulator.received.length ≤ last) :
    (s'.panel.attempts s'.world).map (fun m => (m.1, m.2.fate))
        = (s.panel.attempts s.world).map (fun m => (m.1, m.2.fate)) ∧
      Twins last edits ⟨p, w⟩ ⟨p', w'⟩ := by
  obtain ⟨hsampled, hbus, _⟩ := h.sampling
  obtain ⟨hactions, hscanned⟩ := h.scanned
  obtain ⟨acted, tidied, hcycled⟩ := Panel.cycled hcycle
  obtain ⟨acted', tidied', hcycled'⟩ := Panel.cycled hcycle'
  -- the actions of both were chosen from consoles that match, so the lists are the same
  have hmade := hcycled.performs
  have hmade' := hcycled'.performs
  rw [hactions] at hmade'
  have hacted : acted.world.simulator.received.length ≤ last := by
    rw [← hcycled.tidies.received, ← hcycled.simulator]
    exact hlast
  obtain ⟨hfates, hperformed⟩ := hscanned.performs hmade hmade' hacted
  obtain ⟨htidied, hknown⟩ := (hperformed.passNotices maxNoticesPerCycle).refresh
  rw [← hcycled.tidied_eq, ← hcycled'.tidied_eq] at htidied hknown
  obtain ⟨hconsole, hfiles⟩ := hcycled.leaves hcycle
  obtain ⟨hconsole', hfiles'⟩ := hcycled'.leaves hcycle'
  -- the outputs are those for what both know after their last look
  have houtputs : tidied'.console.outputs tidied'.client
      = tidied.console.outputs tidied.client := by
    unfold Console.outputs
    rw [htidied.console.setup]
    exact hknown.outputs _ _
  obtain ⟨_, hpublished, hpublishedFiles⟩ :=
    (s.panel.bus.sample s.world.time.2).2.1.publish_files
      (tidied.console.outputs tidied.client) htidied.client.link.directory
  refine ⟨hfates, ?_, ?_, ?_, ?_, ?_, ?_⟩
  · rw [hconsole, hconsole']
    refine ⟨htidied.console.setup, ?_, htidied.console.feed, htidied.console.spindle⟩
    dsimp only
    rw [hsampled, htidied.console.previous, htidied.console.setup]
  · rw [hcycled.bus, hcycled'.bus, hbus, houtputs]
    exact hpublished
  · rw [hcycled.baseline, hcycled'.baseline]
    exact h.baseline
  · rw [hcycled.ended, hcycled'.ended]
    exact h.ended
  · rw [hcycled.client, hcycled'.client]
    refine htidied.client.inWorlds hcycled.simulator hcycled'.simulator ?_
    rw [hfiles, hfiles', hbus, houtputs]
    exact hpublishedFiles
  · rw [hcycled.client, hcycled'.client]
    exact hknown

/-! #### Startups

A startup publishes, connects and looks, and at each of the three it may fail. It fails for both or
for none of them.
-/

/-- Both take their baseline, or none of them. -/
theorem captureBaseline {p p' : Panel Simulated.transport} {w w' : World}
    (h : Twins last edits ⟨p, w⟩ ⟨p', w'⟩) :
    (p'.captureBaseline w').1.isOk = (p.captureBaseline w).1.isOk ∧
      Twins last edits ⟨(p.captureBaseline w).2.1, (p.captureBaseline w).2.2⟩
        ⟨(p'.captureBaseline w').2.1, (p'.captureBaseline w').2.2⟩ := by
  obtain ⟨hconsole, hbus, hbaseline, hended, hclient, hknown⟩ := h
  dsimp only at hconsole hbus hbaseline hended hclient hknown
  have hsimulator := p.bus.simulator_publish (.inactive p.console.setup.axisCount) w
  have hsimulator' := p.bus.simulator_publish (.inactive p.console.setup.axisCount) w'
  obtain ⟨hresult, hpublished, hfiles⟩ :=
    p.bus.publish_files (.inactive p.console.setup.axisCount) hclient.link.directory
  unfold Panel.captureBaseline
  rw [hbus, hconsole.setup]
  generalize p.bus.publish (.inactive p.console.setup.axisCount) w = published
    at hsimulator hresult hpublished hfiles ⊢
  generalize p.bus.publish (.inactive p.console.setup.axisCount) w' = published'
    at hsimulator' hresult hpublished hfiles ⊢
  obtain ⟨r, bus, v⟩ := published
  obtain ⟨r', bus', v'⟩ := published'
  dsimp only at hsimulator hsimulator' hresult hpublished hfiles
  subst hresult hpublished
  have hpublishing := hclient.inWorlds hsimulator hsimulator' hfiles
  cases r' with
  | error e => exact ⟨rfl, hconsole, rfl, hbaseline, hended, hpublishing, hknown⟩
  | ok =>
      obtain ⟨hok, hlooked, hseen⟩ := hpublishing.refresh
      dsimp only
      generalize p.client.refresh v = looked, p'.client.refresh v' = looked'
        at hok hlooked hseen ⊢
      obtain ⟨r, client, u⟩ := looked
      obtain ⟨r', client', u'⟩ := looked'
      dsimp only at hok hlooked hseen
      cases r <;> cases r'
      · exact ⟨rfl, hconsole, rfl, hbaseline, hended, hlooked, hseen⟩
      · cases hok
      · cases hok
      · -- the serials go on from what the controllers echo, which is the same
        refine ⟨rfl, hconsole, rfl, congrArg some hseen.echo, hended, ?_, hseen⟩
        exact
          { serial := hseen.echo
            link := hlooked.link.around rfl rfl rfl rfl
            sound := hlooked.sound.apart (.ofSimulator rfl rfl rfl) hlooked.sound.clear rfl
            sound' := hlooked.sound'.apart (.ofSimulator rfl rfl rfl) hlooked.sound'.clear rfl
            dark := hlooked.dark }

/-- **A startup by both.** -/
theorem startup {p p' : Panel Simulated.transport} {w w' : World}
    (h : Twins last edits ⟨p, w⟩ ⟨p', w'⟩) :
    Twins last edits ⟨(p.startup w).2.1, (p.startup w).2.2⟩
      ⟨(p'.startup w').2.1, (p'.startup w').2.2⟩ := by
  obtain ⟨hconsole, hbus, hbaseline, hended, hclient, hknown⟩ := h
  dsimp only at hconsole hbus hbaseline hended hclient hknown
  unfold Panel.startup
  dsimp only
  generalize hnoted : w.note .info .lifecycle "starting bridge" [("transport",
    Simulated.transport.name), ("axes", Text.decimal p.console.setup.axisCount)] = noted
  generalize hnoted' : w'.note .info .lifecycle "starting bridge" [("transport",
    Simulated.transport.name), ("axes", Text.decimal p'.console.setup.axisCount)] = noted'
  -- the first line differs only in the journal
  have hstarting : p.client.Twins last edits noted p'.client noted' := by
    rw [← hnoted, ← hnoted']
    exact hclient.inWorlds rfl rfl hclient.link.directory
  obtain ⟨hresult, hconnected⟩ := hstarting.connect hknown
  have hwatch : (p.client.connect noted).2.1.status = p.client.status := rfl
  have hwatch' : (p'.client.connect noted').2.1.status = p'.client.status := rfl
  generalize p.client.connect noted = connected, p'.client.connect noted' = connected'
    at hresult hconnected hwatch hwatch' ⊢
  obtain ⟨r, client, v⟩ := connected
  obtain ⟨r', client', v'⟩ := connected'
  dsimp only at hresult hconnected hwatch hwatch'
  subst hresult
  rw [← hwatch, ← hwatch'] at hknown
  -- when the one cannot connect, neither can the other
  cases r' with
  | error e => exact ⟨hconsole, hbus, hbaseline, hended, hconnected, hknown⟩
  | ok =>
      have hopened : Twins last edits ⟨{ p with client }, v⟩ ⟨{ p' with client := client' }, v'⟩ :=
        ⟨hconsole, hbus, hbaseline, hended, hconnected, hknown⟩
      obtain ⟨hok, hcaptured⟩ := hopened.captureBaseline
      dsimp only
      generalize Panel.captureBaseline { p with client } v = captured,
        Panel.captureBaseline { p' with client := client' } v' = captured' at hok hcaptured ⊢
      obtain ⟨r, q, u⟩ := captured
      obtain ⟨r', q', u'⟩ := captured'
      dsimp only at hok hcaptured  -- the baselines are taken or not taken together
      cases r <;> cases r'
      · refine ⟨hcaptured.console, hcaptured.bus, hcaptured.baseline, hcaptured.ended, ?_,
          hcaptured.known⟩
        exact .close (hcaptured.client.inWorlds rfl rfl hcaptured.client.link.directory)
          hcaptured.known
      · cases hok
      · cases hok
      · exact ⟨hcaptured.console, hcaptured.bus, hcaptured.baseline, hcaptured.ended,
          hcaptured.client, hcaptured.known⟩

/-! #### Shutdowns

The wait of a shutdown is for the echo of the last command. It is the one place besides the
dispatching where a panel waits, and like any wait it leaves the two as twins.
-/

variable {p p' q q' : Panel Simulated.transport} {w w' v v' : World} {b : Int32}

/-- Both wait for the last command, or none of them has sent one. In either case they know the same
afterwards. -/
theorem settle (h : Twins last edits ⟨p, w⟩ ⟨p', w'⟩) (hsettle : p.settle b w = some (q, v))
    (hsettle' : p'.settle b w' = some (q', v')) : Twins last edits ⟨q, v⟩ ⟨q', v'⟩ := by
  obtain ⟨hconsole, hbus, hbaseline, hended, hclient, hknown⟩ := h
  dsimp only at hconsole hbus hbaseline hended hclient hknown
  obtain ⟨hserial, rfl, rfl⟩ | ⟨hserial, limit, r, c, u, hwait, rfl, hsimulator, hfiles⟩ :=
      Panel.settle_cases hsettle <;>
    obtain ⟨hserial', rfl, rfl⟩ | ⟨hserial', limit', r', c', u', hwait', rfl, hsimulator', hfiles'⟩
      := Panel.settle_cases hsettle' <;>
    rw [hclient.serial] at hserial'
  · exact ⟨hconsole, hbus, hbaseline, hended, hclient, hknown⟩
  · exact absurd hserial hserial'
  · exact absurd hserial' hserial
  · rw [hclient.serial] at hwait'
    have hwaited := hclient.waits (Client.waitReceivedFor_waits hwait)
      (Client.waitReceivedFor_waits hwait')
    -- a wait that had a channel ends on a look, and one without a channel changes nothing
    have hseen : c.status.Matches c'.status := by
      cases hopen : p.client.link.status.isSome with
      | false =>
          refine hwaited.dark' ?_
          rw [(Client.waitReceivedFor_waits hwait).steady.status]
          exact hopen
      | true =>
          rw [hclient.sound.waitReceivedFor_current hwait hopen,
            hclient.sound'.waitReceivedFor_current hwait' (hclient.link.channel.trans hopen)]
          exact hwaited.link.simulator.status
    refine ⟨hconsole, hbus, hbaseline, hended, hwaited.inWorlds hsimulator hsimulator' ?_, hseen⟩
    rw [hfiles, hfiles']
    exact hwaited.link.directory

/-- Both hand the baseline back, or none of them can. -/
theorem restoreBaseline (h : Twins last edits ⟨p, w⟩ ⟨p', w'⟩)
    (hlast : (p.restoreBaseline b w).2.simulator.received.length ≤ last) :
    Twins last edits ⟨(p.restoreBaseline b w).1, (p.restoreBaseline b w).2⟩
      ⟨(p'.restoreBaseline b w').1, (p'.restoreBaseline b w').2⟩ := by
  obtain ⟨hconsole, hbus, hbaseline, hended, hclient, hknown⟩ := h
  dsimp only at hconsole hbus hbaseline hended hclient hknown
  obtain ⟨hpanel, hsimulator⟩ := p.restoreBaseline_simulated b w
  obtain ⟨hpanel', hsimulator'⟩ := p'.restoreBaseline_simulated b w'
  rw [hpanel, hpanel']
  refine ⟨hconsole, hbus, hbaseline, hended, ?_, hknown⟩
  have hfiles : (p'.restoreBaseline b w').2.directory = (p.restoreBaseline b w).2.directory := by
    rw [Panel.directory_restoreBaseline, Panel.directory_restoreBaseline]
    exact hclient.link.directory
  unfold Panel.handedBack at hsimulator hsimulator'
  rw [hclient.link.canSend] at hsimulator'
  split at hsimulator  -- the message is sent in both or in none
  · next hcan =>
      rw [if_pos hcan] at hsimulator'
      rw [hsimulator] at hlast
      have hlength : (w.simulator.receive { serial := b, command := .null }).received.length
          = w.simulator.received.length + 1 := List.length_append
      have htold := hclient.receive { serial := b, command := .null } (by omega)
      exact htold.inWorlds hsimulator hsimulator' hfiles
  · next hcan =>
      rw [if_neg hcan] at hsimulator'
      exact hclient.inWorlds hsimulator hsimulator' hfiles

/-- Closing is all that is left to do. -/
theorem finish {handed handed' : Panel Simulated.transport × World}
    (h : Twins last edits ⟨handed.1, handed.2⟩ ⟨handed'.1, handed'.2⟩) :
    Twins last edits ⟨(Panel.finish handed).1, (Panel.finish handed).2⟩
      ⟨(Panel.finish handed').1, (Panel.finish handed').2⟩ := by
  have hclosed := h.client.close h.known
  exact ⟨h.console, h.bus, h.baseline, h.ended,
    hclosed.inWorlds rfl rfl hclosed.link.directory, h.known⟩

/-- **A shutdown by both.** -/
theorem shutdown (h : Twins last edits ⟨p, w⟩ ⟨p', w'⟩) (hshutdown : p.shutdown w = some (q, v))
    (hshutdown' : p'.shutdown w' = some (q', v')) (hlast : v.simulator.received.length ≤ last) :
    Twins last edits ⟨q, v⟩ ⟨q', v'⟩ := by
  have hending : Twins last edits ⟨{ p with running := false, ended := true }, w⟩
      ⟨{ p' with running := false, ended := true }, w'⟩ :=
    ⟨h.console, h.bus, h.baseline, rfl, h.client, h.known⟩
  have hquits := Panel.quits hshutdown
  have hquits' := Panel.quits hshutdown'
  -- both were shut down before, or none of them; both were started, or none of them
  cases hended : p.ended with
  | true =>
      cases hquits.again hended
      cases hquits'.again (h.ended.trans hended)
      exact ⟨h.console, h.bus, h.baseline, h.ended, h.client, h.known⟩
  | false =>
      cases hbaseline : p.baseline with
      | none =>
          cases hquits.early hended hbaseline
          cases hquits'.early (h.ended.trans hended) (h.baseline.trans hbaseline)
          exact hending.finish
      | some b =>
          obtain ⟨p₁, w₁, hsettle, hquit⟩ := hquits.late b hended hbaseline
          obtain ⟨p₁', w₁', hsettle', hquit'⟩ :=
            hquits'.late b (h.ended.trans hended) (h.baseline.trans hbaseline)
          cases hquit
          cases hquit'
          have hreceived : (p₁.restoreBaseline b w₁).2.simulator.received.length ≤ last := by
            rw [← (Client.close_simulated _ (p₁.restoreBaseline b w₁).2).2]
            exact hlast
          exact ((hending.settle hsettle hsettle').restoreBaseline hreceived).finish

end Twins
end Session

/-! ### Histories

A controller into which nothing is injected answers all that it gets, and its status may be edited
at will as long as an edit does not ask how far a command got. How often the status changes decides
whether its version can come round, so the edits are counted.
-/

/-- A script that injects nothing, and edits the status without asking how far a command got. -/
def Script.Plain : Script → Prop
  | .disturb fault => fault = none
  | .interject _ => False
  | .edit f => ∀ t t', t.Matches t' → (f t).Matches (f t')
  | _ => True

/-- Whatever happens to a panel that is left to itself, at a controller into which nothing is
injected. -/
def Event.Plain : Event → Prop
  | .work (.script script) => script.Plain
  | event => event.byPins = true

/-- How often an event edits the status. -/
def Event.edits : Event → Nat
  | .work (.script (.edit _)) => 1
  | _ => 0

/-- How often the status is edited. -/
def edits : List Event → Nat
  | [] => 0
  | event :: events => event.edits + edits events

/-- No event takes a message back. -/
theorem Session.Runs.length_le {s s' : Session} {events : List Event} {turns : List Turn}
    (h : s.Runs events turns s') :
    s.world.simulator.received.length ≤ s'.world.simulator.received.length := by
  refine h.controller (P := fun c => s.world.simulator.received.length ≤ c.received.length) ?_ ?_
    (Nat.le_refl _)
  · intro c c' hused hc
    exact Nat.le_trans hc hused.length_le
  · intro script _ c hc
    rw [script.received_apply]
    exact hc

/-- A plain script for two controllers that look the same. -/
theorem Script.Plain.sameButLooks {script : Script} (hplain : script.Plain) {c c' : Simulator}
    (h : c.SameButLooks c') : (script.apply c).SameButLooks (script.apply c') := by
  cases script with
  | acknowledge ack => exact { h with ack := rfl }
  | validate valid => exact { h with commandValid := rfl }
  | disturb fault => exact { h with fault := rfl }
  | interject type => exact hplain.elim
  | edit f => exact { h with status := hplain _ _ h.status }
  | report notice => exact { h with notices := congrArg (· ++ [notice]) h.notices }
  | failOpens count => exact { h with failingOpens := rfl }

/-- A client follows its controller through plain scripts. -/
theorem Script.Plain.sound {script : Script} (hplain : script.Plain) {last edits : Nat}
    {c : Client Simulated.transport} {w : World}
    (h : c.Sound last (edits + Event.edits (.work (.script script))) w) :
    c.Sound last edits { w with simulator := script.apply w.simulator } := by
  have hfault := h.clear.fault
  have hunexpected := h.clear.unexpected
  cases script with
  | edit f => exact h.edit f
  | interject type => exact hplain.elim
  | disturb fault => exact h.apart ⟨rfl, .inl rfl, rfl, rfl, rfl⟩ ⟨hplain, hunexpected⟩ rfl
  | _ => exact h.apart ⟨rfl, .inl rfl, rfl, rfl, rfl⟩ ⟨hfault, hunexpected⟩ rfl

namespace Session

variable {s s' t t' : Session} {last edits : Nat}

namespace Twins

/-- A script for both controllers. -/
theorem script {script : Script} (hplain : script.Plain)
    (h : Twins last (edits + Event.edits (.work (.script script))) s s') :
    Twins last edits
      { s with world := { s.world with simulator := script.apply s.world.simulator } }
      { s' with world := { s'.world with simulator := script.apply s'.world.simulator } } where
  console := h.console
  bus := h.bus
  baseline := h.baseline
  ended := h.ended
  client :=
    { serial := h.client.serial
      link := { h.client.link with simulator := hplain.sameButLooks h.client.link.simulator }
      sound := hplain.sound h.client.sound
      sound' := hplain.sound h.client.sound'
      dark := h.client.dark }
  known := h.known

/-- **One event in both sessions.** -/
theorem next {event : Event} {turn turn' : Turn} (h : Twins last (edits + event.edits) s s')
    (hplain : event.Plain) (hnext : s.next event = some (turn, t))
    (hnext' : s'.next event = some (turn', t'))
    (hlast : t.world.simulator.received.length ≤ last) :
    turn'.course = turn.course ∧ Twins last edits t t' := by
  cases event with
  | startup => -- the startup and the shutdown of a session are those of its panel
      have hstartup := startup (p := s.panel) (w := s.world) h
      cases hnext
      cases hnext'
      exact ⟨rfl, hstartup⟩
  | shutdown =>
      obtain ⟨panel, world, hshutdown, rfl, rfl⟩ := shutdown_of_next hnext
      obtain ⟨panel', world', hshutdown', rfl, rfl⟩ := shutdown_of_next hnext'
      exact ⟨rfl, shutdown h hshutdown hshutdown' hlast⟩
  | work work =>
      cases work with
      | script script =>
          cases hnext
          cases hnext'
          exact ⟨rfl, .script hplain h⟩
      | pins bus =>
          cases hnext
          cases hnext'
          exact ⟨rfl, h.console, rfl, h.baseline, h.ended, h.client, h.known⟩
      | files directory =>
          cases hnext
          cases hnext'
          exact ⟨rfl, h.console, h.bus, h.baseline, h.ended, h.client.inWorlds rfl rfl rfl, h.known⟩
      | pause span =>
          cases hnext
          cases hnext'
          exact ⟨rfl, h.console, h.bus, h.baseline, h.ended,
            h.client.inWorlds rfl rfl h.client.link.directory, h.known⟩
      | cycle =>
          rw [Session.next] at hnext hnext'
          obtain ⟨report, panel, world, hcycle, rfl, rfl⟩ := cycle_of_does hnext
          obtain ⟨report', panel', world', hcycle', rfl, rfl⟩ := cycle_of_does hnext'
          obtain ⟨hfates, htwins⟩ := h.cycle hcycle hcycle' hlast
          refine ⟨?_, htwins⟩
          have hattempts := congrArg (List.map Prod.snd) hfates
          rw [List.map_map, List.map_map] at hattempts
          unfold Turn.course
          dsimp only
          rw [h.sampling.1, List.map_map, List.map_map]
          exact congrArg _ hattempts
      | dispatch command policy => cases hplain
      | runProgram line => cases hplain
      | refresh =>
          obtain ⟨_, hlooked, hknown⟩ := h.client.refresh
          cases hnext
          cases hnext'
          exact ⟨rfl, h.withClient hlooked hknown⟩
      | poll =>
          obtain ⟨_, hpolled⟩ := h.client.poll
          cases hnext
          cases hnext'
          exact ⟨rfl, h.withClient hpolled h.known⟩

/-- **A history in both sessions.** -/
theorem runs {events : List Event} {turns turns' : List Turn}
    (h : Twins last (edits + OperatorPanel.edits events) s s')
    (hplain : ∀ event ∈ events, event.Plain) (hruns : Runs s events turns t)
    (hruns' : Runs s' events turns' t') (hlast : t.world.simulator.received.length ≤ last) :
    turns'.map (·.course) = turns.map (·.course) ∧ Twins last edits t t' := by
  -- by induction on the run of the first session; the second has the same events to go through
  induction hruns generalizing s' turns' with
  | nil s =>
      cases hruns'
      exact ⟨rfl, h⟩
  | @cons s s₁ t event events turn turns hnext hrest ih =>
      cases hruns' with
      | @cons _ s₁' _ _ _ turn' turns' hnext' hrest' =>
          -- one event is spent, the edits of the others are still to come
          have hcount : edits + OperatorPanel.edits (event :: events)
              = edits + OperatorPanel.edits events + event.edits := by
            show edits + (event.edits + OperatorPanel.edits events) = _
            omega
          rw [hcount] at h
          obtain ⟨hevent, hafter⟩ := List.forall_mem_cons.1 hplain
          obtain ⟨hcourse, htwins⟩ :=
            h.next hevent hnext hnext' (Nat.le_trans hrest.length_le hlast)
          obtain ⟨hcourses, hended⟩ := ih htwins hafter hrest' hlast
          refine ⟨?_, hended⟩
          rw [List.map_cons, List.map_cons, hcourses, hcourse]

end Twins

/-! ### What does not depend on the wait policy

What a user sees of the panel and of the controller is in this list. It leaves out what was looked
at and how long it took.
-/

/-- Two sessions that agree: the controllers have received the same, the panels remember the same,
and what they have published is the same. -/
structure Agrees (s s' : Session) : Prop where
  received : s'.world.simulator.received = s.world.simulator.received
  serial : s'.panel.client.serial = s.panel.client.serial
  baseline : s'.panel.baseline = s.panel.baseline
  previous : s'.panel.console.previous = s.panel.console.previous
  feed : s'.panel.console.feedOverride = s.panel.console.feedOverride
  spindle : s'.panel.console.spindleOverride = s.panel.console.spindleOverride
  bus : s'.panel.bus = s.panel.bus
  directory : s'.world.directory = s.world.directory

theorem Twins.agrees (h : Twins last edits s s') : s.Agrees s' where
  received := h.client.link.simulator.received
  serial := h.client.serial
  baseline := h.baseline
  previous := h.console.previous
  feed := h.console.feed
  spindle := h.console.spindle
  bus := h.bus
  directory := h.client.link.directory

end Session

namespace Panel

/-- A panel with another wait policy. -/
def withPolicy (p : Panel Simulated.transport) (policy : WaitPolicy) :
    Panel Simulated.transport :=
  { p with client := { p.client with wait := { p.client.wait with policy } } }

/-- The wait policy has no part in what else a panel is made of. -/
theorem create_policy {settings : Settings} {bus : PinBus} {p : Panel Simulated.transport}
    (h : Panel.create Simulated.transport settings bus = .ok p) (policy : WaitPolicy) :
    Panel.create Simulated.transport { settings with waitPolicy := policy } bus
      = .ok (p.withPolicy policy) := by
  have hfault : Settings.fault? { settings with waitPolicy := policy } = settings.fault? := rfl
  have hsetup : Setup.ofSettings { settings with waitPolicy := policy }
      = Setup.ofSettings settings := rfl
  obtain ⟨hvalid, setup, hmade, rfl⟩ := create_eq_ok h
  unfold create withPolicy
  rw [hfault, hvalid, hsetup, hmade]
  dsimp only
  rfl

/-- **The wait policy never changes what is sent.** A panel with a limit on its waits, and the same
panel with another wait policy, at a controller into which nothing is injected: whatever happens in
between, both histories can be gone through to their end. There the controllers have received the
same messages, under the same serials, and the panels remember the same samples and overrides and
have published the same outputs. So it is at every point of a history, since its beginning is a
history too. The same commands were tried, passed the checks and were written; only what came of
them may differ.

The controller counts its statuses from one, and the count must not come round to zero. -/
theorem policy_unseen {settings : Settings} {bus : PinBus} {p : Panel Simulated.transport}
    {w : World} {events : List Event} (policy : WaitPolicy)
    (hcreate : Panel.create Simulated.transport settings bus = .ok p)
    (hlimit : settings.waitLimit.isSome = true) (hcounted : 0 < w.simulator.version)
    (hclear : w.simulator.Clear) (hplain : ∀ event ∈ events, event.Plain) :
    Panel.create Simulated.transport { settings with waitPolicy := policy } bus
        = .ok (p.withPolicy policy) ∧
      ∃ turns s turns' s', Session.Runs ⟨p, w⟩ events turns s ∧
        Session.Runs ⟨p.withPolicy policy, w⟩ events turns' s' ∧
        (w.simulator.Spare s.world.simulator.received.length (edits events) →
          s.Agrees s' ∧ turns'.map (·.course) = turns.map (·.course)) := by
  -- both histories can be gone through since every wait has a limit; what they agree on is a matter
  -- of the invariant
  refine ⟨create_policy hcreate policy, ?_⟩
  have hbounded := bounded_of_create hcreate hlimit
  have hbounded' : (p.withPolicy policy).client.Bounded := ⟨hbounded.limit, hbounded.interval⟩
  obtain ⟨turns, s, hruns⟩ := Session.runs_exist (s := ⟨p, w⟩) hbounded events
  obtain ⟨turns', s', hruns'⟩ :=
    Session.runs_exist (s := ⟨p.withPolicy policy, w⟩) hbounded' events
  refine ⟨turns, s, turns', s', hruns, hruns', fun hspare => ?_⟩
  have hclosed := (new_of_create hcreate).link.2
  have hsound : p.client.Sound s.world.simulator.received.length (0 + edits events) w := by
    rw [Nat.zero_add]
    exact ⟨.ofClosed hclosed hcounted, hclear, hspare⟩
  have htwins : Session.Twins s.world.simulator.received.length (0 + edits events) ⟨p, w⟩
      ⟨p.withPolicy policy, w⟩ :=
    { console := ⟨rfl, rfl, rfl, rfl⟩
      bus := rfl
      baseline := rfl
      ended := rfl
      client :=
        { serial := rfl
          link := .refl _ _
          sound := hsound
          sound' := hsound.apart ⟨rfl, .inl rfl, rfl, rfl, rfl⟩ hclear rfl
          dark := fun _ => .refl _ }
      known := .refl _ }
  obtain ⟨hcourses, hended⟩ := htwins.runs hplain hruns hruns' (Nat.le_refl _)
  exact ⟨hended.agrees, hcourses⟩

/-- A command that the controller receives and never ends. -/
def unfinished : List Event :=
  [.startup, .work (.script (.acknowledge .receive)),
    .work (.pins (pressing (.control .machineOn))), .work .cycle, .shutdown]

/-- Whether the attempts of a history have succeeded. -/
def successes (turns : List Turn) : List Bool :=
  turns.flatMap fun turn => turn.attempts.map (·.result.isOk)

/-- A panel that waits until its commands are done comes to its limit, and one that does not wait
has its command accepted; the controller has the same two messages from both. -/
theorem policy_unseen_unfinished :
    ∃ p turns s turns' s',
      Panel.create Simulated.transport timed { carrier := .memory {} } = .ok p ∧
      Session.Runs ⟨p, .echoing 7⟩ unfinished turns s ∧ successes turns = [false] ∧
      Session.Runs ⟨p.withPolicy .none, .echoing 7⟩ unfinished turns' s' ∧
      successes turns' = [true] ∧ s.Agrees s' ∧
      s.world.simulator.received = [{ serial := 8, command := .setTaskState .on },
        { serial := 7, command := .null }] := by
  have hplays : PlaysWith timed unfinished (fun _ turns s => decide (successes turns = [false] ∧
      s.world.simulator.received = [{ serial := 8, command := .setTaskState .on },
        { serial := 7, command := .null }])) := by
    decide +kernel
  have hplays' : PlaysWith { timed with waitPolicy := .none } unfinished
      (fun _ turns _ => decide (successes turns = [true])) := by
    decide +kernel
  obtain ⟨p, turns, s, hcreate, hruns, hholds⟩ := hplays.runs
  obtain ⟨q, turns', s', hcreate', hruns', hholds'⟩ := hplays'.runs
  obtain ⟨hfailed, hreceived⟩ := of_decide_eq_true hholds
  have hplain : ∀ event ∈ unfinished, event.Plain := by
    simp [unfinished, Event.Plain, Script.Plain, Event.byPins]
  obtain ⟨hmade, turns₁, s₁, turns₁', s₁', hruns₁, hruns₁', hagree⟩ :=
    policy_unseen (w := .echoing 7) .none hcreate (by decide +kernel) (by decide) ⟨rfl, rfl⟩ hplain
  obtain ⟨rfl, rfl⟩ := hruns.unique hruns₁  -- the histories that were played are the only ones
  have hsame : q = p.withPolicy .none := Except.ok.inj (hcreate'.symm.trans hmade)
  subst hsame
  obtain ⟨rfl, rfl⟩ := hruns'.unique hruns₁'
  have hspare : (World.echoing 7).simulator.Spare s.world.simulator.received.length
      (edits unfinished) := by
    rw [hreceived]
    decide
  exact ⟨p, turns, s, turns', s', hcreate, hruns, hfailed, hruns', of_decide_eq_true hholds',
    (hagree hspare).1, hreceived⟩

end Panel
end OperatorPanel
