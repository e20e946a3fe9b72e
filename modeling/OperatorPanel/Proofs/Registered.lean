import OperatorPanel.Proofs.Notices

/-!
# Registered pins

Only the pins of the axes and lines that are set up have a say. Two histories in which the same
happens, and whose samples agree on these pins, have the same attempts, reports, messages and
outputs, whatever the other pins carry, and the one goes as far as the other
(`Panel.registered_only`); and what the cycles try is about axes and lines that are set up.

What two histories have to have in common on their way is `Session.MeetAlong`. It speaks of the
samples that the sessions take next, and not of what becomes of them: that both cycles come to an
end when one does is a consequence. What two moments have in common then is `Moment.Alike`: for one
event that is `Session.Level.moment`, for a history `Session.Level.moments`, and for one that can be
gone through `Session.Level.runs`.
-/

namespace OperatorPanel

/-! ### Two sessions, two moments

Sessions that differ only in what surrounds them are level. They find the same notices, which
sessions beside each other need not, and so their reports are the same to the last count.
-/

/-- Two sessions that differ in their buses, their files and their journals alone. -/
structure Session.Level (s s' : Session) : Prop where
  panel : s'.panel = { s.panel with bus := s'.panel.bus }
  world : s'.world = { s.world with
    directory := s'.world.directory, journal := s'.world.journal }

namespace Moment

/-- Two moments with the same attempts, reports and outputs, after which panels and controllers are
the same. -/
structure Alike (m m' : Moment) : Prop where
  attempts : m'.turn.attempts = m.turn.attempts
  report : m'.report = m.report
  shown : m'.shown = m.shown
  after : m.after.Level m'.after

end Moment

namespace Session

/-- What the events of two sessions take from the pins is the same: the samples agree on the pins
that are given, and what is shown is taken by both buses or by none of them. -/
structure MeetsOn (pins : List InputPin) (s : Session) (event event' : Event) (s' : Session) :
    Prop where
  agrees : ∀ now ∈ s.samples event, ∀ now' ∈ s'.samples event', InputSample.Agrees pins now now'
  accepts : ∀ shown ∈ s.shows event, ∀ shown' ∈ s'.shows event', shown'.2 = shown.2

instance (pins : List InputPin) (s : Session) (event event' : Event) (s' : Session) :
    Decidable (s.MeetsOn pins event event' s') :=
  decidable_of_iff ((∀ now ∈ s.samples event, ∀ now' ∈ s'.samples event',
      InputSample.Agrees pins now now') ∧
      ∀ shown ∈ s.shows event, ∀ shown' ∈ s'.shows event', shown'.2 = shown.2)
    ⟨fun h => ⟨h.1, h.2⟩, fun h => ⟨h.agrees, h.accepts⟩⟩

/-- Two histories that meet all along: as long as one of them goes on, what the next events take
from the pins is the same, and so it is after these. -/
def MeetAlong (pins : List InputPin) : Session → Session → List Event → List Event → Prop
  | s, s', event :: events, event' :: events' =>
    ((s.moment event).isSome ∨ (s'.moment event').isSome → s.MeetsOn pins event event' s') ∧
      ∀ m ∈ s.moment event, ∀ m' ∈ s'.moment event',
        MeetAlong pins m.after m'.after events events'
  | _, _, _, _ => True

instance decidableMeetAlong (pins : List InputPin) :
    ∀ s s' events events', Decidable (MeetAlong pins s s' events events')
  | s, s', event :: events, event' :: events' =>
    have after (m m' : Moment) := decidableMeetAlong pins m.after m'.after events events'
    inferInstanceAs (Decidable
      (((s.moment event).isSome ∨ (s'.moment event').isSome → s.MeetsOn pins event event' s') ∧
        ∀ m ∈ s.moment event, ∀ m' ∈ s'.moment event',
          MeetAlong pins m.after m'.after events events'))
  | _, _, [], _ => .isTrue (by unfold MeetAlong; trivial)
  | _, _, _ :: _, [] => .isTrue trivial

end Session

/-! ### Level sessions stay level

One event is compared first: what it does is decided by what the sessions share, and by what they
take from the pins. A history is compared by induction, and what both panels remember is carried
along, since that is what the next scan compares with.
-/

namespace Event.Like

variable {event event' : Event}

/-- Events that are alike report the same notice, or both none. -/
theorem reported (h : event.Like event') : event'.reported = event.reported := by
  cases h <;> rfl

end Event.Like

namespace Session

variable {s s' : Session} {m m' : Moment} {event event' : Event} {pins : List InputPin}

/-- Level sessions are those beside each other whose controllers have the same notices. -/
theorem level_iff :
    s.Level s' ↔ s.Beside s' ∧ s'.world.simulator.notices = s.world.simulator.notices := by
  constructor
  · rintro ⟨hpanel, hworld⟩
    refine ⟨⟨hpanel, ?_⟩, ?_⟩
    · rw [hworld]
      rfl
    · rw [hworld]
  · rintro ⟨hbeside, hnotices⟩
    refine ⟨hbeside.panel, ?_⟩
    have hworld : s'.world = s.world.amid s'.world.surroundings := hbeside.world
    rw [hworld, World.surroundings, hnotices]
    rfl

/-- Level sessions find the same notices. -/
theorem Level.pending (h : s.Level s') (n : Nat) :
    s'.panel.client.link.pending s'.world n = s.panel.client.link.pending s.world n := by
  unfold Link.pending
  rw [h.panel, h.world]

/-- A report is the same when it is the same up to the count of the notices, and the counts are. -/
theorem report_of_core {r r' : CycleReport} (hcore : r'.core = r.core)
    (hcount : r'.noticesPassed = r.noticesPassed) : r' = r := by
  calc r' = { r'.core with noticesPassed := r'.noticesPassed } := rfl
    _ = { r.core with noticesPassed := r.noticesPassed } := by rw [hcore, hcount]
    _ = r := rfl

/-- Cycles of level sessions that report the same, report as many notices. -/
theorem Level.report (h : s.Level s') (hmoment : s.moment event = some m)
    (hmoment' : s'.moment event' = some m')
    (hcore : m'.report.map (·.core) = m.report.map (·.core)) : m'.report = m.report := by
  have hpasses := (books_of_moment hmoment).passes
  have hpasses' := (books_of_moment hmoment').passes
  obtain ⟨_, rfl, _⟩ := next_of_moment hmoment
  obtain ⟨_, rfl, _⟩ := next_of_moment hmoment'
  rcases hreport : m.report with _ | r <;> rcases hreport' : m'.report with _ | r' <;>
    rw [hreport, hreport'] at hcore
  · cases hcore
  · cases hcore
  · have hcount : r'.noticesPassed = r.noticesPassed := by
      rw [hpasses r hreport, hpasses' r' hreport', h.pending]
    rw [report_of_core (Option.some.inj hcore) hcount]

/-- What level sessions have left is the same. -/
theorem Level.left (h : s.Level s') (hmoment : s.moment event = some m)
    (hmoment' : s'.moment event' = some m') (hlike : event.Like event')
    (hreport : m'.report = m.report) : m'.left = m.left := by
  have hnotices := (books_of_moment hmoment).notices
  have hnotices' := (books_of_moment hmoment').notices
  obtain ⟨_, rfl, rfl, _⟩ := next_of_moment hmoment
  obtain ⟨_, rfl, rfl, _⟩ := next_of_moment hmoment'
  -- equally many were waiting, equally many were passed on, and so equally many are left
  have hpending : m'.pending = m.pending := (level_iff.1 h).2
  have hpassed : m'.passed = m.passed := by
    unfold Moment.passed
    rw [hreport, hpending]
  have hhanded : m'.handed = m.handed := by
    unfold Moment.handed
    rw [Client.poll_eq, Client.poll_eq, h.pending]
    generalize m.event = event, m'.event = event' at hlike
    cases hlike <;> rfl
  rw [hpending, hpassed, hhanded, hlike.reported, hnotices] at hnotices'
  exact (List.append_cancel_left hnotices').symm

/-- Where events are alike and meet on the registered pins, the sessions meet. -/
theorem MeetsOn.meets (h : s.MeetsOn s.panel.console.setup.registered event event' s')
    (hlike : event.Like event') : s.Meets event s' := by
  constructor
  · rintro rfl
    cases hlike
    exact h.agrees _ rfl _ rfl
  · intro shown shown' hshows hshows'
    have hsame : s'.shows event' = s'.shows event := by cases hlike <;> rfl
    exact h.accepts shown hshows shown' (hsame.trans hshows')

/-- **Level sessions have moments that are alike, or both have none**, unless neither goes on and
nothing is known about what they take from the pins. -/
theorem Level.moment (h : s.Level s') (hlike : event.Like event')
    (hmeets : (s.moment event).isSome ∨ (s'.moment event').isSome →
      s.MeetsOn s.panel.console.setup.registered event event' s') :
    Option.Rel Moment.Alike (s.moment event) (s'.moment event') := by
  rcases hmoment : s.moment event with _ | m <;> rcases hmoment' : s'.moment event' with _ | m' <;>
    rw [hmoment, hmoment'] at hmeets
  · exact .none
  -- where one of them goes on, they meet, so that the other one does too
  all_goals
    have hmoments := (level_iff.1 h).1.moment hlike ((hmeets (by simp)).meets hlike)
    rw [hmoment, hmoment'] at hmoments
    cases hmoments
  next hbeside =>
    have hreport := h.report hmoment hmoment' hbeside.report
    exact .some
      { attempts := hbeside.attempts
        report := hreport
        shown := hbeside.shown
        after := level_iff.2 ⟨hbeside.after, h.left hmoment hmoment' hlike hreport⟩ }

/-- A moment of a panel that remembers leaves one that does, with the same setup. -/
theorem setup_of_moment (hremembers : ∃ before, s.panel.console.Remembers before)
    (hmoment : s.moment event = some m) :
    m.after.panel.console.setup = s.panel.console.setup ∧
      ∃ before, m.after.panel.console.Remembers before := by
  obtain ⟨before, hbefore⟩ := hremembers
  obtain ⟨hnext, _⟩ := next_of_moment hmoment
  obtain ⟨hsetup, hafter⟩ := remembers_next hbefore hnext
  exact ⟨hsetup, _, hafter⟩

/-- **Histories of level sessions that meet all along are alike**: the one goes as far as the other,
and event by event their moments are alike. -/
theorem Level.moments {events events' : List Event} (h : s.Level s')
    (hremembers : ∃ before, s.panel.console.Remembers before)
    (hlike : List.Forall₂ Event.Like events events')
    (hmeets : MeetAlong s.panel.console.setup.registered s s' events events') :
    List.Forall₂ Moment.Alike (s.moments events) (s'.moments events') := by
  -- by induction on the events; where both go on, what they have remembered still meets
  induction hlike generalizing s s' with
  | nil => exact .nil
  | @cons event event' events events' hlike _ ih =>
      obtain ⟨hmeet, hrest⟩ := hmeets
      have hmoments := h.moment hlike hmeet
      unfold Session.moments
      rcases hmoment : s.moment event with _ | m <;>
        rcases hmoment' : s'.moment event' with _ | m' <;>
        rw [hmoment, hmoment'] at hmoments <;> cases hmoments
      · exact .nil
      · next halike =>
          obtain ⟨hsetup, hafter⟩ := setup_of_moment hremembers hmoment
          have hmeets := hrest m hmoment m' hmoment'
          rw [← hsetup] at hmeets
          exact .cons halike (ih halike.after hafter hmeets)

/-- **When the one can be gone through, so can the other**, and they end level. -/
theorem Level.runs {events events' : List Event} {turns : List Turn} {t : Session} (h : s.Level s')
    (hremembers : ∃ before, s.panel.console.Remembers before)
    (hlike : List.Forall₂ Event.Like events events')
    (hmeets : MeetAlong s.panel.console.setup.registered s s' events events')
    (hruns : Runs s events turns t) :
    ∃ turns' t', Runs s' events' turns' t' ∧ t.Level t' := by
  induction hlike generalizing s s' turns with
  | nil =>
      cases hruns
      exact ⟨[], s', .nil s', h⟩
  | @cons event event' events events' hlike _ ih =>
      cases hruns with
      | cons hnext hruns =>
          obtain ⟨hmeet, hrest⟩ := hmeets
          have hmoment := moment_of_next hnext  -- the other history goes on where the one does
          have hmoments := h.moment hlike hmeet
          rcases hmoment' : s'.moment event' with _ | m' <;>
            rw [hmoment, hmoment'] at hmoments <;> cases hmoments
          next halike =>
            obtain ⟨hsetup, hafter⟩ := setup_of_moment hremembers hmoment
            have hmeets := hrest _ hmoment m' hmoment'
            rw [← hsetup] at hmeets
            obtain ⟨turns', t', hruns', hend⟩ := ih halike.after hafter hmeets hruns
            exact ⟨_, t', .cons (next_of_moment hmoment').1 hruns', hend⟩

/-- What a cycle of a history tries is within the setup. -/
theorem within_of_moment (hmoment : s.moment event = some m) {a : Attempt}
    (hsample : m.turn.sample.isSome = true) (ha : a ∈ m.turn.attempts) :
    a.command.Within s.panel.console.setup := by
  obtain ⟨hnext, _⟩ := next_of_moment hmoment
  have hsampled := sample_of_next hnext
  unfold samples at hsampled  -- only a cycle takes a sample
  split at hsampled
  · rw [next] at hnext
    obtain ⟨report, panel, world, hcycle, hturn, _⟩ := cycle_of_does hnext
    rw [hturn] at ha
    dsimp only at ha
    obtain ⟨made, hmade, rfl⟩ := List.mem_map.1 ha
    exact Panel.attempts_within hcycle hmade
  · rw [hsampled] at hsample
    cases hsample

end Session

/-! ### What acts

Two panels that were made from the same settings are level to begin with. That what they try is
within the setup is a property of each of them, and is proved for one.
-/

namespace Panel

/-- **Only registered pins act.** Take two panels with the same settings, at controllers that are
the same, and two histories in which the same happens, but that the pins are set by different buses
and different files. Let the samples agree, cycle by cycle, on the pins of the axes and the lines
that are set up, and let the buses take, or not take, what they are given alike. Then the histories
are alike: the one goes as far as the other, the same commands are tried, with the same results, the
cycles report the same, the same outputs are given to the buses, and after every event the panels
remember the same and the controllers have received and show the same. When the one can be gone
through to its end, the other can, and they end so.

What is tried for the pins is about the axes that are set up, nine at most, and every line is one of
the settings. -/
theorem registered_only {settings : Settings} {bus bus' : PinBus}
    {p p' : Panel Simulated.transport} {w w' : World} {events events' : List Event}
    (hcreate : Panel.create Simulated.transport settings bus = .ok p)
    (hcreate' : Panel.create Simulated.transport settings bus' = .ok p')
    (hworlds : w' = { w with directory := w'.directory, journal := w'.journal })
    (hlike : List.Forall₂ Event.Like events events')
    (hmeets : Session.MeetAlong
      (InputPin.registered settings.polarities.length settings.lines.length)
      ⟨p, w⟩ ⟨p', w'⟩ events events') :
    List.Forall₂ Moment.Alike (Session.moments ⟨p, w⟩ events) (Session.moments ⟨p', w'⟩ events') ∧
    (∀ turns s, Session.Runs ⟨p, w⟩ events turns s →
      ∃ turns' s', Session.Runs ⟨p', w'⟩ events' turns' s' ∧ s.Level s') ∧
    ∀ m ∈ Session.moments ⟨p, w⟩ events, m.turn.sample.isSome = true → ∀ a ∈ m.turn.attempts,
      (∀ axis, a.command.axis? = some axis →
        axis.toNat < min settings.polarities.length maxAxes) ∧
      (∀ v, a.command = .teleopVector v → ∀ n, min settings.polarities.length maxAxes ≤ n →
        v.components.getD n 0 = 0) ∧
      ∀ line, a.command = .mdiExecute line → line.text ∈ settings.lines := by
  obtain ⟨_, setup, hsetup, hp⟩ := create_eq_ok hcreate
  obtain ⟨_, setup', hsetup', hp'⟩ := create_eq_ok hcreate'
  cases hsetup.symm.trans hsetup'
  obtain ⟨haxes, hlines, _⟩ := Setup.ofSettings_eq_ok hsetup
  have hmade : p.console.setup = setup := by rw [hp]
  have hregistered : p.console.setup.registered
      = InputPin.registered settings.polarities.length settings.lines.length := by
    rw [hmade, Setup.registered_ofSettings hsetup]
  -- both panels come from the same settings, so they start level
  have hlevel : Session.Level ⟨p, w⟩ ⟨p', w'⟩ := by
    refine ⟨?_, hworlds⟩
    rw [hp, hp']
  have hnew : ∃ before, p.console.Remembers before :=
    ⟨.empty, Console.remembers_empty (new_of_create hcreate).previous⟩
  rw [← hregistered] at hmeets
  refine ⟨hlevel.moments hnew hlike hmeets,
    fun _ _ => hlevel.runs hnew hlike hmeets, ?_⟩
  -- along the first run the setup stays what it was, and so do its pins
  refine Session.forall_moments (P := fun s => s.panel.console.setup = setup ∧
    ∃ before, s.panel.console.Remembers before) ?_ ⟨hmade, hnew⟩ events
  rintro s event m ⟨hs, hremembers⟩ hmoment
  obtain ⟨hkept, hafter⟩ := Session.setup_of_moment hremembers hmoment
  refine ⟨fun hsample a ha => ?_, hkept.trans hs, hafter⟩
  have hwithin := Session.within_of_moment hmoment hsample ha
  rw [hs] at hwithin
  refine ⟨?_, ?_, ?_⟩
  · rw [← haxes]
    exact hwithin.axis
  · rw [← haxes]
    exact hwithin.vector
  · intro line hline
    rw [← hlines]
    exact List.mem_map_of_mem (hwithin.line line hline)

/-- The button that switches the machine on, next to buttons of an axis and of a line that the
machine does not have. -/
def beyond : PinBus where
  carrier := .memory (((MemoryBus.set {} (.control .machineOn) (.bit true)).set
    (.axis .jogPlus 7) (.bit true)).set (.line 5) (.bit true))

/-- A cycle with the pins of a bus. -/
def cycleWith (bus : PinBus) : List Event :=
  [.startup, .work (.pins bus), .work .cycle, .shutdown]

/-- A panel for six axes and no lines does not see buttons for an eighth axis and a sixth line. -/
theorem registered_only_beyond :
    ∃ p turns s, Panel.create Simulated.transport {} { carrier := .memory {} } = .ok p ∧
      List.Forall₂ Moment.Alike
        (Session.moments ⟨p, .echoing 7⟩ (cycleWith (pressing (.control .machineOn))))
        (Session.moments ⟨p, .echoing 7⟩ (cycleWith beyond)) ∧
      Session.Runs ⟨p, .echoing 7⟩ (cycleWith (pressing (.control .machineOn))) turns s ∧
      turns.flatMap (fun turn => turn.attempts.map (·.command)) = [.setTaskState .on] ∧
      ∃ turns' s', Session.Runs ⟨p, .echoing 7⟩ (cycleWith beyond) turns' s' ∧ s.Level s' := by
  have hplays : Plays (cycleWith (pressing (.control .machineOn))) (fun p turns _ => decide (
      Session.MeetAlong (InputPin.registered 6 0) ⟨p, .echoing 7⟩ ⟨p, .echoing 7⟩
        (cycleWith (pressing (.control .machineOn))) (cycleWith beyond) ∧
      turns.flatMap (fun turn => turn.attempts.map (·.command)) = [.setTaskState .on])) := by
    -- what the two runs meet, and what the first one attempts, is computed; that they agree follows
    decide +kernel
  obtain ⟨p, turns, s, hcreate, hruns, hholds⟩ := hplays.runs
  obtain ⟨hmeets, hmade⟩ := of_decide_eq_true hholds
  have hlike : List.Forall₂ Event.Like (cycleWith (pressing (.control .machineOn)))
      (cycleWith beyond) :=
    .cons (.same _) (.cons (.pins _ _) (.cons (.same _) (.cons (.same _) .nil)))
  have hworlds : World.echoing 7 = { World.echoing 7 with
      directory := (World.echoing 7).directory, journal := (World.echoing 7).journal } := rfl
  obtain ⟨halike, hends, _⟩ := registered_only hcreate hcreate hworlds hlike hmeets
  exact ⟨p, turns, s, hcreate, halike, hruns, hmade, hends turns s hruns⟩

end Panel
end OperatorPanel
