import OperatorPanel.Proofs.Moments

/-!
# Notices

A notice that the controller reports waits until a cycle passes it on, or until somebody asks for
the next one. Nothing else is done with it: it has no part in what is sent, remembered or shown, and
it is neither lost nor told of twice (`Panel.notices_only_told`).

The books about one event are `Moment.Books`; they are kept by every event (`books_of_moment`) and
added up over a history (`Session.Runs.books`). For two histories the sessions are compared without
their notices (`Session.deaf`).
-/

namespace OperatorPanel

/-! ### The books about one event

What a moment does with notices is written down as in an account: those that were there and those
that came are those that were passed on, those that were handed over and those that are left.
-/

/-- What is said about a notice. -/
def Notice.said (notice : Notice) : String × List (String × String) :=
  ("controller: " ++ notice.text.text, [("kind", notice.kind.label)])

/-- What the journal has said about notices. -/
def World.said (w : World) : List (String × List (String × String)) :=
  w.told.map fun r => (r.message, r.fields)

namespace World

theorem Untold.said {w w' : World} (h : w.Untold w') : w'.said = w.said := by
  unfold World.said
  rw [h.told]

/-- Telling says each notice once, in their order. -/
theorem said_tell (w : World) (told : List Notice) :
    (w.tell told).said = w.said ++ told.map (·.said) := by
  have hall : ∀ r ∈ told.map (·.record w.gate.isSilent), r.tells = true := by
    intro r hr
    obtain ⟨notice, _, rfl⟩ := List.mem_map.1 hr
    exact notice.tells_record _
  unfold said World.told tell amid
  rw [List.filter_append, List.filter_eq_self.2 hall, List.map_append, List.map_map]
  rfl

end World

/-- The notice that is reported by an event. -/
def Event.reported : Event → List Notice
  | .work (.script (.report notice)) => [notice]
  | _ => []

namespace Moment

/-- The notices that nobody has taken when a moment begins. -/
def pending (m : Moment) : List Notice := m.before.world.simulator.notices

/-- The notices that nobody has taken when it is over. -/
def left (m : Moment) : List Notice := m.after.world.simulator.notices

/-- The notices that a cycle passes on: as many of the oldest ones as its report says. -/
def passed (m : Moment) : List Notice :=
  m.pending.take ((m.report.map (·.noticesPassed)).getD 0)

/-- The notice that is handed over to somebody who asks for the next one. -/
def handed (m : Moment) : List Notice :=
  match m.event with
  | .work .poll => ((m.before.panel.client.poll m.before.world).1.toOption.getD none).toList
  | _ => []

/-- The books about one event: no notice is lost, those that a cycle passes on are told of in their
order, and these are as many as there are, and eight at most. -/
structure Books (m : Moment) : Prop where
  notices : m.pending ++ m.event.reported = m.passed ++ m.handed ++ m.left
  said : m.after.world.said = m.before.world.said ++ m.passed.map (·.said)
  passes : ∀ report, m.report = some report → report.noticesPassed
    = (m.before.panel.client.link.pending m.before.world maxNoticesPerCycle).length

end Moment

/-! ### What tells of no notice

Attempts, looks, startups and shutdowns write lines as well, and each of their lines is checked once
for what it says. What remains are cycles, requests for the next notice and reports.
-/

section Untold

theorem World.Untold.failed (w : World) (fields : List (String × String)) :
    w.Untold (w.note .warn .bridge "pin command failed" fields) :=
  .line (by simp [Record.tells, List.isPrefixOf])

namespace CycleState

variable {s s' : CycleState Simulated.transport}

theorem Performs.untold {actions : List (InputPin × Action)} {made : List (InputPin × Attempt)}
    (h : s.Performs actions made s') :
    s.world.Untold s'.world ∧ s'.report.noticesPassed = s.report.noticesPassed := by
  induction h with
  | nil => exact ⟨.refl _, rfl⟩
  -- an attempt leaves the surroundings as they are; only its failure is written down
  | @cons s s' pin action a client world actions made hattempt _ ih =>
      have hattempted : s.world.Untold world :=
        .ofSurroundings (Action.surroundings_attempt hattempt)
      have hafter : world.Untold (s.after pin action a client world).world ∧
          (s.after pin action a client world).report.noticesPassed = s.report.noticesPassed := by
        unfold after
        split
        · exact ⟨.refl _, rfl⟩
        · exact ⟨.failed .., rfl⟩
      exact ⟨hattempted.trans (hafter.1.trans ih.1), ih.2.trans hafter.2⟩

/-- The look at the end of a cycle tells when the channel fails and when it recovers, and of no
notice. -/
theorem untold_refresh (s : CycleState Simulated.transport) :
    s.world.Untold s.refresh.world ∧ s.refresh.report.noticesPassed = s.report.noticesPassed := by
  have hlooked : s.world.Untold (s.client.refresh s.world).2.2 :=
    .ofSurroundings (s.client.surroundings_refresh s.world)
  unfold refresh
  generalize s.client.refresh s.world = looked at hlooked ⊢
  -- the line that may be written here begins otherwise than those of notices
  obtain ⟨_ | f, client, world⟩ := looked
  · refine ⟨?_, rfl⟩
    dsimp only
    split
    · exact hlooked
    · exact hlooked.trans (.line (by simp [Record.tells, List.isPrefixOf]))
  · refine ⟨?_, rfl⟩
    dsimp only
    split
    · exact hlooked.trans (.line (by simp [Record.tells, List.isPrefixOf]))
    · exact hlooked

end CycleState

namespace Panel

variable {p p' : Panel Simulated.transport} {w w' : World}

theorem untold_captureBaseline (p : Panel Simulated.transport) (w : World) :
    w.Untold (p.captureBaseline w).2.2 := by
  have hpublished := (p.bus.aside_publish w (.inactive p.console.setup.axisCount)).untold
  unfold captureBaseline
  generalize p.bus.publish (.inactive p.console.setup.axisCount) w = published at hpublished ⊢
  obtain ⟨_ | _, bus, v⟩ := published
  · exact hpublished
  · have hlooked : v.Untold (p.client.refresh v).2.2 :=
      .ofSurroundings (p.client.surroundings_refresh v)
    dsimp only
    generalize p.client.refresh v = looked at hlooked ⊢
    obtain ⟨_ | f, client, u⟩ := looked
    · exact hpublished.trans hlooked
    · exact hpublished.trans (hlooked.trans (.line rfl))

/-- A startup that fails closes what it has opened, which is one more line. -/
theorem untold_startup (p : Panel Simulated.transport) (w : World) :
    w.Untold (p.startup w).2.2 := by
  unfold startup
  dsimp only
  generalize hnoted : w.note .info .lifecycle "starting bridge" [("transport",
    Simulated.transport.name), ("axes", Text.decimal p.console.setup.axisCount)] = noted
  -- the line for the beginning tells of no notice
  have hstart : w.Untold noted := by
    rw [← hnoted]
    exact .line rfl
  have hconnected : noted.Untold (p.client.connect noted).2.2 := (p.client.link.connect_leaves _).2
  generalize p.client.connect noted = connected at hconnected ⊢
  obtain ⟨_ | _, client, v⟩ := connected
  · exact hstart.trans hconnected
  · have hcaptured : v.Untold (captureBaseline { p with client } v).2.2 :=
      untold_captureBaseline ..
    dsimp only
    generalize captureBaseline { p with client } v = captured at hcaptured ⊢
    obtain ⟨_ | _, q, u⟩ := captured
    · exact hstart.trans (hconnected.trans (hcaptured.trans
        (.trans (.line rfl) (q.client.link.close_untold _))))
    · exact hstart.trans (hconnected.trans hcaptured)

theorem untold_settle {b : Int32} (h : p.settle b w = some (p', w')) : w.Untold w' := by
  unfold settle at h
  dsimp only at h
  split at h
  · cases h
    exact .refl w
  · split at h
    · cases h
    · next hwait =>
        cases h
        exact .ofSurroundings (Client.surroundings_waitReceivedFor hwait)
    · next hwait =>
        cases h
        exact .trans (.ofSurroundings (Client.surroundings_waitReceivedFor hwait)) (.line rfl)

theorem untold_restoreBaseline (p : Panel Simulated.transport) (b : Int32) (w : World) :
    w.Untold (p.restoreBaseline b w).2 := by
  have hsent : w.Untold (p.client.send b .null w).2.2 := by
    rw [Client.send_simulated]
    split
    · exact ⟨rfl, rfl⟩
    · exact .refl w
  unfold restoreBaseline
  generalize p.client.send b .null w = sent at hsent ⊢
  obtain ⟨_ | _, client, v⟩ := sent
  · exact hsent.trans (.line rfl)
  · exact hsent.trans (.line rfl)

theorem untold_shutdown (h : p.shutdown w = some (p', w')) : w.Untold w' := by
  -- only the notice that everything is closed is written at the end
  have hfinish (handed : Panel Simulated.transport × World) :
      handed.2.Untold (finish handed).2 :=
    .trans (handed.1.client.link.close_untold handed.2) (.line rfl)
  have hquits := quits h
  cases hended : p.ended with
  | true =>
      cases hquits.again hended
      exact .refl w
  | false =>
      cases hbaseline : p.baseline with
      | none =>
          have hquit := hquits.early hended hbaseline
          have hworld := congrArg Prod.snd hquit
          dsimp only at hworld
          rw [hworld]
          exact hfinish ({ p with running := false, ended := true }, w)
      | some b =>
          obtain ⟨p₁, w₁, hsettle, hquit⟩ := hquits.late b hended hbaseline
          have hworld := congrArg Prod.snd hquit
          dsimp only at hworld
          rw [hworld]
          exact (untold_settle hsettle).trans ((p₁.untold_restoreBaseline b w₁).trans (hfinish _))

/-- **What a cycle does with the notices**: it takes the oldest ones, tells of each, and counts
them. -/
theorem acts_tell {t : CycleState Simulated.transport} (h : p.acts w = some t) :
    let passed := p.client.link.pending w maxNoticesPerCycle
    t.report.noticesPassed = passed.length ∧
      t.world.simulator.notices = w.simulator.notices.drop passed.length ∧
      t.world.said = w.said ++ passed.map (·.said) := by
  intro passed
  unfold acts at h
  obtain ⟨acted, hacted, rfl, _⟩ := Console.act_eq_some h
  have hperforms := CycleState.performs_of_performAll hacted
  have hsampled := (p.bus.aside_sample w.time.2).untold
  obtain ⟨huntold, hcount⟩ := hperforms.untold
  -- before the notices are passed on, nothing in this cycle has taken one
  have htime : w.Untold w.time.2 := .ofSurroundings rfl
  have hacting : w.Untold acted.world := htime.trans (hsampled.trans huntold)
  have hpending : acted.client.link.pending acted.world maxNoticesPerCycle = passed := by
    unfold Link.pending
    rw [hperforms.steady.notices, hacting.notices]
    rfl
  obtain ⟨hrefreshed, hreport⟩ := (acted.passNotices maxNoticesPerCycle).untold_refresh
  rw [hreport, hrefreshed.notices, hrefreshed.said, CycleState.passNotices_eq, hpending]
  refine ⟨?_, ?_, ?_⟩
  · rw [hcount]
    exact Nat.zero_add _
  · exact congrArg (List.drop _) hacting.notices
  · rw [World.said_tell, hacting.said]

theorem untold_concludes (p : Panel Simulated.transport) (w : World)
    (t : CycleState Simulated.transport) :
    (p.concludes w t).1.noticesPassed = t.report.noticesPassed ∧
      t.world.Untold (p.concludes w t).2.2 := by
  have hpublished := ((p.bus.sample w.time.2).2.1.aside_publish t.world
    (t.console.outputs t.client)).untold
  unfold concludes publishes
  generalize (p.bus.sample w.time.2).2.1.publish (t.console.outputs t.client) t.world = published
    at hpublished ⊢
  obtain ⟨_ | _, bus, v⟩ := published
  · refine ⟨rfl, hpublished.trans (.trans (.line ?_) (.ofSurroundings rfl))⟩
    simp [Record.tells, List.isPrefixOf]
  · exact ⟨rfl, hpublished.trans (.ofSurroundings rfl)⟩

end Panel

end Untold

/-! ### The books of a history

The events that have to do with notices are three, and each has its own books. All others keep the
notices and what is said of them, so their books have no entry.
-/

/-- Those that are found are the oldest ones. -/
theorem Link.pending_prefix (l : Link Simulated.transport) (w : World) (n : Nat) :
    l.pending w n <+: w.simulator.notices := by
  unfold pending
  split
  · exact List.take_prefix ..
  · exact List.nil_prefix

/-- An event that may take notices, or bring one. -/
def Event.Tells (event : Event) : Prop :=
  event = .work .cycle ∨ event = .work .poll ∨ ∃ notice, event = .work (.script (.report notice))

namespace Session

variable {s s' : Session} {event : Event} {m : Moment}

/-- **All other events take no notice**, and tell of none. -/
theorem untold_next {turn : Turn} (h : s.next event = some (turn, s')) (hevent : ¬event.Tells) :
    s.world.Untold s'.world := by
  cases event with
  | startup =>
      have huntold := s.panel.untold_startup s.world
      cases h
      exact huntold
  | shutdown =>
      obtain ⟨panel, world, hshutdown, rfl, rfl⟩ := shutdown_of_next h
      exact Panel.untold_shutdown hshutdown
  | work work => -- the three kinds that may tell of notices are excluded
      cases work with
      | cycle => exact absurd (.inl rfl) hevent
      | poll => exact absurd (.inr (.inl rfl)) hevent
      | script script =>
          cases h
          cases script with
          | report notice => exact absurd (.inr (.inr ⟨notice, rfl⟩)) hevent
          | _ => exact ⟨rfl, rfl⟩
      | pins bus =>
          cases h
          exact .refl _
      | files directory =>
          cases h
          exact ⟨rfl, rfl⟩
      | pause t =>
          cases h
          exact ⟨rfl, rfl⟩
      | dispatch command policy =>
          rw [next] at h
          obtain ⟨a, client, world, hattempt, rfl, rfl⟩ := attempt_of_does h
          exact .ofSurroundings (Client.surroundings_attempt hattempt)
      | runProgram line =>
          rw [next] at h
          obtain ⟨a, client, world, hattempt, rfl, rfl⟩ := attemptRun_of_does h
          exact .ofSurroundings (Client.surroundings_attemptRun hattempt)
      | refresh =>
          cases h
          exact .ofSurroundings (s.panel.client.surroundings_refresh s.world)

/-- Where a cycle reports nothing, it passes on nothing. -/
theorem passed_of_report (h : m.report = none) : m.passed = [] := by
  unfold Moment.passed
  rw [h]
  rfl

/-- The books of a cycle. -/
theorem books_of_cycle (hmoment : s.moment (.work .cycle) = some m) : m.Books := by
  obtain ⟨hnext, rfl, hevent, hreport, _⟩ := next_of_moment hmoment
  rw [next] at hnext
  obtain ⟨report, panel, world, hcycle, _, hafter⟩ := cycle_of_does hnext
  have hreported : m.report = some report := by
    rw [hreport, reports, hcycle]
    rfl
  rw [Panel.cycle_eq, Option.map_eq_some_iff] at hcycle
  obtain ⟨t, hacts, hconcludes⟩ := hcycle
  obtain ⟨hcount, hnotices, hsaid⟩ := Panel.acts_tell hacts
  obtain ⟨hsame, huntold⟩ := m.before.panel.untold_concludes m.before.world t
  rw [hconcludes] at hsame huntold
  dsimp only at hsame huntold
  have hprefix := m.before.panel.client.link.pending_prefix m.before.world maxNoticesPerCycle
  have hpassed : m.passed
      = m.before.panel.client.link.pending m.before.world maxNoticesPerCycle := by
    unfold Moment.passed Moment.pending
    rw [hreported, Option.map_some, Option.getD_some, hsame, hcount]
    -- those that are pending come first, so as many as the report counts are just these
    exact (List.prefix_iff_eq_take.1 hprefix).symm
  refine ⟨?_, ?_, fun r hr => ?_⟩
  · have hnone : m.event.reported = [] := by
      rw [hevent]
      rfl
    unfold Moment.handed Moment.left
    rw [hnone, hevent, hpassed, hafter, huntold.notices, hnotices, List.append_nil,
      List.append_nil]
    exact (List.prefix_iff_eq_append.1 hprefix).symm
  · rw [hpassed, hafter, huntold.said, hsaid]
  · cases hreported.symm.trans hr
    rw [hsame, hcount]

/-- The books of asking for the next notice. -/
theorem books_of_poll (hmoment : s.moment (.work .poll) = some m) : m.Books := by
  obtain ⟨hnext, rfl, hevent, hreport, _⟩ := next_of_moment hmoment
  have hpassed := passed_of_report hreport
  have hprefix := m.before.panel.client.link.pending_prefix m.before.world 1
  -- one poll hands over the first notice, if the channel is open and there is one
  have hhanded : m.handed = m.before.panel.client.link.pending m.before.world 1 := by
    unfold Moment.handed Link.pending
    rw [hevent, Client.poll_eq]
    unfold Link.pending
    dsimp only
    split
    · cases m.before.world.simulator.notices <;> rfl
    · rfl
  rw [next, does, Client.poll_eq] at hnext
  have hafter := congrArg (fun r : Turn × Session => r.2.world) (Option.some.inj hnext)
  dsimp only [withClient] at hafter
  refine ⟨?_, ?_, fun r hr => ?_⟩
  · have hnone : m.event.reported = [] := by
      rw [hevent]
      rfl
    unfold Moment.left
    rw [hnone, hpassed, hhanded, ← hafter, List.append_nil, List.nil_append]
    exact (List.prefix_iff_eq_append.1 hprefix).symm
  · rw [hpassed, ← hafter]
    exact (List.append_nil _).symm
  · rw [hreport] at hr
    cases hr

/-- The books of a report. -/
theorem books_of_report {notice : Notice}
    (hmoment : s.moment (.work (.script (.report notice))) = some m) : m.Books := by
  obtain ⟨hnext, rfl, hevent, hreport, _⟩ := next_of_moment hmoment
  have hpassed := passed_of_report hreport
  have hafter := congrArg (fun r : Turn × Session => r.2.world) (Option.some.inj hnext)
  dsimp only at hafter
  refine ⟨?_, ?_, fun r hr => ?_⟩
  · unfold Moment.handed Moment.left
    rw [hevent, hpassed, ← hafter]
    rfl
  · rw [hpassed, ← hafter]
    exact (List.append_nil _).symm
  · rw [hreport] at hr
    cases hr

/-- **Every event keeps the books.** -/
theorem books_of_moment (hmoment : s.moment event = some m) : m.Books := by
  by_cases htells : event.Tells  -- three events with books of their own, then all others
  · obtain rfl | rfl | ⟨notice, rfl⟩ := htells
    · exact books_of_cycle hmoment
    · exact books_of_poll hmoment
    · exact books_of_report hmoment
  · obtain ⟨hnext, rfl, rfl, hreport, _⟩ := next_of_moment hmoment
    have huntold := untold_next hnext htells
    have hnone : m.before.reports m.event = none := by
      unfold reports
      split
      · next hevent => exact absurd (.inl hevent) htells
      · rfl
    rw [hnone] at hreport
    have hpassed := passed_of_report hreport
    have hreported : m.event.reported = [] := by
      unfold Event.reported
      split
      · next notice hevent => exact absurd (.inr (.inr ⟨notice, hevent⟩)) htells
      · rfl
    have hhanded : m.handed = [] := by
      unfold Moment.handed
      split
      · next hevent => exact absurd (.inr (.inl hevent)) htells
      · rfl
    refine ⟨?_, ?_, fun r hr => ?_⟩
    · rw [hpassed, hhanded, hreported, List.append_nil]
      exact huntold.notices.symm
    · rw [hpassed, huntold.said]
      exact (List.append_nil _).symm
    · rw [hreport] at hr
      cases hr

/-- **The books of a history.** -/
theorem Runs.books {events : List Event} {turns : List Turn} (h : Runs s events turns s') :
    s.world.simulator.notices ++ events.flatMap (·.reported)
        = (s.moments events).flatMap (fun m => m.passed ++ m.handed)
          ++ s'.world.simulator.notices ∧
      s'.world.said
        = s.world.said ++ ((s.moments events).flatMap (·.passed)).map (·.said) := by
  -- by induction on the run: what one event leaves is what the next one finds
  induction h with
  | nil s => simp [Session.moments]
  | @cons s s₁ s' event events turn turns hnext _ ih =>
      have hbooks := books_of_moment (moment_of_next hnext)
      unfold Session.moments
      rw [moment_of_next hnext]
      dsimp only
      rw [List.flatMap_cons, List.flatMap_cons, List.flatMap_cons, List.map_append]
      constructor
      · have hnotices := hbooks.notices
        unfold Moment.pending Moment.left at hnotices
        rw [← List.append_assoc, hnotices, List.append_assoc, ih.1]
        simp only [List.append_assoc]
      · rw [ih.2, hbooks.said, List.append_assoc]

end Session

/-! ### Without notices

Two sessions that are equal when their notices and journals are left out take every step alike: the
sample and the publishing read the files, and the files are equal.
-/

/-- A history without its reports. -/
def withoutReports (events : List Event) : List Event := events.filter (·.reported.isEmpty)

/-- A world in which no notice was reported and nothing was written into the journal. -/
def World.deaf (w : World) : World :=
  w.amid { notices := [], directory := w.directory, journal := [] }

theorem World.deaf_eq_iff {w w' : World} :
    w'.deaf = w.deaf ↔ w.Beside w' ∧ w'.directory = w.directory := by
  constructor
  · intro h
    refine ⟨?_, (congrArg directory h : w'.deaf.directory = w.deaf.directory)⟩
    have hbeside : w.Beside w.deaf := rfl
    have hbeside' : w'.Beside w'.deaf := rfl
    rw [h] at hbeside'
    exact hbeside.trans hbeside'.symm
  · rintro ⟨hbeside, hfiles⟩
    unfold deaf
    rw [hfiles, hbeside]
    rfl

namespace Session

/-- A session without notices and without its journal. -/
def deaf (s : Session) : Session := { s with world := s.world.deaf }

theorem deaf_eq_iff {s s' : Session} :
    s'.deaf = s.deaf ↔ s'.panel = s.panel ∧ s.world.Beside s'.world ∧
      s'.world.directory = s.world.directory := by
  rw [← World.deaf_eq_iff]
  constructor
  · intro h
    exact ⟨(congrArg panel h : s'.deaf.panel = s.deaf.panel),
      (congrArg world h : s'.deaf.world = s.deaf.world)⟩
  · rintro ⟨hpanel, hworld⟩
    unfold deaf
    rw [hpanel, hworld]

end Session

/-- All that can be seen of a moment apart from the notices. -/
def Moment.deaf (m : Moment) : Moment :=
  { m with before := m.before.deaf, report := m.report.map (·.core), after := m.after.deaf }

namespace Session

variable {s s' t : Session} {event : Event} {turn : Turn}

theorem sampled_of_deaf (h : s'.deaf = s.deaf) :
    s'.panel.sampled s'.world = s.panel.sampled s.world := by
  obtain ⟨hpanel, _, hfiles⟩ := deaf_eq_iff.1 h
  have hlater : s'.world.time.2.directory = s.world.time.2.directory := hfiles
  unfold Panel.sampled
  rw [hpanel]
  exact (s.panel.bus.sample_files hlater).1

/-- Sessions that differ in their notices alone show the same. -/
theorem shows_of_deaf (h : s'.deaf = s.deaf) (event : Event) :
    s'.shows event = s.shows event := by
  obtain ⟨p, w⟩ := s
  obtain ⟨p', w'⟩ := s'
  have hsampled := sampled_of_deaf h
  obtain ⟨rfl, hworld, hfiles⟩ := deaf_eq_iff.1 h
  dsimp only at hworld hfiles hsampled
  have hbeside : p'.Beside w p' w' := ⟨rfl, hworld⟩
  -- the clock is the only thing that a cycle looks at before its sample
  have hlater : w'.time.2.directory = w.time.2.directory := hfiles
  unfold shows
  split
  · have hpublished := p'.bus.publish_files (.inactive p'.console.setup.axisCount) hfiles
    unfold Panel.opens
    dsimp only
    rw [(p'.client.connect_beside hworld).1, hpublished.1]
  · obtain ⟨_, hbus, hfiles⟩ := p'.bus.sample_files hlater
    have hacts := hbeside.acts (by rw [hsampled]; exact .refl _ _)
    unfold Panel.shows Panel.publishes
    dsimp only
    rw [hbus]
    rcases hacted : p'.acts w with _ | t <;> rcases hacted' : p'.acts w' with _ | t' <;>
      rw [hacted, hacted'] at hacts <;> cases hacts
    · next hsame =>
        rw [← Panel.directory_acts hacted, ← Panel.directory_acts hacted'] at hfiles
        have hpublished := (p'.bus.sample w.time.2).2.1.publish_files
          (t.console.outputs t.client) hfiles
        dsimp only [Option.map_some]
        rw [hsame.console, hsame.client, hpublished.1]
  · rfl

/-- What they take from the pins is the same. -/
theorem meets_of_deaf (h : s'.deaf = s.deaf) (event : Event) : s.Meets event s' := by
  have hsampled := sampled_of_deaf h
  have hshows := shows_of_deaf h event
  refine ⟨fun _ => ?_, fun shown shown' hshown hshown' => ?_⟩
  · rw [hsampled]
    exact .refl _ _
  · cases hshown'.symm.trans (hshows.trans hshown)
    rfl

theorem carried_of_deaf (h : s'.deaf = s.deaf) (event : Event) :
    s'.carried event = s.carried event := by
  have hshows := shows_of_deaf h event
  obtain ⟨p, w⟩ := s  -- the two sessions differ in their notices and journals, and show the same
  obtain ⟨p', w'⟩ := s'
  obtain ⟨rfl, _, hfiles⟩ := deaf_eq_iff.1 h
  dsimp only at hfiles
  have hlater : w'.time.2.directory = w.time.2.directory := hfiles
  obtain ⟨_, hbus, hsampled⟩ := p'.bus.sample_files hlater
  unfold carried
  unfold shows at hshows
  dsimp only at hshows ⊢
  split at hshows
  · dsimp only
    rw [hshows]
    split
    · exact published_files _ _ hfiles
    · rw [hfiles]
  · dsimp only
    rw [hshows, hbus]
    split
    · exact published_files _ _ hsampled
    · rw [hfiles]
  · split <;> first | contradiction | rfl | rw [hfiles]

/-- **An event is the same without the notices.** -/
theorem moment_of_deaf (h : s'.deaf = s.deaf) (event : Event) :
    (s'.moment event).map (·.deaf) = (s.moment event).map (·.deaf) := by
  have hbeside : s.Beside s' := by
    obtain ⟨hpanel, hworld, _⟩ := deaf_eq_iff.1 h
    refine ⟨?_, hworld⟩
    rw [hpanel]
  have hmoment := hbeside.moment (.same event) (meets_of_deaf h event)
  have hcarried := carried_of_deaf h event
  -- without the notices the two moments have the same next step, so both end or none does
  rcases hm : s.moment event with _ | m <;> rcases hm' : s'.moment event with _ | m' <;>
    rw [hm, hm'] at hmoment <;> cases hmoment
  · next hsame =>
      obtain ⟨hnext, hbefore, hevent, _⟩ := next_of_moment hm
      obtain ⟨hnext', hbefore', hevent', _⟩ := next_of_moment hm'
      rw [← carried_next hnext, ← carried_next hnext'] at hcarried
      have hbus : m'.after.panel.bus = m.after.panel.bus := congrArg Prod.fst hcarried
      have hfiles : m'.after.world.directory = m.after.world.directory :=
        congrArg Prod.snd hcarried
      have hpanel : m'.after.panel = m.after.panel := by
        rw [hsame.after.panel, hbus]
      have hafter : m'.after.deaf = m.after.deaf :=
        deaf_eq_iff.2 ⟨hpanel, hsame.after.world, hfiles⟩
      have hturn : m'.turn = m.turn := by
        have hsample : m'.turn.sample = m.turn.sample := by
          rw [sample_of_next hnext, sample_of_next hnext']
          unfold samples
          rw [sampled_of_deaf h]
        exact congrArg₂ Turn.mk hsample hsame.attempts
      refine congrArg some ?_
      show m'.deaf = m.deaf
      unfold Moment.deaf
      rw [hbefore, hbefore', hevent, hevent', h, hturn, hsame.report, hsame.shown, hafter]

/-! ### Histories that differ in their reports

A history may have reports where the other has none, so it is not compared event by event but after
its reports are taken out. A report changes what is left out here and nothing else, which is why it
can be skipped.
-/

/-- The moments of a history apart from its reports, and without notices. -/
def course (s : Session) (events : List Event) : List Moment :=
  ((s.moments events).filter (·.event.reported.isEmpty)).map (·.deaf)

/-- Where a history stands at its end, without notices. -/
def ending (s : Session) (events : List Event) : Option Session :=
  (s.play events).map (·.2.deaf)

theorem course_cons (s : Session) (event : Event) (events : List Event) :
    s.course (event :: events) = match s.moment event with
      | none => []
      | some m =>
        if event.reported.isEmpty then m.deaf :: m.after.course events
        else m.after.course events := by
  unfold course
  rw [Session.moments]
  cases hmoment : s.moment event with
  | none => rfl
  | some m =>
      dsimp only
      rw [List.filter_cons, (next_of_moment hmoment).2.2.1]
      split <;> rfl

theorem ending_cons (s : Session) (event : Event) (events : List Event) :
    s.ending (event :: events) = (s.moment event).bind fun m => m.after.ending events := by
  unfold ending Session.moment
  rw [play]
  cases s.next event with
  | none => rfl
  | some r => exact Option.map_map ..

/-- A report is all that happens in its moment. -/
theorem moment_of_report (s : Session) (hevent : event.reported.isEmpty = false) :
    ∃ m, s.moment event = some m ∧ m.after.deaf = s.deaf := by
  unfold Event.reported at hevent
  split at hevent
  · exact ⟨_, rfl, rfl⟩
  · cases hevent

/-- **Histories are the same without their reports**, event by event. -/
theorem course_withoutReports (h : s'.deaf = s.deaf) (events : List Event) :
    s'.course events = s.course (withoutReports events) ∧
      s'.ending events = s.ending (withoutReports events) := by
  -- by induction on the longer history: a report is skipped, and any other event is taken by both
  induction events generalizing s s' with
  | nil => exact ⟨rfl, congrArg some h⟩
  | cons event events ih =>
      rw [course_cons, ending_cons, withoutReports, List.filter_cons]
      cases hevent : event.reported.isEmpty with
      | false =>
          obtain ⟨m, hmoment, hafter⟩ := s'.moment_of_report hevent
          rw [hmoment]
          exact ih (hafter.trans h)
      | true =>
          have hmoment := moment_of_deaf h event
          rw [if_pos rfl, course_cons, ending_cons, hevent]
          cases hm : s.moment event with
          | none =>
              rw [hm] at hmoment
              rw [Option.map_eq_none_iff.1 hmoment]
              exact ⟨rfl, rfl⟩
          | some m =>
              rw [hm] at hmoment
              obtain ⟨m', hm', hsame⟩ := Option.map_eq_some_iff.1 hmoment
              have hafter : m'.after.deaf = m.after.deaf := congrArg Moment.after hsame
              obtain ⟨hcourse, hending⟩ := ih hafter
              rw [hm']
              refine ⟨?_, hending⟩
              dsimp only
              rw [if_pos rfl, if_pos rfl, hsame, hcourse]
              rfl

theorem Runs.play {events : List Event} {turns : List Turn} (h : Runs s events turns s') :
    s.play events = some (turns, s') := by
  induction h with
  | nil => rfl
  | cons hnext _ ih =>
      rw [Session.play, hnext]
      dsimp only
      rw [ih]
      rfl

/-- **What one history comes to, another one comes to that differs in its reports alone.** -/
theorem Runs.deaf {events events' : List Event} {turns : List Turn} (hruns : Runs s events turns t)
    (hs : s'.deaf = s.deaf) (hevents : withoutReports events' = withoutReports events) :
    ∃ turns' t', Runs s' events' turns' t' ∧ t'.deaf = t.deaf ∧
      s'.course events' = s.course events := by
  obtain ⟨hcourse, hending⟩ := course_withoutReports (s := s) rfl events
  obtain ⟨hcourse', hending'⟩ := course_withoutReports hs events'
  rw [hevents] at hcourse' hending'
  have hend : s'.ending events' = some t.deaf := by
    rw [hending', ← hending, ending, hruns.play]
    rfl
  obtain ⟨⟨turns', t'⟩, hplay, hsame⟩ := Option.map_eq_some_iff.1 hend
  exact ⟨turns', t', runs_of_play hplay, hsame, hcourse'.trans hcourse.symm⟩

end Session

namespace Panel

/-- **Notices are only told of.** Take a panel, and two histories that differ at most in which
notices are reported, and when. If the one can be gone through, the other can, to an end that
differs at most in the notices that are left and in the journal; and apart from the reports they are
the same event by event: the sessions before and after it (what the controller has received and
shows, the serials, what panel and console remember, bus and files), the samples and attempts, the
outputs, and the reports of the cycles but for the count of notices.

No notice is lost, and none is told of twice: those that there were and those that are reported are
the ones that the cycles pass on or that somebody asked for, in their order, and those that are
left; and the journal tells of the ones that are passed on, and of no other. So these are the first
ones that were reported, unless somebody else takes some. A cycle of a connected panel passes on as
many as there are, but no more than eight. -/
theorem notices_only_told {settings : Settings} {bus : PinBus} {p : Panel Simulated.transport}
    {w w' : World} {events events' : List Event} {turns : List Turn} {s : Session}
    (hcreate : Panel.create Simulated.transport settings bus = .ok p)
    (hworlds : w'.deaf = w.deaf) (hevents : withoutReports events' = withoutReports events)
    (hruns : Session.Runs ⟨p, w⟩ events turns s) :
    (∃ turns' s', Session.Runs ⟨p, w'⟩ events' turns' s' ∧ s'.deaf = s.deaf ∧
      Session.course ⟨p, w'⟩ events' = Session.course ⟨p, w⟩ events) ∧
    let moments := Session.moments ⟨p, w⟩ events
    w.simulator.notices ++ events.flatMap (·.reported)
        = moments.flatMap (fun m => m.passed ++ m.handed) ++ s.world.simulator.notices ∧
      s.world.said = w.said ++ (moments.flatMap (·.passed)).map (·.said) ∧
      (.work .poll ∉ events →
        moments.flatMap (·.passed) <+: w.simulator.notices ++ events.flatMap (·.reported)) ∧
      ∀ m ∈ moments, ∀ report, m.report = some report →
        m.before.panel.client.link.state = .connected →
          report.noticesPassed = min maxNoticesPerCycle m.pending.length := by
  have hsame : Session.deaf ⟨p, w'⟩ = Session.deaf ⟨p, w⟩ := by
    unfold Session.deaf
    rw [hworlds]
  refine ⟨hruns.deaf hsame hevents, ?_⟩
  intro moments
  obtain ⟨hnotices, hsaid⟩ := hruns.books
  have hmoments : moments.map (·.event) = events := hruns.moments.1
  refine ⟨hnotices, hsaid, fun hpoll => ?_, ?_⟩
  · -- where nobody asks for the next notice, all that is taken is passed on
    have hhanded : ∀ m ∈ moments, m.passed ++ m.handed = m.passed := by
      intro m hm
      have hevent : m.event ≠ .work .poll := by
        intro heq
        exact hpoll (heq ▸ hmoments ▸ List.mem_map_of_mem hm)
      unfold Moment.handed
      split
      · next heq => exact absurd heq hevent
      · exact List.append_nil _
    have hpassed : moments.flatMap (fun m => m.passed ++ m.handed) = moments.flatMap (·.passed) :=
      List.flatMap_congr hhanded
    rw [hnotices, ← hpassed]
    exact List.prefix_append ..
  · -- a panel that is connected has its channel for notices, at whatever moment
    refine Session.forall_moments (P := fun s => s.panel.client.link.state = .connected →
      s.panel.client.link.Open) ?_ ?_ events
    · intro s event m hwhole hmoment
      obtain ⟨hnext, rfl, _⟩ := Session.next_of_moment hmoment
      refine ⟨fun report hreport hconnected => ?_, Session.whole_next hwhole hnext⟩
      rw [(Session.books_of_moment hmoment).passes report hreport, Link.pending,
        if_pos (hwhole hconnected).notices]
      exact List.length_take
    · intro hconnected
      rw [(new_of_create hcreate).link.1] at hconnected
      cases hconnected

/-- What the panel does while the controller has nothing to say. -/
def unannounced : List Event :=
  [.startup, .work (.pins (pressing (.control .machineOn))), .work .cycle, .work .cycle]

/-- The same while the controller says something nine times, before the first cycle. -/
def announced : List Event :=
  .startup :: .work (.pins (pressing (.control .machineOn))) ::
    (List.replicate 9 (.work (.script (.report (.ofText .text "oil")))) ++
      [.work .cycle, .work .cycle])

/-- Nine notices are told of in two cycles, and what is sent is what is sent without them. -/
theorem notices_only_told_nine :
    ∃ p turns s turns' s',
      Panel.create Simulated.transport {} { carrier := .memory {} } = .ok p ∧
      Session.Runs ⟨p, .echoing 7⟩ announced turns s ∧
      Session.Runs ⟨p, .echoing 7⟩ unannounced turns' s' ∧ s'.deaf = s.deaf ∧
      s.world.simulator.received = [{ serial := 8, command := .setTaskState .on }] ∧
      s.world.said = List.replicate 9 ("controller: oil", [("kind", "Text")]) ∧
      (Session.moments ⟨p, .echoing 7⟩ announced).filterMap
        (fun m => m.report.map (·.noticesPassed)) = [8, 1] := by
  have hplays : Plays announced (fun p _ s => decide (
      s.world.simulator.received = [{ serial := 8, command := .setTaskState .on }] ∧
      ((Session.moments ⟨p, .echoing 7⟩ announced).flatMap (·.passed)).map (·.said)
        = List.replicate 9 ("controller: oil", [("kind", "Text")]) ∧
      (Session.moments ⟨p, .echoing 7⟩ announced).filterMap
        (fun m => m.report.map (·.noticesPassed)) = [8, 1])) := by
    decide +kernel
  obtain ⟨p, turns, s, hcreate, hruns, hholds⟩ := hplays.runs
  obtain ⟨hreceived, hpassed, hcounts⟩ := of_decide_eq_true hholds
  have hworlds : (World.echoing 7).deaf = (World.echoing 7).deaf := rfl
  -- the two histories differ by reports of notices alone
  have hevents : withoutReports unannounced = withoutReports announced := rfl
  obtain ⟨⟨turns', s', hruns', hsame, _⟩, _, hsaid, _⟩ :=
    notices_only_told hcreate hworlds hevents hruns
  refine ⟨p, turns, s, turns', s', hcreate, hruns, hruns', hsame, hreceived, ?_, hcounts⟩
  rw [hsaid, hpassed]
  rfl

end Panel
end OperatorPanel
