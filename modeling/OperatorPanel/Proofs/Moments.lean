import OperatorPanel.Proofs.Beside

/-!
# Moments

A `Moment` is all that there is to say about one event of a session: where it began, what was tried,
what a cycle has reported, what was shown, and where it led. `Session.moments` has them for a whole
history.

Two sessions beside each other (`Session.Beside`) stay so through events that are alike, as long as
their samples agree on the registered pins and their buses take the same (`Beside.moment`): every
moment of the one has its counterpart in the other.
-/

namespace OperatorPanel

/-- One event of a session. -/
structure Moment where
  before : Session
  event : Event
  turn : Turn
  /-- The report of a cycle. -/
  report : Option CycleReport
  /-- What was given to the bus, and whether the bus took it. -/
  shown : Option (OutputPins × Bool)
  after : Session

namespace Session

/-- The sample of an event. -/
def samples (s : Session) : Event → Option InputSample
  | .work .cycle => some (s.panel.sampled s.world)
  | _ => none

/-- What an event reports. -/
def reports (s : Session) : Event → Option CycleReport
  | .work .cycle => (s.panel.cycle s.world).map (·.1)
  | _ => none

/-- What an event shows. -/
def shows (s : Session) : Event → Option (OutputPins × Bool)
  | .startup => s.panel.opens s.world
  | .work .cycle => s.panel.shows s.world
  | _ => none

/-- The moment of an event. -/
def moment (s : Session) (event : Event) : Option Moment :=
  (s.next event).map fun (turn, after) =>
    { before := s, event, turn, report := s.reports event, shown := s.shows event, after }

/-- The moments of a history, as far as it goes. -/
def moments (s : Session) : List Event → List Moment
  | [] => []
  | event :: events =>
    match s.moment event with
    | none => []
    | some m => m :: m.after.moments events

/-! ### Histories as moments

The moments of a history carry the same turns as its runs, so a statement about all moments is one
about the whole history. It is proved like one about runs, from what a single event does.
-/

variable {s s' : Session} {event : Event} {events : List Event} {turn : Turn} {turns : List Turn}

theorem moment_of_next (h : s.next event = some (turn, s')) :
    s.moment event = some
      { before := s, event, turn, report := s.reports event, shown := s.shows event,
        after := s' } := by
  unfold moment
  rw [h]
  rfl

theorem next_of_moment {m : Moment} (h : s.moment event = some m) :
    s.next event = some (m.turn, m.after) ∧ m.before = s ∧ m.event = event ∧
      m.report = s.reports event ∧ m.shown = s.shows event := by
  obtain ⟨⟨turn, after⟩, hnext, rfl⟩ := Option.map_eq_some_iff.1 h
  exact ⟨hnext, rfl, rfl, rfl, rfl⟩

/-- A sample is taken in a cycle only, and it is the one that the turn keeps. -/
theorem sample_of_next (h : s.next event = some (turn, s')) : turn.sample = s.samples event := by
  cases event with
  | startup =>
      cases h
      rfl
  | shutdown =>
      obtain ⟨panel, world, _, rfl, rfl⟩ := shutdown_of_next h
      rfl
  -- of the other kinds of work only the two that attempt something are not computed at once
  | work work =>
      cases work with
      | cycle =>
          rw [next] at h
          obtain ⟨report, panel, world, _, rfl, rfl⟩ := cycle_of_does h
          rfl
      | dispatch command policy =>
          rw [next] at h
          obtain ⟨a, client, world, _, rfl, rfl⟩ := attempt_of_does h
          rfl
      | runProgram line =>
          rw [next] at h
          obtain ⟨a, client, world, _, rfl, rfl⟩ := attemptRun_of_does h
          rfl
      | _ =>
          cases h
          rfl

/-- **A history has one moment for each event**, with its turn. -/
theorem Runs.moments (h : Runs s events turns s') :
    (s.moments events).map (·.event) = events ∧ (s.moments events).map (·.turn) = turns := by
  induction h with
  | nil => exact ⟨rfl, rfl⟩
  | cons hnext _ ih =>
      unfold Session.moments
      rw [moment_of_next hnext]
      exact ⟨congrArg _ ih.1, congrArg _ ih.2⟩

/-- **What holds of every moment that can be, holds of all moments of a history.** -/
theorem forall_moments {P : Session → Prop} {Q : Moment → Prop}
    (step : ∀ s event m, P s → s.moment event = some m → Q m ∧ P m.after) (hs : P s)
    (events : List Event) : ∀ m ∈ s.moments events, Q m := by
  induction events generalizing s with
  | nil => exact List.forall_mem_nil _
  | cons event events ih =>
      unfold Session.moments
      split
      · exact List.forall_mem_nil _
      · next m hmoment =>
          obtain ⟨hholds, hafter⟩ := step _ _ _ hs hmoment
          exact List.forall_mem_cons.2 ⟨hholds, ih hafter⟩

end Session

/-! ### Two sessions

Two sessions stay beside each other event by event. The relation says what they share; `Meets` is
what has to be asked of an event for that, since the buses may differ in what they are given and in
what they take.
-/

/-- Two events that differ at most in what a bus or a directory is replaced by. -/
inductive Event.Like : Event → Event → Prop
  | same (event : Event) : Like event event
  | pins (bus bus' : PinBus) : Like (.work (.pins bus)) (.work (.pins bus'))
  | files (d d' : Directory) : Like (.work (.files d)) (.work (.files d'))

namespace Session

/-- Two sessions beside each other: they have different buses, other notices, other files and
another journal at most. -/
def Beside (s s' : Session) : Prop := s.panel.Beside s.world s'.panel s'.world

/-- What an event takes from the pins is the same for both: the samples agree on the registered
pins, and what is shown is taken by both buses or by none of them. -/
structure Meets (s : Session) (event : Event) (s' : Session) : Prop where
  agrees : event = .work .cycle → InputSample.Agrees s.panel.console.setup.registered
    (s.panel.sampled s.world) (s'.panel.sampled s'.world)
  accepts : ∀ shown shown', s.shows event = some shown → s'.shows event = some shown' →
    shown'.2 = shown.2

end Session

/-- A report without the count of the notices. -/
def CycleReport.core (r : CycleReport) : CycleReport := { r with noticesPassed := 0 }

/-- Two moments that look the same, up to the notices, and have the same consequences. -/
structure Moment.Beside (m m' : Moment) : Prop where
  attempts : m'.turn.attempts = m.turn.attempts
  report : m'.report.map (·.core) = m.report.map (·.core)
  shown : m'.shown = m.shown
  after : m.after.Beside m'.after

namespace Session.Beside

variable {s s' : Session}

/-- What two sessions do, report and show, makes their moments. -/
theorem of_next {event event' : Event}
    (hnext : Option.Rel (fun r r' => r'.1.attempts = r.1.attempts ∧ r.2.Beside r'.2)
      (s.next event) (s'.next event'))
    (hreports : (s'.reports event').map (·.core) = (s.reports event).map (·.core))
    (hshows : s'.shows event' = s.shows event) :
    Option.Rel Moment.Beside (s.moment event) (s'.moment event') := by
  unfold Session.moment
  generalize s.next event = r, s'.next event' = r' at hnext ⊢
  cases hnext with
  | none => exact .none
  | some hafter => exact .some ⟨hafter.1, hreports, hshows, hafter.2⟩

/-- What is shown is the same when the outputs are, and when it is taken or refused alike. -/
theorem shows_eq {event event' : Event}
    (houtputs : (s'.shows event').map (·.1) = (s.shows event).map (·.1))
    (haccepts : ∀ shown shown', s.shows event = some shown → s'.shows event' = some shown' →
      shown'.2 = shown.2) : s'.shows event' = s.shows event := by
  rcases hshows : s.shows event with _ | ⟨out, taken⟩ <;>
    rcases hshows' : s'.shows event' with _ | ⟨out', taken'⟩ <;>
    rw [hshows, hshows'] at houtputs
  · cases houtputs
  · cases houtputs
  · have htaken : taken' = taken := haccepts _ _ hshows hshows'
    have hout : out' = out := Option.some.inj houtputs
    rw [htaken, hout]

/-- **An operation of the client is the same in both.** -/
theorem work (h : s.Beside s') {work : Work} (hcycle : work ≠ .cycle) :
    Option.Rel (fun r r' => r'.1.attempts = r.1.attempts ∧ r.2.Beside r'.2) (s.does work)
      (s'.does work) := by
  -- the second session is the first amid other surroundings, which the client never looks at
  obtain ⟨p, w⟩ := s
  obtain ⟨p', w'⟩ := s'
  obtain ⟨bus', rfl⟩ := Panel.Beside.eq_withBus h
  obtain ⟨x, rfl⟩ := h.world.eq_amid
  cases work with
  | cycle => exact absurd rfl hcycle
  | script script =>
      refine .some ⟨rfl, rfl, ?_⟩
      cases script <;> rfl
  | pins bus => exact .some ⟨rfl, rfl, rfl⟩
  | files directory => exact .some ⟨rfl, rfl, rfl⟩
  | pause t => exact .some ⟨rfl, rfl, rfl⟩
  | dispatch command policy =>
      unfold does
      dsimp only
      rw [Client.attempt_amid]
      rcases p.client.attempt command (policy.getD p.client.wait.policy) w with _ | ⟨a, client, v⟩
      · exact .none
      · exact .some ⟨rfl, rfl, rfl⟩
  | runProgram line =>
      unfold does
      dsimp only
      rw [Client.attemptRun_amid]
      rcases p.client.attemptRun line w with _ | ⟨a, client, v⟩
      · exact .none
      · exact .some ⟨rfl, rfl, rfl⟩
  | refresh =>
      unfold does
      rw [Client.refresh_amid]
      exact .some ⟨rfl, rfl, rfl⟩
  | poll =>
      unfold does
      rw [Client.poll_eq, Client.poll_eq]
      exact .some ⟨rfl, rfl, rfl⟩

/-- **A cycle in both.** -/
theorem cycle (h : s.Beside s') (hmeets : s.Meets (.work .cycle) s') :
    Option.Rel Moment.Beside (s.moment (.work .cycle)) (s'.moment (.work .cycle)) := by
  -- the two cycles act alike, so both buses are offered the same outputs
  have hagrees := hmeets.agrees rfl
  have hshows : ∀ t t', s.panel.acts s.world = some t → s'.panel.acts s'.world = some t' →
      (s'.panel.publishes s'.world t').1.isOk = (s.panel.publishes s.world t).1.isOk := by
    intro t t' ht ht'
    apply hmeets.accepts (t.console.outputs t.client, _) (t'.console.outputs t'.client, _)
    · show s.panel.shows s.world = _
      unfold Panel.shows
      rw [ht]
      rfl
    · show s'.panel.shows s'.world = _
      unfold Panel.shows
      rw [ht']
      rfl
  have hcycled := Panel.Beside.cycle h hagrees hshows
  refine of_next ?_ ?_ ?_
  · unfold next does
    rw [Panel.Beside.attempts h hagrees]
    generalize s.panel.cycle s.world = r, s'.panel.cycle s'.world = r' at hcycled ⊢
    cases hcycled with
    | none => exact .none
    | some hafter => exact .some ⟨rfl, hafter.2⟩
  · unfold reports
    generalize s.panel.cycle s.world = r, s'.panel.cycle s'.world = r' at hcycled ⊢
    cases hcycled with
    | none => rfl
    | @some r r' hafter =>
        dsimp only [Option.map_some]
        rw [hafter.1]
        rfl
  · exact shows_eq (Panel.Beside.shows h hagrees) hmeets.accepts

/-- **A startup in both.** -/
theorem startup (h : s.Beside s') (hmeets : s.Meets .startup s') :
    Option.Rel Moment.Beside (s.moment .startup) (s'.moment .startup) := by
  have hconnects := (s'.panel.client.connect_beside h.world).1
  have houtputs : (s'.shows .startup).map (·.1) = (s.shows .startup).map (·.1) := by
    unfold shows Panel.opens
    rw [hconnects, Panel.Beside.client h, Panel.Beside.console h]
    dsimp only
    split <;> rfl
  have hshows := shows_eq houtputs hmeets.accepts
  refine of_next (.some ⟨rfl, ?_⟩) rfl hshows
  exact Panel.Beside.startup h (congrArg (Option.map (·.2)) hshows)

theorem shutdown (h : s.Beside s') :
    Option.Rel Moment.Beside (s.moment .shutdown) (s'.moment .shutdown) := by
  have hshut := Panel.Beside.shutdown h
  refine of_next ?_ rfl rfl
  unfold next
  generalize s.panel.shutdown s.world = r, s'.panel.shutdown s'.world = r' at hshut ⊢
  cases hshut with
  | none => exact .none
  | some hafter => exact .some ⟨rfl, hafter⟩

/-- **Events that are alike lead from sessions beside each other to such sessions.** -/
theorem moment {event event' : Event} (h : s.Beside s') (hlike : event.Like event')
    (hmeets : s.Meets event s') :
    Option.Rel Moment.Beside (s.moment event) (s'.moment event') := by
  -- a replaced bus or directory is one of the things that may differ
  have hpanel : s'.panel = { s.panel with bus := s'.panel.bus } := Panel.Beside.panel h
  cases hlike with
  | pins bus bus' =>
      refine of_next (.some ⟨rfl, ?_, h.world⟩) rfl rfl
      dsimp only
      rw [hpanel]
  | files d d' =>
      refine of_next (.some ⟨rfl, hpanel, ?_⟩) rfl rfl
      exact (World.Beside.files s.world d).symm.trans (h.world.trans (.files s'.world d'))
  | same =>
      cases event with
      | startup => exact h.startup hmeets
      | shutdown => exact h.shutdown
      | work work =>
          by_cases hwork : work = .cycle
          · rw [hwork] at hmeets ⊢
            exact h.cycle hmeets
          · refine of_next (h.work hwork) ?_ ?_ <;>
              (cases work <;> first | exact absurd rfl hwork | rfl)

end Session.Beside

/-! ### What becomes of bus and files

What does become of a bus and of the files is determined by what they have been before and by what
the panel shows. Everything else that a session does passes them by, and this is what makes
histories comparable in which they differ.
-/

namespace CycleState

/-- An attempt uses no file of pins. -/
theorem Performs.directory {s s' : CycleState Simulated.transport}
    {actions : List (InputPin × Action)} {made : List (InputPin × Attempt)}
    (h : s.Performs actions made s') : s'.world.directory = s.world.directory := by
  induction h with
  | nil => rfl
  | cons hattempt _ ih =>
      rw [directory_after] at ih
      exact ih.trans (congrArg Surroundings.directory (Action.surroundings_attempt hattempt))

end CycleState

namespace Panel

variable {p p' : Panel Simulated.transport} {w w' : World}

/-- Between sampling and publishing a cycle uses no file. -/
theorem directory_acts {t : CycleState Simulated.transport} (h : p.acts w = some t) :
    t.world.directory = (p.bus.sample w.time.2).2.2.directory := by
  unfold acts at h
  obtain ⟨acted, hacted, rfl, _⟩ := Console.act_eq_some h
  have hperformed := (CycleState.performs_of_performAll hacted).directory
  have hlooked := congrArg Surroundings.directory ((acted.passNotices
    maxNoticesPerCycle).client.surroundings_refresh (acted.passNotices maxNoticesPerCycle).world)
  rw [(acted.passNotices maxNoticesPerCycle).refresh_frame.2]
  refine hlooked.trans ?_
  rw [CycleState.passNotices_eq]
  exact hperformed

end Panel

namespace Session

/-- Bus and files once this was published. -/
def published (bus : PinBus) (out : OutputPins) (w : World) : PinBus × Directory :=
  ((bus.publish out w).2.1, (bus.publish out w).2.2.directory)

/-- Bus and files after an event. -/
def carried (s : Session) : Event → PinBus × Directory
  | .startup =>
    match s.panel.opens s.world with
    | some (out, _) => published s.panel.bus out s.world
    | none => (s.panel.bus, s.world.directory)
  | .work .cycle =>
    match s.panel.shows s.world with
    | some (out, _) =>
      published (s.panel.bus.sample s.world.time.2).2.1 out
        (s.panel.bus.sample s.world.time.2).2.2
    | none => (s.panel.bus, s.world.directory)
  | .work (.pins bus) => (bus, s.world.directory)
  | .work (.files directory) => (s.panel.bus, directory)
  | _ => (s.panel.bus, s.world.directory)

variable {s s' : Session} {event : Event} {turn : Turn}

theorem published_files {w w' : World} (bus : PinBus) (out : OutputPins)
    (h : w'.directory = w.directory) : published bus out w' = published bus out w := by
  obtain ⟨_, hbus, hfiles⟩ := bus.publish_files out h
  unfold published
  rw [hbus, hfiles]

/-- Capturing the baseline shows the inactive outputs, and touches nothing else of the two. -/
theorem carried_captureBaseline (p : Panel Simulated.transport) (w : World) :
    ((p.captureBaseline w).2.1.bus, (p.captureBaseline w).2.2.directory)
      = published p.bus (.inactive p.console.setup.axisCount) w := by
  unfold Panel.captureBaseline published
  generalize p.bus.publish (.inactive p.console.setup.axisCount) w = shown
  obtain ⟨_ | _, bus, v⟩ := shown
  · rfl
  · have hlooked := congrArg Surroundings.directory (p.client.surroundings_refresh v)
    dsimp only
    generalize p.client.refresh v = looked at hlooked ⊢
    obtain ⟨_ | f, client, u⟩ := looked <;> exact congrArg (Prod.mk bus) hlooked

/-- What a startup shows it shows once it has connected, and closing again takes nothing back. -/
theorem carried_startup (s : Session) :
    ((s.panel.startup s.world).2.1.bus, (s.panel.startup s.world).2.2.directory)
      = s.carried .startup := by
  obtain ⟨p, w⟩ := s
  unfold carried Panel.startup Panel.opens
  dsimp only
  generalize hnoted : w.note .info .lifecycle "starting bridge" [("transport",
    Simulated.transport.name), ("axes", Text.decimal p.console.setup.axisCount)] = noted
  -- the line that a startup begins with changes neither the connect nor the files
  have hopens : (p.client.connect w).1 = (p.client.connect noted).1 := by
    rw [← hnoted]
    exact (p.client.connect_beside (World.Beside.note ..).symm).1
  have hfiles : (p.client.connect noted).2.2.directory = w.directory := by
    rw [← hnoted]
    exact (p.client.link.connect_leaves _).1
  rw [hopens]
  generalize p.client.connect noted = connected at hfiles ⊢
  obtain ⟨_ | _, client, v⟩ := connected
  · exact congrArg (Prod.mk p.bus) hfiles
  · -- after a connect that has succeeded, everything hangs on the baseline
    have hcaptured := carried_captureBaseline { p with client } v
    dsimp only at hcaptured hfiles ⊢
    rw [published_files p.bus _ hfiles] at hcaptured
    show _ = published p.bus (.inactive p.console.setup.axisCount) w
    rw [← hcaptured]
    generalize Panel.captureBaseline { p with client } v = captured
    obtain ⟨_ | _, q, u⟩ := captured
    · exact congrArg (Prod.mk q.bus) (q.client.link.directory_close _)
    · rfl

/-- A shutdown leaves bus and files alone. -/
theorem carried_shutdown {panel : Panel Simulated.transport} {world : World}
    (h : s.panel.shutdown s.world = some (panel, world)) :
    (panel.bus, world.directory) = (s.panel.bus, s.world.directory) := by
  have hfinish (handed : Panel Simulated.transport × World) :
      ((Panel.finish handed).1.bus, (Panel.finish handed).2.directory)
        = (handed.1.bus, handed.2.directory) :=
    congrArg (Prod.mk handed.1.bus) (handed.1.client.link.directory_close handed.2)
  have hquits := Panel.quits h
  -- an ended panel does nothing, and one without a baseline only finishes
  cases hended : s.panel.ended with
  | true =>
      cases hquits.again hended
      rfl
  | false =>
      cases hbaseline : s.panel.baseline with
      | none =>
          cases hquits.early hended hbaseline
          exact hfinish _
      | some b =>
          obtain ⟨p₁, w₁, hsettle, hquit⟩ := hquits.late b hended hbaseline
          cases hquit
          refine (hfinish _).trans ?_
          rw [(p₁.restoreBaseline_simulated b w₁).1, p₁.directory_restoreBaseline b w₁]
          obtain ⟨_, rfl, rfl⟩ | ⟨_, _, _, _, _, hwait, rfl, _, hfiles⟩ :=
            Panel.settle_cases hsettle
          · rfl
          · refine congrArg (Prod.mk s.panel.bus) (hfiles.trans ?_)
            exact congrArg Surroundings.directory (Client.surroundings_waitReceivedFor hwait)

/-- A cycle samples and shows, and no more. -/
theorem carried_cycle {report : CycleReport} {panel : Panel Simulated.transport} {world : World}
    (h : s.panel.cycle s.world = some (report, panel, world)) :
    (panel.bus, world.directory) = s.carried (.work .cycle) := by
  rw [Panel.cycle_eq, Option.map_eq_some_iff] at h
  obtain ⟨t, hacts, hconcludes⟩ := h
  -- the cycle ends with the outputs of the state after the last action
  have hshows : s.panel.shows s.world
      = some (t.console.outputs t.client, (s.panel.publishes s.world t).1.isOk) := by
    unfold Panel.shows
    rw [hacts]
    rfl
  -- of the files only what the publication changes, since the actions change none
  have hpublished := published_files (s.panel.bus.sample s.world.time.2).2.1
    (t.console.outputs t.client) (Panel.directory_acts hacts)
  unfold carried
  rw [hshows]
  dsimp only
  rw [← hpublished]
  unfold Panel.concludes Panel.publishes at hconcludes
  unfold published
  generalize (s.panel.bus.sample s.world.time.2).2.1.publish (t.console.outputs t.client) t.world
    = r at hconcludes ⊢
  obtain ⟨_ | _, bus, v⟩ := r <;> cases hconcludes <;> rfl

/-- **What becomes of bus and files** depends on them and on what is shown. -/
theorem carried_next (h : s.next event = some (turn, s')) :
    (s'.panel.bus, s'.world.directory) = s.carried event := by
  -- only startups and cycles publish, and only two kinds of work replace something
  cases event with
  | startup =>
      have hcarried := s.carried_startup
      cases h
      exact hcarried
  | shutdown =>
      obtain ⟨panel, world, hshutdown, rfl, rfl⟩ := shutdown_of_next h
      exact carried_shutdown hshutdown
  | work work =>
      cases work with
      | cycle =>
          rw [next] at h
          obtain ⟨report, panel, world, hcycle, rfl, rfl⟩ := cycle_of_does h
          exact carried_cycle hcycle
      | script script =>
          cases h
          rfl
      | pins bus =>
          cases h
          rfl
      | files directory =>
          cases h
          rfl
      | pause t =>
          cases h
          rfl
      | dispatch command policy =>
          rw [next] at h
          obtain ⟨a, client, world, hattempt, rfl, rfl⟩ := attempt_of_does h
          exact congrArg (Prod.mk s.panel.bus)
            (congrArg Surroundings.directory (Client.surroundings_attempt hattempt))
      | runProgram line =>
          rw [next] at h
          obtain ⟨a, client, world, hattempt, rfl, rfl⟩ := attemptRun_of_does h
          exact congrArg (Prod.mk s.panel.bus)
            (congrArg Surroundings.directory (Client.surroundings_attemptRun hattempt))
      | refresh =>
          cases h
          exact congrArg (Prod.mk s.panel.bus)
            (congrArg Surroundings.directory (s.panel.client.surroundings_refresh s.world))
      | poll =>
          rw [next, does, Client.poll_eq] at h
          cases h
          rfl

end Session
end OperatorPanel
