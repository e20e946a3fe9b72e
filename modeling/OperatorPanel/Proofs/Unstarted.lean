import OperatorPanel.Proofs.Restart

/-!
# Before the first startup that succeeds

A startup can fail at three points: no channel opens, the outputs cannot be shown, or the first
look at the status goes wrong when the command channel is open already. Whichever it is, the panel
is as it was before: without channels, without a baseline, and not running (`Panel.Unstarted`).

As long as it is so, every request comes to its end and reaches nobody (`Session.answer_unstarted`),
and by induction no history without a startup that succeeds adds a message
(`Panel.silent_until_started`).
-/

namespace OperatorPanel

/-! ### Requests

Requests are the events of a session, and the loop of cycles besides. Each one has an answer, so
that a log of requests with their answers says which startups have succeeded, if any.
-/

namespace Session

/-- What can be asked of a panel. -/
inductive Request where
  | event (event : Event)
  /-- To go through cycles; the order to stop comes in the one of this number. -/
  | run (cycles : Nat)

def Request.isStartup : Request → Bool
  | .event .startup => true
  | _ => false

/-- Requests with what was said to them. -/
abbrev Log := List (Request × Except PanelError Unit)

/-- No startup has succeeded. -/
def Log.NeverStarted (log : Log) : Prop :=
  ∀ entry ∈ log, entry.1.isStartup = true → entry.2.isOk = false

instance (log : Log) : Decidable log.NeverStarted :=
  inferInstanceAs (Decidable (∀ entry ∈ log, _))

/-- Whether the panel does what it is asked for, and the session afterwards. Other events than
a startup may well go wrong, but are not refused. -/
def answer (s : Session) : Request → Option (Except PanelError Unit × Session)
  | .event .startup =>
    let (r, panel, world) := s.panel.startup s.world
    some (r, { panel, world })
  | .event event => (s.next event).map fun (_, s') => (.ok (), s')
  | .run cycles => (s.panel.run s.world cycles).map fun (r, panel, world) => (r, { panel, world })

/-- Make requests, one after the other. -/
def ask (s : Session) : List Request → Option (Log × Session)
  | [] => some ([], s)
  | request :: requests =>
    match s.answer request with
    | none => none
    | some (r, s) => (s.ask requests).map fun (log, s') => ((request, r) :: log, s')

end Session

/-! ### A startup that fails

Every way in which a startup fails ends in closing. So there is one state that all failures lead to,
and it is the one that a new panel is in.
-/

/-- A panel that holds nothing: it was not started, or its startups have failed. -/
structure Panel.Unstarted (p : Panel Simulated.transport) : Prop where
  empty : p.client.link.Empty
  baseline : p.baseline = none
  running : p.running = false

namespace Panel

variable {p p' : Panel Simulated.transport} {w w' : World} {e : PanelError}

/-- Where the baseline cannot be taken, there is none, and the panel does not run. -/
theorem captureBaseline_eq_error (h : p.captureBaseline w = (.error e, p', w')) :
    p'.baseline = p.baseline ∧ p'.running = p.running := by
  unfold captureBaseline at h
  split at h
  · cases h
    exact ⟨rfl, rfl⟩
  · split at h
    · cases h
      exact ⟨rfl, rfl⟩
    · cases h

/-- **A startup that fails** leaves the panel as it was. -/
theorem Unstarted.startup (hp : p.Unstarted) (h : p.startup w = (.error e, p', w')) :
    p'.Unstarted := by
  have hempty := (startup_eq_error h).1
  unfold Panel.startup at h
  dsimp only at h
  split at h
  · cases h
    exact ⟨hempty, hp.baseline, hp.running⟩
  · split at h
    · cases h
    · next hcapture =>
        obtain ⟨hbaseline, hrunning⟩ := captureBaseline_eq_error hcapture
        cases h
        exact ⟨hempty, hbaseline.trans hp.baseline, hrunning.trans hp.running⟩

/-! ### What is not started

A panel that was not started has no baseline, which a shutdown and a drop go by, and does not run,
which the loop asks for. So neither of these reaches anybody.
-/

namespace Unstarted

/-- There is no baseline to hand back, so a shutdown only closes what is closed already. -/
theorem shutdown (hp : p.Unstarted) (w : World) :
    ∃ p' w', p.shutdown w = some (p', w') ∧ p'.Unstarted ∧
      w'.simulator.received = w.simulator.received := by
  have hends : (p.shutdown w).isSome = true := by
    unfold Panel.shutdown
    simp only [hp.baseline]
    split <;> rfl
  obtain ⟨⟨p', w'⟩, hshutdown⟩ := Option.isSome_iff_exists.1 hends
  refine ⟨p', w', hshutdown, ?_⟩
  obtain ⟨_, rfl, rfl⟩ | ⟨settled, settledWorld, hshut⟩ := shutdown_eq_some hshutdown
  · exact ⟨⟨hp.empty, hp.baseline, rfl⟩, rfl⟩
  · refine ⟨?_, hshut.received_of_none hp.baseline⟩
    have hsettled := hshut.waits.steady.empty hp.empty
    rw [hshut.panel]
    exact ⟨Link.empty_shut (.inr hsettled), hp.baseline, rfl⟩

/-- To give it up reaches nobody either. -/
theorem drop (hp : p.Unstarted) (w : World) :
    ∃ w', p.drop w = some w' ∧ w'.simulator.received = w.simulator.received := by
  obtain ⟨p', w', hshutdown, _, hreceived⟩ := hp.shutdown w
  unfold Panel.drop
  rw [hshutdown]
  refine ⟨_, rfl, ?_⟩
  rw [PinBus.simulator_drop, Link.release_simulated]
  exact hreceived

/-- The loop of cycles is refused. -/
theorem run (hp : p.Unstarted) (w : World) (n : Nat) :
    p.run w n = some (.error (.invalid "bridge loop started before startup"), p, w) := by
  unfold Panel.run enterLoop
  rw [hp.baseline]

end Unstarted

/-- A new panel was not started. -/
theorem unstarted_of_create {settings : Settings} {bus : PinBus}
    (h : Panel.create Simulated.transport settings bus = .ok p) : p.Unstarted := by
  obtain ⟨_, setup, _, rfl⟩ := create_eq_ok h
  exact ⟨⟨rfl, rfl, rfl⟩, rfl, rfl⟩

end Panel

/-! ### Histories

The state is kept by every request but a startup that succeeds, and while it is kept every request
is answered and nobody hears of it. Both are one induction over the requests.
-/

namespace Session

variable {s s' : Session}

/-- **Every request is answered**, and unless a startup succeeds, nobody hears of it and nothing
is held afterwards. -/
theorem answer_unstarted (hs : s.panel.Unstarted) (request : Request) :
    ∃ r s', s.answer request = some (r, s') ∧
      s'.world.simulator.received = s.world.simulator.received ∧
      ((request.isStartup = true → r.isOk = false) → s'.panel.Unstarted) := by
  cases request with
  | run n =>
      have hanswer : s.answer (.run n)
          = some (.error (.invalid "bridge loop started before startup"), s) := by
        rw [answer, hs.run, Option.map_some]
      exact ⟨_, s, hanswer, rfl, fun _ => hs⟩
  | event event =>
      cases event with
      | startup =>
          have hreceived := (s.panel.silent_startup s.world).1
          rcases hstart : s.panel.startup s.world with ⟨r, panel, world⟩
          rw [hstart] at hreceived
          refine ⟨r, ⟨panel, world⟩, ?_, hreceived, ?_⟩
          · rw [answer, hstart]
          · intro hfails
            cases r with
            | error e => exact hs.startup hstart
            | ok => exact absurd (hfails rfl) (by simp [Except.isOk, Except.toBool])
      | shutdown =>
          obtain ⟨panel, world, hshutdown, hpanel, hreceived⟩ := hs.shutdown s.world
          refine ⟨.ok (), ⟨panel, world⟩, ?_, hreceived, fun _ => hpanel⟩
          simp [answer, next, hshutdown]
      | work work =>
          obtain ⟨turn, s', hdoes, hreceived⟩ := does_empty hs.empty work
          have hlasts := lasts_does hdoes
          refine ⟨.ok (), s', ?_, hreceived, fun _ => ?_⟩
          · simp [answer, next, hdoes]
          · exact
              { empty := hlasts.steady.empty hs.empty
                baseline := hlasts.baseline.trans hs.baseline
                running := (running_does hdoes).trans hs.running }

/-- What holds after every request holds after all of them. -/
theorem ask_unstarted {requests : List Request} {log : Log} (hs : s.panel.Unstarted)
    (h : s.ask requests = some (log, s')) (hfails : log.NeverStarted) :
    s'.panel.Unstarted ∧ s'.world.simulator.received = s.world.simulator.received ∧
      ∀ n r, (.run n, r) ∈ log → r = .error (.invalid "bridge loop started before startup") := by
  -- by induction on the requests; the log of the first one says that it was no startup that
  -- succeeded
  induction requests generalizing s log with
  | nil =>
      cases h
      exact ⟨hs, rfl, fun n r hentry => absurd hentry List.not_mem_nil⟩
  | cons request requests ih =>
      obtain ⟨r, s₁, hanswer, hreceived, hkept⟩ := answer_unstarted hs request
      rw [ask, hanswer] at h
      obtain ⟨⟨log₁, s₂⟩, hrest, heq⟩ := Option.map_eq_some_iff.1 h
      cases heq
      have hfirst := hfails (request, r) List.mem_cons_self
      have hlater : Log.NeverStarted log₁ :=
        fun entry hentry => hfails entry (List.mem_cons_of_mem _ hentry)
      obtain ⟨hend, hsilent, hrefused⟩ := ih (hkept hfirst) hrest hlater
      refine ⟨hend, hsilent.trans hreceived, ?_⟩
      intro n r' hentry
      cases hentry with
      | tail _ hentry => exact hrefused n r' hentry
      | head =>
          rw [answer, hs.run] at hanswer
          cases hanswer
          rfl

end Session

namespace Panel

/-- **Nothing is sent before a startup succeeds, and one that fails holds nothing.** Take a new
panel at any controller and any requests, scripts for the controller between them included, of
which no startup succeeds. Then no message was received; the panel has no baseline, does not run and
holds no channel; the loop of cycles was refused whenever it was asked for, and is refused now;
any other request has an answer too; and when the panel is given up, still nothing is received. -/
theorem silent_until_started {settings : Settings} {bus : PinBus}
    {p : Panel Simulated.transport} {w : World} {requests : List Session.Request}
    {log : Session.Log} {s : Session}
    (hcreate : Panel.create Simulated.transport settings bus = .ok p)
    (hasked : Session.ask ⟨p, w⟩ requests = some (log, s)) (hfails : log.NeverStarted) :
    s.world.simulator.received = w.simulator.received ∧ s.panel.baseline = none ∧
      s.panel.running = false ∧ s.panel.client.link.Empty ∧
      (∀ n r, (.run n, r) ∈ log → r = .error (.invalid "bridge loop started before startup")) ∧
      (∀ n, s.answer (.run n)
        = some (.error (.invalid "bridge loop started before startup"), s)) ∧
      (∀ request, ∃ r t, s.answer request = some (r, t)) ∧
      ∃ w', s.panel.drop s.world = some w' ∧
        w'.simulator.received = w.simulator.received := by
  obtain ⟨hs, hreceived, hrefused⟩ :=
    Session.ask_unstarted (unstarted_of_create hcreate) hasked hfails
  obtain ⟨w', hdrop, hsilent⟩ := hs.drop s.world
  refine ⟨hreceived, hs.baseline, hs.running, hs.empty, hrefused, ?_, ?_, w', hdrop, ?_⟩
  · intro n
    rw [Session.answer, hs.run, Option.map_some]
  · intro request
    obtain ⟨r, t, hanswer, _⟩ := Session.answer_unstarted hs request
    exact ⟨r, t, hanswer⟩
  · exact hsilent.trans hreceived

/-- Settings with which a panel tries to connect once. -/
def hasty : Settings := { retryTime := 0 }

/-- A startup at a controller that cannot be reached, one at a status channel that does not work,
and one where the first frame is no status, with other requests after each. -/
def threeFailures : List Session.Request :=
  [.event (.work (.script (.failOpens 1000))), .event .startup, .run 3,
    .event (.work (.script (.failOpens 0))), .event (.work (.script (.disturb (some "gone")))),
    .event .startup, .event (.work (.dispatch .mistOn none)), .event .shutdown,
    .event (.work (.script (.disturb none))), .event (.work (.script (.interject .notice))),
    .event .startup, .event (.work .cycle), .event (.work (.runProgram 1))]

/-- All thirteen requests are answered, and nothing is sent. -/
theorem silent_until_started_thrice :
    ∃ p log s, Panel.create Simulated.transport hasty { carrier := .memory {} } = .ok p ∧
      Session.ask ⟨p, .echoing 7⟩ threeFailures = some (log, s) ∧ log.length = 13 ∧
      s.world.simulator.received = [] ∧ s.panel.client.link.Empty := by
  have hasks : (Panel.create Simulated.transport hasty { carrier := .memory {} }).toOption.any
      (fun p => (Session.ask ⟨p, .echoing 7⟩ threeFailures).any
        fun (log, _) => decide (log.NeverStarted ∧ log.length = 13)) = true := by
    decide +kernel
  rcases hcreate : Panel.create Simulated.transport hasty { carrier := .memory {} } with e | p
  · rw [hcreate] at hasks
    cases hasks
  · rw [hcreate] at hasks
    replace hasks : (Session.ask ⟨p, .echoing 7⟩ threeFailures).any _ = true := hasks
    obtain ⟨⟨log, s⟩, hasked, hlog⟩ := (Option.any_eq_true _ _).1 hasks
    obtain ⟨hfails, hlength⟩ := of_decide_eq_true hlog
    obtain ⟨hreceived, _, _, hempty, _⟩ := silent_until_started hcreate hasked hfails
    exact ⟨p, log, s, rfl, hasked, hlength, hreceived, hempty⟩

end Panel
end OperatorPanel
