import OperatorPanel.Proofs.Cycle

/-!
# Sessions

A `Session` is a panel at work with a simulated controller, in its world. What can happen in one
is an `Event`: the panel is started, shut down, or used, and between its operations the controller
is scripted and the surroundings change as they like. `Session.Runs` is a whole history; a `Turn`
is what one event adds to the record of it.

An operation that would go on for ever has no turn, and no history goes beyond it.
-/

namespace OperatorPanel

/-! ### Events

A simulated controller can be told to behave in many ways, and does so at any time: it may ignore
what it is told, fail, show another status, or stop taking commands. These scripts are events like
all others, so that a history has them wherever it likes.
-/

/-- What can be asked of a simulated controller from outside. -/
inductive Script where
  | acknowledge (ack : Acknowledgement)
  | validate (valid : Bool)
  | disturb (fault : Option String)
  | interject (type : FrameType)
  | edit (f : Status → Status)
  | report (notice : Notice)
  | failOpens (count : Nat)

/-- Carry out a script. -/
def Script.apply (script : Script) (c : Simulator) : Simulator :=
  match script with
  | acknowledge ack => { c with ack }
  | validate commandValid => { c with commandValid }
  | disturb fault => { c with fault }
  | interject type => { c with unexpected := some type }
  | edit f => c.update f
  | report notice => { c with notices := c.notices ++ [notice] }
  | failOpens failingOpens => { c with failingOpens }

/-- No script adds a message to those that were received. -/
@[simp] theorem Script.received_apply (script : Script) (c : Simulator) :
    (script.apply c).received = c.received := by
  cases script <;> rfl

/-- What happens while a panel is in use. -/
inductive Work where
  | script (script : Script)
  /-- The pins get other values, by whichever bus. -/
  | pins (bus : PinBus)
  /-- The files of other processes change. -/
  | files (directory : Directory)
  | pause (t : Span)
  | cycle
  /-- Without a policy waits are as the settings say. -/
  | dispatch (command : Command) (policy : Option WaitPolicy)
  | runProgram (line : Int32)
  | refresh
  | poll

/-- What happens to a panel. -/
inductive Event where
  | startup
  | work (work : Work)
  | shutdown

/-! ### Histories

A history is a list of events that was gone through. Its turns keep what the state of a session does
not show, the samples that were taken and the attempts that were made.
-/

/-- A panel and its world. -/
structure Session where
  panel : Panel Simulated.transport
  world : World

/-- What an event adds to the record. -/
structure Turn where
  /-- The sample of a cycle. -/
  sample : Option InputSample := none
  /-- The attempts to send a command, in order. -/
  attempts : List Attempt := []

namespace Session

/-- The session after an operation of the client. -/
def withClient (s : Session) (client : Client Simulated.transport) (world : World) : Session where
  panel := { s.panel with client }
  world := world

/-- What one piece of work does. -/
def does (s : Session) : Work → Option (Turn × Session)
  | .script script =>
    some ({}, { s with world := { s.world with simulator := script.apply s.world.simulator } })
  | .pins bus => some ({}, { s with panel := { s.panel with bus } })
  | .files directory => some ({}, { s with world := { s.world with directory } })
  | .pause t => some ({}, { s with world := s.world.sleep t })
  | .cycle =>
    (s.panel.cycle s.world).map fun (_, panel, world) =>
      ({ sample := some (s.panel.sampled s.world)
         attempts := (s.panel.attempts s.world).map (·.2) }, { panel, world })
  | .dispatch command policy =>
    (s.panel.client.attempt command (policy.getD s.panel.client.wait.policy) s.world).map
      fun (a, client, world) => ({ attempts := [a] }, s.withClient client world)
  | .runProgram line =>
    (s.panel.client.attemptRun line s.world).map
      fun (a, client, world) => ({ attempts := [a] }, s.withClient client world)
  | .refresh =>
    let (_, client, world) := s.panel.client.refresh s.world
    some ({}, s.withClient client world)
  | .poll =>
    let (_, client, world) := s.panel.client.poll s.world
    some ({}, s.withClient client world)

/-! #### Work that waits -/

section Inversion

variable {s s' : Session} {turn : Turn}

/-- A cycle that comes to its end has a turn. -/
theorem cycle_of_does (h : s.does .cycle = some (turn, s')) :
    ∃ report panel world, s.panel.cycle s.world = some (report, panel, world) ∧
      turn = { sample := some (s.panel.sampled s.world)
               attempts := (s.panel.attempts s.world).map (·.2) } ∧
      s' = { panel, world } := by
  rw [does, Option.map_eq_some_iff] at h
  obtain ⟨⟨report, panel, world⟩, hcycle, heq⟩ := h
  cases heq
  exact ⟨report, panel, world, hcycle, rfl, rfl⟩

/-- A dispatch has one attempt. -/
theorem attempt_of_does {command : Command} {policy : Option WaitPolicy}
    (h : s.does (.dispatch command policy) = some (turn, s')) :
    ∃ a client world, s.panel.client.attempt command (policy.getD s.panel.client.wait.policy)
        s.world = some (a, client, world) ∧
      turn = { attempts := [a] } ∧ s' = s.withClient client world := by
  rw [does, Option.map_eq_some_iff] at h
  obtain ⟨⟨a, client, world⟩, hattempt, heq⟩ := h
  cases heq
  exact ⟨a, client, world, hattempt, rfl, rfl⟩

/-- So does a program run. -/
theorem attemptRun_of_does {line : Int32} (h : s.does (.runProgram line) = some (turn, s')) :
    ∃ a client world, s.panel.client.attemptRun line s.world = some (a, client, world) ∧
      turn = { attempts := [a] } ∧ s' = s.withClient client world := by
  rw [does, Option.map_eq_some_iff] at h
  obtain ⟨⟨a, client, world⟩, hattempt, heq⟩ := h
  cases heq
  exact ⟨a, client, world, hattempt, rfl, rfl⟩

end Inversion

/-- The five ways of a piece of work, by whom it concerns. -/
inductive Did (s : Session) : Work → Turn → Session → Prop
  /-- Something changes around the panel. -/
  | around {work : Work} {bus : PinBus} {world : World} :
      world.simulator.received = s.world.simulator.received →
      Did s work {} ⟨{ s.panel with bus }, world⟩
  /-- The client looks at what the controller shows. -/
  | looked {work : Work} {client : Client Simulated.transport} {world : World} :
      s.panel.client.Steady client → client.serial = s.panel.client.serial →
      world.simulator.received = s.world.simulator.received →
      Did s work {} (s.withClient client world)
  | tried {work : Work} {command : Command} {policy : WaitPolicy} {a : Attempt}
      {client : Client Simulated.transport} {world : World} :
      s.panel.client.attempt command policy s.world = some (a, client, world) →
      Did s work { attempts := [a] } (s.withClient client world)
  | ran {work : Work} {line : Int32} {a : Attempt} {client : Client Simulated.transport}
      {world : World} :
      s.panel.client.attemptRun line s.world = some (a, client, world) →
      Did s work { attempts := [a] } (s.withClient client world)
  | cycled {report : CycleReport} {panel : Panel Simulated.transport} {world : World} :
      s.panel.cycle s.world = some (report, panel, world) →
      Did s .cycle
        { sample := some (s.panel.sampled s.world)
          attempts := (s.panel.attempts s.world).map (·.2) } { panel, world }

/-- **Every piece of work goes one of the five ways.** -/
theorem did {s s' : Session} {work : Work} {turn : Turn} (h : s.does work = some (turn, s')) :
    s.Did work turn s' := by
  cases work with
  | script script => -- the first four works change what is around the panel
      cases h
      exact .around (script.received_apply _)
  | pins bus =>
      cases h
      exact .around rfl
  | files directory =>
      cases h
      exact .around rfl
  | pause t =>
      cases h
      exact .around rfl
  | cycle => -- the works of the panel itself: a cycle, or the client alone
      obtain ⟨report, panel, world, hcycle, rfl, rfl⟩ := cycle_of_does h
      exact .cycled hcycle
  | dispatch command policy =>
      obtain ⟨a, client, world, hattempt, rfl, rfl⟩ := attempt_of_does h
      exact .tried hattempt
  | runProgram line =>
      obtain ⟨a, client, world, hattempt, rfl, rfl⟩ := attemptRun_of_does h
      exact .ran hattempt
  | refresh => -- the last two are looks of the client
      have hsteady := s.panel.client.steady_refresh s.world
      have hreceived := (s.panel.client.quiet_refresh s.world).simulator.received
      cases h
      exact .looked hsteady rfl hreceived
  | poll =>
      have hsteady := s.panel.client.steady_poll s.world
      have hreceived := s.panel.client.link.received_poll s.world
      cases h
      exact .looked hsteady rfl hreceived

/-- What one event does. -/
def next (s : Session) : Event → Option (Turn × Session)
  | .startup =>
    let (_, panel, world) := s.panel.startup s.world
    some ({}, { panel, world })
  | .work work => s.does work
  | .shutdown => (s.panel.shutdown s.world).map fun (panel, world) => ({}, { panel, world })

/-- A startup always has a turn, whether it succeeds or fails. -/
theorem startup_of_next {s s' : Session} {turn : Turn} (h : s.next .startup = some (turn, s')) :
    ∃ r panel world, s.panel.startup s.world = (r, panel, world) ∧
      turn = {} ∧ s' = { panel, world } := by
  rw [next] at h
  generalize s.panel.startup s.world = started at h ⊢
  obtain ⟨r, panel, world⟩ := started
  cases h
  exact ⟨r, panel, world, rfl, rfl, rfl⟩

/-- A shutdown has one when its wait comes to an end. -/
theorem shutdown_of_next {s s' : Session} {turn : Turn} (h : s.next .shutdown = some (turn, s')) :
    ∃ panel world, s.panel.shutdown s.world = some (panel, world) ∧
      turn = {} ∧ s' = { panel, world } := by
  rw [next, Option.map_eq_some_iff] at h
  obtain ⟨⟨panel, world⟩, hshutdown, heq⟩ := h
  cases heq
  exact ⟨panel, world, hshutdown, rfl, rfl⟩

/-- From `s` the events lead to `s'`, each with its turn. -/
inductive Runs : Session → List Event → List Turn → Session → Prop
  | nil (s : Session) : Runs s [] [] s
  | cons {s s₁ s' : Session} {event : Event} {events : List Event} {turn : Turn}
      {turns : List Turn} :
      s.next event = some (turn, s₁) → Runs s₁ events turns s' →
      Runs s (event :: events) (turn :: turns) s'

/-- Play a history. -/
def play (s : Session) : List Event → Option (List Turn × Session)
  | [] => some ([], s)
  | event :: events =>
    match s.next event with
    | none => none
    | some (turn, s) => (s.play events).map fun (turns, s) => (turn :: turns, s)

/-- What was played is a history. -/
theorem runs_of_play {s s' : Session} {events : List Event} {turns : List Turn}
    (h : s.play events = some (turns, s')) : Runs s events turns s' := by
  induction events generalizing s turns with
  | nil =>
      cases h
      exact .nil _
  | cons event events ih =>
      rw [play] at h
      split at h
      · cases h
      · next hnext =>
          obtain ⟨⟨turns₁, s₁⟩, hplay, heq⟩ := Option.map_eq_some_iff.1 h
          cases heq
          exact .cons hnext (ih hplay)

/-- A history of work only. -/
def Works (s : Session) (works : List Work) (turns : List Turn) (s' : Session) : Prop :=
  Runs s (works.map .work) turns s'

/-! ### Through a history

Invariants of a session are proved for one piece of work and hold through all of it. The one below
says what work can never change, and nearly every other argument begins with it.
-/

/-- **What each piece of work keeps, all work keeps.** -/
theorem Works.invariant {P : Session → Prop}
    (step : ∀ s work turn s', P s → s.does work = some (turn, s') → P s')
    {s s' : Session} {works : List Work} {turns : List Turn} (h : Works s works turns s')
    (hs : P s) : P s' := by
  induction works generalizing s turns with
  | nil =>
      cases h
      exact hs
  | cons work works ih =>
      cases h with
      | cons hnext hrest => exact ih hrest (step _ _ _ _ hs hnext)

end Session

/-- What no work changes: which channels are open, how waits are, the baseline, and whether
shutdown has begun. -/
structure Panel.Lasts (p p' : Panel Simulated.transport) : Prop where
  steady : p.client.Steady p'.client
  baseline : p'.baseline = p.baseline
  ended : p'.ended = p.ended

namespace Panel.Lasts

theorem refl (p : Panel Simulated.transport) : p.Lasts p := ⟨.refl _, rfl, rfl⟩

/-- What lasts twice lasts. -/
theorem trans {p p₁ p' : Panel Simulated.transport} (h : p.Lasts p₁) (h' : p₁.Lasts p') :
    p.Lasts p' where
  steady := h.steady.trans h'.steady
  baseline := h'.baseline.trans h.baseline
  ended := h'.ended.trans h.ended

/-- An operation of the client. -/
theorem ofClient {p : Panel Simulated.transport} {client : Client Simulated.transport}
    (h : p.client.Steady client) : p.Lasts { p with client } := ⟨h, rfl, rfl⟩

/-- A cycle changes none of this. -/
theorem cycle {p p' : Panel Simulated.transport} {w w' : World} {report : CycleReport}
    (h : p.cycle w = some (report, p', w')) : p.Lasts p' := by
  obtain ⟨acted, tidied, hcycled⟩ := Panel.cycled h
  refine ⟨?_, hcycled.baseline, hcycled.ended⟩
  rw [hcycled.client]
  exact hcycled.performs.steady.trans hcycled.tidies.steady

end Panel.Lasts

namespace Session

/-- No piece of work changes any of this. -/
theorem lasts_does {s s' : Session} {work : Work} {turn : Turn}
    (h : s.does work = some (turn, s')) : s.panel.Lasts s'.panel := by
  cases did h with
  | around => exact ⟨.refl _, rfl, rfl⟩
  | looked hsteady => exact .ofClient hsteady
  | tried hattempt => exact .ofClient (Client.steady_attempt hattempt)
  | ran hattempt => exact .ofClient (Client.steady_attemptRun hattempt)
  | cycled hcycle => exact .cycle hcycle

/-- So it lasts through any amount of work. -/
theorem Works.lasts {s s' : Session} {works : List Work} {turns : List Turn}
    (h : Works s works turns s') : s.panel.Lasts s'.panel :=
  h.invariant (P := fun s₁ => s.panel.Lasts s₁.panel)
    (fun _ _ _ _ hs hdoes => hs.trans (lasts_does hdoes)) (.refl _)

end Session
end OperatorPanel
