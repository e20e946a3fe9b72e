import OperatorPanel.Proofs.Following

/-!
# Progress

Where waits end, everything ends: an attempt, a cycle, and by induction every history
(`Session.runs_exist`). How a client waits does not change in a session, so the limit of the
settings is enough.
-/

namespace OperatorPanel

/-! ### Attempts and cycles -/

namespace Client.Bounded

variable {c : Client Simulated.transport}

theorem attempt_isSome (h : c.Bounded) (command : Command) (policy : WaitPolicy) (w : World) :
    (c.attempt command policy w).isSome := by
  rw [attempt, Option.isSome_map]
  exact h.dispatchWith_isSome Route.simulated.keepsTime command policy w

theorem attemptRun_isSome (h : c.Bounded) (line : Int32) (w : World) :
    (c.attemptRun line w).isSome := by
  have hkept := h.keep (c.steady_refresh w).wait
  unfold attemptRun
  dsimp only
  split
  · exact hkept.attempt_isSome ..
  · rfl

theorem action_isSome (h : c.Bounded) (action : Action) (w : World) :
    (action.attempt c w).isSome := by
  cases action with
  | send command => exact h.attempt_isSome ..
  | startJog axis command => exact h.attempt_isSome ..
  | runProgram => exact h.attemptRun_isSome ..

end Client.Bounded

/-- The actions of a scan come to their end. -/
theorem CycleState.performAll_isSome {s : CycleState Simulated.transport}
    (h : s.client.Bounded) (actions : List (InputPin × Action)) :
    (s.performAll actions).isSome := by
  induction actions generalizing s with
  | nil => rfl
  | cons action actions ih =>
      obtain ⟨pin, action⟩ := action
      obtain ⟨⟨a, client, world⟩, hattempt⟩ :=
        Option.isSome_iff_exists.1 (h.action_isSome action s.world)
      have hkept : (s.after pin action a client world).client.Bounded := by
        rw [client_after]
        exact h.keep (Action.steady_attempt hattempt).wait
      rw [performAll, perform_eq, hattempt]
      exact ih hkept

namespace Panel

variable {p p' : Panel Simulated.transport} {w w' : World}

/-- **Every cycle ends.** -/
theorem cycle_ends (h : p.client.Bounded) (w : World) : (p.cycle w).isSome := by
  have hactions : ((p.scanned w).performAll (p.decided w).1).isSome :=
    CycleState.performAll_isSome h _
  obtain ⟨acted, hacted⟩ := Option.isSome_iff_exists.1 hactions
  exact cycle_isSome hacted

theorem wait_startup (p : Panel Simulated.transport) (w : World) :
    (p.startup w).2.1.client.wait = p.client.wait := by
  apply startup_invariant (P := fun c _ => c.wait = p.client.wait)
  · exact fun _ _ hwait => hwait
  · exact fun _ _ hwait => hwait
  · exact fun _ _ hwait => hwait
  · exact fun _ _ hwait _ _ _ _ hsame _ => hsame.trans hwait
  · rfl

theorem wait_shutdown (h : p.shutdown w = some (p', w')) : p'.client.wait = p.client.wait := by
  obtain ⟨_, rfl, _⟩ | ⟨settled, settledWorld, hshut⟩ := shutdown_eq_some h
  · rfl
  · rw [hshut.panel]
    exact hshut.waits.keeps.wait

/-- A panel waits as its settings say. -/
theorem wait_of_create {settings : Settings} {bus : PinBus}
    (h : Panel.create Simulated.transport settings bus = .ok p) :
    p.client.wait
      = { policy := settings.waitPolicy
          limit := settings.waitLimit
          interval := settings.pollInterval } := by
  obtain ⟨_, setup, _, rfl⟩ := create_eq_ok h
  rfl

theorem bounded_of_create {settings : Settings} {bus : PinBus}
    (h : Panel.create Simulated.transport settings bus = .ok p)
    (hlimit : settings.waitLimit.isSome = true) : p.client.Bounded where
  limit := by
    rw [wait_of_create h]
    dsimp only
    exact hlimit
  interval := by
    rw [wait_of_create h]
    exact Settings.pollInterval_pos (new_of_create h).valid

end Panel

/-! ### Histories -/

namespace Session

variable {s s' : Session}

theorem wait_next {event : Event} {turn : Turn} (h : s.next event = some (turn, s')) :
    s'.panel.client.wait = s.panel.client.wait := by
  cases event with
  | startup =>
      have hwait := s.panel.wait_startup s.world
      cases h
      exact hwait
  | work work => exact (lasts_does h).steady.wait
  | shutdown =>
      obtain ⟨panel, world, hshutdown, rfl, rfl⟩ := shutdown_of_next h
      exact Panel.wait_shutdown hshutdown

/-- **Every event ends.** -/
theorem next_isSome (h : s.panel.client.Bounded) (event : Event) : (s.next event).isSome := by
  cases event with
  | startup => rfl
  | shutdown =>
      rw [next, Option.isSome_map]
      exact Panel.shutdown_isSome s.world h.interval
  | work work =>
      cases work with
      | cycle =>
          rw [next, does, Option.isSome_map]
          exact Panel.cycle_ends h s.world
      | dispatch command policy =>
          rw [next, does, Option.isSome_map]
          exact h.attempt_isSome ..
      | runProgram line =>
          rw [next, does, Option.isSome_map]
          exact h.attemptRun_isSome ..
      | _ => rfl  -- the remaining works do not wait for anything

/-- **Every history can be gone through.** -/
theorem runs_exist (h : s.panel.client.Bounded) (events : List Event) :
    ∃ turns s', Runs s events turns s' := by
  induction events generalizing s with
  | nil => exact ⟨[], s, .nil s⟩
  | cons event events ih =>
      obtain ⟨⟨turn, s₁⟩, hnext⟩ := Option.isSome_iff_exists.1 (next_isSome h event)
      obtain ⟨turns, s', hruns⟩ := ih (h.keep (wait_next hnext))
      exact ⟨turn :: turns, s', .cons hnext hruns⟩

theorem Runs.wait {events : List Event} {turns : List Turn} (h : Runs s events turns s') :
    s'.panel.client.wait = s.panel.client.wait := by
  induction h with
  | nil => rfl
  | cons hnext _ ih => exact ih.trans (wait_next hnext)

end Session

end OperatorPanel
