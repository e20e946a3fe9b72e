import OperatorPanel.Proofs.Following

/-!
# Contact with the controller

All that a panel ever does with its controller is to open channels, look at the status, take
notices and send messages (`Simulator.Used`). So what holds through each of these, and through the
scripts of a session, holds through the whole session (`Session.Runs.controller`), in whatever order
its events come.
-/

namespace OperatorPanel

namespace Simulator

/-- Between the two, a panel was in contact with the controller. -/
inductive Used : Simulator → Simulator → Prop
  | idle (c : Simulator) : Used c c
  | opened {c c' : Simulator} : c.Reached c' → Used c c'
  | looked (c : Simulator) (seen : UInt64) : Used c (c.peek seen).2.2
  | noticed (c : Simulator) (notices : List Notice) : Used c { c with notices }
  | told (c : Simulator) (m : Message) : Used c (c.receive m)
  | trans {c c₁ c' : Simulator} : Used c c₁ → Used c₁ c' → Used c c'

/-- **What each kind of contact keeps, all contact keeps.** -/
theorem Used.invariant {P : Simulator → Prop} (opened : ∀ c c', c.Reached c' → P c → P c')
    (looked : ∀ c seen, P c → P (c.peek seen).2.2)
    (noticed : ∀ c notices, P c → P { c with notices })
    (told : ∀ c m, P c → P (c.receive m)) {c c' : Simulator} (h : Used c c') (hP : P c) :
    P c' := by
  induction h with
  | idle => exact hP
  | opened hreached => exact opened _ _ hreached hP
  | looked c seen => exact looked c seen hP
  | noticed c notices => exact noticed c notices hP
  | told c m => exact told c m hP
  | trans _ _ ih ih' => exact ih' (ih hP)

end Simulator

/-! ### The client

Each operation of a client is made of these kinds of contact. A wait is many looks, and an attempt
is at most a message with looks before and after it.
-/

namespace Client

variable {c c' : Client Simulated.transport} {w w' : World} {a : Attempt}

/-- A refresh looks at the status. -/
theorem used_refresh (c : Client Simulated.transport) (w : World) :
    w.simulator.Used (c.refresh w).2.2.simulator := by
  rw [refresh_world]
  unfold Link.peek
  split
  · exact .idle _
  · exact .looked _ _

/-- A wait looks at it, again and again. -/
theorem Waits.used (h : Waits c w c' w') : w.simulator.Used w'.simulator :=
  h.invariant (P := fun _ w₁ => w.simulator.Used w₁.simulator)
    (fun c₁ w₁ hused => hused.trans (c₁.used_refresh w₁)) (fun _ _ hused => hused)
    (fun _ _ _ hused => hused) (.idle _)

/-- A poll takes a notice, or finds none. -/
theorem used_poll (c : Client Simulated.transport) (w : World) :
    w.simulator.Used (c.poll w).2.2.simulator := by
  obtain ⟨notices, hpolled⟩ := c.link.simulator_poll w
  have hsimulator : (c.poll w).2.2.simulator = { w.simulator with notices } := hpolled
  rw [hsimulator]
  exact .noticed _ _

/-- An attempt may tell the controller something, and then waits. -/
theorem used_attempt {command : Command} {policy : WaitPolicy}
    (h : c.attempt command policy w = some (a, c', w')) : w.simulator.Used w'.simulator := by
  cases attempted h with
  | refused => exact .idle _
  | unsent => exact .idle _
  | sent _ _ hwaits _ => exact (Simulator.Used.told _ _).trans hwaits.used

/-- A program run looks before it tells. -/
theorem used_attemptRun {line : Int32} (h : c.attemptRun line w = some (a, c', w')) :
    w.simulator.Used w'.simulator := by
  have hlook := c.used_refresh w
  unfold attemptRun at h
  dsimp only at h
  split at h
  · exact hlook.trans (used_attempt h)
  · cases h
    exact hlook

/-- Connecting opens channels, as far as it gets. -/
theorem used_connect (c : Client Simulated.transport) (w : World) :
    w.simulator.Used (c.connect w).2.2.simulator :=
  .opened (c.link.connect_channel w).1

end Client

/-- So the action of a pin is contact of these kinds. -/
theorem Action.used_attempt {action : Action} {c c' : Client Simulated.transport} {w w' : World}
    {a : Attempt} (h : action.attempt c w = some (a, c', w')) : w.simulator.Used w'.simulator := by
  cases action with
  | send command => exact Client.used_attempt h
  | startJog axis command => exact Client.used_attempt h
  | runProgram => exact Client.used_attemptRun h

/-! ### The panel

What a panel does is what its client does. A startup connects and looks, a cycle attempts, takes
notices and looks, and a shutdown waits and tells the controller one last thing.
-/

namespace CycleState

/-- The actions of a scan, one after the other. -/
theorem Performs.used {s s' : CycleState Simulated.transport} {actions : List (InputPin × Action)}
    {made : List (InputPin × Attempt)} (h : s.Performs actions made s') :
    s.world.simulator.Used s'.world.simulator := by
  induction h with
  | nil => exact .idle _
  | cons hattempt _ ih =>
      rw [simulator_after] at ih
      exact (Action.used_attempt hattempt).trans ih

/-- Notices are taken one by one. -/
theorem used_passNotices (s : CycleState Simulated.transport) (n : Nat) :
    s.world.simulator.Used (s.passNotices n).world.simulator := by
  apply passNotices_invariant (P := fun _ w => s.world.simulator.Used w.simulator)
  · intro c w hused
    exact hused.trans (c.used_poll w)
  · intro c w w' hnoted hused
    rw [hnoted]
    exact hused
  · exact .idle _

/-- A look at the end of a cycle. -/
theorem used_refresh (s : CycleState Simulated.transport) :
    s.world.simulator.Used s.refresh.world.simulator := by
  have hlook := s.client.used_refresh s.world
  rw [(refresh_eq (r := (s.client.refresh s.world).1) rfl).2.1]
  exact hlook

end CycleState

namespace Panel

variable {p p' : Panel Simulated.transport} {w w' : World}

/-- A cycle is its attempts, the notices and a look. -/
theorem used_cycle {report : CycleReport} (h : p.cycle w = some (report, p', w')) :
    w.simulator.Used w'.simulator := by
  obtain ⟨acted, tidied, hcycled⟩ := Panel.cycled h
  have hperformed := hcycled.performs.used
  rw [simulator_scanned] at hperformed
  rw [hcycled.simulator, hcycled.tidied_eq]
  exact hperformed.trans ((acted.used_passNotices _).trans (CycleState.used_refresh _))

/-- A startup opens channels and looks. -/
theorem used_startup (p : Panel Simulated.transport) (w : World) :
    w.simulator.Used (p.startup w).2.2.simulator := by
  apply startup_invariant (P := fun _ w' => w.simulator.Used w'.simulator)
  · intro c v hused
    exact hused.trans (c.used_connect v)
  · intro c v hused
    exact hused.trans (c.used_refresh v)
  · intro c v hused
    rw [(c.close_simulated v).2]
    exact hused
  · intro c v hused c' v' _ _ _ hsimulator
    rw [hsimulator]
    exact hused
  · exact .idle _

/-- A shutdown waits, and may hand the baseline back. -/
theorem used_shutdown (h : p.shutdown w = some (p', w')) : w.simulator.Used w'.simulator := by
  obtain ⟨_, _, rfl⟩ | ⟨settled, settledWorld, hshut⟩ := shutdown_eq_some h
  · exact .idle _
  · refine hshut.waits.used.trans ?_
    rw [hshut.simulator]
    split
    · unfold handedBack
      split
      · exact .told _ _
      · exact .idle _
    · exact .idle _

end Panel

/-! ### The session

In a session the controller is scripted besides. A script may do what no contact does, such as
change the status; so an invariant has to be kept by both.
-/

namespace Session

variable {s s' : Session}

/-- An event is a script for the controller, or it is contact with it at most. -/
theorem used_next {event : Event} {turn : Turn} (h : s.next event = some (turn, s')) :
    (∃ script, event = .work (.script script) ∧
        s'.world.simulator = script.apply s.world.simulator) ∨
      s.world.simulator.Used s'.world.simulator := by
  -- pins, files and pauses do not concern the controller
  cases event with
  | startup =>
      have hused := s.panel.used_startup s.world
      cases h
      exact .inr hused
  | shutdown =>
      obtain ⟨panel, world, hshutdown, rfl, rfl⟩ := shutdown_of_next h
      exact .inr (Panel.used_shutdown hshutdown)
  | work work =>
      cases work with
      | script script =>
          cases h
          exact .inl ⟨script, rfl, rfl⟩
      | pins bus =>
          cases h
          exact .inr (.idle _)
      | files directory =>
          cases h
          exact .inr (.idle _)
      | pause t =>
          cases h
          exact .inr (.idle _)
      | cycle =>
          rw [next] at h
          obtain ⟨report, panel, world, hcycle, rfl, rfl⟩ := cycle_of_does h
          exact .inr (Panel.used_cycle hcycle)
      | dispatch command policy =>
          rw [next] at h
          obtain ⟨a, client, world, hattempt, rfl, rfl⟩ := attempt_of_does h
          exact .inr (Client.used_attempt hattempt)
      | runProgram line =>
          rw [next] at h
          obtain ⟨a, client, world, hattempt, rfl, rfl⟩ := attemptRun_of_does h
          exact .inr (Client.used_attemptRun hattempt)
      | refresh =>
          have hused := s.panel.client.used_refresh s.world
          cases h
          exact .inr hused
      | poll =>
          have hused := s.panel.client.used_poll s.world
          cases h
          exact .inr hused

/-- **What contact and scripts keep, every session keeps.** -/
theorem Runs.controller {P : Simulator → Prop} {events : List Event} {turns : List Turn}
    (h : Runs s events turns s') (used : ∀ c c', c.Used c' → P c → P c')
    (scripted : ∀ script, Event.work (.script script) ∈ events → ∀ c, P c → P (script.apply c))
    (hP : P s.world.simulator) : P s'.world.simulator := by
  induction h with
  | nil => exact hP
  | cons hnext _ ih =>
      refine ih (fun script hscript => scripted script (List.mem_cons_of_mem _ hscript)) ?_
      obtain ⟨script, rfl, hsimulator⟩ | hused := used_next hnext
      · rw [hsimulator]
        exact scripted script (List.mem_cons_self ..) _ hP
      · exact used _ _ hused hP

end Session
end OperatorPanel
