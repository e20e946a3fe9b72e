import OperatorPanel.Proofs.Attempt

/-!
# What a cycle does

A cycle makes its attempts, one for each action of the scan, and then tidies up: it passes on
notices and refreshes the status.

* `Client.Steady`: nothing that a client does between connecting and closing opens a channel,
  closes one, or changes how it waits.
* `CycleState.Performs`: the actions of a scan, one after the other, with the record of each. This
  is what `performAll` does (`performs_of_performAll`).
* `CycleState.Tidies`: what the rest of a cycle leaves alone.
* `Panel.cycled`: a cycle that comes to its end is the one followed by the other.
-/

namespace OperatorPanel

/-! ### Steady clients

Refreshing, polling, sending and waiting keep the ends that a link has open, though they may move
the reader behind them or take a message out. That the same channels are open afterwards is all that
most arguments need, and it composes.
-/

namespace Client

variable {T : Transport}

/-- The same channels are open, and waits are the same. -/
structure Steady (c c' : Client T) : Prop where
  wait : c'.wait = c.wait
  command : c'.link.command.isSome = c.link.command.isSome
  status : c'.link.status.isSome = c.link.status.isSome
  notices : c'.link.notices.isSome = c.link.notices.isSome
  state : c'.link.state = c.link.state

namespace Steady

theorem refl (c : Client T) : Steady c c := ⟨rfl, rfl, rfl, rfl, rfl⟩

theorem trans {c c₁ c' : Client T} (h : Steady c c₁) (h' : Steady c₁ c') : Steady c c' where
  wait := h'.wait.trans h.wait
  command := h'.command.trans h.command
  status := h'.status.trans h.status
  notices := h'.notices.trans h.notices
  state := h'.state.trans h.state

end Steady

/-- A look at the status keeps its end open, whatever it finds. -/
theorem steady_refresh (c : Client T) (w : World) : Steady c (c.refresh w).2.1 where
  wait := rfl
  command := by rw [(c.keeps_refresh w).link]
  status := by
    rw [refresh_link]
    unfold Link.peek
    split
    · rfl
    · next h => rw [h]; rfl
  notices := by rw [(c.keeps_refresh w).link]
  state := by rw [(c.keeps_refresh w).link]

/-- Waiting is a number of looks and pauses. -/
theorem Waits.steady {c c' : Client T} {w w' : World} (h : Waits c w c' w') : Steady c c' :=
  h.invariant (P := fun c₁ _ => Steady c c₁) (fun c₁ w₁ h₁ => h₁.trans (c₁.steady_refresh w₁))
    (fun _ _ h₁ => h₁) (fun _ _ _ h₁ => h₁) (.refl c)

theorem steady_poll (c : Client T) (w : World) : Steady c (c.poll w).2.1 := by
  show Steady c { c with link := (c.link.poll w).2.1 }
  unfold Link.poll
  split
  · exact .refl c
  · next h => split <;> exact ⟨rfl, rfl, rfl, by simp [h], rfl⟩

theorem steady_sendNext (c : Client T) (command : Command) (w : World) :
    Steady c (c.sendNext command w).2.1 := by
  show Steady c { c with
    serial := c.serial + 1
    link := (c.link.send { serial := c.serial + 1, command } w).2.1 }
  unfold Link.send
  split
  · exact ⟨rfl, rfl, rfl, rfl, rfl⟩
  · next h =>
      split
      · split <;> exact ⟨rfl, by simp [h], rfl, rfl, rfl⟩
      · exact ⟨rfl, rfl, rfl, rfl, rfl⟩

/-- Whether a dispatch is refused, fails to be written or waits in vain, the channels stay as they
are. -/
theorem Dispatched.steady {c c' : Client T} {command : Command} {w w' : World}
    {r : Except PanelError Int32} (h : Dispatched c command w r c' w') : Steady c c' := by
  have hsteady := c.steady_sendNext command w
  cases h with
  | refused => exact .refl c
  | unsent _ hsend =>
      rw [hsend] at hsteady
      exact hsteady
  | sent _ hsend hwaits _ =>
      rw [hsend] at hsteady
      exact hsteady.trans hwaits.steady

/-! ### One attempt

The record of an attempt and the dispatch behind it are made by the same call, so the one says all
that there is to know about the other.
-/

/-- An attempt is a dispatch, seen from outside. -/
theorem attempt_dispatched {c c' : Client T} {command : Command} {policy : WaitPolicy}
    {w w' : World} {a : Attempt} (h : c.attempt command policy w = some (a, c', w')) :
    Dispatched c command w a.result c' w' := by
  unfold attempt at h
  rcases hd : c.dispatchWith command policy w with _ | ⟨r, c₁, w₁⟩
  · rw [hd] at h
    cases h
  · rw [hd] at h
    cases h
    exact dispatched hd

theorem steady_attempt {c c' : Client T} {command : Command} {policy : WaitPolicy} {w w' : World}
    {a : Attempt} (h : c.attempt command policy w = some (a, c', w')) : Steady c c' :=
  (attempt_dispatched h).steady

theorem steady_attemptRun {c c' : Client T} {line : Int32} {w w' : World} {a : Attempt}
    (h : c.attemptRun line w = some (a, c', w')) : Steady c c' := by
  have hlook := c.steady_refresh w
  unfold attemptRun at h
  dsimp only at h
  split at h
  · exact hlook.trans (steady_attempt h)
  · cases h
    exact hlook

end Client

theorem Action.steady_attempt {T : Transport} {action : Action} {c c' : Client T} {w w' : World}
    {a : Attempt} (h : action.attempt c w = some (a, c', w')) : c.Steady c' := by
  cases action with
  | send command => exact Client.steady_attempt h
  | startJog axis command => exact Client.steady_attempt h
  | runProgram => exact Client.steady_attemptRun h

/-- Whatever becomes of an attempt, it was made for the command that the action asks for. -/
theorem Action.command_attempt {T : Transport} {action : Action} {c c' : Client T} {w w' : World}
    {a : Attempt} (h : action.attempt c w = some (a, c', w')) : a.command = action.command := by
  -- a program run is refused before there is a dispatch, and its record still names the command
  have command_eq {c : Client T} {command : Command} {policy : WaitPolicy} {w : World}
      (h : c.attempt command policy w = some (a, c', w')) : a.command = command := by
    obtain ⟨_, _, hd⟩ := Option.map_eq_some_iff.1 h
    cases hd
    rfl
  cases action with
  | send command => exact command_eq h
  | startJog axis command => exact command_eq h
  | runProgram =>
      simp only [attempt, Client.attemptRun] at h
      split at h
      · exact command_eq h
      · cases h
        rfl

/-! ### The actions of a scan

The actions of a scan are carried out in order, and none of them looks at the outcome of an earlier
one except through the client. The console changes only in its tracker, and the report only in its
two counts.
-/

namespace CycleState

variable {T : Transport}

/-- What an attempt leaves behind. -/
def after (s : CycleState T) (pin : InputPin) (action : Action) (a : Attempt) (client : Client T)
    (world : World) : CycleState T :=
  match a.result with
  | .ok _ =>
    { console := { s.console with jogging := tracked action s.console.jogging }
      client
      report := { s.report with dispatched := s.report.dispatched + 1 }
      world }
  | .error e =>
    { console := s.console
      client
      report := { s.report with failed := s.report.failed + 1 }
      world :=
        world.note .warn .bridge "pin command failed" [("pin", pin.name), ("error", e.text)] }

section After

variable (s : CycleState T) (pin : InputPin) (action : Action) (a : Attempt) (client : Client T)
  (world : World)

@[simp] theorem client_after : (s.after pin action a client world).client = client := by
  unfold after
  split <;> rfl

@[simp] theorem simulator_after :
    (s.after pin action a client world).world.simulator = world.simulator := by
  unfold after
  split <;> rfl

@[simp] theorem previous_after :
    (s.after pin action a client world).console.previous = s.console.previous := by
  unfold after
  split <;> rfl

@[simp] theorem setup_after :
    (s.after pin action a client world).console.setup = s.console.setup := by
  unfold after
  split <;> rfl

/-- Every attempt is counted once. -/
theorem count_after :
    (s.after pin action a client world).report.dispatched
        + (s.after pin action a client world).report.failed
      = s.report.dispatched + s.report.failed + 1 := by
  unfold after
  split
  · exact Nat.add_right_comm _ _ _
  · rfl

end After

/-- Carrying out an action is making its attempt. -/
theorem perform_eq (s : CycleState T) (pin : InputPin) (action : Action) :
    s.perform pin action
      = (action.attempt s.client s.world).map fun (a, client, world) =>
          s.after pin action a client world := by
  unfold perform
  rw [← action.outcome_attempt]
  rcases action.attempt s.client s.world with _ | ⟨⟨command, passed, written, r⟩, client, world⟩
  · rfl
  · cases r <;> rfl

/-- From `s` the actions lead to `s'`, by the attempts that are listed. -/
inductive Performs : CycleState T → List (InputPin × Action) → List (InputPin × Attempt) →
    CycleState T → Prop
  | nil (s : CycleState T) : Performs s [] [] s
  | cons {s s' : CycleState T} {pin : InputPin} {action : Action} {a : Attempt}
      {client : Client T} {world : World} {actions : List (InputPin × Action)}
      {made : List (InputPin × Attempt)} :
      action.attempt s.client s.world = some (a, client, world) →
      Performs (s.after pin action a client world) actions made s' →
      Performs s ((pin, action) :: actions) ((pin, a) :: made) s'

/-- What `performAll` carries out is recorded by `attempts`, action by action. -/
theorem performs_of_performAll {s s' : CycleState T} {actions : List (InputPin × Action)}
    (h : s.performAll actions = some s') : Performs s actions (s.attempts actions) s' := by
  -- by induction on the actions; both functions take the same step, from the same state
  induction actions generalizing s with
  | nil =>
      cases h
      exact .nil _
  | cons action actions ih =>
      obtain ⟨pin, action⟩ := action
      simp only [performAll, attempts, perform_eq] at h ⊢
      rcases hattempt : action.attempt s.client s.world with _ | ⟨a, client, world⟩
      · rw [hattempt] at h
        cases h
      · rw [hattempt] at h
        exact .cons hattempt (ih h)

/-- **There is one attempt for each action, for its pin and with its command.** -/
theorem Performs.commands {s s' : CycleState T} {actions : List (InputPin × Action)}
    {made : List (InputPin × Attempt)} (h : Performs s actions made s') :
    made.map (fun m => (m.1, m.2.command)) = actions.map fun m => (m.1, m.2.command) := by
  induction h with
  | nil => rfl
  | cons hattempt _ ih => rw [List.map_cons, List.map_cons, ih, Action.command_attempt hattempt]

/-- What holds of every attempt holds of the attempts that are made. -/
theorem Performs.forall_made {P : Attempt → Prop} {s s' : CycleState T}
    {actions : List (InputPin × Action)} {made : List (InputPin × Attempt)}
    (h : Performs s actions made s')
    (hP : ∀ {action : Action} {c c' : Client T} {w w' : World} {a : Attempt},
      action.attempt c w = some (a, c', w') → P a) :
    ∀ m ∈ made, P m.2 := by
  -- by induction on the attempts that were made
  induction h with
  | nil => exact fun _ hm => nomatch hm
  | cons hattempt _ ih =>
      intro m hm
      rcases List.mem_cons.1 hm with rfl | hm
      · exact hP hattempt
      · exact ih m hm

/-- Every attempt was either dispatched or has failed. -/
theorem Performs.count {s s' : CycleState T} {actions : List (InputPin × Action)}
    {made : List (InputPin × Attempt)} (h : Performs s actions made s') :
    s'.report.dispatched + s'.report.failed
      = s.report.dispatched + s.report.failed + made.length := by
  induction h with
  | nil => rfl
  | cons _ _ ih =>
      rw [ih, count_after, List.length_cons]
      omega

/-- So the same channels are open after all of them. -/
theorem Performs.steady {s s' : CycleState T} {actions : List (InputPin × Action)}
    {made : List (InputPin × Attempt)} (h : Performs s actions made s') :
    s.client.Steady s'.client := by
  induction h with
  | nil => exact .refl _
  | cons hattempt _ ih =>
      rw [client_after] at ih
      exact (Action.steady_attempt hattempt).trans ih

/-- No attempt touches what the scan compares with, or the setup. -/
theorem Performs.console {s s' : CycleState T} {actions : List (InputPin × Action)}
    {made : List (InputPin × Attempt)} (h : Performs s actions made s') :
    s'.console.previous = s.console.previous ∧ s'.console.setup = s.console.setup := by
  induction h with
  | nil => exact ⟨rfl, rfl⟩
  | cons _ _ ih =>
      rw [previous_after, setup_after] at ih
      exact ih

end CycleState

/-! ### The rest of a cycle

What follows the attempts sends nothing: notices are read and passed on, and the status is looked
at. So the serial, the messages at the controller, the samples that the scan compares with and the
two counts of commands are as the attempts have left them.
-/

theorem Simulator.received_takeNotice (c : Simulator) : c.takeNotice.2.received = c.received := by
  unfold takeNotice
  split <;> rfl

theorem Link.received_poll (l : Link Simulated.transport) (w : World) :
    (l.poll w).2.2.simulator.received = w.simulator.received := by
  unfold poll
  split
  · rfl
  · exact w.simulator.received_takeNotice

namespace CycleState

/-- What stands still once the attempts of a cycle were made. -/
structure Tidies (s s' : CycleState Simulated.transport) : Prop where
  steady : s.client.Steady s'.client
  serial : s'.client.serial = s.client.serial
  received : s'.world.simulator.received = s.world.simulator.received
  previous : s'.console.previous = s.console.previous
  setup : s'.console.setup = s.console.setup
  dispatched : s'.report.dispatched = s.report.dispatched
  failed : s'.report.failed = s.report.failed

/-- Tidying up twice is tidying up. -/
theorem Tidies.trans {s s₁ s' : CycleState Simulated.transport} (h : Tidies s s₁)
    (h' : Tidies s₁ s') : Tidies s s' where
  steady := h.steady.trans h'.steady
  serial := h'.serial.trans h.serial
  received := h'.received.trans h.received
  previous := h'.previous.trans h.previous
  setup := h'.setup.trans h.setup
  dispatched := h'.dispatched.trans h.dispatched
  failed := h'.failed.trans h.failed

/-- Passing on notices polls once for each of them, and once more when there are none left. -/
theorem tidies_passNotices (s : CycleState Simulated.transport) (n : Nat) :
    Tidies s (s.passNotices n) := by
  -- only a notice that was passed on leads to another poll
  induction n generalizing s with
  | zero => exact ⟨.refl _, rfl, rfl, rfl, rfl, rfl, rfl⟩
  | succ n ih =>
      have hsteady := s.client.steady_poll s.world
      have hserial : (s.client.poll s.world).2.1.serial = s.client.serial := rfl
      have hreceived : (s.client.poll s.world).2.2.simulator.received
          = s.world.simulator.received := s.client.link.received_poll s.world
      unfold passNotices
      split
      · next notice client world hpoll =>
          rw [hpoll] at hsteady hserial hreceived
          refine .trans ?_ (ih _)
          exact ⟨hsteady, hserial, hreceived, rfl, rfl, rfl, rfl⟩
      · next hpoll =>
          rw [hpoll] at hsteady hserial hreceived
          exact ⟨hsteady, hserial, hreceived, rfl, rfl, rfl, rfl⟩
      · next hpoll =>
          rw [hpoll] at hsteady hserial hreceived
          exact ⟨hsteady, hserial, hreceived, rfl, rfl, rfl, rfl⟩

/-- A look at the status that fails is reported, and changes nothing else. -/
theorem tidies_refresh (s : CycleState Simulated.transport) : Tidies s s.refresh := by
  have hsteady := s.client.steady_refresh s.world
  have hserial : (s.client.refresh s.world).2.1.serial = s.client.serial := rfl
  have hreceived := (s.client.quiet_refresh s.world).simulator.received
  unfold refresh
  split  -- the two branches differ in the line that is written to the journal
  · next hlook =>
      rw [hlook] at hsteady hserial hreceived
      refine ⟨hsteady, hserial, ?_, rfl, rfl, rfl, rfl⟩
      dsimp only
      split <;> exact hreceived
  · next hlook =>
      rw [hlook] at hsteady hserial hreceived
      refine ⟨hsteady, hserial, ?_, rfl, rfl, rfl, rfl⟩
      dsimp only
      split <;> exact hreceived

end CycleState

/-! ### Whole cycles

A cycle samples, scans, performs, tidies and publishes. The lemmas below take one of these steps
away at a time, and `Panel.cycled` puts them together again as one record, so that no later proof
has to open `cycle`.
-/

namespace Console

/-- The attempts of a cycle come first, then the notices, then a look at the status. -/
theorem act_performed {T : Transport} {c : Console} {now : InputSample} {client : Client T}
    {world : World} {s : CycleState T} (h : c.act now client world = some s) :
    ∃ acted, CycleState.performAll { console := (c.scan now client.status).2, client, world }
        (c.scan now client.status).1 = some acted ∧
      s = (acted.passNotices maxNoticesPerCycle).refresh := by
  unfold act at h
  generalize c.scan now client.status = scanned at h ⊢
  obtain ⟨actions, console⟩ := scanned
  dsimp only at h
  split at h
  · cases h
  · next acted hacted =>
      cases h
      exact ⟨acted, hacted, rfl⟩

/-- What follows the attempts is tidying up. -/
theorem act_eq_some {c : Console} {now : InputSample} {client : Client Simulated.transport}
    {world : World} {s : CycleState Simulated.transport}
    (h : c.act now client world = some s) :
    ∃ acted, CycleState.performAll { console := (c.scan now client.status).2, client, world }
        (c.scan now client.status).1 = some acted ∧
      s = (acted.passNotices maxNoticesPerCycle).refresh ∧ acted.Tidies s := by
  obtain ⟨acted, hacted, rfl⟩ := act_performed h
  exact ⟨acted, hacted, rfl,
    (acted.tidies_passNotices _).trans (CycleState.tidies_refresh _)⟩

/-- A cycle acts to the end when its attempts come to theirs: notices and looks never wait. -/
theorem act_isSome {c : Console} {now : InputSample} {client : Client Simulated.transport}
    {world : World} {acted : CycleState Simulated.transport}
    (h : CycleState.performAll { console := (c.scan now client.status).2, client, world }
      (c.scan now client.status).1 = some acted) : (c.act now client world).isSome := by
  unfold act
  generalize c.scan now client.status = scanned at h ⊢
  obtain ⟨actions, console⟩ := scanned
  dsimp only at h ⊢
  rw [h]
  rfl

/-- What a cycle leaves is what acting has left, together with the sample that it took. -/
theorem cycle_eq_some {T : Transport} {c c' : Console} {client client' : Client T}
    {bus bus' : PinBus} {w w' : World} {report : CycleReport}
    (h : c.cycle client bus w = some (report, c', client', bus', w')) :
    ∃ s, c.act (bus.sample w).1 client (bus.sample w).2.2 = some s ∧
      client' = s.client ∧ w'.simulator = s.world.simulator ∧
      c' = { s.console with
        previous := s.console.previous.takeOver s.console.setup.registered (bus.sample w).1 } ∧
      report.dispatched = s.report.dispatched ∧ report.failed = s.report.failed ∧
      report.refreshFailed = s.report.refreshFailed ∧
      bus' = ((bus.sample w).2.1.publish (s.console.outputs s.client) s.world).2.1 := by
  unfold cycle at h
  generalize bus.sample w = sample at h ⊢
  obtain ⟨now, bus₁, w₁⟩ := sample
  dsimp only at h ⊢
  split at h
  · cases h
  · next s hact =>
      -- publishing may still fail, which only the report and the journal tell of
      have hpublish := bus₁.simulator_publish (s.console.outputs s.client) s.world
      rcases hpub : bus₁.publish (s.console.outputs s.client) s.world with ⟨published, bus₂, w₂⟩
      rw [hpub] at h hpublish
      cases published <;> cases h <;>
        exact ⟨s, hact, rfl, hpublish, rfl, rfl, rfl, rfl, (congrArg (·.2.1) hpub).symm⟩

/-- Publishing always comes to its end, so a cycle ends when it has acted. -/
theorem cycle_isSome {c : Console} {client : Client Simulated.transport} {bus : PinBus}
    {w : World} (h : (c.act (bus.sample w).1 client (bus.sample w).2.2).isSome) :
    (c.cycle client bus w).isSome := by
  unfold cycle
  generalize bus.sample w = sample at h ⊢
  obtain ⟨now, bus₁, w₁⟩ := sample
  dsimp only
  split
  · next hact =>
      rw [hact] at h
      cases h
  · next s _ =>
      rcases bus₁.publish (s.console.outputs s.client) s.world with ⟨_ | _, bus₂, w₂⟩ <;> rfl

end Console

namespace Panel

variable (p : Panel Simulated.transport) (w : World)

/-- The sample that a cycle takes. -/
def sampled : InputSample := (p.bus.sample w.time.2).1

/-- What the scan of a cycle decides, and the console after it. -/
def decided : List (InputPin × Action) × Console :=
  p.console.scan (p.sampled w) p.client.status

/-- Where a cycle stands when its sample was taken and scanned. -/
def scanned : CycleState Simulated.transport where
  console := (p.decided w).2
  client := p.client
  world := (p.bus.sample w.time.2).2.2

/-- Sampling the pins does not reach the controller. -/
theorem simulator_scanned : (p.scanned w).world.simulator = w.simulator :=
  (p.bus.simulator_sample w.time.2).trans w.simulator_time

/-- The attempts that a cycle makes, in order and with their pins. -/
def attempts : List (InputPin × Attempt) := (p.scanned w).attempts (p.decided w).1

/-- What a cycle does to a panel: it makes its attempts, it tidies up, and it remembers its
sample. -/
structure Cycled (report : CycleReport) (p' : Panel Simulated.transport) (w' : World)
    (acted tidied : CycleState Simulated.transport) : Prop where
  performed : (p.scanned w).performAll (p.decided w).1 = some acted
  tidied_eq : tidied = (acted.passNotices maxNoticesPerCycle).refresh
  tidies : acted.Tidies tidied
  client : p'.client = tidied.client
  simulator : w'.simulator = tidied.world.simulator
  setup : p'.console.setup = tidied.console.setup
  previous : p'.console.previous
    = tidied.console.previous.takeOver tidied.console.setup.registered (p.sampled w)
  dispatched : report.dispatched = tidied.report.dispatched
  failed : report.failed = tidied.report.failed
  refreshFailed : report.refreshFailed = tidied.report.refreshFailed
  bus : p'.bus
    = ((p.bus.sample w.time.2).2.1.publish (tidied.console.outputs tidied.client) tidied.world).2.1
  baseline : p'.baseline = p.baseline
  running : p'.running = p.running
  ended : p'.ended = p.ended

variable {p w}

theorem Cycled.performs {report : CycleReport} {p' : Panel Simulated.transport} {w' : World}
    {acted tidied : CycleState Simulated.transport} (h : p.Cycled w report p' w' acted tidied) :
    (p.scanned w).Performs (p.decided w).1 (p.attempts w) acted :=
  CycleState.performs_of_performAll h.performed

/-- **A cycle that comes to its end is its attempts, and tidying up.** -/
theorem cycled {report : CycleReport} {p' : Panel Simulated.transport} {w' : World}
    (h : p.cycle w = some (report, p', w')) :
    ∃ acted tidied, p.Cycled w report p' w' acted tidied := by
  unfold cycle at h
  -- the cycle of the console stays closed while the panel's own steps are taken
  generalize hcycle : p.console.cycle p.client p.bus = cycle at h
  dsimp only at h
  rcases hended : cycle w.time.2 with _ | ⟨report₁, console, client, bus, w₁⟩
  · rw [hended] at h
    cases h
  · rw [hended] at h
    cases h
    rw [← hcycle] at hended
    obtain ⟨tidied, hact, hclient, hsimulator, hconsole, hdispatched, hfailed, hrefresh, hbus⟩ :=
      Console.cycle_eq_some hended
    obtain ⟨acted, hacted, htidied, htidies⟩ := Console.act_eq_some hact
    have hperformed : (p.scanned w).performAll (p.decided w).1 = some acted := by
      unfold scanned decided sampled
      exact hacted
    refine ⟨acted, tidied, ?_⟩
    exact
      { performed := hperformed
        tidied_eq := htidied
        tidies := htidies
        client := hclient
        simulator := hsimulator
        setup := by rw [hconsole]
        previous := by rw [hconsole, sampled]
        dispatched := hdispatched
        failed := hfailed
        refreshFailed := hrefresh
        bus := hbus
        baseline := rfl
        running := rfl
        ended := rfl }

/-- A cycle ends when its attempts do. -/
theorem cycle_isSome {acted : CycleState Simulated.transport}
    (h : (p.scanned w).performAll (p.decided w).1 = some acted) : (p.cycle w).isSome := by
  have hact : (p.console.act (p.sampled w) p.client (p.bus.sample w.time.2).2.2).isSome := by
    unfold scanned decided at h
    exact Console.act_isSome h
  have hcycle := Console.cycle_isSome hact
  unfold cycle
  generalize p.console.cycle p.client p.bus = cycle at hcycle ⊢
  dsimp only
  rcases hended : cycle w.time.2 with _ | ⟨report, console, client, bus, w₁⟩
  · rw [hended] at hcycle
    cases hcycle
  · rfl

end Panel
end OperatorPanel
