import OperatorPanel.Proofs.Jogs

/-!
# Releases

A jog pin that is released was pressed in an earlier cycle and held since (`Session.HeldSince`).
Between the two cycles the trajectory mode may change, and then the release does not stop what the
press has started (`Panel.release_misses`); while it is the same, it does (`Panel.release_stops`).
-/

namespace OperatorPanel

/-! ### From the press to the release

A release is seen in one cycle and the press that it ends in another, with any history between them.
The turns of the history keep the samples, so the press can be found again by going back through
them.
-/

namespace Session

/-- Two histories that follow one another are one. -/
theorem Runs.append {s s₁ s' : Session} {events events' : List Event} {turns turns' : List Turn}
    (h : Runs s events turns s₁) (h' : Runs s₁ events' turns' s') :
    Runs s (events ++ events') (turns ++ turns') s' := by
  induction h with
  | nil => exact h'
  | cons hnext _ ih => exact .cons hnext (ih h')

/-- Only a cycle takes a sample. -/
theorem sample_next {s s' : Session} {event : Event} {turn : Turn} {now : InputSample}
    (h : s.next event = some (turn, s')) (hsample : turn.sample = some now) :
    event = .work .cycle ∧ now = s.panel.sampled s.world := by
  cases event with
  | startup =>
      cases h
      cases hsample
  | shutdown =>
      obtain ⟨_, _, heq⟩ := Option.map_eq_some_iff.1 h
      cases heq
      cases hsample
  | work work => -- only a cycle takes a sample
      cases did h with
      | cycled _ =>
          cases hsample
          exact ⟨rfl, rfl⟩
      | around => cases hsample
      | looked => cases hsample
      | tried => cases hsample
      | ran => cases hsample

/-- On the way from `s` to `s'` a pin turned active in the cycle that begins at `s₁`, and it was
active in every sample since. -/
def HeldSince (s : Session) (before : InputSample) (pin : InputPin) (events : List Event)
    (turns : List Turn) (s₁ s' : Session) : Prop :=
  ∃ events₁ turns₁ turn s₂ events₂ turns₂,
    events = events₁ ++ .work .cycle :: events₂ ∧ turns = turns₁ ++ turn :: turns₂ ∧
    Runs s events₁ turns₁ s₁ ∧ s₁.next (.work .cycle) = some (turn, s₂) ∧
    Runs s₂ events₂ turns₂ s' ∧
    (lastSample before turns₁).rises (s₁.panel.sampled s₁.world) pin = true ∧
    ∀ turn ∈ turns₂, ∀ now, turn.sample = some now → now.bit pin = true

/-- Where a history goes on with the cycle in which the pin turns active, the pin is held since. -/
theorem HeldSince.ofRuns {s s₁ s' : Session} {before : InputSample} {pin : InputPin}
    {events₁ events₂ : List Event} {turns₁ turns₂ : List Turn} (h : Runs s events₁ turns₁ s₁)
    (h' : Runs s₁ (.work .cycle :: events₂) turns₂ s')
    (hrises : (lastSample before turns₁).rises (s₁.panel.sampled s₁.world) pin = true)
    (hheld : ∀ turn ∈ turns₂.tail, ∀ now, turn.sample = some now → now.bit pin = true) :
    s.HeldSince before pin (events₁ ++ .work .cycle :: events₂) (turns₁ ++ turns₂) s₁ s' := by
  cases h' with
  | cons hnext hrest => exact ⟨_, _, _, _, _, _, rfl, rfl, h, hnext, hrest, hrises, hheld⟩

/-- The press is the cycle of some history from the same beginning. -/
theorem HeldSince.press {s s₁ s' : Session} {before : InputSample} {pin : InputPin}
    {events : List Event} {turns : List Turn} (h : s.HeldSince before pin events turns s₁ s') :
    ∃ events₁ turns₁ report panel world, Runs s events₁ turns₁ s₁ ∧
      s₁.panel.cycle s₁.world = some (report, panel, world) ∧
      (lastSample before turns₁).rises (s₁.panel.sampled s₁.world) pin = true := by
  obtain ⟨events₁, turns₁, turn, s₂, _, _, _, _, hruns, hnext, _, hrises, _⟩ := h
  rw [next] at hnext
  obtain ⟨report, panel, world, hcycle, _⟩ := cycle_of_does hnext
  exact ⟨events₁, turns₁, report, panel, world, hruns, hcycle, hrises⟩

/-- **What is active was pressed**: a pin that is active in the last sample was so all the time, or
there is a cycle in which it turned active for good. -/
theorem Runs.heldSince {s s' : Session} {events : List Event} {turns : List Turn}
    {before : InputSample} {pin : InputPin} (h : Runs s events turns s')
    (hactive : (lastSample before turns).bit pin = true) :
    (before.bit pin = true ∧
        ∀ turn ∈ turns, ∀ now, turn.sample = some now → now.bit pin = true) ∨
      ∃ s₁, HeldSince s before pin events turns s₁ s' := by
  -- by induction on the history: what the rest of it says about the pin is extended by one event
  induction h generalizing before with
  | nil => exact .inl ⟨hactive, fun turn hturn => by cases hturn⟩
  | @cons s s₁ s' event events turn turns hnext hrest ih =>
      rw [lastSample_cons] at hactive
      obtain ⟨hfirst, hall⟩ | ⟨s₂, events₁, turns₁, turn₂, s₃, events₂, turns₂, rfl, rfl, hruns,
        hcycle, hrest, hrises, hheld⟩ := ih hactive
      · -- active from this event on: the sample of the event, if it has one, may be the press
        cases hsample : turn.sample with
        | none =>
            rw [hsample] at hfirst
            refine .inl ⟨hfirst, fun t ht now hnow => ?_⟩
            rcases List.mem_cons.1 ht with rfl | ht
            · rw [hsample] at hnow
              cases hnow
            · exact hall t ht now hnow
        | some now =>
            rw [hsample] at hfirst
            obtain ⟨rfl, hnow⟩ := sample_next hnext hsample
            cases hbefore : before.bit pin with
            | true =>
                refine .inl ⟨rfl, fun t ht now' hnow' => ?_⟩
                rcases List.mem_cons.1 ht with rfl | ht
                · rw [hsample] at hnow'
                  cases hnow'
                  exact hfirst
                · exact hall t ht now' hnow'
            | false =>
                refine .inr ⟨s, [], [], turn, s₁, events, turns, rfl, rfl, .nil s, hnext, hrest,
                  ?_, hall⟩
                show ((s.panel.sampled s.world).bit pin && !before.bit pin) = true
                rw [hbefore, ← hnow]
                exact Bool.and_eq_true_iff.2 ⟨hfirst, rfl⟩
      · -- the press lies in the rest of the history, and is still the press
        refine .inr ⟨s₂, event :: events₁, turn :: turns₁, turn₂, s₃, events₂, turns₂, rfl, rfl,
          .cons hnext hruns, hcycle, hrest, ?_, hheld⟩
        rw [lastSample_cons]
        exact hrises

end Session

/-! ### What is written

Whether a command is written depends on its check and on the command channel, and the channel does
not change while a cycle makes its attempts. So in a cycle that begins with a valid channel
everything is written that passes its check.
-/

namespace Client

/-- An attempt leaves the command channel as it is, and where that is valid, a command that passes
its check is written. -/
theorem written_attempt {c c' : Client Simulated.transport} {command : Command}
    {policy : WaitPolicy} {w w' : World} {a : Attempt}
    (h : c.attempt command policy w = some (a, c', w')) (hvalid : c.link.canSend w = true) :
    c'.link.canSend w' = true ∧ (a.command.fault? = none → a.written = true) := by
  cases attempted h with
  | refused hfault =>
      refine ⟨hvalid, fun hnone => ?_⟩
      rw [hfault] at hnone
      cases hnone
  | unsent _ hcan =>
      rw [hvalid] at hcan
      cases hcan
  | sent _ _ hwaits _ =>
      refine ⟨?_, fun _ => rfl⟩
      unfold Link.canSend
      rw [hwaits.steady.command, hwaits.quiet.simulator.commandValid]
      exact hvalid

/-- A look at the status leaves the command channel as it is. -/
theorem canSend_refresh (c : Client Simulated.transport) (w : World) :
    (c.refresh w).2.1.link.canSend (c.refresh w).2.2 = c.link.canSend w := by
  unfold Link.canSend
  rw [(c.steady_refresh w).command, (c.quiet_refresh w).simulator.commandValid]

end Client

/-- Only to run a program takes more than that the command passes its check. -/
theorem Action.written_attempt {action : Action} {c c' : Client Simulated.transport}
    {w w' : World} {a : Attempt} (h : action.attempt c w = some (a, c', w'))
    (hvalid : c.link.canSend w = true) :
    c'.link.canSend w' = true ∧
      (a.command.fault? = none → a.command ≠ .programRun 0 → a.written = true) := by
  have hcommand := Action.command_attempt h
  cases action with
  | send command =>
      obtain ⟨hcan, hwritten⟩ := Client.written_attempt h hvalid
      exact ⟨hcan, fun hfault _ => hwritten hfault⟩
  | startJog axis command =>
      obtain ⟨hcan, hwritten⟩ := Client.written_attempt h hvalid
      exact ⟨hcan, fun hfault _ => hwritten hfault⟩
  | runProgram => -- a run is refused where no program is open, so nothing is said about it
      refine ⟨?_, fun _ hne => absurd hcommand hne⟩
      have hlooked := (c.canSend_refresh w).trans hvalid
      simp only [attempt, Client.attemptRun] at h
      split at h
      · exact (Client.written_attempt h hlooked).1
      · cases h
        exact hlooked

/-- So it is for all attempts of a cycle, with the channel as it was when the cycle began. -/
theorem CycleState.Performs.written {s s' : CycleState Simulated.transport}
    {actions : List (InputPin × Action)} {made : List (InputPin × Attempt)}
    (h : s.Performs actions made s') (hvalid : s.client.link.canSend s.world = true) :
    ∀ m ∈ made, m.2.command.fault? = none → m.2.command ≠ .programRun 0 → m.2.written = true := by
  induction h with
  | nil => intro m hm; cases hm
  | @cons s s' pin action a client world actions made hattempt _ ih =>
      obtain ⟨hcan, hwritten⟩ := Action.written_attempt hattempt hvalid
      have hafter : (s.after pin action a client world).client.link.canSend
          (s.after pin action a client world).world = true := by
        unfold Link.canSend
        rw [client_after, simulator_after]
        exact hcan
      intro m hm
      rcases List.mem_cons.1 hm with rfl | hm
      · exact hwritten
      · exact ih hafter m hm

/-! ### Releases

A press and its release are scanned by the same rule, each with the mode that the client knew at the
time. So whether the release undoes the press depends on that mode alone.
-/

/-- The index of a registered pin is that of an axis of the machine. -/
theorem InputPin.index_lt {axes lines : Nat} {a : AxisControl} {axis : UInt8}
    (h : .axis a axis ∈ registered axes lines) : axis.toNat < min axes maxAxes := by
  obtain ⟨c, hc⟩ | ⟨b, n, hn, heq⟩ | ⟨n, _, hline⟩ := mem_registered.1 h
  · cases hc
  · injection heq with _ hindex
    have haxes : n < maxAxes := Nat.lt_of_lt_of_le hn (Nat.min_le_right _ _)
    rw [hindex, UInt8.toNat_ofNat_of_lt' (Nat.lt_trans haxes (by decide))]
    exact hn
  · cases hline

/-- The axis of a jog pin is one that commands may name. -/
theorem InputPin.axis_lt {axes lines : Nat} {pin : InputPin} {axis : UInt8} {direction : Number}
    (hpin : pin ∈ registered axes lines) (hjog : pin.jog? = some (axis, direction)) :
    axis.toNat < maxAxes := by
  have hindex : axis.toNat < min axes maxAxes := by
    rcases jog?_eq_some hjog with rfl | rfl <;> exact index_lt hpin
  exact Nat.lt_of_lt_of_le hindex (Nat.min_le_right _ _)

/-- A stop passes its check. -/
theorem Console.fault?_stopCommand {axes lines : Nat} {pin : InputPin} {axis : UInt8}
    {direction : Number} (hpin : pin ∈ InputPin.registered axes lines)
    (hjog : pin.jog? = some (axis, direction)) (status : Status) :
    (stopCommand axis status).fault? = none := by
  unfold stopCommand
  split
  · rfl
  · have haxis := InputPin.axis_lt hpin hjog
    show (if maxAxes ≤ axis.toNat then _ else _) = none
    rw [if_neg (Nat.not_le.2 haxis)]
    rfl

namespace Panel

variable {p p' : Panel Simulated.transport} {w w' : World} {report : CycleReport}
  {before : InputSample}

/-- Up to the first attempt of a cycle nothing happens to the command channel. -/
theorem canSend_scanned (p : Panel Simulated.transport) (w : World) :
    (p.scanned w).client.link.canSend (p.scanned w).world = p.client.link.canSend w := by
  rw [Link.canSend, simulator_scanned]
  rfl

/-- For what is due, there is an attempt. -/
theorem attempt_of_due {pin : InputPin} {command : Command}
    (hremembers : p.console.Remembers before) (hcycle : p.cycle w = some (report, p', w'))
    (hpin : pin ∈ p.console.setup.registered)
    (hdue : p.console.due before (p.sampled w) p.client.status pin = some command) :
    ∃ a, (pin, a) ∈ p.attempts w ∧ a.command = command := by
  have hmem : (pin, command) ∈ (p.attempts w).map fun m => (m.1, m.2.command) := by
    rw [attempts_eq hremembers hcycle]
    exact List.mem_filterMap.2 ⟨pin, hpin, by rw [hdue]; rfl⟩
  obtain ⟨⟨_, a⟩, hmade, heq⟩ := List.mem_map.1 hmem
  cases heq
  exact ⟨a, hmade, rfl⟩

/-- **A release stops what the press has started**, if the mode is the same: whatever happened in
a session before, a jog pin that turns inactive was pressed in an earlier cycle and held since, and
for the release a command is written if the command channel is valid. Where the status that the
client held when these two cycles began was that of motion along a vector both times, or neither
time, this is the command that stops what was started then. -/
theorem release_stops {s : Session} {events : List Event} {turns : List Turn} {pin : InputPin}
    {axis : UInt8} {direction : Number} (hnew : p.console.previous = .empty)
    (hruns : Session.Runs ⟨p, w⟩ events turns s)
    (hcycle : s.panel.cycle s.world = some (report, p', w'))
    (hpin : pin ∈ p.console.setup.registered) (hjog : pin.jog? = some (axis, direction))
    (hfalls : (lastSample .empty turns).falls (s.panel.sampled s.world) pin = true)
    (hvalid : s.panel.client.link.canSend s.world = true) :
    (∃ s₁, Session.HeldSince ⟨p, w⟩ .empty pin events turns s₁ s) ∧
    ∃ stop, (pin, stop) ∈ s.panel.attempts s.world ∧ stop.written = true ∧
      ∀ s₁, Session.HeldSince ⟨p, w⟩ .empty pin events turns s₁ s →
        s₁.panel.client.status.teleop = s.panel.client.status.teleop →
        ∃ start, (pin, start) ∈ s₁.panel.attempts s₁.world ∧
          ((∃ velocity, start.command = .jogContinuous axis velocity) ∧
              stop.command = .jogStop axis ∨
            (∃ velocity, start.command = .teleopVector velocity) ∧
              stop.command = .teleopVector .zero) := by
  obtain ⟨hsetup, hremembers⟩ := hruns.remembers (Console.remembers_empty hnew)
  have hactive : (lastSample .empty turns).bit pin = true := by
    rw [InputSample.falls, Bool.and_eq_true_iff] at hfalls
    exact hfalls.2
  rw [← hsetup] at hpin
  obtain ⟨stop, hstopped, hstop⟩ :=
    attempt_of_due hremembers hcycle hpin (Console.due_falls hjog hfalls)
  refine ⟨?_, stop, hstopped, ?_, ?_⟩
  · -- no pin is active in the empty sample that a panel begins with
    obtain ⟨hempty, _⟩ | hheld := hruns.heldSince hactive
    · rw [InputSample.bit_empty] at hempty
      cases hempty
    · exact hheld
  · obtain ⟨acted, tidied, hcycled⟩ := Panel.cycled hcycle
    have hscanned := (s.panel.canSend_scanned s.world).trans hvalid
    refine hcycled.performs.written hscanned _ hstopped ?_ ?_
    · rw [hstop]
      exact Console.fault?_stopCommand hpin hjog _
    · rw [hstop]
      unfold Console.stopCommand
      split <;> exact fun h => by cases h
  · -- the press is another cycle of the same history, and tries its command for the same pin
    intro s₁ hheld hmode
    obtain ⟨events₁, turns₁, report₁, p₁, w₁, hruns₁, hcycle₁, hrises⟩ := hheld.press
    obtain ⟨hsetup₁, hremembers₁⟩ := hruns₁.remembers (Console.remembers_empty hnew)
    rw [hsetup, ← hsetup₁] at hpin
    obtain ⟨start, hstarted, hstart⟩ :=
      attempt_of_due hremembers₁ hcycle₁ hpin (Console.due_rises hjog hrises)
    rw [Console.startCommand, hmode] at hstart
    rw [Console.stopCommand] at hstop
    -- both are shaped by one mode
    cases hteleop : s.panel.client.status.teleop with
    | false =>
        rw [hteleop] at hstart hstop
        exact ⟨start, hstarted, .inl ⟨⟨_, hstart⟩, hstop⟩⟩
    | true =>
        rw [hteleop] at hstart hstop
        exact ⟨start, hstarted, .inr ⟨⟨_, hstart⟩, hstop⟩⟩

/-- The plus pin of the first axis is held from a cycle that begins at `s₁` to one that begins at
`s`, where it is released. These are the attempts of the two cycles, and whether the client sees a
motion along a vector when they begin. -/
structure Holds (p : Panel Simulated.transport) (events : List Event) (turns : List Turn)
    (s₁ s : Session) (started stopped : InputPin × Command × Option Int32) (modes : Bool × Bool) :
    Prop where
  runs : Session.Runs ⟨p, .echoing 7⟩ events turns s
  since : Session.HeldSince ⟨p, .echoing 7⟩ .empty (.axis .jogPlus 0) events turns s₁ s
  falls : (lastSample .empty turns).falls (s.panel.sampled s.world) (.axis .jogPlus 0) = true
  valid : s.panel.client.link.canSend s.world = true
  started : Tries s₁ [started]
  stopped : Tries s [stopped]
  modes : (s₁.panel.client.status.teleop, s.panel.client.status.teleop) = modes

/-- A history in which the pin is held, if it can be played. -/
theorem holds_of_plays {events₁ events₂ : List Event}
    {started stopped : InputPin × Command × Option Int32} {modes : Bool × Bool}
    (h : Plays events₁ fun _ turns₁ s₁ =>
      (s₁.play (.work .cycle :: events₂)).any fun (turns, s) => decide (
        (lastSample .empty turns₁).rises (s₁.panel.sampled s₁.world) (.axis .jogPlus 0) = true ∧
        (∀ turn ∈ turns.tail, turn.sample.all (·.bit (.axis .jogPlus 0)) = true) ∧
        (lastSample .empty (turns₁ ++ turns)).falls (s.panel.sampled s.world) (.axis .jogPlus 0)
          = true ∧
        s.panel.client.link.canSend s.world = true ∧ Tries s₁ [started] ∧ Tries s [stopped] ∧
        (s₁.panel.client.status.teleop, s.panel.client.status.teleop) = modes)) :
    ∃ p turns s₁ s, Panel.create Simulated.transport {} { carrier := .memory {} } = .ok p ∧
      Holds p (events₁ ++ .work .cycle :: events₂) turns s₁ s started stopped modes := by
  obtain ⟨p, turns₁, s₁, hcreate, hruns₁, hrest⟩ := h.runs
  obtain ⟨⟨turns, s⟩, hplay, hdecided⟩ := (Option.any_eq_true _ _).1 hrest
  obtain ⟨hrises, hall, hfalls, hvalid, hstarted, hstopped, hmodes⟩ := of_decide_eq_true hdecided
  have hruns := Session.runs_of_play hplay
  -- the turn of the start itself is the first one; the pin is held in those after it
  have hheld : ∀ turn ∈ turns.tail, ∀ now, turn.sample = some now →
      now.bit (.axis .jogPlus 0) = true := by
    intro turn hturn now hnow
    have hactive := hall turn hturn
    rw [hnow] at hactive
    exact hactive
  exact ⟨p, turns₁ ++ turns, s₁, s, hcreate,
    { runs := hruns₁.append hruns
      since := .ofRuns hruns₁ hruns hrises hheld
      falls := hfalls
      valid := hvalid
      started := hstarted
      stopped := hstopped
      modes := hmodes }⟩

/-- A panel is started with the plus pin of the first axis active. -/
def press : List Event := [.startup, .work (.pins (holding [.axis .jogPlus 0]))]

/-- That pin is released. -/
def release : List Event := [.work (.pins (holding []))]

/-- While it is active, the mode is changed by a pin. -/
def releaseAfter (mode : Control) : List Event :=
  [.work (.pins (holding [.axis .jogPlus 0, .control mode])), .work .cycle,
    .work (.pins (holding []))]

/-- Pressed and released while single axes are moved. -/
theorem release_plays :
    ∃ p turns s₁ s, Panel.create Simulated.transport {} { carrier := .memory {} } = .ok p ∧
      Holds p (press ++ .work .cycle :: release) turns s₁ s
        (.axis .jogPlus 0, .jogContinuous 0 10, some 8) (.axis .jogPlus 0, .jogStop 0, some 9)
        (false, false) :=
  holds_of_plays (by decide +kernel)

/-- The release stops the axis. -/
theorem release_stops_joint :
    ∃ (p : Panel Simulated.transport) (turns : List Turn) (s₁ s : Session) (start stop : Attempt),
      Panel.create Simulated.transport {} { carrier := .memory {} } = .ok p ∧
      Session.Runs ⟨p, .echoing 7⟩ (press ++ .work .cycle :: release) turns s ∧
      (.axis .jogPlus 0, start) ∈ s₁.panel.attempts s₁.world ∧
      (.axis .jogPlus 0, stop) ∈ s.panel.attempts s.world ∧ stop.written = true ∧
      (∃ velocity, start.command = .jogContinuous 0 velocity) ∧ stop.command = .jogStop 0 := by
  obtain ⟨p, turns, s₁, s, hcreate, hholds⟩ := release_plays
  have hnew := (new_of_create hcreate).previous
  obtain ⟨⟨report, p', w'⟩, hcycle⟩ := Option.isSome_iff_exists.1 hholds.stopped.1
  obtain ⟨halting, hmade, hhalting⟩ := hholds.stopped.single
  have hpin : .axis .jogPlus 0 ∈ p.console.setup.registered := by
    obtain ⟨hsetup, hremembers⟩ := hholds.runs.remembers (Console.remembers_empty hnew)
    have hfirst : s.panel.attempts s.world = [] ++ (.axis .jogPlus 0, halting) :: [] := hmade
    obtain ⟨xs, ys, hpins, _⟩ := attempts_split hremembers hcycle hfirst
    rw [← hsetup, hpins]
    exact List.mem_append_right _ (List.mem_cons_self ..)
  obtain ⟨_, stop, hstop, hwritten, hstops⟩ :=
    release_stops hnew hholds.runs hcycle hpin rfl hholds.falls hholds.valid
  have hmode : s₁.panel.client.status.teleop = s.panel.client.status.teleop := by
    obtain ⟨hbefore, hafter⟩ := Prod.mk.inj hholds.modes
    rw [hbefore, hafter]
  obtain ⟨start, hstart, ⟨hvelocity, hcommand⟩ | ⟨_, hcommand⟩⟩ := hstops s₁ hholds.since hmode
  · exact ⟨p, turns, s₁, s, start, stop, hcreate, hholds.runs, hstart, hstop, hwritten, hvelocity,
      hcommand⟩
  · -- there is one attempt only, and it is not for a vector
    rw [hmade, List.mem_singleton] at hstop
    cases hstop
    rw [hhalting] at hcommand
    cases hcommand

/-- **A release that misses**: the mode changes while the pin is held, and the release does not
stop what the press has started, in either direction. -/
theorem release_misses :
    (∃ p turns s₁ s, Panel.create Simulated.transport {} { carrier := .memory {} } = .ok p ∧
      Holds p (press ++ .work .cycle :: releaseAfter .modeTeleop) turns s₁ s
        (.axis .jogPlus 0, .jogContinuous 0 10, some 8)
        (.axis .jogPlus 0, .teleopVector .zero, some 10) (false, true)) ∧
    ∃ p turns s₁ s, Panel.create Simulated.transport {} { carrier := .memory {} } = .ok p ∧
      Holds p (alongVectors :: press ++ .work .cycle :: releaseAfter .modeJoint) turns s₁ s
        (.axis .jogPlus 0, .teleopVector (.along 0 10), some 8)
        (.axis .jogPlus 0, .jogStop 0, some 10) (true, false) := by
  constructor
  · exact holds_of_plays (by decide +kernel)
  · exact holds_of_plays (by decide +kernel)

end Panel
end OperatorPanel
