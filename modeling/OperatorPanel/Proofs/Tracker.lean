import OperatorPanel.Proofs.Agreement

/-!
# The tracker

A console remembers the axis that a jog pin has set in motion last. A release ends this while the
pins are scanned, and so before anything is sent; a start counts once its command was accepted.
`InputSample.tracked` says what that makes of a cycle.

* `Console.Reached.tracker`: in every state that cycles lead to, whatever the samples, the client
  and the world were, the tracked axis is one of the machine, and one of its jog pins is held.
* `Console.tracker_delivered_iff`: when the tracker follows only the commands that were delivered.
  It does not where the stop of a release was lost (`Console.forgotten_jog`).
-/

namespace OperatorPanel

/-! ### The console through a cycle

The scan has its own part in the tracker, the attempts have another, and the notices and the look
behind them have none. `Console.Cycled` keeps the two parts side by side.
-/

section

variable {T : Transport}

/-- A command that was accepted was written. -/
theorem Client.written_of_isOk {c c' : Client T} {command : Command} {policy : WaitPolicy}
    {w w' : World} {a : Attempt} (h : c.attempt command policy w = some (a, c', w'))
    (hok : a.result.isOk = true) : a.written = true := by
  obtain ⟨⟨r, c₁, w₁⟩, hdispatch, heq⟩ := Option.map_eq_some_iff.1 h
  cases heq
  show (command.fault?.isNone && c.delivers command w) = true
  cases dispatched hdispatch with
  | refused _ => cases hok
  | unsent _ _ => cases hok
  | sent hfault hsend _ _ =>
      rw [hfault, delivers, hsend]
      rfl

/-- A program that is to be run without being open is refused, and so is not accepted either. -/
theorem Action.written_of_isOk {action : Action} {c c' : Client T} {w w' : World} {a : Attempt}
    (h : action.attempt c w = some (a, c', w')) (hok : a.result.isOk = true) :
    a.written = true := by
  cases action with
  | send command => exact Client.written_of_isOk h hok
  | startJog axis command => exact Client.written_of_isOk h hok
  | runProgram =>
      simp only [attempt, Client.attemptRun] at h
      split at h
      · exact Client.written_of_isOk h hok
      · cases h
        cases hok

namespace CycleState

theorem Performs.written_of_isOk {s s' : CycleState T} {actions : List (InputPin × Action)}
    {made : List (InputPin × Attempt)} (h : Performs s actions made s') :
    ∀ m ∈ made, m.2.result.isOk = true → m.2.written = true :=
  h.forall_made Action.written_of_isOk

/-- Nothing of the console hangs on notices. -/
@[simp] theorem console_passNotices (s : CycleState T) (n : Nat) :
    (s.passNotices n).console = s.console := by
  induction n generalizing s with
  | zero => rfl
  | succ n ih =>
      unfold passNotices
      split
      · rw [ih]
      · rfl
      · rfl

theorem console_refresh (s : CycleState T) :
    ∃ failing, s.refresh.console = { s.console with refreshFailing := failing } := by
  unfold refresh
  split
  · exact ⟨false, rfl⟩
  · exact ⟨true, rfl⟩

end CycleState

namespace Console

variable (c : Console) (client : Client T) (bus : PinBus) (w : World)

/-- Where a cycle stands when its sample was taken and scanned. -/
def scanned : CycleState T where
  console := (c.scan (bus.sample w).1 client.status).2
  client
  world := (bus.sample w).2.2

/-- The attempts that a cycle makes, in order and with their pins. -/
def attempts : List (InputPin × Attempt) :=
  (c.scanned client bus w).attempts (c.scan (bus.sample w).1 client.status).1

/-- What a cycle makes of a console: what its attempts have left, with the sample remembered. -/
structure Cycled (acted : CycleState T) (c' : Console) : Prop where
  performs : (c.scanned client bus w).Performs (c.scan (bus.sample w).1 client.status).1
    (c.attempts client bus w) acted
  setup : c'.setup = c.setup
  previous : c'.previous = c.previous.takeOver c.setup.registered (bus.sample w).1
  jogging : c'.jogging = acted.console.jogging
  feedOverride : c'.feedOverride = acted.console.feedOverride
  spindleOverride : c'.spindleOverride = acted.console.spindleOverride

variable {c client bus w}

theorem cycled {c' : Console} {client' : Client T} {bus' : PinBus} {w' : World}
    {report : CycleReport} (h : c.cycle client bus w = some (report, c', client', bus', w')) :
    ∃ acted, c.Cycled client bus w acted c' := by
  obtain ⟨s, hact, _, _, hc', _⟩ := cycle_eq_some h
  obtain ⟨acted, hacted, hs⟩ := act_performed hact
  obtain ⟨failing, hconsole⟩ := (acted.passNotices maxNoticesPerCycle).console_refresh
  rw [CycleState.console_passNotices, ← hs] at hconsole
  have hperforms : (c.scanned client bus w).Performs (c.scan (bus.sample w).1 client.status).1
      (c.attempts client bus w) acted :=
    CycleState.performs_of_performAll hacted
  obtain ⟨hsetup, hprevious⟩ :=
    scanPins_console (bus.sample w).1 client.status c.setup.registered c
  obtain ⟨hprevious', hsetup'⟩ := hperforms.console
  have hscanned : (c.scanned client bus w).console
      = (scanPins (bus.sample w).1 client.status c.setup.registered c).2 := by
    rw [scanned, scan]
  rw [hscanned, hprevious] at hprevious'
  rw [hscanned, hsetup] at hsetup'
  rw [hc', hconsole]
  refine ⟨acted, ?_⟩
  -- every field is read off before it is compared, since the sample is one of them
  exact
    { performs := hperforms
      setup := by dsimp only; rw [hsetup']
      previous := by dsimp only; rw [hprevious', hsetup']
      jogging := by dsimp only
      feedOverride := by dsimp only
      spindleOverride := by dsimp only }

end Console

end

/-! ### Starts and releases

A pin can start an axis or release it, not both between the same two samples. What many pins make of
the tracker is a matter of order among the starts, where the last one wins, and of mere presence
among the releases.
-/

namespace InputSample

/-- The axis that a pin starts between two samples, when it is a jog pin and turns active. -/
def starts? (before now : InputSample) (pin : InputPin) : Option UInt8 :=
  if before.rises now pin then pin.jog?.map (·.1) else none

/-- Whether a pin is a jog pin of this axis and turns inactive between two samples. -/
def releases (before now : InputSample) (axis : UInt8) (pin : InputPin) : Bool :=
  before.falls now pin && pin.jog?.any (·.1 = axis)

/-- The axis that was started last by attempts with these pins: a start counts if its command was
accepted. -/
def lastStarted (before now : InputSample) (made : List (InputPin × Attempt)) : Option UInt8 :=
  (made.filterMap fun m => if m.2.result.isOk then before.starts? now m.1 else none).getLast?

/-- The tracked axis after some attempts: that of the last start, and without a start the one from
before, unless it was released. -/
def tracked (before now : InputSample) (made : List (InputPin × Attempt))
    (jogging : Option UInt8) : Option UInt8 :=
  (before.lastStarted now made).or
    (jogging.filter fun axis => !made.any fun m => before.releases now axis m.1)

variable {before now : InputSample} {pin : InputPin} {axis : UInt8}

/-- Only jog pins start an axis. -/
theorem starts?_eq_some (h : before.starts? now pin = some axis) :
    before.rises now pin = true ∧ ∃ direction, pin.jog? = some (axis, direction) := by
  unfold starts? at h
  split at h
  · next hrises =>
      obtain ⟨⟨_, direction⟩, hjog, rfl⟩ := Option.map_eq_some_iff.1 h
      exact ⟨hrises, direction, hjog⟩
  · cases h

theorem releases_iff : before.releases now axis pin = true ↔
    before.falls now pin = true ∧ ∃ direction, pin.jog? = some (axis, direction) := by
  simp [releases, Option.any_eq_true]

theorem lastStarted_cons (m : InputPin × Attempt) (made : List (InputPin × Attempt)) :
    before.lastStarted now (m :: made)
      = (before.lastStarted now made).or
          (if m.2.result.isOk then before.starts? now m.1 else none) := by
  unfold lastStarted
  rw [List.filterMap_cons]
  split <;> simp [*, List.getLast?_cons]

/-- The last start is that of an attempt that was accepted. -/
theorem mem_of_lastStarted {made : List (InputPin × Attempt)}
    (h : before.lastStarted now made = some axis) :
    ∃ m ∈ made, m.2.result.isOk = true ∧ before.starts? now m.1 = some axis := by
  obtain ⟨m, hm, hstarted⟩ := List.mem_filterMap.1 (List.mem_of_getLast? h)
  split at hstarted
  · next hok => exact ⟨m, hm, hok, hstarted⟩
  · cases hstarted

end InputSample

/-- The axis that an action starts. -/
def Action.axis? : Action → Option UInt8
  | .startJog axis _ => some axis
  | .send _ | .runProgram => none

namespace Console

variable {c : Console} {now : InputSample} {status : Status} {pin : InputPin}

/-- Of the momentary pins none starts an axis for the tracker, those for increments included. -/
theorem axis?_momentaryAction {action : Action}
    (h : c.momentaryAction now status pin = some action) : action.axis? = none := by
  cases pin with
  | control control => cases control <;> cases h <;> rfl
  | axis a index => cases a <;> cases h <;> rfl
  | line index =>
      obtain ⟨line, _, rfl⟩ := Option.map_eq_some_iff.1 h
      rfl

/-- What a pin does starts the axis that it is to start, and ends the tracking of the axis that it
releases. -/
theorem pinAction_jogging (c : Console) (now : InputSample) (status : Status) (pin : InputPin) :
    (c.pinAction now status pin).1.bind (·.axis?) = c.previous.starts? now pin ∧
      (c.pinAction now status pin).2.jogging
        = c.jogging.filter fun axis => !c.previous.releases now axis pin := by
  have kept (pin : InputPin) (hkept : ∀ axis, c.previous.releases now axis pin = false) :
      (c.jogging.filter fun axis => !c.previous.releases now axis pin) = c.jogging := by
    cases c.jogging <;> simp [Option.filter_some, hkept]
  -- a pin that is no jog pin neither starts an axis nor releases one
  have plain (pin : InputPin) (hjog : pin.jog? = none) {acted : Option Action × Console}
      (haxis : acted.1.bind (·.axis?) = none) (hsame : acted.2.jogging = c.jogging) :
      acted.1.bind (·.axis?) = c.previous.starts? now pin ∧
        acted.2.jogging = c.jogging.filter fun axis => !c.previous.releases now axis pin := by
    rw [haxis, hsame, kept pin (by simp [InputSample.releases, hjog])]
    simp [InputSample.starts?, hjog]
  refine c.pinAction_cases now status (motive := fun pin acted =>
    acted.1.bind (·.axis?) = c.previous.starts? now pin ∧
      acted.2.jogging = c.jogging.filter fun axis => !c.previous.releases now axis pin)
    ?_ ?_ ?_ ?_ pin
  · -- the kinds of pins in turn: momentary pins, jog pins, and the two for the overrides
    intro pin hjog
    refine plain pin hjog ?_ ?_
    · split
      · rcases haction : c.momentaryAction now status pin with _ | action
        · rfl
        · exact axis?_momentaryAction haction
      · rfl
    · split <;> rfl
  · intro pin axis direction hjog
    unfold jogAction
    cases hfalls : c.previous.falls now pin with
    | false =>
        rw [kept pin (by simp [InputSample.releases, hfalls])]
        cases hrises : c.previous.rises now pin <;>
          simp [InputSample.starts?, Action.axis?, hrises, hjog]
    | true => -- a pin that turns inactive does not turn active, so a release starts nothing
        have hrises := InputSample.rises_of_falls hfalls
        have hreleases (other : UInt8) :
            c.previous.releases now other pin = decide (axis = other) := by
          simp [InputSample.releases, hfalls, hjog]
        simp only [hreleases, hrises]
        refine ⟨by simp [InputSample.starts?, Action.axis?, hrises], ?_⟩
        rcases htracked : c.jogging with _ | other
        · simp [htracked]
        · by_cases hother : axis = other
          · subst hother
            simp [Option.filter_some]
          · simp [htracked, Option.filter_some, hother, Ne.symm hother]
  · rw [pinAction_feedOverride]
    refine plain (.control .feedOverride) rfl ?_ ?_ <;> dsimp only <;> split <;> rfl
  · rw [pinAction_spindleOverride]
    refine plain (.control .spindleOverride) rfl ?_ ?_ <;> dsimp only <;> split <;> rfl

/-- **What a scan decides about the tracker**: there is a start for each jog pin that turns active,
and the tracking ends with a release. -/
theorem scanPins_jogging (now : InputSample) (status : Status) (pins : List InputPin)
    (c : Console) :
    (∀ m ∈ (scanPins now status pins c).1, m.2.axis? = c.previous.starts? now m.1) ∧
      (scanPins now status pins c).2.jogging
        = c.jogging.filter fun axis => !pins.any (c.previous.releases now axis) := by
  induction pins generalizing c with
  | nil =>
      refine ⟨fun _ hm => (nomatch hm), ?_⟩
      cases hjogging : c.jogging <;> simp [scanPins, hjogging, Option.filter_some]
  | cons pin pins ih =>
      obtain ⟨haxis, hjogging⟩ := c.pinAction_jogging now status pin
      -- the pins behind this one compare with the same sample from before
      obtain ⟨hrest, hlater⟩ := ih (c.pinAction now status pin).2
      rw [(c.pinAction_console now status pin).2] at hrest hlater
      rw [scanPins_cons]
      refine ⟨?_, ?_⟩
      · intro m hm
        rcases List.mem_append.1 hm with hm | hm
        · obtain ⟨action, haction, rfl⟩ := Option.map_eq_some_iff.1 (Option.mem_toList.1 hm)
          rw [haction] at haxis
          exact haxis
        · exact hrest m hm
      · rw [hlater, hjogging, Option.filter_filter]
        simp

end Console

namespace CycleState

variable {T : Transport} {s s' : CycleState T} {before now : InputSample}

theorem jogging_after (s : CycleState T) (pin : InputPin) (action : Action) (a : Attempt)
    (client : Client T) (world : World) :
    (s.after pin action a client world).console.jogging
      = (if a.result.isOk then action.axis? else none).or s.console.jogging := by
  unfold after
  split
  · next hok =>
      rw [hok]
      cases action <;> rfl
  · next herror =>
      rw [herror]
      rfl

/-- **The last start that was accepted is tracked**, and without one the tracker stays. -/
theorem Performs.jogging {actions : List (InputPin × Action)} {made : List (InputPin × Attempt)}
    (h : Performs s actions made s')
    (hstarts : ∀ m ∈ actions, m.2.axis? = before.starts? now m.1) :
    s'.console.jogging = (before.lastStarted now made).or s.console.jogging := by
  -- the attempts in order: a later start that was accepted takes the place of an earlier one
  induction h with
  | nil => rfl
  | cons _ _ ih =>
      have hfirst := hstarts _ (List.mem_cons_self ..)
      rw [ih fun m hm => hstarts m (List.mem_cons_of_mem _ hm), jogging_after, hfirst,
        InputSample.lastStarted_cons, Option.or_assoc]

end CycleState

/-! ### One cycle

The actions of a scan are what is due for its pins, so what the tracker owes to the scan can be said
of the attempts as well: whoever is released has an attempt to stop it, and whoever is started has
an attempt to start it.
-/

namespace Console

variable {T : Transport} {c c' : Console} {client client' : Client T} {bus bus' : PinBus}
  {w w' : World} {report : CycleReport}

/-- The attempts of a cycle are those that are due. -/
theorem Cycled.due {acted : CycleState T} (h : c.Cycled client bus w acted c') :
    (c.attempts client bus w).map (fun m => (m.1, m.2.command))
      = c.setup.registered.filterMap fun pin =>
          (c.due c.previous (bus.sample w).1 client.status pin).map (pin, ·) := by
  rw [h.performs.commands, scan]
  exact scanPins_due _ _ c.setup.nodup_registered (.refl _ c)

/-- What is attempted is due for a pin that is scanned. -/
theorem Cycled.due_of_attempt {acted : CycleState T} (h : c.Cycled client bus w acted c')
    {m : InputPin × Attempt} (hm : m ∈ c.attempts client bus w) :
    m.1 ∈ c.setup.registered ∧
      c.due c.previous (bus.sample w).1 client.status m.1 = some m.2.command := by
  have hmem := List.mem_map_of_mem (f := fun m => (m.1, m.2.command)) hm
  rw [h.due] at hmem
  obtain ⟨pin, hpin, hdue⟩ := List.mem_filterMap.1 hmem
  obtain ⟨command, hcommand, heq⟩ := Option.map_eq_some_iff.1 hdue
  rw [Prod.mk.injEq] at heq
  rw [← heq.1, ← heq.2]
  exact ⟨hpin, hcommand⟩

/-- For what is due, there is an attempt. -/
theorem Cycled.attempt_of_due {acted : CycleState T} (h : c.Cycled client bus w acted c')
    {pin : InputPin} {command : Command} (hpin : pin ∈ c.setup.registered)
    (hdue : c.due c.previous (bus.sample w).1 client.status pin = some command) :
    ∃ a, (pin, a) ∈ c.attempts client bus w ∧ a.command = command := by
  have hmem : (pin, command) ∈ (c.attempts client bus w).map fun m => (m.1, m.2.command) := by
    rw [h.due]
    exact List.mem_filterMap.2 ⟨pin, hpin, by rw [hdue]; rfl⟩
  obtain ⟨⟨_, a⟩, hmade, heq⟩ := List.mem_map.1 hmem
  cases heq
  exact ⟨a, hmade, rfl⟩

/-- A registered pin releases an axis where an attempt is made for such a pin. -/
theorem Cycled.any_releases {acted : CycleState T} (h : c.Cycled client bus w acted c')
    (axis : UInt8) :
    (c.attempts client bus w).any (fun m => c.previous.releases (bus.sample w).1 axis m.1)
      = c.setup.registered.any (c.previous.releases (bus.sample w).1 axis) := by
  rw [Bool.eq_iff_iff, List.any_eq_true, List.any_eq_true]
  constructor
  · rintro ⟨m, hm, hreleases⟩
    exact ⟨m.1, (h.due_of_attempt hm).1, hreleases⟩
  · rintro ⟨pin, hpin, hreleases⟩
    -- the release of a jog pin is a command of its own, and therefore attempted
    obtain ⟨hfalls, direction, hjog⟩ := InputSample.releases_iff.1 hreleases
    obtain ⟨a, hmade, _⟩ := h.attempt_of_due hpin (due_falls hjog hfalls)
    exact ⟨(pin, a), hmade, hreleases⟩

/-- **The tracker follows the attempts of a cycle.** -/
theorem Cycled.tracked {acted : CycleState T} (h : c.Cycled client bus w acted c') :
    c'.jogging
      = c.previous.tracked (bus.sample w).1 (c.attempts client bus w) c.jogging := by
  obtain ⟨hstarts, hjogging⟩ :=
    scanPins_jogging (bus.sample w).1 client.status c.setup.registered c
  have hscanned : (c.scanned client bus w).console
      = (scanPins (bus.sample w).1 client.status c.setup.registered c).2 := by
    rw [scanned, scan]
  rw [h.jogging, h.performs.jogging hstarts, hscanned, hjogging]
  unfold InputSample.tracked
  simp only [h.any_releases]

end Console

/-! ### Every state that cycles lead to

The invariant has two parts, for the second alone would not be kept: were a tracked axis not one of
the machine, its pins would not be scanned, and it would be tracked forever.
-/

namespace InputSample

variable {before now : InputSample}

/-- An axis whose pins are scanned is released by one of its two jog pins. -/
theorem any_releases {pins : List InputPin} {axis : UInt8} (hpins : ∀ a, .axis a axis ∈ pins) :
    pins.any (before.releases now axis)
      = (before.falls now (.axis .jogPlus axis) || before.falls now (.axis .jogMinus axis)) := by
  rw [Bool.eq_iff_iff, List.any_eq_true, Bool.or_eq_true]
  constructor
  · rintro ⟨pin, _, hreleases⟩
    obtain ⟨hfalls, direction, hjog⟩ := releases_iff.1 hreleases
    rcases InputPin.jog?_eq_some hjog with rfl | rfl
    · exact .inl hfalls
    · exact .inr hfalls
  · rintro (hfalls | hfalls)
    · exact ⟨_, hpins .jogPlus, releases_iff.2 ⟨hfalls, 1, rfl⟩⟩
    · exact ⟨_, hpins .jogMinus, releases_iff.2 ⟨hfalls, -1, rfl⟩⟩

/-- A pin that is active stays active unless it turns inactive. -/
theorem bit_of_not_falls {pin : InputPin} (hbefore : before.bit pin = true)
    (hfalls : before.falls now pin = false) : now.bit pin = true := by
  simpa [falls, hbefore] using hfalls

theorem bit_of_rises {pin : InputPin} (h : before.rises now pin = true) : now.bit pin = true := by
  rw [rises, Bool.and_eq_true] at h
  exact h.1

end InputSample

namespace Console

/-- **What is true of the tracker**: the tracked axis is one of the machine, and one of its jog pins
was active in the last sample. -/
structure Tracks (c : Console) : Prop where
  registered : ∀ axis, c.jogging = some axis → ∀ a, .axis a axis ∈ c.setup.registered
  held : ∀ axis, c.jogging = some axis →
    c.previous.bit (.axis .jogPlus axis) = true ∨ c.previous.bit (.axis .jogMinus axis) = true

/-- The states of a console with this setup: it begins with an empty memory, and goes through
cycles, each with any client on any bus in any world. -/
inductive Reached (setup : Setup) : Console → Prop
  | new : Reached setup { setup }
  | cycle {T : Transport} {c c' : Console} {client client' : Client T} {bus bus' : PinBus}
      {w w' : World} {report : CycleReport} :
      Reached setup c → c.cycle client bus w = some (report, c', client', bus', w') →
      Reached setup c'

section

variable {T : Transport} {setup : Setup} {c c' : Console} {client client' : Client T}
  {bus bus' : PinBus} {w w' : World} {report : CycleReport}

/-- A cycle keeps it so: an axis that was started has a pin that has just turned active, and one
that is still tracked has a pin that was active before and was not released. -/
theorem Cycled.tracks {acted : CycleState T} (h : c.Cycled client bus w acted c')
    (htracks : c.Tracks) : c'.Tracks := by
  have hactive (pin : InputPin) (hpin : pin ∈ c.setup.registered) :
      c'.previous.bit pin = (bus.sample w).1.bit pin := by
    rw [h.previous, InputSample.bit_takeOver _ _ hpin]
  have hboth (axis : UInt8) (htracked : c'.jogging = some axis) :
      (∀ a, .axis a axis ∈ c.setup.registered) ∧
        ((bus.sample w).1.bit (.axis .jogPlus axis) = true ∨
          (bus.sample w).1.bit (.axis .jogMinus axis) = true) := by
    rw [h.tracked, InputSample.tracked, Option.or_eq_some_iff, Option.filter_eq_some_iff]
      at htracked
    -- the axis was started in this cycle, or it was tracked before and not released in it
    obtain hstarted | ⟨_, hbefore, hkept⟩ := htracked
    · obtain ⟨m, hm, _, hstarts⟩ := InputSample.mem_of_lastStarted hstarted
      obtain ⟨hrises, direction, hjog⟩ := InputSample.starts?_eq_some hstarts
      have hpin := (h.due_of_attempt hm).1
      have hnow := InputSample.bit_of_rises hrises
      rcases InputPin.jog?_eq_some hjog with heq | heq <;> rw [heq] at hpin hnow
      · exact ⟨InputPin.axis_mem_of_mem hpin, .inl hnow⟩
      · exact ⟨InputPin.axis_mem_of_mem hpin, .inr hnow⟩
    · have hpins := htracks.registered axis hbefore
      rw [h.any_releases, InputSample.any_releases hpins, Bool.not_eq_true', Bool.or_eq_false_iff]
        at hkept
      refine ⟨hpins, ?_⟩
      rcases htracks.held axis hbefore with hplus | hminus
      · exact .inl (InputSample.bit_of_not_falls hplus hkept.1)
      · exact .inr (InputSample.bit_of_not_falls hminus hkept.2)
  refine ⟨?_, ?_⟩
  · intro axis htracked
    rw [h.setup]
    exact (hboth axis htracked).1
  · intro axis htracked
    obtain ⟨hpins, hheld⟩ := hboth axis htracked
    rw [hactive _ (hpins .jogPlus), hactive _ (hpins .jogMinus)]
    exact hheld

/-- The induction over all cycles, from the empty memory on. -/
theorem Reached.tracks (h : Reached setup c) : c.Tracks ∧ c.setup = setup := by
  induction h with
  | new => exact ⟨⟨nofun, nofun⟩, rfl⟩
  | cycle _ hcycle ih =>
      obtain ⟨acted, hcycled⟩ := cycled hcycle
      exact ⟨hcycled.tracks ih.1, hcycled.setup.trans ih.2⟩

end

end Console

/-- A cycle of a panel is one of its console. -/
theorem Panel.console_cycle {T : Transport} {p p' : Panel T} {w w' : World} {report : CycleReport}
    (h : p.cycle w = some (report, p', w')) :
    ∃ w₁, p.console.cycle p.client p.bus w.time.2
      = some (report, p'.console, p'.client, p'.bus, w₁) := by
  unfold cycle at h
  generalize p.console.cycle p.client p.bus = cycle at h ⊢
  dsimp only at h
  rcases hended : cycle w.time.2 with _ | ⟨report₁, console, client, bus, w₁⟩
  · rw [hended] at h
    cases h
  · rw [hended] at h
    cases h
    exact ⟨w₁, rfl⟩

theorem Panel.attempts_console (p : Panel Simulated.transport) (w : World) :
    p.attempts w = p.console.attempts p.client p.bus w.time.2 := rfl

theorem Session.reached_next {setup : Setup} {s s' : Session} {event : Event} {turn : Turn}
    (hreached : Console.Reached setup s.panel.console) (h : s.next event = some (turn, s')) :
    Console.Reached setup s'.panel.console := by
  rcases console_next h with ⟨_, hconsole⟩ | ⟨report, hcycle, _⟩
  · rw [hconsole]
    exact hreached
  · obtain ⟨w₁, hconsole⟩ := Panel.console_cycle hcycle
    exact .cycle hreached hconsole

theorem Session.Runs.reached {setup : Setup} {s s' : Session} {events : List Event}
    {turns : List Turn} (h : Runs s events turns s')
    (hreached : Console.Reached setup s.panel.console) :
    Console.Reached setup s'.panel.console := by
  induction h with
  | nil => exact hreached
  | cons hnext _ ih => exact ih (reached_next hreached hnext)

namespace Console

/-- **The tracker**: after any sequence of cycles the tracked axis is one of the machine, and one of
its jog pins was active in the last sample. The next cycle, whatever it samples and whatever becomes
of its attempts, leaves the axis of its last start that was accepted, and without such a start the
axis from before, unless one of the jog pins of that axis has turned inactive. -/
theorem Reached.tracker {setup : Setup} {c : Console} (h : Reached setup c) :
    (∀ axis, c.jogging = some axis → axis.toNat < setup.axisCount ∧
      (c.previous.bit (.axis .jogPlus axis) = true ∨
        c.previous.bit (.axis .jogMinus axis) = true)) ∧
    ∀ {T : Transport} (client client' : Client T) (bus bus' : PinBus) (w w' : World)
      (report : CycleReport) (c' : Console),
      c.cycle client bus w = some (report, c', client', bus', w') →
      let now := (bus.sample w).1
      c'.jogging
        = (c.previous.lastStarted now (c.attempts client bus w)).or
            (c.jogging.filter fun axis =>
              !(c.previous.falls now (.axis .jogPlus axis) ||
                c.previous.falls now (.axis .jogMinus axis))) := by
  obtain ⟨htracks, rfl⟩ := h.tracks
  refine ⟨?_, ?_⟩
  · intro axis htracked
    have hindex := InputPin.index_lt (htracks.registered axis htracked .jogPlus)
    exact ⟨Nat.lt_of_lt_of_le hindex (Nat.min_le_left _ _), htracks.held axis htracked⟩
  · intro T client client' bus bus' w w' report c' hcycle now
    obtain ⟨acted, hcycled⟩ := cycled hcycle
    rw [hcycled.tracked, InputSample.tracked]
    refine congrArg (Option.or _) ?_
    -- only the axis that was tracked before is asked for, and its pins are scanned
    cases htracked : c.jogging with
    | none => rw [Option.filter_none, Option.filter_none]
    | some axis =>
        rw [Option.filter_some, Option.filter_some, hcycled.any_releases,
          InputSample.any_releases (htracks.registered axis htracked)]

/-- In the sample that releases the first axis, the second one is started. -/
theorem Reached.tracker_swap :
    ∃ p turns s report c' client' bus' w',
      Panel.create Simulated.transport {} { carrier := .memory {} } = .ok p ∧
      Session.Runs ⟨p, .echoing 7⟩ (Panel.swap (.axis .jogPlus 0) (.axis .jogMinus 1)) turns s ∧
      s.panel.console.jogging = some 0 ∧ (0 : UInt8).toNat < p.console.setup.axisCount ∧
      s.panel.console.previous.bit (.axis .jogPlus 0) = true ∧
      s.panel.console.cycle s.panel.client s.panel.bus s.world
        = some (report, c', client', bus', w') ∧
      c'.jogging = some 1 := by
  have hplays : Panel.Plays (Panel.swap (.axis .jogPlus 0) (.axis .jogMinus 1))
      fun _ _ s => decide (
      let c := s.panel.console
      let now := (s.panel.bus.sample s.world).1
      c.jogging = some 0 ∧ c.previous.bit (.axis .jogMinus 0) = false ∧
      (c.cycle s.panel.client s.panel.bus s.world).isSome = true ∧
      (c.previous.lastStarted now (c.attempts s.panel.client s.panel.bus s.world)).or
        (c.jogging.filter fun axis => !(c.previous.falls now (.axis .jogPlus axis) ||
          c.previous.falls now (.axis .jogMinus axis))) = some 1) := by
    decide +kernel
  obtain ⟨p, turns, s, hcreate, hruns, hholds⟩ := hplays.runs
  obtain ⟨htracked, hminus, hends, hnext⟩ := of_decide_eq_true hholds
  obtain ⟨⟨report, c', client', bus', w'⟩, hcycle⟩ := Option.isSome_iff_exists.1 hends
  have hreached : Reached p.console.setup s.panel.console := by
    refine hruns.reached ?_
    obtain ⟨_, setup, _, rfl⟩ := Panel.create_eq_ok hcreate
    exact .new
  obtain ⟨hinvariant, hcycles⟩ := Reached.tracker hreached
  obtain ⟨haxis, hplus | hminus'⟩ := hinvariant 0 htracked
  · exact ⟨p, turns, s, report, c', client', bus', w', hcreate, hruns, htracked, haxis, hplus,
      hcycle, (hcycles _ _ _ _ _ _ _ _ hcycle).trans hnext⟩
  · rw [hminus] at hminus'
    cases hminus'

end Console

/-! ### Commands that are lost

An attempt that was not written is lost, whatever its reason. For a start this is seen in its
result; for a release it is not, because the scan has let go of the axis before the stop is tried.
-/

namespace InputSample

variable {before now : InputSample} {made : List (InputPin × Attempt)}

/-- A start whose command is lost starts nothing. -/
theorem lastStarted_written (h : ∀ m ∈ made, m.2.result.isOk = true → m.2.written = true) :
    before.lastStarted now (made.filter (·.2.written)) = before.lastStarted now made := by
  induction made with
  | nil => rfl
  | cons m made ih =>
      have hrest := ih fun m' hm => h m' (List.mem_cons_of_mem _ hm)
      rw [List.filter_cons]
      split
      · rw [lastStarted_cons, lastStarted_cons, hrest]
      · next hwritten =>
          have hlost : ¬m.2.result.isOk = true := fun hok =>
            hwritten (h m (List.mem_cons_self ..) hok)
          rw [lastStarted_cons, hrest, if_neg hlost, Option.or_none]

theorem any_written_iff {axis : UInt8} :
    (made.filter (·.2.written)).any (fun m => before.releases now axis m.1) = true ↔
      ∃ m ∈ made, before.releases now axis m.1 = true ∧ m.2.written = true := by
  simp only [List.any_eq_true, List.mem_filter]
  constructor
  · rintro ⟨m, ⟨hm, hwritten⟩, hreleases⟩
    exact ⟨m, hm, hreleases, hwritten⟩
  · rintro ⟨m, hm, hreleases, hwritten⟩
    exact ⟨m, ⟨hm, hwritten⟩, hreleases⟩

/-- What the attempts that were written make of the tracker is what all make of it, unless the
tracked axis was released and every stop for it was lost. -/
theorem tracked_written_iff (jogging : Option UInt8)
    (h : ∀ m ∈ made, m.2.result.isOk = true → m.2.written = true) :
    before.tracked now made jogging = before.tracked now (made.filter (·.2.written)) jogging ↔
      before.lastStarted now made ≠ none ∨ ∀ axis, jogging = some axis →
        (∃ m ∈ made, before.releases now axis m.1 = true) →
        ∃ m ∈ made, before.releases now axis m.1 = true ∧ m.2.written = true := by
  unfold tracked
  rw [lastStarted_written h]
  -- with a start that was accepted both sides track its axis; without one there is the axis from
  -- before, if there is any
  cases before.lastStarted now made with
  | some started => simp
  | none =>
      cases jogging with
      | none => simp
      | some axis =>
          have hfewer : (made.filter (·.2.written)).any (fun m => before.releases now axis m.1)
              = true → made.any (fun m => before.releases now axis m.1) = true := by
            rw [any_written_iff, List.any_eq_true]
            rintro ⟨m, hm, hreleases, _⟩
            exact ⟨m, hm, hreleases⟩
          rw [Option.none_or, Option.none_or, Option.filter_some, Option.filter_some]
          simp only [Option.some.injEq, forall_eq', ← any_written_iff, ← List.any_eq_true, ne_eq,
            not_true_eq_false, false_or]
          -- the axis is kept on both sides, or on neither, or every stop was lost
          generalize made.any (fun m => before.releases now axis m.1) = tried at hfewer ⊢
          generalize (made.filter (·.2.written)).any (fun m => before.releases now axis m.1)
            = delivered at hfewer ⊢
          cases tried <;> cases delivered <;> simp_all

end InputSample

namespace Console

/-- **When the tracker follows only the commands that were delivered**: a start whose command could
not be written starts nothing. A stop that could not be written is another matter, for the release
alone has ended the tracking. So the tracker is what the delivered commands make of it just when the
cycle has a start that was accepted, or for the axis that was tracked there is either no release, or
a stop that was written. -/
theorem tracker_delivered_iff {T : Transport} {c c' : Console} {client client' : Client T}
    {bus bus' : PinBus} {w w' : World} {report : CycleReport}
    (hcycle : c.cycle client bus w = some (report, c', client', bus', w')) :
    let before := c.previous
    let now := (bus.sample w).1
    let made := c.attempts client bus w
    let delivered := made.filter (·.2.written)
    before.lastStarted now delivered = before.lastStarted now made ∧
    c'.jogging = before.tracked now made c.jogging ∧
    (c'.jogging = before.tracked now delivered c.jogging ↔
      before.lastStarted now made ≠ none ∨ ∀ axis, c.jogging = some axis →
        (∃ m ∈ made, before.releases now axis m.1 = true) →
        ∃ m ∈ made, before.releases now axis m.1 = true ∧ m.2.written = true) := by
  intro before now made delivered
  obtain ⟨acted, hcycled⟩ := cycled hcycle
  have hwritten := hcycled.performs.written_of_isOk
  refine ⟨InputSample.lastStarted_written hwritten, hcycled.tracked, ?_⟩
  rw [hcycled.tracked]
  exact InputSample.tracked_written_iff c.jogging hwritten

/-- A release whose stop is written. -/
theorem tracker_delivered_iff_release :
    ∃ p turns s report c' client' bus' w',
      Panel.create Simulated.transport {} { carrier := .memory {} } = .ok p ∧
      Session.Runs ⟨p, .echoing 7⟩ (Panel.press ++ .work .cycle :: Panel.release) turns s ∧
      s.panel.console.jogging = some 0 ∧
      s.panel.console.cycle s.panel.client s.panel.bus s.world
        = some (report, c', client', bus', w') ∧
      c'.jogging = none := by
  have hplays : Panel.Plays (Panel.press ++ .work .cycle :: Panel.release) fun _ _ s => decide (
      let c := s.panel.console
      let now := (s.panel.bus.sample s.world).1
      let made := c.attempts s.panel.client s.panel.bus s.world
      c.jogging = some 0 ∧ (c.cycle s.panel.client s.panel.bus s.world).isSome = true ∧
      (∃ m ∈ made, c.previous.releases now 0 m.1 = true ∧ m.2.written = true) ∧
      c.previous.tracked now (made.filter (·.2.written)) c.jogging = none) := by
    decide +kernel
  obtain ⟨p, turns, s, hcreate, hruns, hholds⟩ := hplays.runs
  obtain ⟨htracked, hends, hstop, hdelivered⟩ := of_decide_eq_true hholds
  obtain ⟨⟨report, c', client', bus', w'⟩, hcycle⟩ := Option.isSome_iff_exists.1 hends
  obtain ⟨_, _, hiff⟩ := tracker_delivered_iff hcycle
  refine ⟨p, turns, s, report, c', client', bus', w', hcreate, hruns, htracked, hcycle, ?_⟩
  refine (hiff.2 (.inr ?_)).trans hdelivered
  intro axis haxis _
  rw [htracked] at haxis
  cases haxis
  exact hstop

/-- **A jog that is forgotten**: while the command channel does not work, the pin of an axis that
moves is released. The stop is lost, and the axis is not tracked any more. -/
theorem forgotten_jog :
    ∃ p turns s report c' client' bus' w' a,
      Panel.create Simulated.transport {} { carrier := .memory {} } = .ok p ∧
      Session.Runs ⟨p, .echoing 7⟩
        (Panel.press ++ .work .cycle :: .work (.script (.validate false)) :: Panel.release) turns
        s ∧
      s.panel.console.jogging = some 0 ∧
      s.panel.console.cycle s.panel.client s.panel.bus s.world
        = some (report, c', client', bus', w') ∧
      s.panel.console.attempts s.panel.client s.panel.bus s.world = [(.axis .jogPlus 0, a)] ∧
      a.command = .jogStop 0 ∧ a.written = false ∧
      w'.simulator.received.map (·.command) = [.jogContinuous 0 10] ∧
      c'.jogging = none := by
  have hplays : Panel.Plays
      (Panel.press ++ .work .cycle :: .work (.script (.validate false)) :: Panel.release)
      fun _ _ s => decide (
      let c := s.panel.console
      c.jogging = some 0 ∧
      (c.attempts s.panel.client s.panel.bus s.world).map
        (fun m => (m.1, m.2.command, m.2.written)) = [(.axis .jogPlus 0, .jogStop 0, false)] ∧
      (c.cycle s.panel.client s.panel.bus s.world).any (fun (_, c', _, _, w') =>
        c'.jogging = none ∧
          w'.simulator.received.map (·.command) = [.jogContinuous 0 10]) = true) := by
    decide +kernel
  obtain ⟨p, turns, s, hcreate, hruns, hholds⟩ := hplays.runs
  obtain ⟨htracked, hmade, hends⟩ := of_decide_eq_true hholds
  obtain ⟨⟨report, c', client', bus', w'⟩, hcycle, hafter⟩ := (Option.any_eq_true _ _).1 hends
  obtain ⟨hforgotten, hreceived⟩ := of_decide_eq_true hafter
  obtain ⟨⟨pin, a⟩, rest, hattempts, heq, hrest⟩ := List.map_eq_cons_iff.1 hmade
  cases List.map_eq_nil_iff.1 hrest
  rw [Prod.mk.injEq, Prod.mk.injEq] at heq
  obtain ⟨rfl, hcommand, hlost⟩ := heq
  exact ⟨p, turns, s, report, c', client', bus', w', a, hcreate, hruns, htracked, hcycle, hattempts,
    hcommand, hlost, hreceived, hforgotten⟩

end Console

end OperatorPanel
