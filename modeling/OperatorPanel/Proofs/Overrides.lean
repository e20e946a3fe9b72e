import Mathlib.Data.List.Nodup
import OperatorPanel.Proofs.FiniteNumbers
import OperatorPanel.Proofs.Tracker

/-!
# Overrides

A console remembers for each override the value that it took last, and takes another one only when
the pin has moved by more than the least change (`Console.settled`). The value is remembered while
the pins are scanned, and so before its command is sent (`Console.Cycled.override`).

Where the command cannot be written the rule that only written values are remembered is broken
(`Console.override_kept_iff`), and as long as the pin stays where it is the override is not tried
again: it is lost (`Console.lost_override`).
-/

namespace OperatorPanel

namespace Number

/-- The difference of a number from itself is zero or undefined. -/
theorem sub_self {x : Number} (hx : x.isNaN = false) :
    x - x = if x.isInfinite then invalid else 0 := by
  show x.sub x = _
  have hzero : ofParts false 0 = 0 := by decide +kernel
  unfold sub orNaN
  rw [hx]
  cases x.isInfinite with
  | true => simp
  | false => simp [hzero]

/-- A finite number differs from itself by nothing; an infinity has no difference from itself, and
what is not a number is compared with nothing. -/
theorem abs_sub_self_le {x e : Number} (hx : x.isNaN = false) :
    (x - x).abs ≤ e ↔ x.isFinite = true ∧ 0 ≤ e := by
  have hzero : (0 : Number).abs = 0 := by decide +kernel
  have hinvalid : invalid.abs.isNaN = true := by decide +kernel
  rw [sub_self hx, isFinite_of_not_nan hx]
  cases x.isInfinite with
  | true =>
      have hnone : ¬invalid.abs ≤ e := by
        show ¬invalid.abs.atMost e = true
        simp [atMost, hinvalid]
      simp [hnone]
  | false => simp [hzero]

end Number

/-- No clamped number is negative, or not a number. -/
theorem isNaN_clamped (x : Number) : (clamped x).isNaN = false := by
  unfold clamped
  split
  · next hpositive =>
      have hless : (Number.less 0 x) = true := hpositive
      simp only [Number.less, Bool.and_eq_true, Bool.not_eq_true'] at hless
      exact hless.1.2
  · decide +kernel

/-! ### What is remembered of an override

The two overrides follow one rule, each with a pin, a remembered value and a command of its own. So
they are a parameter here, and the lemmas hold for both.
-/

/-- The overrides of the console. -/
inductive Override where
  | feed | spindle
  deriving DecidableEq

namespace Override

/-- The pin that an override is read from. -/
def pin : Override → InputPin
  | feed => .control .feedOverride
  | spindle => .control .spindleOverride

/-- The command that sets an override. -/
def command : Override → Number → Command
  | feed => .setFeedScale
  | spindle => .setSpindleScale

/-- The value of an override in a sample. -/
def value (o : Override) (now : InputSample) : Number := clamped (now.float o.pin)

/-- The pins of the overrides are scanned on every machine. -/
theorem pin_registered (o : Override) (axes lines : Nat) :
    o.pin ∈ InputPin.registered axes lines := by
  cases o <;> exact InputPin.control_mem_registered _

end Override

namespace Console

/-- The value that was taken last. -/
def override (c : Console) : Override → Number
  | .feed => c.feedOverride
  | .spindle => c.spindleOverride

/-- Take another value. -/
def take (c : Console) : Override → Number → Console
  | .feed, value => { c with feedOverride := value }
  | .spindle, value => { c with spindleOverride := value }

@[simp] theorem override_take (c : Console) (o o' : Override) (value : Number) :
    (c.take o value).override o' = if o' = o then value else c.override o' := by
  cases o <;> cases o' <;> simp [take, override]

/-- An override is due when it is not settled. -/
theorem due_override (c : Console) (o : Override) (before now : InputSample) (status : Status) :
    c.due before now status o.pin
      = if c.settled (o.value now) (c.override o) then none
        else some (o.command (o.value now)) := by
  cases o <;> rfl

/-- **An override acts when it has moved**, and its value is taken at once. -/
theorem pinAction_override (c : Console) (now : InputSample) (status : Status) (o : Override) :
    c.pinAction now status o.pin
      = if c.settled (o.value now) (c.override o) then (none, c)
        else (some (.send (o.command (o.value now))), c.take o (o.value now)) := by
  cases o with
  | feed => exact c.pinAction_feedOverride now status
  | spindle => exact c.pinAction_spindleOverride now status

/-- No other pin has a say in it. -/
theorem override_pinAction (c : Console) (now : InputSample) (status : Status) {pin : InputPin}
    {o : Override} (hpin : pin ≠ o.pin) :
    (c.pinAction now status pin).2.override o = c.override o := by
  -- the overrides are two, and neither touches the other's value
  have other (o' : Override) (hother : o'.pin ≠ o.pin) :
      (c.pinAction now status o'.pin).2.override o = c.override o := by
    rw [pinAction_override]
    split
    · rfl
    · rw [override_take, if_neg fun h => hother (congrArg _ h.symm)]
  revert hpin
  refine c.pinAction_cases now status
    (motive := fun pin acted => pin ≠ o.pin → acted.2.override o = c.override o) ?_ ?_ ?_ ?_ pin
  · intro pin _ _
    split <;> rfl
  · intro pin axis direction _ _
    unfold jogAction
    split
    · rfl
    · split
      · dsimp only
        split
        · cases o <;> rfl
        · rfl
      · rfl
  · exact other .feed
  · exact other .spindle

/-- What settles a value is a matter of the setup. -/
theorem settled_congr {c c' : Console} (h : c'.setup = c.setup) (value last : Number) :
    c'.settled value last = c.settled value last := by
  rw [settled, settled, h]

/-- A scan that leaves the pin out leaves the value alone. -/
theorem override_scanPins_of_not_mem (now : InputSample) (status : Status) {o : Override}
    {pins : List InputPin} (hpins : o.pin ∉ pins) (c : Console) :
    (scanPins now status pins c).2.override o = c.override o := by
  induction pins generalizing c with
  | nil => rfl
  | cons pin pins ih =>
      rw [List.mem_cons, not_or] at hpins
      rw [scanPins_cons, ih hpins.2, override_pinAction c now status (Ne.symm hpins.1)]

/-- **A scan takes the value of an override once**, when it has moved. -/
theorem override_scanPins (now : InputSample) (status : Status) {o : Override}
    {pins : List InputPin} (hnodup : pins.Nodup) (hpin : o.pin ∈ pins) (c : Console) :
    (scanPins now status pins c).2.override o
      = if c.settled (o.value now) (c.override o) then c.override o else o.value now := by
  -- by induction on the pins: the override's own pin comes once, and the others do not touch it
  induction pins generalizing c with
  | nil => cases hpin
  | cons pin pins ih =>
      obtain ⟨hnew, hnodup⟩ := List.nodup_cons.1 hnodup
      rw [scanPins_cons]
      rcases List.mem_cons.1 hpin with rfl | hpin
      · rw [override_scanPins_of_not_mem now status hnew, pinAction_override]
        split
        · rfl
        · rw [override_take, if_pos rfl]
      · have hother : pin ≠ o.pin := fun h => hnew (h ▸ hpin)
        have hsetup := (c.pinAction_console now status pin).1
        rw [ih hnodup hpin, settled_congr hsetup, override_pinAction c now status hother]

end Console

namespace CycleState

variable {T : Transport} {s s' : CycleState T}

/-- Attempts leave the overrides as the scan has left them. -/
theorem Performs.override {actions : List (InputPin × Action)}
    {made : List (InputPin × Attempt)} (h : Performs s actions made s') (o : Override) :
    s'.console.override o = s.console.override o := by
  induction h with
  | nil => rfl
  | cons _ _ ih =>
      rw [ih]
      unfold after
      split
      · cases o <;> rfl
      · rfl

end CycleState

/-! ### One cycle

In a cycle the scan comes first and decides what is remembered; then the attempts are made, and what
becomes of them is not asked for. That is why the equation below speaks of the sample alone.
-/

namespace Console

variable {T : Transport} {c c' : Console} {client client' : Client T} {bus bus' : PinBus}
  {w w' : World} {report : CycleReport} {acted : CycleState T}

/-- **What is remembered after a cycle**: the value of an override that has moved, whatever became
of its command. -/
theorem Cycled.override (h : c.Cycled client bus w acted c') (o : Override) :
    c'.override o
      = if c.settled (o.value (bus.sample w).1) (c.override o) then c.override o
        else o.value (bus.sample w).1 := by
  have hafter : c'.override o = acted.console.override o := by
    cases o with
    | feed => exact h.feedOverride
    | spindle => exact h.spindleOverride
  have hscanned : (c.scanned client bus w).console
      = (scanPins (bus.sample w).1 client.status c.setup.registered c).2 := by
    rw [scanned, scan]
  rw [hafter, h.performs.override, hscanned,
    override_scanPins _ _ c.setup.nodup_registered (o.pin_registered _ _)]

/-- No pin has two attempts in a cycle. -/
theorem Cycled.attempt_unique (h : c.Cycled client bus w acted c') {pin : InputPin}
    {a b : Attempt} (ha : (pin, a) ∈ c.attempts client bus w)
    (hb : (pin, b) ∈ c.attempts client bus w) : a = b := by
  have hpins : ((c.attempts client bus w).map (·.1)).Nodup := by
    have hfirst : (c.attempts client bus w).map (·.1)
        = ((c.attempts client bus w).map fun m => (m.1, m.2.command)).map (·.1) := by
      rw [List.map_map]
      rfl
    rw [hfirst, h.due, List.map_filterMap]
    refine c.setup.nodup_registered.filterMap ?_
    intro x y pin hx hy
    simp only [Option.map_map, Option.mem_def, Option.map_eq_some_iff] at hx hy
    obtain ⟨_, _, hx⟩ := hx
    obtain ⟨_, _, hy⟩ := hy
    exact hx.trans hy.symm
  exact (Prod.mk.inj (List.inj_on_of_nodup_map hpins ha hb rfl)).2

/-- An override is tried when it has moved. -/
theorem Cycled.tries_iff (h : c.Cycled client bus w acted c') (o : Override) :
    (∃ a, (o.pin, a) ∈ c.attempts client bus w) ↔
      c.settled (o.value (bus.sample w).1) (c.override o) = false := by
  constructor
  · rintro ⟨a, ha⟩
    have hdue := (h.due_of_attempt ha).2
    rw [due_override] at hdue
    split at hdue
    · cases hdue
    · next hmoved => exact Bool.eq_false_iff.2 hmoved
  · intro hmoved
    have hdue := c.due_override o c.previous (bus.sample w).1 client.status
    rw [if_neg (by rw [hmoved]; decide)] at hdue
    obtain ⟨a, ha, _⟩ := h.attempt_of_due (o.pin_registered _ _) hdue
    exact ⟨a, ha⟩

/-- It is tried for the value in the sample. -/
theorem Cycled.command_override (h : c.Cycled client bus w acted c') {o : Override} {a : Attempt}
    (ha : (o.pin, a) ∈ c.attempts client bus w) :
    a.command = o.command (o.value (bus.sample w).1) := by
  have hdue := (h.due_of_attempt ha).2
  rw [due_override] at hdue
  split at hdue
  · cases hdue
  · exact (Option.some.inj hdue).symm

end Console

/-! ### Overrides that are lost

The rule that is meant asks for a write before the value is taken. It is stated on a cycle with its
attempts, and compared with what the cycle does.
-/

/-- **The rule for a cycle with these attempts**, which finds one value of an override remembered
and leaves another: an override whose command could not be written leaves the value as it was, and
the value changes only to one whose command was written. -/
structure Override.Kept (o : Override) (made : List (InputPin × Attempt)) (last last' : Number) :
    Prop where
  unwritten : ∀ a, (o.pin, a) ∈ made → a.passed = true → a.written = false → last' = last
  written : last' ≠ last → ∃ a, (o.pin, a) ∈ made ∧ a.written = true ∧ a.command = o.command last'

namespace Console

variable {T : Transport} {c c' : Console} {client client' : Client T} {bus bus' : PinBus}
  {w w' : World} {report : CycleReport} {acted : CycleState T}

/-- An override that was tried is settled at its value, if this is finite and the least change is
not below zero. -/
theorem Cycled.settled_after (h : c.Cycled client bus w acted c') {o : Override}
    (htries : ∃ a, (o.pin, a) ∈ c.attempts client bus w) :
    c'.override o = o.value (bus.sample w).1 ∧
      (c'.settled (o.value (bus.sample w).1) (c'.override o) = true ↔
        (o.value (bus.sample w).1).isFinite = true ∧ 0 ≤ c.setup.overrideEpsilon) := by
  have hmoved := (h.tries_iff o).1 htries
  have htaken : c'.override o = o.value (bus.sample w).1 := by
    rw [h.override, if_neg (by rw [hmoved]; decide)]
  refine ⟨htaken, ?_⟩
  rw [htaken, settled_congr h.setup, settled, decide_eq_true_iff]
  exact Number.abs_sub_self_le (isNaN_clamped _)

/-- **When the rule for overrides holds**: in a cycle that tries an override for a value other than
the remembered one, just when the command is written. For the value is remembered in any case. So
the next cycle, whatever client, bus and world it has, does not try it again while the pin stays
where it is, unless the value is infinite or the least change is below zero. -/
theorem override_kept_iff
    (hcycle : c.cycle client bus w = some (report, c', client', bus', w')) (o : Override) :
    let now := (bus.sample w).1
    let made := c.attempts client bus w
    (o.Kept made (c.override o) (c'.override o) ↔
      ∀ a, (o.pin, a) ∈ made → a.written = true ∨ o.value now = c.override o) ∧
    ((∃ a, (o.pin, a) ∈ made) →
      c'.override o = o.value now ∧
      ∀ {T₂ : Transport} (client₂ client₂' : Client T₂) (bus₂ bus₂' : PinBus) (w₂ w₂' : World)
        (report₂ : CycleReport) (c₂ : Console),
        c'.cycle client₂ bus₂ w₂ = some (report₂, c₂, client₂', bus₂', w₂') →
        (bus₂.sample w₂).1.float o.pin = now.float o.pin →
        ((∃ a, (o.pin, a) ∈ c'.attempts client₂ bus₂ w₂) ↔
          ¬((o.value now).isFinite = true ∧ 0 ≤ c.setup.overrideEpsilon))) := by
  intro now made
  obtain ⟨acted, h⟩ := cycled hcycle
  -- a pin has one attempt in a cycle, so the one that was written is this one
  refine ⟨⟨?_, ?_⟩, ?_⟩
  · intro hkept a ha
    obtain ⟨htaken, _⟩ := h.settled_after ⟨a, ha⟩
    by_cases hsame : o.value now = c.override o
    · exact .inr hsame
    · obtain ⟨b, hb, hwritten, _⟩ := hkept.written (htaken.trans_ne hsame)
      exact .inl (h.attempt_unique ha hb ▸ hwritten)
  · intro hwritten
    refine ⟨?_, ?_⟩
    · -- an attempt that was not written leaves the rule only where nothing changes
      intro a ha _ hlost
      obtain hwrote | hsame := hwritten a ha
      · rw [hlost] at hwrote
        cases hwrote
      · exact (h.settled_after ⟨a, ha⟩).1.trans hsame
    · intro hchanged
      have hmoved : c.settled (o.value now) (c.override o) = false := by
        refine Bool.eq_false_iff.2 fun hsettled => hchanged ?_
        rw [h.override, if_pos hsettled]
      obtain ⟨a, ha⟩ := (h.tries_iff o).2 hmoved
      obtain ⟨htaken, _⟩ := h.settled_after ⟨a, ha⟩
      obtain hwrote | hsame := hwritten a ha
      · exact ⟨a, ha, hwrote, by rw [h.command_override ha, htaken]⟩
      · exact absurd (htaken.trans hsame) hchanged
  · intro htries
    obtain ⟨htaken, hsettled⟩ := h.settled_after htries
    refine ⟨htaken, ?_⟩
    intro T₂ client₂ client₂' bus₂ bus₂' w₂ w₂' report₂ c₂ hnext hpin
    obtain ⟨_, h₂⟩ := cycled hnext
    have hvalue : o.value (bus₂.sample w₂).1 = o.value now := congrArg clamped hpin
    rw [h₂.tries_iff, hvalue, ← hsettled, Bool.not_eq_true]

/-- A bus on which an override stands at this value. -/
def overriding (o : Override) (value : Number) : PinBus where
  carrier := .memory (({} : MemoryBus).set o.pin (.float value))

/-- An override to one half that is written. -/
theorem override_kept_iff_half :
    ∃ p turns s report c' client' bus' w',
      Panel.create Simulated.transport {} { carrier := .memory {} } = .ok p ∧
      Session.Runs ⟨p, .echoing 7⟩ [.startup, .work (.pins (overriding .feed 0.5))] turns s ∧
      s.panel.console.cycle s.panel.client s.panel.bus s.world
        = some (report, c', client', bus', w') ∧
      Override.feed.Kept (s.panel.console.attempts s.panel.client s.panel.bus s.world)
        (s.panel.console.override .feed) (c'.override .feed) ∧
      c'.override .feed = 0.5 := by
  have hplays : Panel.Plays [.startup, .work (.pins (overriding .feed 0.5))] fun _ _ s => decide (
      let c := s.panel.console
      let made := c.attempts s.panel.client s.panel.bus s.world
      (c.cycle s.panel.client s.panel.bus s.world).isSome = true ∧
      (∃ m ∈ made, m.1 = Override.feed.pin) ∧ (∀ m ∈ made, m.2.written = true) ∧
      Override.feed.value (s.panel.bus.sample s.world).1 = 0.5) := by
    decide +kernel
  obtain ⟨p, turns, s, hcreate, hruns, hholds⟩ := hplays.runs
  obtain ⟨hends, ⟨⟨_, a⟩, ha, rfl⟩, hwritten, hvalue⟩ := of_decide_eq_true hholds
  obtain ⟨⟨report, c', client', bus', w'⟩, hcycle⟩ := Option.isSome_iff_exists.1 hends
  -- which command was made and that it was sent is computed; that the value is kept is the theorem
  obtain ⟨hkept, htaken⟩ := override_kept_iff hcycle .feed
  refine ⟨p, turns, s, report, c', client', bus', w', hcreate, hruns, hcycle, hkept.2 ?_, ?_⟩
  · intro b hb
    exact .inl (hwritten _ hb)
  · exact (htaken ⟨a, ha⟩).1.trans hvalue

/-- The world once the command channel works again. -/
def repaired (w : World) : World :=
  { w with simulator := (Script.validate true).apply w.simulator }

/-- **An override that is lost**: while the command channel does not work, the feed is to be one
half. The command cannot be written, but the value is remembered; and when the channel works again
the next cycle does not try it, and the controller keeps the feed that it had. -/
theorem lost_override :
    ∃ p turns s report c' client' bus' w' report₂ c₂ client₂ bus₂ w₂ a,
      Panel.create Simulated.transport {} { carrier := .memory {} } = .ok p ∧
      Session.Runs ⟨p, .echoing 7⟩
        [.startup, .work (.script (.validate false)), .work (.pins (overriding .feed 0.5))] turns
        s ∧
      s.panel.console.cycle s.panel.client s.panel.bus s.world
        = some (report, c', client', bus', w') ∧
      (Override.feed.pin, a) ∈ s.panel.console.attempts s.panel.client s.panel.bus s.world ∧
      a.passed = true ∧ a.written = false ∧
      s.panel.console.override .feed = 0 ∧ c'.override .feed = 0.5 ∧
      c'.cycle client' bus' (repaired w') = some (report₂, c₂, client₂, bus₂, w₂) ∧
      (bus'.sample (repaired w')).1.float Override.feed.pin = 0.5 ∧
      c'.attempts client' bus' (repaired w') = [] ∧
      w₂.simulator.received = [] ∧ w₂.simulator.status.feedScale = 1 := by
  have hplays : Panel.Plays
      [.startup, .work (.script (.validate false)), .work (.pins (overriding .feed 0.5))]
      fun _ _ s => decide (
      let c := s.panel.console
      (∃ m ∈ c.attempts s.panel.client s.panel.bus s.world,
        m.1 = Override.feed.pin ∧ m.2.passed = true ∧ m.2.written = false) ∧
      c.override .feed = 0 ∧
      (c.cycle s.panel.client s.panel.bus s.world).any (fun (_, c', client', bus', w') =>
        c'.override .feed = 0.5 ∧
        (bus'.sample (repaired w')).1.float Override.feed.pin = 0.5 ∧
        (c'.attempts client' bus' (repaired w')).length = 0 ∧
        (c'.cycle client' bus' (repaired w')).any (fun (_, _, _, _, w₂) =>
          w₂.simulator.received = [] ∧ w₂.simulator.status.feedScale = 1) = true) = true) := by
    decide +kernel
  obtain ⟨p, turns, s, hcreate, hruns, hholds⟩ := hplays.runs
  obtain ⟨⟨⟨_, a⟩, ha, rfl, hpassed, hlost⟩, hlast, hends⟩ := of_decide_eq_true hholds
  -- the lost command: the value counts as dispatched, although nothing was sent
  obtain ⟨⟨report, c', client', bus', w'⟩, hcycle, hafter⟩ := (Option.any_eq_true _ _).1 hends
  obtain ⟨htaken, hpin, hidle, hends₂⟩ := of_decide_eq_true hafter
  -- the cycle after the repair: the pin still stands at the same value, and no command is due
  obtain ⟨⟨report₂, c₂, client₂, bus₂, w₂⟩, hcycle₂, hafter₂⟩ :=
    (Option.any_eq_true _ _).1 hends₂
  obtain ⟨hreceived, hfeed⟩ := of_decide_eq_true hafter₂
  exact ⟨p, turns, s, report, c', client', bus', w', report₂, c₂, client₂, bus₂, w₂, a, hcreate,
    hruns, hcycle, ha, hpassed, hlost, hlast, htaken, hcycle₂, hpin,
    List.length_eq_zero_iff.1 hidle, hreceived, hfeed⟩

end Console

end OperatorPanel
