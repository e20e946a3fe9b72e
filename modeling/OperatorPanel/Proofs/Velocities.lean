import OperatorPanel.Proofs.FiniteNumbers
import OperatorPanel.Proofs.Overrides

/-!
# Velocities

A jog carries a velocity, and no velocity is to be sent that is not finite. The check that a command
passes before it is sent refuses such velocities for the motion of one axis, whether continuous or
by an increment; about vectors it has no word (`Command.fault?_teleopVector`).

From the pins no velocity comes that is not a number, and an infinite one only from a jog speed that
stands at infinity (`isFinite_speed`). So the rule is broken in one way alone, by a jog pin that
turns active along a vector while the jog speed is infinite (`Console.velocities_finite_iff`), and
there it is broken (`Console.runaway_jog`).
-/

namespace OperatorPanel

/-! ### Commands

The check of a command looks at velocities one kind of command at a time, and has no case for
vectors. So everything below splits along this line: what is said of single axes follows from the
check, and what is said of vectors from where they come from.
-/

namespace Command

/-- The velocities that a command carries. -/
def velocities : Command → List Number
  | .jogContinuous _ velocity => [velocity]
  | .jogIncrement _ velocity _ => [velocity]
  | .teleopVector velocity => velocity.components
  | _ => []

/-- Every velocity is finite. -/
def FiniteVelocities (command : Command) : Prop :=
  ∀ x ∈ command.velocities, x.isFinite = true

instance (command : Command) : Decidable command.FiniteVelocities :=
  inferInstanceAs (Decidable (∀ x ∈ command.velocities, x.isFinite = true))

/-- A vector passes the check as it is. -/
theorem fault?_teleopVector (v : VelocityVector) : (teleopVector v).fault? = none := rfl

/-- **What passes the check has finite velocities**, vectors apart. -/
theorem finiteVelocities_of_passes {command : Command} (hpasses : command.fault? = none)
    (hvector : ∀ v, command ≠ .teleopVector v) : command.FiniteVelocities := by
  -- what names an axis passes the check of the axis first, and then that of its payload
  have payload {axis : UInt8} (haxis : command.axis? = some axis) :
      command.payloadFault? = none := by
    unfold fault? at hpasses
    rw [haxis] at hpasses
    dsimp only at hpasses
    split at hpasses
    · cases hpasses
    · exact hpasses
  have finite {velocity : Number}
      (h : (if !velocity.isFinite then some (Fault.badVelocity velocity) else none) = none) :
      velocity.isFinite = true := by
    cases hfinite : velocity.isFinite with
    | true => rfl
    | false =>
        rw [hfinite] at h
        cases h
  intro x hx
  cases command with
  | jogContinuous axis velocity =>
      obtain rfl := List.mem_singleton.1 hx
      exact finite (payload rfl)
  | jogIncrement axis velocity increment =>
      obtain rfl := List.mem_singleton.1 hx
      exact finite (payload rfl)
  | teleopVector v => exact absurd rfl (hvector v)
  | _ => cases hx

end Command

/-- Motion along one axis has that velocity for one of the coordinates, if the axis is one of
them. -/
theorem VelocityVector.mem_along {axis : UInt8} {velocity x : Number} :
    x ∈ (along axis velocity).components ↔ x = 0 ∨ axis.toNat < vectorAxes ∧ x = velocity := by
  unfold along zero
  generalize (0 : Number) = nothing
  split
  -- the last case is that of an axis beyond the coordinates
  case h_7 h0 h1 h2 h3 h4 h5 =>
    have haxis : ¬axis.toNat < vectorAxes := by
      intro hlt
      unfold vectorAxes at hlt
      have hvalue : axis.toNat = 0 ∨ axis.toNat = 1 ∨ axis.toNat = 2 ∨ axis.toNat = 3 ∨
          axis.toNat = 4 ∨ axis.toNat = 5 := by omega
      rcases hvalue with h | h | h | h | h | h
      · exact h0 (UInt8.toNat_inj.1 h)
      · exact h1 (UInt8.toNat_inj.1 h)
      · exact h2 (UInt8.toNat_inj.1 h)
      · exact h3 (UInt8.toNat_inj.1 h)
      · exact h4 (UInt8.toNat_inj.1 h)
      · exact h5 (UInt8.toNat_inj.1 h)
    simp [components, haxis]
  all_goals
    simp [components, vectorAxes]
    try tauto

/-! ### Dispatches

A dispatch may fail in three ways: the command is refused, the channel does not take it, or nobody
acknowledges it. Only the first two keep it from being written, and the definition says just that.
-/

namespace Client

variable {T : Transport}

/-- A dispatch writes its command: the command passes the check, and the channel takes it. Whether
the wait that may follow ends makes no difference to this. -/
def writes (c : Client T) (command : Command) (w : World) : Bool :=
  command.fault?.isNone && c.delivers command w

/-- A command is written when it passes its check and the channel takes it. -/
theorem writes_iff {c : Client T} {command : Command} {w : World} :
    c.writes command w = true ↔ command.fault? = none ∧ c.delivers command w = true := by
  rw [writes, Bool.and_eq_true, Option.isNone_iff_eq_none]

/-- The record of a dispatch says whether its command was written. -/
theorem written_of_attempt {c c' : Client T} {command : Command} {policy : WaitPolicy}
    {w w' : World} {a : Attempt} (h : c.attempt command policy w = some (a, c', w')) :
    a.command = command ∧ a.written = c.writes command w := by
  obtain ⟨_, _, heq⟩ := Option.map_eq_some_iff.1 h
  cases heq
  exact ⟨rfl, rfl⟩

/-- **What is written has finite velocities**, but for a vector, which the channel has only to
take. -/
theorem writes_finite_iff (c : Client T) (command : Command) (w : World) :
    (c.writes command w = true → command.FiniteVelocities) ↔
      ¬∃ v, command = .teleopVector v ∧ ¬command.FiniteVelocities ∧
        c.delivers command w = true := by
  constructor
  · rintro hrule ⟨v, rfl, hinfinite, hdelivers⟩
    exact hinfinite (hrule (writes_iff.2 ⟨Command.fault?_teleopVector v, hdelivers⟩))
  · intro hkept hwrites
    obtain ⟨hpasses, hdelivers⟩ := writes_iff.1 hwrites
    by_cases hvector : ∃ v, command = .teleopVector v
    · by_contra hinfinite
      obtain ⟨v, hv⟩ := hvector
      exact hkept ⟨v, hv, hinfinite, hdelivers⟩
    · exact Command.finiteVelocities_of_passes hpasses (not_exists.1 hvector)

end Client

/-- An attempt that was written is that of a command that passes the check. -/
theorem Action.passes_of_written {T : Transport} {action : Action} {c c' : Client T} {w w' : World}
    {a : Attempt} (h : action.attempt c w = some (a, c', w')) (hwritten : a.written = true) :
    a.command.fault? = none := by
  have passes {command : Command} {policy : WaitPolicy}
      (h : c.attempt command policy w = some (a, c', w')) : a.command.fault? = none := by
    obtain ⟨rfl, hwrites⟩ := Client.written_of_attempt h
    exact (Client.writes_iff.1 (hwrites.symm.trans hwritten)).1
  cases action with
  | send command => exact passes h
  | startJog axis command => exact passes h
  | runProgram =>
      rw [Action.command_attempt h]
      rfl

/-- What is attempted is an action of the list. -/
theorem CycleState.mem_attempts {T : Transport} {s : CycleState T}
    {actions : List (InputPin × Action)} {pin : InputPin} {a : Attempt}
    (h : (pin, a) ∈ s.attempts actions) :
    ∃ (action : Action) (c c' : Client T) (w w' : World),
      (pin, action) ∈ actions ∧ action.attempt c w = some (a, c', w') := by
  -- by induction on the actions, each of which is attempted where the one before has led
  induction actions generalizing s with
  | nil => cases h
  | cons head actions ih =>
      obtain ⟨pin', action'⟩ := head
      unfold attempts at h
      split at h
      · next a' made s' hattempt _ =>
          rcases List.mem_cons.1 h with heq | hlater
          · cases heq
            exact ⟨action', _, _, _, _, List.mem_cons_self .., hattempt⟩
          · obtain ⟨action, c, c', w, w', hmem, hmade⟩ := ih hlater
            exact ⟨action, c, c', w, w', List.mem_cons_of_mem _ hmem, hmade⟩
      · cases h

/-! ### The jog speed

The velocity of a jog is the speed from its pin, clamped and scaled, and taken in a direction.
Of all speeds only positive infinity keeps the velocity from being finite.
-/

/-- Only infinity is clamped to a number that is not finite. -/
theorem isFinite_clamped (x : Number) :
    (clamped x).isFinite = true ↔ x ≠ .infinity false := by
  constructor
  · rintro hfinite rfl
    revert hfinite
    decide +kernel
  · intro hx
    unfold clamped
    split
    · next hpositive =>
        have hless : Number.less 0 x = true := hpositive
        simp only [Number.less, Bool.and_eq_true, Bool.not_eq_true', decide_eq_true_eq] at hless
        obtain ⟨⟨_, hnan⟩, hrank⟩ := hless
        rw [Number.isFinite_of_not_nan hnan, Bool.not_eq_true', Bool.eq_false_iff]
        intro hinfinite  -- a positive number without a finite value is infinity itself
        have hrest : x.rest = Number.infinityRest := of_decide_eq_true hinfinite
        have hsign : x.isNegative = false := by
          by_contra hnegative
          rw [Bool.not_eq_false] at hnegative
          have hnone : x.rank = -x.rest := if_pos hnegative
          rw [hnone, hrest] at hrank
          revert hrank
          decide +kernel
        refine hx ?_
        rw [← Number.ofParts_parts x, hsign, hrest]
        rfl
    · decide +kernel

/-- **The velocity of a jog**, in either direction: a number at any rate, and finite unless the jog
speed stands at infinity. -/
theorem isFinite_speed (now : InputSample) {direction : Number}
    (hdirection : direction = 1 ∨ direction = -1) :
    (direction * jogSpeed now).isNaN = false ∧
      ((direction * jogSpeed now).isFinite = true ↔
        now.float (.control .jogSpeed) ≠ .infinity false) := by
  have hminute : secondsPerMinute.isFinite = true ∧ Number.one ≤ secondsPerMinute.units := by
    decide +kernel
  obtain ⟨hspeed, hsame⟩ := Number.likened_div (isNaN_clamped (now.float (.control .jogSpeed)))
    hminute.1 hminute.2
  obtain ⟨hvelocity, hsame'⟩ := Number.likened_mul hdirection hspeed
  refine ⟨hvelocity, ?_⟩
  rw [← isFinite_clamped, ← hsame, ← hsame']
  rfl

/-- A jog pin has one of the two directions. -/
theorem InputPin.direction_of_jog? {pin : InputPin} {axis : UInt8} {direction : Number}
    (h : pin.jog? = some (axis, direction)) : direction = 1 ∨ direction = -1 := by
  rcases jog?_eq_some h with rfl | rfl
  · exact .inl (Prod.mk.inj (Option.some.inj h)).2.symm
  · exact .inr (Prod.mk.inj (Option.some.inj h)).2.symm

/-! ### Cycles

A scan decides on a vector in one case only, and which one is due is known from the sample. So the
exception can be named by what stands on the pins, with no word about the client or the controller.
-/

namespace Console

/-- A jog pin lets its axis run away: it turns active while motion is along a vector, which has a
coordinate for its axis, and the jog speed is infinite. -/
structure RunsAway (c : Console) (now : InputSample) (status : Status) (pin : InputPin) :
    Prop where
  teleop : status.teleop = true
  rises : c.previous.rises now pin = true
  axis : ∃ axis direction, pin.jog? = some (axis, direction) ∧ axis.toNat < vectorAxes
  speed : now.float (.control .jogSpeed) = .infinity false

variable {c : Console} {now : InputSample} {status : Status} {pin : InputPin} {v : VelocityVector}

/-- **A vector from the pins** is that of one axis or stops them all. It has a component that is not
finite just where the pin lets its axis run away, and none that is not a number. -/
theorem due_vector (h : c.due c.previous now status pin = some (.teleopVector v)) :
    (∀ x ∈ v.components, x.isNaN = false) ∧
      ((∀ x ∈ v.components, x.isFinite = true) ↔ ¬c.RunsAway now status pin) := by
  have hzero : (0 : Number).isNaN = false ∧ (0 : Number).isFinite = true := by decide +kernel
  obtain ⟨axis, direction, hjog, ⟨hrises, hstart⟩ | ⟨hfalls, hstop⟩⟩ := due_jog h rfl
  · unfold startCommand at hstart
    split at hstart
    · next hteleop =>
        cases hstart
        obtain ⟨hnumber, hfinite⟩ := isFinite_speed now (InputPin.direction_of_jog? hjog)
        simp only [VelocityVector.mem_along]
        refine ⟨?_, ?_, ?_⟩
        · rintro x (rfl | ⟨_, rfl⟩)
          · exact hzero.1
          · exact hnumber
        · intro hall hoff
          obtain ⟨other, direction', hjog', hlt⟩ := hoff.axis
          cases hjog.symm.trans hjog'
          exact hfinite.1 (hall _ (.inr ⟨hlt, rfl⟩)) hoff.speed
        · rintro hoff x (rfl | ⟨hlt, rfl⟩)
          · exact hzero.2
          · refine hfinite.2 fun hspeed => hoff ?_
            exact ⟨hteleop, hrises, ⟨axis, direction, hjog, hlt⟩, hspeed⟩
    · cases hstart
  · -- a stop along a vector stops every coordinate
    unfold stopCommand at hstop
    split at hstop
    · injection hstop with hv
      subst hv
      refine ⟨by decide +kernel, iff_of_true (by decide +kernel) fun hoff => ?_⟩
      have hrises := hoff.rises
      rw [InputSample.rises_of_falls hfalls] at hrises
      cases hrises
    · cases hstop

/-- **The commands of a scan**, as far as they pass the check: no velocity is without a number, and
all are finite unless the pin lets its axis run away. -/
theorem scan_velocities {action : Action} (h : (pin, action) ∈ (c.scan now status).1)
    (hpasses : action.command.fault? = none) :
    (∀ x ∈ action.command.velocities, x.isNaN = false) ∧
      (action.command.FiniteVelocities ↔ ¬c.RunsAway now status pin) := by
  have hdue : c.due c.previous now status pin = some action.command := by
    have hmem := List.mem_map_of_mem (f := fun m => (m.1, m.2.command)) h
    rw [scan, scanPins_due now status c.setup.nodup_registered (.refl _ c)] at hmem
    obtain ⟨_, _, hfound⟩ := List.mem_filterMap.1 hmem
    obtain ⟨_, hcommand, heq⟩ := Option.map_eq_some_iff.1 hfound
    cases heq
    exact hcommand
  by_cases hvector : ∃ v, action.command = .teleopVector v
  · obtain ⟨v, hv⟩ := hvector
    rw [hv] at hdue ⊢
    exact due_vector hdue
  · have hfinite := Command.finiteVelocities_of_passes hpasses (not_exists.1 hvector)
    refine ⟨fun x hx => Number.isNaN_of_isFinite (hfinite x hx), iff_of_true hfinite ?_⟩
    intro hoff  -- a pin that lets its axis run away tries a vector
    obtain ⟨axis, direction, hjog, _⟩ := hoff.axis
    rw [due_rises hjog hoff.rises, startCommand, if_pos hoff.teleop] at hdue
    exact hvector ⟨_, (Option.some.inj hdue).symm⟩

/-- **When no velocity is sent that is not finite.** A command that a dispatch writes carries none,
unless it is a vector, which is written as it is. Of the actions that a scan decides on, whatever
the sample and whatever client and world they meet, one writes such a command only where its pin
lets its axis run away; and so it is with the attempts of every cycle. None is ever without a
number. -/
theorem velocities_finite_iff {T : Transport} :
    (∀ (client : Client T) (command : Command) (w : World),
      (client.writes command w = true → command.FiniteVelocities) ↔
        ¬∃ v, command = .teleopVector v ∧ ¬command.FiniteVelocities ∧
          client.delivers command w = true) ∧
    (∀ {c : Console} {now : InputSample} {status : Status} {pin : InputPin} {action : Action},
      (pin, action) ∈ (c.scan now status).1 → ∀ {client : Client T} {w : World},
        client.writes action.command w = true →
          (∀ x ∈ action.command.velocities, x.isNaN = false) ∧
            (action.command.FiniteVelocities ↔ ¬c.RunsAway now status pin)) ∧
    ∀ {c : Console} {client : Client T} {bus : PinBus} {w : World} {pin : InputPin} {a : Attempt},
      (pin, a) ∈ c.attempts client bus w → a.written = true →
        (∀ x ∈ a.command.velocities, x.isNaN = false) ∧
          (a.command.FiniteVelocities ↔ ¬c.RunsAway (bus.sample w).1 client.status pin) := by
  refine ⟨Client.writes_finite_iff, ?_, ?_⟩
  · intro c now status pin action hscan client w hwrites
    exact scan_velocities hscan (Client.writes_iff.1 hwrites).1
  · intro c client bus w pin a ha hwritten
    obtain ⟨action, _, _, _, _, hscan, hattempt⟩ := CycleState.mem_attempts ha
    have hpasses := Action.passes_of_written hattempt hwritten
    rw [Action.command_attempt hattempt] at hpasses ⊢
    exact scan_velocities hscan hpasses

/-- A bus on which a pin is active and the jog speed stands at this value. -/
def speeding (speed : Number) (pin : InputPin) : PinBus where
  carrier :=
    .memory ((({} : MemoryBus).set (.control .jogSpeed) (.float speed)).set pin (.bit true))

/-- An infinite velocity along an axis is not written, and a jog along a vector at 600 units per
minute has a finite one. -/
theorem velocities_finite_iff_slow :
    ∃ p turns s action a,
      Panel.create Simulated.transport {} { carrier := .memory {} } = .ok p ∧
      Session.Runs ⟨p, .echoing 7⟩
        [Panel.alongVectors, .startup, .work (.pins (speeding 600 (.axis .jogPlus 0)))] turns s ∧
      s.panel.client.writes (.jogContinuous 0 (.infinity false)) s.world = false ∧
      (.axis .jogPlus 0, action) ∈
        (s.panel.console.scan (s.panel.bus.sample s.world).1 s.panel.client.status).1 ∧
      s.panel.client.writes action.command s.world = true ∧ action.command.FiniteVelocities ∧
      (.axis .jogPlus 0, a) ∈ s.panel.console.attempts s.panel.client s.panel.bus s.world ∧
      a.written = true ∧ a.command = .teleopVector (.along 0 10) ∧ a.command.FiniteVelocities := by
  have hplays : Panel.Plays
      [Panel.alongVectors, .startup, .work (.pins (speeding 600 (.axis .jogPlus 0)))]
      fun _ _ s => decide (
      let c := s.panel.console
      let now := (s.panel.bus.sample s.world).1
      now.float (.control .jogSpeed) = 600 ∧
      (∃ m ∈ (c.scan now s.panel.client.status).1,
        m.1 = .axis .jogPlus 0 ∧ s.panel.client.writes m.2.command s.world = true) ∧
      ∃ m ∈ c.attempts s.panel.client s.panel.bus s.world,
        m.1 = .axis .jogPlus 0 ∧ m.2.written = true ∧
          m.2.command = .teleopVector (.along 0 10)) := by
    decide +kernel
  obtain ⟨p, turns, s, hcreate, hruns, hholds⟩ := hplays.runs
  obtain ⟨hspeed, ⟨⟨_, action⟩, hscan, rfl, hwrites⟩, ⟨_, a⟩, ha, rfl, hwritten, hcommand⟩ :=
    of_decide_eq_true hholds
  have hrefused : s.panel.client.writes (.jogContinuous 0 (.infinity false)) s.world = false := by
    refine Bool.eq_false_iff.2 fun hwrites => ?_
    have hfinite := (velocities_finite_iff.1 _ _ _).2 (by rintro ⟨v, hv, _⟩; cases hv) hwrites
    revert hfinite
    decide +kernel
  have hslow : ¬s.panel.console.RunsAway (s.panel.bus.sample s.world).1 s.panel.client.status
      (.axis .jogPlus 0) := by
    intro hoff
    have hinfinite := hspeed.symm.trans hoff.speed
    revert hinfinite
    decide +kernel
  exact ⟨p, turns, s, action, a, hcreate, hruns, hrefused, hscan, hwrites,
    (velocities_finite_iff.2.1 hscan hwrites).2.2 hslow, ha, hwritten, hcommand,
    (velocities_finite_iff.2.2 ha hwritten).2.2 hslow⟩

/-- **A jog that runs away**: motion is along a vector and the jog speed stands at infinity, when
a jog pin turns active. The controller is told to move without end. -/
theorem runaway_jog :
    ∃ p turns s report c' client' bus' w' a,
      Panel.create Simulated.transport {} { carrier := .memory {} } = .ok p ∧
      Session.Runs ⟨p, .echoing 7⟩
        [Panel.alongVectors, .startup,
          .work (.pins (speeding (.infinity false) (.axis .jogPlus 0)))] turns s ∧
      s.panel.console.cycle s.panel.client s.panel.bus s.world
        = some (report, c', client', bus', w') ∧
      (.axis .jogPlus 0, a) ∈ s.panel.console.attempts s.panel.client s.panel.bus s.world ∧
      a.written = true ∧ a.command = .teleopVector (.along 0 (.infinity false)) ∧
      ¬a.command.FiniteVelocities ∧
      w'.simulator.received = [{ serial := 8, command := a.command }] := by
  have hplays : Panel.Plays
      [Panel.alongVectors, .startup,
        .work (.pins (speeding (.infinity false) (.axis .jogPlus 0)))]
      fun _ _ s => decide (
      let c := s.panel.console
      let command := Command.teleopVector (.along 0 (.infinity false))
      (∃ m ∈ c.attempts s.panel.client s.panel.bus s.world,
        m.1 = .axis .jogPlus 0 ∧ m.2.written = true ∧ m.2.command = command) ∧
      ¬command.FiniteVelocities ∧
      (c.cycle s.panel.client s.panel.bus s.world).any (fun (_, _, _, _, w') =>
        w'.simulator.received = [{ serial := 8, command }]) = true) := by
    decide +kernel
  obtain ⟨p, turns, s, hcreate, hruns, hholds⟩ := hplays.runs
  obtain ⟨⟨⟨_, a⟩, ha, rfl, hwritten, hcommand⟩, hinfinite, hends⟩ := of_decide_eq_true hholds
  obtain ⟨⟨report, c', client', bus', w'⟩, hcycle, hreceived⟩ := (Option.any_eq_true _ _).1 hends
  refine ⟨p, turns, s, report, c', client', bus', w', a, hcreate, hruns, hcycle, ha, hwritten,
    hcommand, ?_, ?_⟩
  · rw [hcommand]
    exact hinfinite
  · rw [hcommand]
    exact of_decide_eq_true hreceived

end Console
end OperatorPanel
