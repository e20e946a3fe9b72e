import OperatorPanel.Proofs.Edges

/-!
# Jogs

A jog pin starts a motion when it turns active and stops it when it turns inactive. The commands
for both are shaped by the trajectory mode of the status that the client holds when the cycle
begins: along a vector, whatever axis is meant, all motion is one, and the zero vector stops it.

The pins of a sample are scanned in order, so what one of them has started another one may stop in
the same cycle (`Panel.jog_halted_at_once`). Only a release that is scanned later does so
(`Panel.halted_only_by_release`).
-/

namespace OperatorPanel

/-! ### Commands for continuous motion

Three commands are about continuous motion. A start can be stopped in two ways, each of which fits
one shape of start, so whether a later command stops it is a comparison of the two.
-/

namespace Command

/-- Whether this is a command for continuous motion. -/
def jogs : Command → Bool
  | .jogContinuous _ _ | .jogStop _ | .teleopVector _ => true
  | _ => false

/-- Whether a command stops the motion that the first one has started. -/
def haltedBy (start halting : Command) : Bool :=
  match start, halting with
  | .jogContinuous axis _, .jogStop other => other = axis
  | .teleopVector _, .teleopVector velocity => velocity = .zero
  | _, _ => false

/-- What halts a motion is a command for continuous motion. -/
theorem jogs_of_haltedBy {start halting : Command} (h : start.haltedBy halting = true) :
    halting.jogs = true := by
  unfold haltedBy at h
  split at h
  · rfl
  · rfl
  · cases h

end Command

namespace InputPin

/-- The jog pins of an axis are its plus pin and its minus pin. -/
theorem jog?_eq_some {pin : InputPin} {axis : UInt8} {direction : Number}
    (h : pin.jog? = some (axis, direction)) :
    pin = .axis .jogPlus axis ∨ pin = .axis .jogMinus axis := by
  unfold jog? at h
  split at h
  · cases h
    exact .inl rfl
  · cases h
    exact .inr rfl
  · cases h

/-- Jog pins are levels: both of their edges count. -/
theorem kind_of_jog? {pin : InputPin} {axis : UInt8} {direction : Number}
    (h : pin.jog? = some (axis, direction)) : pin.kind = .level := by
  rcases jog?_eq_some h with rfl | rfl <;> rfl

end InputPin

/-- No pin does both in one cycle. -/
theorem InputSample.rises_of_falls {before now : InputSample} {pin : InputPin}
    (h : before.falls now pin = true) : before.rises now pin = false := by
  have hinactive : now.bit pin = false := by
    rw [falls, Bool.and_eq_true_iff, Bool.not_eq_true'] at h
    exact h.1
  rw [rises, hinactive]
  rfl

/-- No pin is active in an empty sample. -/
theorem InputSample.bit_empty (pin : InputPin) : InputSample.empty.bit pin = false := by
  unfold bit
  rw [get?_empty]

namespace Console

variable {c : Console} {before now : InputSample} {status : Status} {pin : InputPin}
  {command : Command}

/-- A button that is pressed never moves an axis continuously. -/
theorem jogs_pressed (h : c.pressed now status pin = some command) : command.jogs = false := by
  cases pin with
  | control control => cases control <;> cases h <;> rfl
  | axis a index => cases a <;> cases h <;> rfl
  | line index =>
      obtain ⟨action, haction, rfl⟩ := Option.map_eq_some_iff.1 h
      obtain ⟨line, _, rfl⟩ := Option.map_eq_some_iff.1 haction
      rfl

/-- The ways in which a command is due for a pin: it turns active, it is a jog pin that turns active
or inactive, or it is an override. -/
inductive Due (c : Console) (before now : InputSample) (status : Status) (pin : InputPin) :
    Command → Prop
  | pressed {command : Command} : before.rises now pin = true →
      c.pressed now status pin = some command → Due c before now status pin command
  | start {axis : UInt8} {direction : Number} : pin.jog? = some (axis, direction) →
      before.rises now pin = true →
      Due c before now status pin (c.startCommand axis direction now status)
  | stop {axis : UInt8} {direction : Number} : pin.jog? = some (axis, direction) →
      before.falls now pin = true → Due c before now status pin (stopCommand axis status)
  | override {command : Command} : c.dueOverride now pin = some command →
      Due c before now status pin command

/-- **What is due is due in one of these ways.** -/
theorem due_cases (h : c.due before now status pin = some command) :
    c.Due before now status pin command := by
  unfold due at h
  split at h  -- momentary pins, jog pins, overrides
  · split at h
    · next hrises => exact .pressed hrises h
    · cases h
  · obtain ⟨⟨axis, direction⟩, hjog, hdue⟩ := Option.bind_eq_some_iff.1 h
    dsimp only at hdue
    split at hdue
    · next hrises =>
        cases hdue
        exact .start hjog hrises
    · split at hdue
      · next hfalls =>
          cases hdue
          exact .stop hjog hfalls
      · cases hdue
  · exact .override h

/-- What is due for an override sets a scale. -/
theorem eq_of_dueOverride (h : c.dueOverride now pin = some command) :
    ∃ value, command = .setFeedScale value ∨ command = .setSpindleScale value := by
  unfold dueOverride at h
  dsimp only at h
  split at h
  · split at h
    · cases h
    · exact ⟨_, .inl (Option.some.inj h).symm⟩
  · split at h
    · cases h
    · exact ⟨_, .inr (Option.some.inj h).symm⟩
  · cases h

/-- **Continuous motion is for jog pins**: it starts where one turns active, and stops where one
turns inactive. -/
theorem due_jog (h : c.due before now status pin = some command) (hjogs : command.jogs = true) :
    ∃ axis direction, pin.jog? = some (axis, direction) ∧
      (before.rises now pin = true ∧ command = c.startCommand axis direction now status ∨
        before.falls now pin = true ∧ command = stopCommand axis status) := by
  cases due_cases h with
  | pressed _ hpressed =>
      rw [jogs_pressed hpressed] at hjogs
      cases hjogs
  | start hjog hrises => exact ⟨_, _, hjog, .inl ⟨hrises, rfl⟩⟩
  | stop hjog hfalls => exact ⟨_, _, hjog, .inr ⟨hfalls, rfl⟩⟩
  | override hdue => obtain ⟨value, rfl | rfl⟩ := eq_of_dueOverride hdue <;> cases hjogs

section

variable {axis : UInt8} {direction : Number}

/-- A jog pin that turns active starts its axis. -/
theorem due_rises (hjog : pin.jog? = some (axis, direction)) (h : before.rises now pin = true) :
    c.due before now status pin = some (c.startCommand axis direction now status) := by
  unfold due
  rw [InputPin.kind_of_jog? hjog, hjog, Option.bind_some]
  exact if_pos h

/-- A jog pin that turns inactive stops it. -/
theorem due_falls (hjog : pin.jog? = some (axis, direction)) (h : before.falls now pin = true) :
    c.due before now status pin = some (stopCommand axis status) := by
  have hrises : ¬before.rises now pin = true := by
    rw [InputSample.rises_of_falls h]
    decide
  unfold due
  rw [InputPin.kind_of_jog? hjog, hjog, Option.bind_some]
  exact (if_neg hrises).trans (if_pos h)

end

end Console

/-! ### The order of jog pins

Pins are scanned in the order in which they are registered, and what comes later wins at the
controller. Of a single axis the plus pin comes first, which is why only the release of the minus
pin can follow a start.
-/

namespace InputPin

/-- No minus pin of an axis stands before its plus pin. -/
def InOrder (x y : InputPin) : Prop :=
  ∀ axis, x = .axis .jogMinus axis → y ≠ .axis .jogPlus axis

/-- Among the pins of one axis the plus pin stands first. -/
theorem inOrder_ofAxis (index : UInt8) : (ofAxis index).Pairwise InOrder := by
  have hcontrols : AxisControl.all.Pairwise fun a b => a = .jogMinus → b ≠ .jogPlus := by decide
  refine List.pairwise_map.2 (hcontrols.imp ?_)
  intro a b hab axis hx hy
  cases hx
  cases hy
  exact hab rfl rfl

/-- And so it is among all pins that are scanned. -/
theorem inOrder_registered (axes lines : Nat) : (registered axes lines).Pairwise InOrder := by
  refine List.pairwise_append.2 ⟨List.pairwise_append.2 ⟨?_, ?_, ?_⟩, ?_, ?_⟩
  · refine List.pairwise_map.2 (List.pairwise_of_forall ?_)
    intro a b axis h
    cases h
  · refine List.pairwise_flatMap.2 ⟨fun n _ => inOrder_ofAxis _, ?_⟩
    -- the pins of another axis are never those of this one
    refine List.Pairwise.imp_of_mem ?_ List.nodup_range
    intro m n hm hn hmn x hx y hy axis hminus hplus
    rw [List.mem_range] at hm hn
    have haxes : min axes maxAxes ≤ 9 := Nat.min_le_right _ _
    obtain ⟨a, _, rfl⟩ := List.mem_map.1 hx
    obtain ⟨b, _, rfl⟩ := List.mem_map.1 hy
    injection hminus with _ hm'
    injection hplus with _ hn'
    exact hmn (ofNat_inj (by omega) (by omega) (hm'.trans hn'.symm))
  · intro x hx y _ axis hminus
    obtain ⟨control, _, rfl⟩ := List.mem_map.1 hx
    cases hminus
  · refine List.pairwise_map.2 (List.pairwise_of_forall ?_)
    intro a b axis h
    cases h
  · intro x _ y hy axis _ hplus
    obtain ⟨n, _, rfl⟩ := List.mem_map.1 hy
    cases hplus

/-- Of the two jog pins of an axis, the plus pin is scanned first. -/
theorem plus_then_minus {axes lines : Nat} {xs ys : List InputPin} {pin other : InputPin}
    {axis : UInt8} {direction towards : Number}
    (hpins : registered axes lines = xs ++ pin :: ys) (hother : other ∈ ys)
    (hjog : pin.jog? = some (axis, direction)) (hjog' : other.jog? = some (axis, towards)) :
    pin = .axis .jogPlus axis ∧ other = .axis .jogMinus axis := by
  have hnodup := nodup_registered axes lines
  have horder := inOrder_registered axes lines
  rw [hpins] at hnodup horder
  have hpin : pin ∉ ys := (List.nodup_cons.1 (List.nodup_append.1 hnodup).2.1).1
  have hbefore := (List.pairwise_cons.1 (List.pairwise_append.1 horder).2.1).1 other hother
  rcases jog?_eq_some hjog with rfl | rfl <;> rcases jog?_eq_some hjog' with rfl | rfl
  · exact absurd hother hpin
  · exact ⟨rfl, rfl⟩
  · exact absurd rfl (hbefore axis rfl)
  · exact absurd hother hpin

end InputPin

/-! ### Within one cycle

An attempt has a position in its cycle, and so has its pin in the scan. Splitting the list of
attempts splits the list of pins, and each later attempt is due for a pin on the far side.
-/

namespace Panel

variable {p p' : Panel Simulated.transport} {w w' : World} {report : CycleReport}
  {before : InputSample}

/-- An attempt and those that come after it, with the pins to which they belong. -/
theorem attempts_split {made later : List (InputPin × Attempt)} {pin : InputPin} {a : Attempt}
    (hremembers : p.console.Remembers before) (hcycle : p.cycle w = some (report, p', w'))
    (hmade : p.attempts w = made ++ (pin, a) :: later) :
    ∃ xs ys, p.console.setup.registered = xs ++ pin :: ys ∧
      p.console.due before (p.sampled w) p.client.status pin = some a.command ∧
      ∀ m ∈ later, m.1 ∈ ys ∧
        p.console.due before (p.sampled w) p.client.status m.1 = some m.2.command := by
  have hdue := attempts_eq hremembers hcycle
  rw [hmade, List.map_append, List.map_cons] at hdue
  obtain ⟨l₁, l₂, hpins, _, hrest⟩ := List.filterMap_eq_append_iff.1 hdue.symm
  obtain ⟨xs, x, ys, rfl, _, hx, hlater⟩ := List.filterMap_eq_cons_iff.1 hrest
  obtain ⟨command, hcommand, heq⟩ := Option.map_eq_some_iff.1 hx
  cases heq
  -- every attempt that is left belongs to a pin that is left
  refine ⟨l₁ ++ xs, ys, ?_, hcommand, ?_⟩
  · rw [hpins, List.append_assoc]
  · intro m hm
    have hmem := List.mem_map_of_mem (f := fun m => (m.1, m.2.command)) hm
    rw [← hlater] at hmem
    obtain ⟨y, hy, hdue'⟩ := List.mem_filterMap.1 hmem
    obtain ⟨command', hcommand', heq'⟩ := Option.map_eq_some_iff.1 hdue'
    cases heq'
    exact ⟨hy, hcommand'⟩

/-- **A jog is halted in its own cycle by a release only**: whatever happened in a session before,
when a cycle tries to start a motion because a jog pin has turned active, a later attempt of this
cycle that would stop it, and is not the start for another jog pin, belongs to a jog pin that has
turned inactive and is scanned after it. While single axes are moved, that is the minus pin of the
axis, after its plus pin. -/
theorem halted_only_by_release {s : Session} {events : List Event} {turns : List Turn}
    {made later : List (InputPin × Attempt)} {pin : InputPin} {start : Attempt} {axis : UInt8}
    {direction : Number} (hnew : p.console.previous = .empty)
    (hruns : Session.Runs ⟨p, w⟩ events turns s)
    (hcycle : s.panel.cycle s.world = some (report, p', w'))
    (hmade : s.panel.attempts s.world = made ++ (pin, start) :: later)
    (hjog : pin.jog? = some (axis, direction))
    (hrises : (lastSample .empty turns).rises (s.panel.sampled s.world) pin = true) :
    let before := lastSample .empty turns
    let now := s.panel.sampled s.world
    ∃ xs ys, p.console.setup.registered = xs ++ pin :: ys ∧
      ∀ m ∈ later, start.command.haltedBy m.2.command = true →
        ¬(m.1.jog?.isSome = true ∧ before.rises now m.1 = true) →
        m.1 ∈ ys ∧ before.falls now m.1 = true ∧ m.1.jog?.isSome = true ∧
        (s.panel.client.status.teleop = false →
          pin = .axis .jogPlus axis ∧ m.1 = .axis .jogMinus axis) := by
  intro before now
  obtain ⟨hsetup, hremembers⟩ := hruns.remembers (Console.remembers_empty hnew)
  obtain ⟨xs, ys, hpins, hstart, hlater⟩ := attempts_split hremembers hcycle hmade
  refine ⟨xs, ys, by rw [← hpins, hsetup], ?_⟩
  intro m hm hhalts hstarts
  obtain ⟨hys, hdue⟩ := hlater m hm
  -- only continuous motion is halted or halts, so the attempt belongs to a jog pin
  obtain ⟨other, towards, hjog', ⟨hrises', _⟩ | ⟨hfalls, hstop⟩⟩ :=
    Console.due_jog hdue (Command.jogs_of_haltedBy hhalts)
  · exact absurd ⟨by rw [hjog']; rfl, hrises'⟩ hstarts
  · refine ⟨hys, hfalls, by rw [hjog']; rfl, fun hjoint => ?_⟩
    -- single axes are moved, so the release is that of a pin of the same axis
    rw [Console.due_rises hjog hrises] at hstart
    rw [← Option.some.inj hstart, hstop, Console.startCommand, Console.stopCommand,
      hjoint] at hhalts
    have hsame : other = axis := of_decide_eq_true hhalts
    subst hsame
    exact InputPin.plus_then_minus hpins hys hjog hjog'

/-- A bus on which these pins are active, and the jog speed is 600 units per minute. -/
def holding (pins : List InputPin) : PinBus where
  carrier := .memory (pins.foldl (fun b pin => b.set pin (.bit true))
    (({} : MemoryBus).set (.control .jogSpeed) (.float 600)))

/-- The next cycle ends, after these attempts with these results. -/
def Tries (s : Session) (expected : List (InputPin × Command × Option Int32)) : Prop :=
  (s.panel.cycle s.world).isSome = true ∧
    (s.panel.attempts s.world).map (fun m => (m.1, m.2.command, m.2.result.toOption)) = expected

instance (s : Session) (expected : List (InputPin × Command × Option Int32)) :
    Decidable (Tries s expected) :=
  inferInstanceAs (Decidable (_ ∧ _))

theorem Tries.single {s : Session} {pin : InputPin} {command : Command} {serial : Option Int32}
    (h : Tries s [(pin, command, serial)]) :
    ∃ a, s.panel.attempts s.world = [(pin, a)] ∧ a.command = command := by
  obtain ⟨⟨_, a⟩, rest, hmade, heq, hrest⟩ := List.map_eq_cons_iff.1 h.2
  cases List.map_eq_nil_iff.1 hrest
  cases heq
  exact ⟨a, hmade, rfl⟩

/-- One jog pin is released in the sample in which another one is pressed. -/
def swap (released pressed : InputPin) : List Event :=
  [.startup, .work (.pins (holding [released])), .work .cycle, .work (.pins (holding [pressed]))]

/-- A controller that moves along vectors from the beginning. -/
def alongVectors : Event := .work (.script (.edit fun t => { t with trajMode := .teleop }))

/-- The plus pin of the first axis is pressed when its minus pin is released. -/
theorem swap_plays :
    ∃ p turns s, Panel.create Simulated.transport {} { carrier := .memory {} } = .ok p ∧
      Session.Runs ⟨p, .echoing 7⟩ (swap (.axis .jogMinus 0) (.axis .jogPlus 0)) turns s ∧
      (lastSample .empty turns).rises (s.panel.sampled s.world) (.axis .jogPlus 0) = true ∧
      (lastSample .empty turns).falls (s.panel.sampled s.world) (.axis .jogMinus 0) = true ∧
      Tries s [(.axis .jogPlus 0, .jogContinuous 0 10, some 9),
        (.axis .jogMinus 0, .jogStop 0, some 10)] := by
  have hplays : Plays (swap (.axis .jogMinus 0) (.axis .jogPlus 0)) fun _ turns s => decide (
      (lastSample .empty turns).rises (s.panel.sampled s.world) (.axis .jogPlus 0) = true ∧
      (lastSample .empty turns).falls (s.panel.sampled s.world) (.axis .jogMinus 0) = true ∧
      Tries s [(.axis .jogPlus 0, .jogContinuous 0 10, some 9),
        (.axis .jogMinus 0, .jogStop 0, some 10)]) := by
    decide +kernel
  obtain ⟨p, turns, s, hcreate, hruns, hholds⟩ := hplays.runs
  exact ⟨p, turns, s, hcreate, hruns, of_decide_eq_true hholds⟩

/-- In the sample that starts the first axis, its minus pin turns inactive. -/
theorem halted_only_by_release_swap :
    ∃ p turns s xs ys, Panel.create Simulated.transport {} { carrier := .memory {} } = .ok p ∧
      Session.Runs ⟨p, .echoing 7⟩ (swap (.axis .jogMinus 0) (.axis .jogPlus 0)) turns s ∧
      p.console.setup.registered = xs ++ .axis .jogPlus 0 :: ys ∧ .axis .jogMinus 0 ∈ ys ∧
      (lastSample .empty turns).falls (s.panel.sampled s.world) (.axis .jogMinus 0) = true := by
  obtain ⟨p, turns, s, hcreate, hruns, hrises, hfalls, hends, houtcomes⟩ := swap_plays
  obtain ⟨⟨report, p', w'⟩, hcycle⟩ := Option.isSome_iff_exists.1 hends
  obtain ⟨⟨pin, start⟩, later, hmade, hstart, hlater⟩ := List.map_eq_cons_iff.1 houtcomes
  obtain ⟨⟨pin', halting⟩, rest, rfl, hhalting, _⟩ := List.map_eq_cons_iff.1 hlater
  rw [Prod.mk.injEq, Prod.mk.injEq] at hstart hhalting
  obtain ⟨rfl, hcommand, _⟩ := hstart
  obtain ⟨rfl, hcommand', _⟩ := hhalting
  have hmade : s.panel.attempts s.world = [] ++ (_, start) :: (_, halting) :: rest := hmade
  -- a pin that is released does not start anything
  have hstill : ¬(lastSample .empty turns).rises (s.panel.sampled s.world) (.axis .jogMinus 0)
      = true := by
    rw [InputSample.rises_of_falls hfalls]
    decide
  obtain ⟨xs, ys, hpins, hlater⟩ := halted_only_by_release (new_of_create hcreate).previous hruns
    hcycle hmade rfl hrises
  obtain ⟨hys, hreleased, _⟩ := hlater _ (List.mem_cons_self ..)
    (by rw [hcommand, hcommand']; rfl) (fun hstarts => hstill hstarts.2)
  exact ⟨p, turns, s, xs, ys, hcreate, hruns, hpins, hys, hreleased⟩

/-- **A start that is stopped at once**: after it comes, in the same cycle, the release of the minus
pin of its axis, or along a vector that of any jog pin that is scanned later. -/
theorem jog_halted_at_once :
    (∃ p turns s, Panel.create Simulated.transport {} { carrier := .memory {} } = .ok p ∧
      Session.Runs ⟨p, .echoing 7⟩ (swap (.axis .jogMinus 0) (.axis .jogPlus 0)) turns s ∧
      (lastSample .empty turns).rises (s.panel.sampled s.world) (.axis .jogPlus 0) = true ∧
      (lastSample .empty turns).falls (s.panel.sampled s.world) (.axis .jogMinus 0) = true ∧
      Tries s [(.axis .jogPlus 0, .jogContinuous 0 10, some 9),
        (.axis .jogMinus 0, .jogStop 0, some 10)]) ∧
    ∃ p turns s, Panel.create Simulated.transport {} { carrier := .memory {} } = .ok p ∧
      Session.Runs ⟨p, .echoing 7⟩ (alongVectors :: swap (.axis .jogMinus 1) (.axis .jogPlus 0))
        turns s ∧
      (lastSample .empty turns).rises (s.panel.sampled s.world) (.axis .jogPlus 0) = true ∧
      (lastSample .empty turns).falls (s.panel.sampled s.world) (.axis .jogMinus 1) = true ∧
      Tries s [(.axis .jogPlus 0, .teleopVector (.along 0 10), some 9),
        (.axis .jogMinus 1, .teleopVector .zero, some 10)] := by
  refine ⟨swap_plays, ?_⟩
  have hplays : Plays (alongVectors :: swap (.axis .jogMinus 1) (.axis .jogPlus 0))
      fun _ turns s => decide (
      (lastSample .empty turns).rises (s.panel.sampled s.world) (.axis .jogPlus 0) = true ∧
      (lastSample .empty turns).falls (s.panel.sampled s.world) (.axis .jogMinus 1) = true ∧
      Tries s [(.axis .jogPlus 0, .teleopVector (.along 0 10), some 9),
        (.axis .jogMinus 1, .teleopVector .zero, some 10)]) := by
    decide +kernel
  obtain ⟨p, turns, s, hcreate, hruns, hholds⟩ := hplays.runs
  exact ⟨p, turns, s, hcreate, hruns, of_decide_eq_true hholds⟩

end Panel

end OperatorPanel
