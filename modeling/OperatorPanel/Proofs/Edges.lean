import Mathlib.Data.List.Basic
import OperatorPanel.Proofs.Shutdown

/-!
# Edges

What a cycle tries is decided by two samples alone, its own and that of the cycle before, and by
the status as it was when the cycle began. `Console.due` says for one pin what is due, and the
main result `Panel.attempts_due` that every cycle of every session makes just these attempts.

The console does not keep the sample before, but what it has taken over from it
(`Console.Remembers`). For the registered pins this is the same (`remembers_cycle`), and no other
pin is ever looked at.
-/

namespace OperatorPanel

/-- The pins of a machine are different. -/
theorem Setup.nodup_registered (s : Setup) : s.registered.Nodup :=
  InputPin.nodup_registered _ _

/-! ### What is due

For a given pair of samples and a given status it is known what is due, before anything is scanned.
The definition speaks of edges; the scan below speaks of pins that rise and fall.
-/

/-- The axis that a jog pin moves, and in which direction. -/
def InputPin.jog? : InputPin → Option (UInt8 × Number)
  | .axis .jogPlus index => some (index, 1)
  | .axis .jogMinus index => some (index, -1)
  | _ => none

namespace Console

/-- The command of an override pin, when the override has moved. -/
def dueOverride (c : Console) (now : InputSample) (pin : InputPin) : Option Command :=
  let value := clamped (now.float pin)
  match pin with
  | .control .feedOverride =>
    if c.settled value c.feedOverride then none else some (.setFeedScale value)
  | .control .spindleOverride =>
    if c.settled value c.spindleOverride then none else some (.setSpindleScale value)
  | _ => none

/-- The command of a momentary pin. -/
def pressed (c : Console) (now : InputSample) (status : Status) (pin : InputPin) :
    Option Command :=
  (c.momentaryAction now status pin).map (·.command)

/-- The command that is due for a pin between two samples: a momentary pin acts when it turns
active, a jog pin starts its axis when it turns active and stops it when it turns inactive. Along
a vector an axis starts without its polarity, and all axes stop. -/
def due (c : Console) (before now : InputSample) (status : Status) (pin : InputPin) :
    Option Command :=
  match pin.kind with
  | .momentary => if now.bit pin && !before.bit pin then c.pressed now status pin else none
  | .level =>
    pin.jog?.bind fun (axis, direction) =>
      let speed := direction * jogSpeed now
      if now.bit pin && !before.bit pin then
        some (if status.teleop then .teleopVector (.along axis speed)
          else .jogContinuous axis (if c.setup.inverted axis then -speed else speed))
      else if !now.bit pin && before.bit pin then
        some (if status.teleop then .teleopVector .zero else .jogStop axis)
      else none
  | .float => c.dueOverride now pin

/-- A momentary pin of a machine always has a command. -/
theorem pressed_isSome {c : Console} {now : InputSample} {status : Status} {pin : InputPin}
    (hpin : pin ∈ c.setup.registered) (hkind : pin.kind = .momentary) :
    (c.pressed now status pin).isSome := by
  rcases InputPin.mem_registered.1 hpin with ⟨control, rfl⟩ | ⟨a, n, _, rfl⟩ | ⟨n, hn, rfl⟩
  · cases control <;> first | rfl | cases hkind
  · cases a <;> first | rfl | cases hkind
  · -- a line has a pin only if its number fits into a byte
    have hlimit : min c.setup.lines.length maxLines ≤ 64 := Nat.min_le_right _ _
    have hline : n < c.setup.lines.length := Nat.lt_of_lt_of_le hn (Nat.min_le_left _ _)
    have hindex : (UInt8.ofNat n).toNat = n :=
      UInt8.toNat_ofNat_of_lt' (Nat.lt_of_lt_of_le hn (Nat.le_trans hlimit (by decide)))
    simp [pressed, momentaryAction, hindex, hline]

/-- An override pin compares its value with the one that is remembered and has nothing to do with
edges. -/
theorem pinAction_feedOverride (c : Console) (now : InputSample) (status : Status) :
    c.pinAction now status (.control .feedOverride)
      = let value := clamped (now.float (.control .feedOverride))
        if c.settled value c.feedOverride then (none, c)
        else (some (.send (.setFeedScale value)), { c with feedOverride := value }) :=
  rfl

theorem pinAction_spindleOverride (c : Console) (now : InputSample) (status : Status) :
    c.pinAction now status (.control .spindleOverride)
      = let value := clamped (now.float (.control .spindleOverride))
        if c.settled value c.spindleOverride then (none, c)
        else (some (.send (.setSpindleScale value)), { c with spindleOverride := value }) :=
  rfl

/-- **The ways of a pin**: it acts when it turns active, or it is a jog pin, or one of the two
overrides. -/
theorem pinAction_cases (c : Console) (now : InputSample) (status : Status)
    {motive : InputPin → Option Action × Console → Prop}
    (momentary : ∀ pin, pin.jog? = none →
      motive pin (if c.previous.rises now pin then (c.momentaryAction now status pin, c)
        else (none, c)))
    (jog : ∀ pin axis direction, pin.jog? = some (axis, direction) →
      motive pin (c.jogAction pin axis direction now status))
    (feed : motive (.control .feedOverride) (c.pinAction now status (.control .feedOverride)))
    (spindle :
      motive (.control .spindleOverride) (c.pinAction now status (.control .spindleOverride)))
    (pin : InputPin) : motive pin (c.pinAction now status pin) := by
  cases pin with
  | control control =>
      cases control
      case feedOverride => exact feed
      case spindleOverride => exact spindle
      all_goals exact momentary _ rfl
  | axis a index =>
      cases a
      case jogPlus => exact jog _ index 1 rfl
      case jogMinus => exact jog _ index (-1) rfl
      all_goals exact momentary _ rfl
  | line index => exact momentary _ rfl

/-- What a pin does is what is due. -/
theorem pinAction_due (c : Console) (now : InputSample) (status : Status) (pin : InputPin) :
    (c.pinAction now status pin).1.map (·.command) = c.due c.previous now status pin := by
  have momentary (pin : InputPin) :
      (if c.previous.rises now pin then (c.momentaryAction now status pin, c)
        else (none, c)).1.map (·.command)
      = if now.bit pin && !c.previous.bit pin then c.pressed now status pin else none := by
    rw [InputSample.rises]
    cases now.bit pin && !c.previous.bit pin <;> rfl
  have idle (pin : InputPin) (hpin : c.momentaryAction now status pin = none) :
      (if c.previous.rises now pin then (c.momentaryAction now status pin, c)
        else (none, c)).1.map (·.command) = none := by
    rw [hpin]
    cases c.previous.rises now pin <;> rfl
  have jog (pin : InputPin) (axis : UInt8) (direction : Number) :
      (c.jogAction pin axis direction now status).1.map (·.command)
      = if now.bit pin && !c.previous.bit pin then
          some (c.startCommand axis direction now status)
        else if !now.bit pin && c.previous.bit pin then some (stopCommand axis status)
        else none := by
    rw [jogAction, InputSample.rises, InputSample.falls]
    cases now.bit pin <;> cases c.previous.bit pin <;> rfl
  have feed : (c.pinAction now status (.control .feedOverride)).1.map (·.command)
      = c.dueOverride now (.control .feedOverride) := by
    rw [pinAction_feedOverride, dueOverride]
    generalize clamped (now.float (.control .feedOverride)) = value
    dsimp only
    cases c.settled value c.feedOverride <;> rfl
  have spindle : (c.pinAction now status (.control .spindleOverride)).1.map (·.command)
      = c.dueOverride now (.control .spindleOverride) := by
    rw [pinAction_spindleOverride, dueOverride]
    generalize clamped (now.float (.control .spindleOverride)) = value
    dsimp only
    cases c.settled value c.spindleOverride <;> rfl
  -- a speed is no command of its own, and neither is an increment
  cases pin with
  | control control =>
      cases control
      case feedOverride => exact feed
      case spindleOverride => exact spindle
      case jogSpeed => exact idle _ rfl
      all_goals exact momentary _
  | axis a index =>
      cases a
      case jogPlus => exact jog _ index 1
      case jogMinus => exact jog _ index (-1)
      case increment => exact idle _ rfl
      all_goals exact momentary _
  | line index => exact momentary _

/-! ### One scan

While the pins are scanned the console changes: a jog pin may let go of its axis, and an override is
remembered. None of this is asked for by another pin, and no pin comes twice.
-/

/-- Consoles that no scan of these pins tells apart. -/
structure Alike (pins : List InputPin) (c c' : Console) : Prop where
  setup : c'.setup = c.setup
  previous : c'.previous = c.previous
  feed : .control .feedOverride ∈ pins → c'.feedOverride = c.feedOverride
  spindle : .control .spindleOverride ∈ pins → c'.spindleOverride = c.spindleOverride

namespace Alike

theorem refl (pins : List InputPin) (c : Console) : Alike pins c c :=
  ⟨rfl, rfl, fun _ => rfl, fun _ => rfl⟩

theorem trans {pins : List InputPin} {c c₁ c' : Console} (h : Alike pins c c₁)
    (h' : Alike pins c₁ c') : Alike pins c c' where
  setup := h'.setup.trans h.setup
  previous := h'.previous.trans h.previous
  feed hpin := (h'.feed hpin).trans (h.feed hpin)
  spindle hpin := (h'.spindle hpin).trans (h.spindle hpin)

theorem tail {pin : InputPin} {pins : List InputPin} {c c' : Console}
    (h : Alike (pin :: pins) c c') : Alike pins c c' where
  setup := h.setup
  previous := h.previous
  feed hpin := h.feed (List.mem_cons_of_mem _ hpin)
  spindle hpin := h.spindle (List.mem_cons_of_mem _ hpin)

theorem pressed {pins : List InputPin} {c c' : Console} (h : Alike pins c c')
    (now : InputSample) (status : Status) (pin : InputPin) :
    c'.pressed now status pin = c.pressed now status pin := by
  have hspeed : c'.spindleSpeed status = c.spindleSpeed status := by
    rw [spindleSpeed, spindleSpeed, h.setup]
  cases pin with
  | control control =>
      cases control <;>
        simp only [Console.pressed, momentaryAction, controlAction, hspeed, h.setup]
  | axis a index =>
      cases a <;> simp only [Console.pressed, momentaryAction, incrementJog, h.setup]
  | line index => simp only [Console.pressed, momentaryAction, h.setup]

theorem due {pins : List InputPin} {c c' : Console} (h : Alike pins c c') {pin : InputPin}
    (hpin : pin ∈ pins) (before now : InputSample) (status : Status) :
    c'.due before now status pin = c.due before now status pin := by
  have hsettled (value last : Number) : c'.settled value last = c.settled value last := by
    rw [settled, settled, h.setup]
  have hoverride : c'.dueOverride now pin = c.dueOverride now pin := by
    unfold dueOverride
    split
    · simp only [hsettled, h.feed hpin]
    · simp only [hsettled, h.spindle hpin]
    · rfl
  unfold Console.due
  split
  · rw [h.pressed]
  · rw [h.setup]
  · exact hoverride

end Alike

/-- What a pin does leaves the decisions about all other pins alone. -/
theorem alike_pinAction (c : Console) (now : InputSample) (status : Status) {pin : InputPin}
    {pins : List InputPin} (hpin : pin ∉ pins) :
    Alike pins c (c.pinAction now status pin).2 := by
  -- the pins of a scan are all different, so a later pin finds its own override as it was
  revert hpin
  refine c.pinAction_cases now status (motive := fun pin acted => pin ∉ pins → Alike pins c acted.2)
    ?_ ?_ ?_ ?_ pin
  · intro pin _ _
    split <;> exact .refl pins c
  · intro pin axis direction _ _
    unfold jogAction  -- a jog may change the tracker, which is no part of what is compared
    split
    · exact .refl pins c
    · split
      · dsimp only
        split
        · exact ⟨rfl, rfl, fun _ => rfl, fun _ => rfl⟩
        · exact .refl pins c
      · exact .refl pins c
  · intro hpin
    rw [pinAction_feedOverride]
    dsimp only
    split
    · exact .refl pins c
    · exact ⟨rfl, rfl, fun h => absurd h hpin, fun _ => rfl⟩
  · intro hpin
    rw [pinAction_spindleOverride]
    dsimp only
    split
    · exact .refl pins c
    · exact ⟨rfl, rfl, fun _ => rfl, fun h => absurd h hpin⟩

/-- A scan goes from pin to pin: what the first one does, then what the others do. -/
theorem scanPins_cons (now : InputSample) (status : Status) (pin : InputPin)
    (pins : List InputPin) (c : Console) :
    scanPins now status (pin :: pins) c
      = (((c.pinAction now status pin).1.map (pin, ·)).toList
            ++ (scanPins now status pins (c.pinAction now status pin).2).1,
          (scanPins now status pins (c.pinAction now status pin).2).2) := by
  rw [scanPins]
  rcases c.pinAction now status pin with ⟨_ | action, c₁⟩ <;> rfl

/-- **A scan does for each pin what is due**, as the console was when the scan began. -/
theorem scanPins_due (now : InputSample) (status : Status) {pins : List InputPin}
    {c₀ c : Console} (hnodup : pins.Nodup) (halike : Alike pins c₀ c) :
    (scanPins now status pins c).1.map (fun m => (m.1, m.2.command))
      = pins.filterMap fun pin => (c₀.due c₀.previous now status pin).map (pin, ·) := by
  -- the console moves on with every pin, but stays alike for the pins that are still to come
  induction pins generalizing c with
  | nil => rfl
  | cons pin pins ih =>
      obtain ⟨hpin, hnodup⟩ := List.nodup_cons.1 hnodup
      have hdue : (c.pinAction now status pin).1.map (·.command)
          = c₀.due c₀.previous now status pin := by
        rw [pinAction_due, halike.previous]
        exact halike.due (List.mem_cons_self ..) ..
      have hrest := ih hnodup (halike.tail.trans (c.alike_pinAction now status hpin))
      rw [List.filterMap_cons, ← hdue, ← hrest, scanPins_cons]
      cases (c.pinAction now status pin).1 <;> rfl

theorem pinAction_console (c : Console) (now : InputSample) (status : Status) (pin : InputPin) :
    (c.pinAction now status pin).2.setup = c.setup ∧
      (c.pinAction now status pin).2.previous = c.previous := by
  have halike : Alike [] c (c.pinAction now status pin).2 :=
    c.alike_pinAction now status List.not_mem_nil
  exact ⟨halike.setup, halike.previous⟩

/-- A scan leaves the samples alone. -/
theorem scanPins_console (now : InputSample) (status : Status) (pins : List InputPin)
    (c : Console) :
    (scanPins now status pins c).2.setup = c.setup ∧
      (scanPins now status pins c).2.previous = c.previous := by
  induction pins generalizing c with
  | nil => exact ⟨rfl, rfl⟩
  | cons pin pins ih =>
      obtain ⟨hsetup, hprevious⟩ := c.pinAction_console now status pin
      obtain ⟨hsetup', hprevious'⟩ := ih (c.pinAction now status pin).2
      rw [scanPins_cons]
      exact ⟨hsetup'.trans hsetup, hprevious'.trans hprevious⟩

end Console

/-! ### What is remembered

The samples of a session are those of its cycles. In between there may be startups, shutdowns and
any other work, and none of it remembers a sample.
-/

namespace InputSample

/-- Taking over the values of some pins changes no other pin. -/
theorem get?_takeOver (before : InputSample) (pins : List InputPin) (now : InputSample)
    (pin : InputPin) :
    (before.takeOver pins now).get? pin
      = if pin ∈ pins then some ((now.get? pin).getD (inactive pin)) else before.get? pin := by
  unfold takeOver
  induction pins generalizing before with
  | nil => rfl
  | cons p pins ih =>
      rw [List.foldl_cons, ih, get?_insert]
      by_cases hpins : pin ∈ pins
      · simp [hpins]
      · by_cases hp : p = pin
        · simp [hp]
        · simp [hpins, hp, Ne.symm hp]

theorem asBit_inactive (pin : InputPin) : (inactive pin).asBit = false := by
  unfold inactive
  split
  · decide +kernel
  · rfl
  · rfl

/-- A pin that has no value is taken over as inactive. -/
theorem bit_takeOver (before : InputSample) {pins : List InputPin} (now : InputSample)
    {pin : InputPin} (hpin : pin ∈ pins) : (before.takeOver pins now).bit pin = now.bit pin := by
  unfold bit
  rw [get?_takeOver, if_pos hpin]
  rcases now.get? pin with _ | value
  · exact asBit_inactive pin
  · rfl

end InputSample

/-- **What a console remembers of the sample before**: the registered pins are active where they
were, and no other pin has a value. -/
structure Console.Remembers (c : Console) (before : InputSample) : Prop where
  registered : ∀ pin ∈ c.setup.registered, c.previous.bit pin = before.bit pin
  others : ∀ pin ∉ c.setup.registered, c.previous.get? pin = none

/-- The last sample of a history, or the one before it. -/
def lastSample (before : InputSample) (turns : List Turn) : InputSample :=
  (turns.filterMap (·.sample)).getLastD before

theorem lastSample_cons (before : InputSample) (turn : Turn) (turns : List Turn) :
    lastSample before (turn :: turns) = lastSample (turn.sample.getD before) turns := by
  unfold lastSample
  rw [List.filterMap_cons]
  cases turn.sample with
  | none => rfl
  | some now => exact List.getLastD_cons

namespace Panel

variable {p p' : Panel Simulated.transport} {w w' : World}

/-- A cycle takes over its own sample, after all else is done. -/
theorem Cycled.console {report : CycleReport} {acted tidied : CycleState Simulated.transport}
    (h : p.Cycled w report p' w' acted tidied) :
    p'.console.setup = p.console.setup ∧
      p'.console.previous
        = p.console.previous.takeOver p.console.setup.registered (p.sampled w) := by
  have hscan := Console.scanPins_console (p.sampled w) p.client.status p.console.setup.registered
    p.console
  have hscanned : (p.scanned w).console
      = (Console.scanPins (p.sampled w) p.client.status p.console.setup.registered
          p.console).2 := by
    rw [scanned, decided, Console.scan]
  obtain ⟨hprevious, hsetup⟩ := h.performs.console
  rw [hscanned, hscan.1] at hsetup
  rw [hscanned, hscan.2] at hprevious
  constructor
  · rw [h.setup, h.tidies.setup, hsetup]
  · rw [h.previous, h.tidies.previous, h.tidies.setup, hprevious, hsetup]

/-- After a cycle the console remembers its sample. -/
theorem remembers_cycle {before : InputSample} {report : CycleReport}
    (hremembers : p.console.Remembers before) (hcycle : p.cycle w = some (report, p', w')) :
    p'.console.Remembers (p.sampled w) := by
  obtain ⟨acted, tidied, hcycled⟩ := Panel.cycled hcycle
  obtain ⟨hsetup, hprevious⟩ := hcycled.console
  refine ⟨?_, ?_⟩
  · intro pin hpin
    rw [hsetup] at hpin
    rw [hprevious]
    exact InputSample.bit_takeOver _ _ hpin
  · intro pin hpin
    rw [hsetup] at hpin
    rw [hprevious, InputSample.get?_takeOver, if_neg hpin]
    exact hremembers.others pin hpin

theorem console_shutdown (h : p.shutdown w = some (p', w')) : p'.console = p.console := by
  rcases shutdown_eq_some h with ⟨_, rfl, _⟩ | ⟨c, v, hshut⟩
  · rfl
  · rw [hshut.panel]

end Panel

namespace Session

/-- Whatever happens to a panel, only cycles change its console. -/
theorem console_next {s s' : Session} {event : Event} {turn : Turn}
    (h : s.next event = some (turn, s')) :
    turn.sample = none ∧ s'.panel.console = s.panel.console ∨
      ∃ report, s.panel.cycle s.world = some (report, s'.panel, s'.world) ∧
        turn = { sample := some (s.panel.sampled s.world)
                 attempts := (s.panel.attempts s.world).map (·.2) } := by
  cases event with
  | startup => -- startup and shutdown work through the client; the console is not theirs
      have hconsole := s.panel.console_startup s.world
      obtain ⟨r, p, w, hstart, rfl, rfl⟩ := startup_of_next h
      rw [hstart] at hconsole
      exact .inl ⟨rfl, hconsole⟩
  | shutdown =>
      obtain ⟨p, w, hshutdown, rfl, rfl⟩ := shutdown_of_next h
      exact .inl ⟨rfl, Panel.console_shutdown hshutdown⟩
  | work work =>
      cases did h with
      | around => exact .inl ⟨rfl, rfl⟩
      | looked => exact .inl ⟨rfl, rfl⟩
      | tried => exact .inl ⟨rfl, rfl⟩
      | ran => exact .inl ⟨rfl, rfl⟩
      | cycled hcycle => exact .inr ⟨_, hcycle, rfl⟩

/-- A cycle remembers its sample, and until the next one nothing else is remembered. -/
theorem remembers_next {s s' : Session} {event : Event} {turn : Turn} {before : InputSample}
    (hremembers : s.panel.console.Remembers before) (h : s.next event = some (turn, s')) :
    s'.panel.console.setup = s.panel.console.setup ∧
      s'.panel.console.Remembers (turn.sample.getD before) := by
  rcases console_next h with ⟨hsample, hconsole⟩ | ⟨report, hcycle, rfl⟩
  · rw [hsample, hconsole]
    exact ⟨rfl, hremembers⟩
  · obtain ⟨acted, tidied, hcycled⟩ := Panel.cycled hcycle
    exact ⟨hcycled.console.1, Panel.remembers_cycle hremembers hcycle⟩

/-- **The console always remembers the last sample.** -/
theorem Runs.remembers {s s' : Session} {events : List Event} {turns : List Turn}
    {before : InputSample} (h : Runs s events turns s')
    (hremembers : s.panel.console.Remembers before) :
    s'.panel.console.setup = s.panel.console.setup ∧
      s'.panel.console.Remembers (lastSample before turns) := by
  induction h generalizing before with
  | nil => exact ⟨rfl, hremembers⟩
  | cons hnext _ ih =>
      obtain ⟨hsetup, hremembers⟩ := remembers_next hremembers hnext
      obtain ⟨hsetup', hremembers'⟩ := ih hremembers
      rw [lastSample_cons]
      exact ⟨hsetup'.trans hsetup, hremembers'⟩

end Session

/-! ### Every cycle of every session

A new panel remembers nothing, so for its first cycle all pins were inactive before.
-/

/-- Nothing is remembered of a sample without values. -/
theorem Console.remembers_empty {c : Console} (h : c.previous = .empty) : c.Remembers .empty where
  registered pin _ := by rw [h]
  others pin _ := by rw [h, InputSample.get?_empty]

theorem Console.Remembers.due {c : Console} {before : InputSample} (h : c.Remembers before)
    {pin : InputPin} (hpin : pin ∈ c.setup.registered) (now : InputSample) (status : Status) :
    c.due c.previous now status pin = c.due before now status pin := by
  unfold Console.due
  rw [h.registered pin hpin]

namespace Panel

/-- What a cycle decides is what is due. -/
theorem decided_eq {p : Panel Simulated.transport} {before : InputSample}
    (hremembers : p.console.Remembers before) (w : World) :
    (p.decided w).1.map (fun m => (m.1, m.2.command))
      = p.console.setup.registered.filterMap fun pin =>
          (p.console.due before (p.sampled w) p.client.status pin).map (pin, ·) := by
  have hscan := Console.scanPins_due (p.sampled w) p.client.status
    p.console.setup.nodup_registered (.refl _ p.console)
  rw [decided, Console.scan, hscan]
  refine List.filterMap_congr fun pin hpin => ?_
  rw [hremembers.due hpin]

/-- The attempts of a cycle are those that are due. -/
theorem attempts_eq {p p' : Panel Simulated.transport} {w w' : World} {report : CycleReport}
    {before : InputSample} (hremembers : p.console.Remembers before)
    (hcycle : p.cycle w = some (report, p', w')) :
    (p.attempts w).map (fun m => (m.1, m.2.command))
      = p.console.setup.registered.filterMap fun pin =>
          (p.console.due before (p.sampled w) p.client.status pin).map (pin, ·) := by
  obtain ⟨acted, tidied, hcycled⟩ := Panel.cycled hcycle
  rw [hcycled.performs.commands]
  exact decided_eq hremembers w

/-- **A cycle acts on edges**: whatever happened in a session before, and whatever became of the
attempts, a cycle makes one attempt for each pin for which something is due between the sample
before and its own, in the order of the registered pins, and counts it. Then it remembers the
values of its sample for the registered pins, and nothing else. -/
theorem attempts_due {p p' : Panel Simulated.transport} {w w' : World} {s : Session}
    {events : List Event} {turns : List Turn} {report : CycleReport}
    (hnew : p.console.previous = .empty) (hruns : Session.Runs ⟨p, w⟩ events turns s)
    (hcycle : s.panel.cycle s.world = some (report, p', w')) :
    let pins := p.console.setup.registered
    let before := lastSample .empty turns
    let now := s.panel.sampled s.world
    let status := s.panel.client.status
    pins.Nodup ∧
    (s.panel.attempts s.world).map (fun m => (m.1, m.2.command))
      = pins.filterMap (fun pin =>
          (s.panel.console.due before now status pin).map (pin, ·)) ∧
    (∀ pin ∈ pins, pin.kind = .momentary → (s.panel.console.pressed now status pin).isSome) ∧
    (∀ pin, p'.console.previous.get? pin
      = if pin ∈ pins then some ((now.get? pin).getD (InputSample.inactive pin)) else none) ∧
    report.dispatched + report.failed = (s.panel.attempts s.world).length := by
  intro pins before now status
  obtain ⟨hsetup, hremembers⟩ := hruns.remembers (Console.remembers_empty hnew)
  -- the registered pins are those of the setup, and no session changes that
  have hpins : s.panel.console.setup.registered = pins := by rw [hsetup]
  obtain ⟨acted, tidied, hcycled⟩ := Panel.cycled hcycle
  refine ⟨p.console.setup.nodup_registered, ?_, ?_, ?_, ?_⟩
  · rw [attempts_eq hremembers hcycle, hpins]
  · intro pin hpin hkind
    rw [← hpins] at hpin
    exact Console.pressed_isSome hpin hkind
  · -- a pin outside the scan keeps the value it had, which was none
    intro pin
    rw [hcycled.console.2, InputSample.get?_takeOver, hpins]
    split
    · rfl
    · next hpin =>
        rw [← hpins] at hpin
        exact hremembers.others pin hpin
  · have hcount := hcycled.performs.count
    rw [hcycled.dispatched, hcycled.failed, hcycled.tidies.dispatched, hcycled.tidies.failed,
      hcount]
    exact Nat.zero_add _

/-- A bus on which one pin is active. -/
def pressing (pin : InputPin) : PinBus where
  carrier := .memory (({} : MemoryBus).set pin (.bit true))

/-- A jog pin is held for one cycle, and then the machine is switched on instead. -/
def jogThenSwitchOn : List Event :=
  [.startup, .work (.pins (pressing (.axis .jogPlus 0))), .work .cycle,
    .work (.pins (pressing (.control .machineOn)))]

/-- The second cycle acts on both edges, in the order of the pins: the button turns active, and the
jog pin of the cycle before turns inactive, which is remembered then. -/
theorem attempts_due_second :
    ∃ p turns s report p' w',
      Panel.create Simulated.transport {} { carrier := .memory {} } = .ok p ∧
      Session.Runs ⟨p, .echoing 7⟩ jogThenSwitchOn turns s ∧
      turns.flatMap (fun turn => turn.attempts.map (·.command)) = [.jogContinuous 0 0] ∧
      s.panel.cycle s.world = some (report, p', w') ∧
      (s.panel.attempts s.world).map (fun m => (m.1, m.2.command))
        = [(.control .machineOn, .setTaskState .on), (.axis .jogPlus 0, .jogStop 0)] ∧
      p'.console.previous.get? (.axis .jogPlus 0) = some (.bit false) ∧
      report.dispatched + report.failed = 2 := by
  have hplays : Plays jogThenSwitchOn fun p turns s => decide (
      turns.flatMap (fun turn => turn.attempts.map (·.command)) = [.jogContinuous 0 0] ∧
      (s.panel.cycle s.world).isSome ∧
      p.console.setup.registered.filterMap (fun pin =>
          (s.panel.console.due (lastSample .empty turns) (s.panel.sampled s.world)
            s.panel.client.status pin).map (pin, ·))
        = [(.control .machineOn, .setTaskState .on), (.axis .jogPlus 0, .jogStop 0)] ∧
      .axis .jogPlus 0 ∈ p.console.setup.registered ∧
      (s.panel.sampled s.world).get? (.axis .jogPlus 0) = none) := by
    decide +kernel
  obtain ⟨p, turns, s, hcreate, hruns, hholds⟩ := hplays.runs
  -- `hfirst`: the jog was started in an earlier cycle, so the history of this one is not empty
  obtain ⟨hfirst, hends, hdue, hpin, hreleased⟩ := of_decide_eq_true hholds
  obtain ⟨⟨report, p', w'⟩, hcycle⟩ := Option.isSome_iff_exists.1 hends
  obtain ⟨_, hmade, _, hremembers, hcount⟩ :=
    attempts_due (new_of_create hcreate).previous hruns hcycle
  have hattempts := hmade.trans hdue
  refine ⟨p, turns, s, report, p', w', hcreate, hruns, hfirst, hcycle, hattempts, ?_, ?_⟩
  · rw [hremembers, if_pos hpin, hreleased]
    rfl
  · rw [hcount, ← List.length_map, hattempts]
    rfl

end Panel
end OperatorPanel
