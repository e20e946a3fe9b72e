import OperatorPanel.Proofs.Releases

/-!
# Samples that agree

A scan looks at the registered pins and at no other pin. So two samples that agree on these have
the same scan (`Console.scan_agrees`) and leave the same to be remembered (`Agrees.takeOver`),
whatever values all other pins carry.

What a scan decides is also within the setup (`Command.Within`): no axis is addressed beyond those
that are set up, and no line is sent that is not among those of the setup.
-/

namespace OperatorPanel

/-! ### Agreeing on some pins

Two samples agree on some pins when they have the same values for them, and an absent value is one
too. So edges, levels and numbers are the same, and so is what is remembered of them.
-/

/-- Two samples that have the same values for some pins. -/
def InputSample.Agrees (pins : List InputPin) (now now' : InputSample) : Prop :=
  ∀ pin ∈ pins, now'.get? pin = now.get? pin

instance (pins : List InputPin) (now now' : InputSample) :
    Decidable (InputSample.Agrees pins now now') :=
  inferInstanceAs (Decidable (∀ pin ∈ pins, now'.get? pin = now.get? pin))

namespace InputSample.Agrees

variable {pins : List InputPin} {now now' : InputSample} {pin : InputPin}

theorem refl (pins : List InputPin) (now : InputSample) : Agrees pins now now := fun _ _ => rfl

/-- Switches are the same. -/
theorem bit (h : Agrees pins now now') (hpin : pin ∈ pins) : now'.bit pin = now.bit pin := by
  unfold InputSample.bit
  rw [h pin hpin]

/-- So are numbers. -/
theorem float (h : Agrees pins now now') (hpin : pin ∈ pins) : now'.float pin = now.float pin := by
  unfold InputSample.float
  rw [h pin hpin]

/-- So is whether a pin turns active, seen from the same sample before. -/
theorem rises (h : Agrees pins now now') (hpin : pin ∈ pins) (before : InputSample) :
    before.rises now' pin = before.rises now pin := by
  unfold InputSample.rises
  rw [h.bit hpin]

/-- And whether it turns inactive. -/
theorem falls (h : Agrees pins now now') (hpin : pin ∈ pins) (before : InputSample) :
    before.falls now' pin = before.falls now pin := by
  unfold InputSample.falls
  rw [h.bit hpin]

/-- **What is taken over of these pins is the same.** -/
theorem takeOver (h : Agrees pins now now') (before : InputSample) :
    before.takeOver pins now' = before.takeOver pins now := by
  unfold InputSample.takeOver
  induction pins generalizing before with
  | nil => rfl
  | cons pin pins ih =>
      have hrest : Agrees pins now now' := fun q hq => h q (List.mem_cons_of_mem _ hq)
      rw [List.foldl_cons, List.foldl_cons, h pin (List.mem_cons_self ..)]
      exact ih hrest _

end InputSample.Agrees

/-! ### What is scanned

Some pins are read for others: the jog speed by all pins that move something, and the increment of
an axis by the two pins that move by it. All of them are registered together with the pins that read
them.
-/

namespace InputPin

variable {axes lines : Nat} {axis : UInt8}

/-- The pins that are not of an axis or a line are always scanned. -/
theorem control_mem_registered (c : Control) : .control c ∈ registered axes lines :=
  mem_registered.2 (.inl ⟨c, rfl⟩)

/-- The pins of an axis are scanned together. -/
theorem axis_mem_of_mem {a : AxisControl} (h : .axis a axis ∈ registered axes lines)
    (b : AxisControl) : .axis b axis ∈ registered axes lines := by
  refine mem_registered.2 (.inr (.inl ⟨b, axis.toNat, index_lt h, ?_⟩))
  rw [UInt8.ofNat_toNat]

end InputPin

namespace Console

variable {c : Console} {now now' : InputSample}

/-- Every pin reads the jog speed at most beside the pins of its own axis. -/
theorem momentaryAction_agrees {pin : InputPin}
    (h : InputSample.Agrees c.setup.registered now now') (hpin : pin ∈ c.setup.registered)
    (status : Status) : c.momentaryAction now' status pin = c.momentaryAction now status pin := by
  have hspeed : jogSpeed now' = jogSpeed now := by
    unfold jogSpeed
    rw [h.float (InputPin.control_mem_registered .jogSpeed)]
  have hjog {a : AxisControl} {axis : UInt8} (ha : .axis a axis ∈ c.setup.registered)
      (direction : Number) : c.incrementJog axis direction now' = c.incrementJog axis direction now
      := by
    unfold incrementJog
    rw [hspeed, h.float (InputPin.axis_mem_of_mem ha .increment)]
  cases pin with
  | control control => rfl
  | axis a axis =>
      cases a
      case incrementPlus => rw [momentaryAction, momentaryAction, hjog hpin]
      case incrementMinus => rw [momentaryAction, momentaryAction, hjog hpin]
      all_goals rfl
  | line index => rfl

/-- What a jog pin does depends on registered pins. -/
theorem jogAction_agrees {pin : InputPin} (h : InputSample.Agrees c.setup.registered now now')
    (hpin : pin ∈ c.setup.registered) (axis : UInt8) (direction : Number) (status : Status) :
    c.jogAction pin axis direction now' status = c.jogAction pin axis direction now status := by
  have hstart : c.startCommand axis direction now' status
      = c.startCommand axis direction now status := by
    unfold startCommand jogSpeed
    rw [h.float (InputPin.control_mem_registered .jogSpeed)]
  unfold jogAction
  rw [h.rises hpin, h.falls hpin, hstart]

/-- **What a registered pin does depends on registered pins alone.** -/
theorem pinAction_agrees {pin : InputPin} (h : InputSample.Agrees c.setup.registered now now')
    (hpin : pin ∈ c.setup.registered) (status : Status) :
    c.pinAction now' status pin = c.pinAction now status pin := by
  -- a button acts on its edge, and its action may still read other pins
  have momentary (pin : InputPin) (hpin : pin ∈ c.setup.registered) :
      (if c.previous.rises now' pin then (c.momentaryAction now' status pin, c) else (none, c))
        = if c.previous.rises now pin then (c.momentaryAction now status pin, c)
          else (none, c) := by
    rw [h.rises hpin, momentaryAction_agrees h hpin]
  cases pin with
  | control control =>
      cases control
      case feedOverride => rw [pinAction_feedOverride, pinAction_feedOverride, h.float hpin]
      case spindleOverride =>
        rw [pinAction_spindleOverride, pinAction_spindleOverride, h.float hpin]
      all_goals exact momentary _ hpin
  | axis a axis =>
      cases a
      case jogPlus => exact jogAction_agrees h hpin axis 1 status
      case jogMinus => exact jogAction_agrees h hpin axis (-1) status
      all_goals exact momentary _ hpin
  | line index => exact momentary _ hpin

/-- A scan of registered pins is a scan of what they agree on. -/
theorem scanPins_agrees {pins : List InputPin}
    (h : InputSample.Agrees c.setup.registered now now') (hpins : pins ⊆ c.setup.registered)
    (status : Status) : scanPins now' status pins c = scanPins now status pins c := by
  -- the console moves on with every pin, but its setup stays
  induction pins generalizing c with
  | nil => rfl
  | cons pin pins ih =>
      obtain ⟨hpin, hrest⟩ := List.cons_subset.1 hpins
      have hsetup := (c.pinAction_console now status pin).1
      unfold scanPins
      rw [pinAction_agrees h hpin]
      generalize c.pinAction now status pin = acted at hsetup ⊢
      obtain ⟨action?, c₁⟩ := acted
      dsimp only at hsetup ⊢
      rw [← hsetup] at h hrest
      rw [ih h hrest]

/-- **Samples that agree on the registered pins have the same scan.** -/
theorem scan_agrees (h : InputSample.Agrees c.setup.registered now now') (status : Status) :
    c.scan now' status = c.scan now status :=
  scanPins_agrees h (List.Subset.refl _) status

end Console

/-! ### Within the setup

A pin of an axis gives a command for this axis, and the registered pins are those of axes of the
machine. A pin of a line gives a line of the setup or nothing. So nothing that is due goes beyond
the setup.
-/

/-- A command within a setup: its axis is one of the machine, it moves no other axis, and its line
is one of those that are set up. -/
structure Command.Within (setup : Setup) (command : Command) : Prop where
  axis : ∀ axis, command.axis? = some axis → axis.toNat < min setup.axisCount maxAxes
  vector : ∀ v, command = .teleopVector v →
    ∀ n, min setup.axisCount maxAxes ≤ n → v.components.getD n 0 = 0
  line : ∀ line, command = .mdiExecute line → line ∈ setup.lines

namespace Command.Within

variable {setup : Setup}

/-- A command that has neither axis nor vector nor line. -/
theorem plain {command : Command} (haxis : command.axis? = none)
    (hvector : ∀ v, command ≠ .teleopVector v) (hline : ∀ line, command ≠ .mdiExecute line) :
    command.Within setup where
  axis axis h := by rw [haxis] at h; cases h
  vector v h := absurd h (hvector v)
  line line h := absurd h (hline line)

/-- A command for one axis is within the setup if the axis is. -/
theorem ofAxis {command : Command} {axis : UInt8} (haxis : command.axis? = some axis)
    (hvector : ∀ v, command ≠ .teleopVector v) (hline : ∀ line, command ≠ .mdiExecute line)
    (hlt : axis.toNat < min setup.axisCount maxAxes) : command.Within setup where
  axis other h := by
    cases haxis.symm.trans h
    exact hlt
  vector v h := absurd h (hvector v)
  line line h := absurd h (hline line)

/-- So is a vector without components beyond the axes. -/
theorem ofVector {v : VelocityVector}
    (h : ∀ n, min setup.axisCount maxAxes ≤ n → v.components.getD n 0 = 0) :
    Command.Within setup (.teleopVector v) where
  axis axis h := by cases h
  vector u hu := by
    cases hu
    exact h
  line line h := by cases h

end Command.Within

/-- Motion along one axis has no component for any other. -/
theorem VelocityVector.getD_along {axis : UInt8} {n : Nat} (velocity : Number)
    (hn : axis.toNat ≠ n) : (along axis velocity).components.getD n 0 = 0 := by
  unfold along
  split <;> (rcases n with _ | _ | _ | _ | _ | _ | n <;> first | exact absurd rfl hn | rfl)

/-- The zero vector has none at all. -/
theorem VelocityVector.getD_zero (n : Nat) : zero.components.getD n 0 = 0 := by
  rcases n with _ | _ | _ | _ | _ | _ | n <;> rfl

namespace Console

variable {c : Console} {before now : InputSample} {status : Status} {axis : UInt8}

/-- Whatever moves along a vector moves along one axis. -/
theorem start_within (c : Console) (hlt : axis.toNat < min c.setup.axisCount maxAxes)
    (direction : Number) (now : InputSample) (status : Status) :
    (c.startCommand axis direction now status).Within c.setup := by
  unfold startCommand
  dsimp only
  split
  · exact .ofVector fun n hn => VelocityVector.getD_along _ (by omega)
  · exact .ofAxis rfl nofun nofun hlt

/-- Whatever stops a motion along a vector stops all axes. -/
theorem stop_within (c : Console) (hlt : axis.toNat < min c.setup.axisCount maxAxes)
    (status : Status) : (stopCommand axis status).Within c.setup := by
  unfold stopCommand
  split
  · exact .ofVector fun n _ => VelocityVector.getD_zero n
  · exact .ofAxis rfl nofun nofun hlt

/-- What a pressed button asks for is within the setup. -/
theorem pressed_within {pin : InputPin} {command : Command} (hpin : pin ∈ c.setup.registered)
    (h : c.pressed now status pin = some command) : command.Within c.setup := by
  obtain ⟨action, haction, rfl⟩ := Option.map_eq_some_iff.1 h
  cases pin with
  | control control => cases control <;> cases haction <;> exact .plain rfl nofun nofun
  | axis a axis =>
      have hlt := InputPin.index_lt hpin
      cases a <;> cases haction <;> exact .ofAxis rfl nofun nofun hlt
  | line index =>
      obtain ⟨line, hline, rfl⟩ := Option.map_eq_some_iff.1 haction
      have hmem : line ∈ c.setup.lines := List.mem_of_getElem? hline
      exact
        { axis := nofun
          vector := nofun
          line := fun other h => by cases h; exact hmem }

/-- **What is due for a registered pin is within the setup.** -/
theorem due_within {pin : InputPin} {command : Command} (hpin : pin ∈ c.setup.registered)
    (h : c.due before now status pin = some command) : command.Within c.setup := by
  have within_setup {axis : UInt8} {direction : Number}
      (hjog : pin.jog? = some (axis, direction)) :
      axis.toNat < min c.setup.axisCount maxAxes := by
    rcases InputPin.jog?_eq_some hjog with rfl | rfl <;> exact InputPin.index_lt hpin
  cases due_cases h with
  | pressed _ hpressed => exact pressed_within hpin hpressed
  | start hjog => exact c.start_within (within_setup hjog) ..
  | stop hjog => exact c.stop_within (within_setup hjog) ..
  | override hdue =>
      obtain ⟨value, rfl | rfl⟩ := eq_of_dueOverride hdue <;> exact .plain rfl nofun nofun

end Console

/-- **Every command that a cycle tries is within the setup.** -/
theorem Panel.attempts_within {p p' : Panel Simulated.transport} {w w' : World}
    {report : CycleReport} (hcycle : p.cycle w = some (report, p', w'))
    {m : InputPin × Attempt} (hm : m ∈ p.attempts w) : m.2.command.Within p.console.setup := by
  obtain ⟨acted, tidied, hcycled⟩ := Panel.cycled hcycle
  have hscan := Console.scanPins_due (p.sampled w) p.client.status
    p.console.setup.nodup_registered (.refl _ p.console)
  have hmem := List.mem_map_of_mem (f := fun m => (m.1, m.2.command)) hm
  rw [hcycled.performs.commands, decided, Console.scan, hscan] at hmem
  obtain ⟨pin, hpin, hdue⟩ := List.mem_filterMap.1 hmem
  obtain ⟨command, hcommand, heq⟩ := Option.map_eq_some_iff.1 hdue
  cases heq
  exact Console.due_within hpin hcommand

end OperatorPanel
