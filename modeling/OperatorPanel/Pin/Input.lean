import OperatorPanel.Limits
import OperatorPanel.Text.Digits

/-!
# Input pins

The pins that a control panel writes and the bridge reads: `Control`s that exist once,
`AxisControl`s that exist once per axis, and one pin per configured manual line. Every pin has
one exported name `halui.<subsystem>.<signal>`; `InputPin.parse?` reads the names back, and
besides them the spellings whose index has a plus sign or leading zeros.
-/

namespace OperatorPanel

/-- The word that every exported name starts with. -/
def pinNamespace : String := "halui"

/-- How the samples of a pin turn into commands. -/
inductive InputKind where
  /-- One command when the pin turns active. -/
  | momentary
  /-- Active while held: the release stops what the press started. -/
  | level
  /-- A continuous value, sent when it changes. -/
  | float
  deriving DecidableEq, Repr

/-- The inputs that exist once. -/
inductive Control where
  | machineOn | machineOff
  | estopActivate | estopReset
  | modeManual | modeAuto | modeMdi | modeTeleop | modeJoint
  | mistOn | mistOff
  | floodOn | floodOff
  | lubeOn | lubeOff
  | programRun | programPause | programResume | programStep
  | spindleStart | spindleStop | spindleForward | spindleReverse
  | spindleIncrease | spindleDecrease
  | spindleBrakeOn | spindleBrakeOff
  | probeStart | probeClear
  | abort
  | jogSpeed | feedOverride | spindleOverride
  deriving DecidableEq, Repr

namespace Control

/-- All of them, in the order in which they are scanned. -/
def all : List Control :=
  [machineOn, machineOff, estopActivate, estopReset, modeManual, modeAuto, modeMdi, modeTeleop,
    modeJoint, mistOn, mistOff, floodOn, floodOff, lubeOn, lubeOff, programRun, programPause,
    programResume, programStep, spindleStart, spindleStop, spindleForward, spindleReverse,
    spindleIncrease, spindleDecrease, spindleBrakeOn, spindleBrakeOff, probeStart, probeClear,
    abort, jogSpeed, feedOverride, spindleOverride]

theorem mem_all (c : Control) : c ∈ all := by cases c <;> decide

/-- The name below `halui`. -/
def label : Control → String
  | machineOn => "machine.on"
  | machineOff => "machine.off"
  | estopActivate => "estop.activate"
  | estopReset => "estop.reset"
  | modeManual => "mode.manual"
  | modeAuto => "mode.auto"
  | modeMdi => "mode.mdi"
  | modeTeleop => "mode.teleop"
  | modeJoint => "mode.joint"
  | mistOn => "mist.on"
  | mistOff => "mist.off"
  | floodOn => "flood.on"
  | floodOff => "flood.off"
  | lubeOn => "lube.on"
  | lubeOff => "lube.off"
  | programRun => "program.run"
  | programPause => "program.pause"
  | programResume => "program.resume"
  | programStep => "program.step"
  | spindleStart => "spindle.start"
  | spindleStop => "spindle.stop"
  | spindleForward => "spindle.forward"
  | spindleReverse => "spindle.reverse"
  | spindleIncrease => "spindle.increase"
  | spindleDecrease => "spindle.decrease"
  | spindleBrakeOn => "spindle.brake-on"
  | spindleBrakeOff => "spindle.brake-off"
  | probeStart => "probe.start"
  | probeClear => "probe.clear"
  | abort => "abort"
  | jogSpeed => "jog-speed"
  | feedOverride => "feed-override"
  | spindleOverride => "spindle.override"

end Control

/-- The inputs that exist once per axis. -/
inductive AxisControl where
  | home | jogPlus | jogMinus | increment | incrementPlus | incrementMinus
  deriving DecidableEq, Repr

namespace AxisControl

/-- All of them, in the order in which they are scanned. -/
def all : List AxisControl :=
  [home, jogPlus, jogMinus, increment, incrementPlus, incrementMinus]

theorem mem_all (a : AxisControl) : a ∈ all := by cases a <;> decide

/-- The part of the name before the axis index. -/
def group : AxisControl → String
  | home => "joint"
  | _ => "jog"

/-- The part of the name after the axis index. -/
def signal : AxisControl → String
  | home => "home"
  | jogPlus => "plus"
  | jogMinus => "minus"
  | increment => "increment"
  | incrementPlus => "increment-plus"
  | incrementMinus => "increment-minus"

end AxisControl

/-- A pin that a panel writes. -/
inductive InputPin where
  | control (c : Control)
  | axis (a : AxisControl) (index : UInt8)
  /-- Runs the configured manual line of this index. -/
  | line (index : UInt8)
  deriving DecidableEq, Repr

namespace InputPin

/-- How samples of the pin turn into commands. -/
def kind : InputPin → InputKind
  | .control .jogSpeed | .control .feedOverride | .control .spindleOverride => .float
  | .axis .increment _ => .float
  | .axis .jogPlus _ | .axis .jogMinus _ => .level
  | _ => .momentary

/-- The name below `halui`. -/
def label : InputPin → String
  | .control c => c.label
  | .axis a index => a.group ++ "." ++ Text.decimal index.toNat ++ "." ++ a.signal
  | .line index => "mdi-command-" ++ Text.decimalPair index.toNat

/-- The exported name, such as `halui.jog.2.plus`. -/
def name (pin : InputPin) : String := pinNamespace ++ "." ++ pin.label

/-! ### Order

Samples list their pins by constructor and then by index: all `joint.N.home` come before the
first `jog.N.plus`. -/

/-- The place of a pin in that order. -/
def rank : InputPin → Nat
  | .control c => c.ctorIdx
  | .axis a index => 256 * (1 + a.ctorIdx) + index.toNat
  | .line index => 256 * 7 + index.toNat

/-! ### Reading names -/

/-- An index below `limit`. -/
def index? (limit : Nat) (cs : List Char) : Option UInt8 :=
  (Text.unsigned? cs).bind fun n => if n < limit then some (UInt8.ofNat n) else none

/-- The name of an axis pin, below `halui`. -/
def axisOf? (cs : List Char) : Option InputPin :=
  (Text.cut? '.' cs).bind fun (group, cs) =>
  (Text.cut? '.' cs).bind fun (index, signal) =>
  (index? maxAxes index).bind fun n =>
  (AxisControl.all.find? fun a =>
    a.group.toList == group && a.signal.toList == signal).map (.axis · n)

/-- The pin that a name below `halui` stands for. -/
def ofLabel? (cs : List Char) : Option InputPin :=
  match Control.all.find? (·.label.toList == cs) with
  | some c => some (.control c)
  | none =>
    match Text.after? "mdi-command-".toList cs with
    | some n => (index? maxLines n).map .line
    | none => axisOf? cs

/-- The pin that a name stands for. -/
def parse? (s : String) : Option InputPin :=
  (Text.after? (pinNamespace ++ ".").toList s.toList).bind ofLabel?

/-- What is said about a name that stands for no pin. -/
def unknownText (name : String) : String := "unknown pin: " ++ name

/-! ### Registered pins -/

/-- The pins of one axis, in the order in which they are scanned. -/
def ofAxis (index : UInt8) : List InputPin := AxisControl.all.map (.axis · index)

/-- Every pin of a machine with so many axes and configured lines, in the order in which they
are scanned. -/
def registered (axes lines : Nat) : List InputPin :=
  Control.all.map .control
    ++ (List.range (min axes maxAxes)).flatMap (fun n => ofAxis (UInt8.ofNat n))
    ++ (List.range (min lines maxLines)).map (fun n => .line (UInt8.ofNat n))

theorem mem_registered {axes lines : Nat} {pin : InputPin} :
    pin ∈ registered axes lines ↔
      (∃ c, pin = .control c) ∨
      (∃ a n, n < min axes maxAxes ∧ pin = .axis a (UInt8.ofNat n)) ∨
      ∃ n, n < min lines maxLines ∧ pin = .line (UInt8.ofNat n) := by
  simp only [registered, ofAxis, List.mem_append, List.mem_map, List.mem_flatMap, List.mem_range,
    or_assoc]
  constructor
  · rintro (⟨c, _, rfl⟩ | ⟨n, hn, a, _, rfl⟩ | ⟨n, hn, rfl⟩)
    · exact .inl ⟨c, rfl⟩
    · exact .inr (.inl ⟨a, n, hn, rfl⟩)
    · exact .inr (.inr ⟨n, hn, rfl⟩)
  · rintro (⟨c, rfl⟩ | ⟨a, n, hn, rfl⟩ | ⟨n, hn, rfl⟩)
    · exact .inl ⟨c, c.mem_all, rfl⟩
    · exact .inr (.inl ⟨n, hn, a, a.mem_all, rfl⟩)
    · exact .inr (.inr ⟨n, hn, rfl⟩)

theorem ofNat_inj {m n : Nat} (hm : m < 256) (hn : n < 256)
    (h : UInt8.ofNat m = UInt8.ofNat n) : m = n := by
  have hnat := congrArg UInt8.toNat h
  rw [UInt8.toNat_ofNat_of_lt' hm, UInt8.toNat_ofNat_of_lt' hn] at hnat
  exact hnat

theorem nodup_axes {axes : Nat} (haxes : axes ≤ 256) :
    ((List.range axes).flatMap fun n => ofAxis (UInt8.ofNat n)).Nodup := by
  refine List.pairwise_flatMap.2 ⟨?_, ?_⟩
  · -- one axis: its controls differ
    intro n _
    refine List.pairwise_map.2 ?_
    refine List.Pairwise.imp ?_ (by decide : AxisControl.all.Nodup)
    intro a b hab h
    cases h
    exact hab rfl
  · -- two axes: below 256 their numbers differ as bytes, too
    refine List.Pairwise.imp_of_mem ?_ List.nodup_range
    intro m n hm hn hmn x hx y hy hxy
    rw [List.mem_range] at hm hn
    obtain ⟨a, _, rfl⟩ := List.mem_map.1 hx
    obtain ⟨b, _, rfl⟩ := List.mem_map.1 hy
    injection hxy with _ hindex
    exact hmn (ofNat_inj (by omega) (by omega) hindex)

theorem nodup_lines {lines : Nat} (hlines : lines ≤ 256) :
    ((List.range lines).map fun n => InputPin.line (UInt8.ofNat n)).Nodup := by
  refine List.pairwise_map.2 (List.Pairwise.imp_of_mem ?_ List.nodup_range)
  intro m n hm hn hmn h
  rw [List.mem_range] at hm hn
  injection h with hindex
  exact hmn (ofNat_inj (by omega) (by omega) hindex)

/-- **No pin is scanned twice.** -/
theorem nodup_registered (axes lines : Nat) : (registered axes lines).Nodup := by
  have haxes := nodup_axes (Nat.le_trans (Nat.min_le_right axes maxAxes) (by decide))
  have hlines := nodup_lines (Nat.le_trans (Nat.min_le_right lines maxLines) (by decide))
  refine List.nodup_append.2 ⟨List.nodup_append.2 ⟨by decide, haxes, ?_⟩, hlines, ?_⟩
  · -- a control is no pin of an axis
    intro x hx y hy hxy
    obtain ⟨c, _, rfl⟩ := List.mem_map.1 hx
    obtain ⟨n, _, hn⟩ := List.mem_flatMap.1 hy
    obtain ⟨a, _, rfl⟩ := List.mem_map.1 hn
    cases hxy
  · -- and a line is neither
    intro x hx y hy hxy
    obtain ⟨n, _, rfl⟩ := List.mem_map.1 hy
    rcases List.mem_append.1 hx with hx | hx
    · obtain ⟨c, _, rfl⟩ := List.mem_map.1 hx
      cases hxy
    · obtain ⟨m, _, hm⟩ := List.mem_flatMap.1 hx
      obtain ⟨a, _, rfl⟩ := List.mem_map.1 hm
      cases hxy

end InputPin
end OperatorPanel
