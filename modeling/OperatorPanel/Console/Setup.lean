import OperatorPanel.Command
import OperatorPanel.Link
import OperatorPanel.Pin.Sample

/-!
# The setup of a console

What turns samples into commands depends on: the part of the settings that is about pins, with
the manual lines in the form in which they are sent.
-/

namespace OperatorPanel

/-- How samples turn into commands. -/
structure Setup where
  polarities : List UInt8
  lines : List ManualLine
  probeTarget : ProbeTarget
  display : Display
  overrideEpsilon : Number
  spindleSpeed : Number
  deriving DecidableEq

namespace Setup

/-- The lines in the form in which they are sent; none if one is too long. -/
def manualLines? (lines : List String) : Option (List ManualLine) :=
  lines.mapM (BoundedText.ofString? maxLineBytes)

/-- The setup for some settings. -/
def ofSettings (s : Settings) : Except PanelError Setup :=
  match manualLines? s.lines with
  | some lines =>
    .ok
      { polarities := s.polarities, lines, probeTarget := s.probeTarget, display := s.display
        overrideEpsilon := s.overrideEpsilon, spindleSpeed := s.spindleSpeed }
  | none =>
    .error (.invalid ("mdi command longer than " ++ Text.decimal maxLineBytes ++ " bytes"))

def axisCount (s : Setup) : Nat := s.polarities.length

/-- Whether the jogs of an axis are inverted. -/
def inverted (s : Setup) (axis : UInt8) : Bool := s.polarities[axis.toNat]? = some 0

/-- The pins that are scanned, in order. -/
def registered (s : Setup) : List InputPin := InputPin.registered s.axisCount s.lines.length

end Setup

/-! ### Edges -/

namespace InputSample

/-- Whether a pin turns active between two samples. -/
def rises (before now : InputSample) (pin : InputPin) : Bool := now.bit pin && !before.bit pin

/-- Whether a pin turns inactive between two samples. -/
def falls (before now : InputSample) (pin : InputPin) : Bool := !now.bit pin && before.bit pin

/-- The value of a pin that is inactive. -/
def inactive (pin : InputPin) : PinValue :=
  match pin.kind with
  | .float => .float 0
  | .momentary | .level => .bit false

/-- Take over the values of some pins. -/
def takeOver (before : InputSample) (pins : List InputPin) (now : InputSample) : InputSample :=
  pins.foldl (fun s pin => s.insert pin ((now.get? pin).getD (inactive pin))) before

end InputSample
end OperatorPanel
