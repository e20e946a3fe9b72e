import OperatorPanel.Status

/-!
# Units of display

Values that the controller reports in native units are shown in the units of the display. Where
no conversion is known the value is shown as it is.
-/

namespace OperatorPanel

/-- Linear units of display. -/
inductive LinearUnits where
  /-- Those of the active program. -/
  | auto
  | mm | inch | cm
  /-- The native value, whatever it stands for. -/
  | custom
  deriving DecidableEq, Repr, Inhabited

/-- Angular units of display. -/
inductive AngularUnits where
  | auto | deg | rad | grad | custom
  deriving DecidableEq, Repr, Inhabited

namespace Units

def inchPerMm : Number := 1 / 25.4
def cmPerMm : Number := 0.1

/-- The number nearest to π. -/
def pi : Number := ⟨0x400921fb54442d18⟩

def radPerDeg : Number := pi / 180
def gradPerDeg : Number := 100 / 90

/-- Show a linear value; `scale` is the number of native units per millimetre. -/
def linear (value scale : Number) (program : ProgramUnits) (mode : LinearUnits) : Number :=
  let mm := value / scale
  match mode with
  | .mm => mm
  | .inch => mm * inchPerMm
  | .cm => mm * cmPerMm
  | .custom => value
  | .auto =>
    match program with
    | .mm => mm
    | .inches => mm * inchPerMm
    | .cm => mm * cmPerMm
    | .unknown => value  -- nothing is known about the program's units: the native value is shown

/-- Show an angle given in degrees. -/
def angular (value : Number) (program : ProgramAngle) (mode : AngularUnits) : Number :=
  match mode with
  | .deg => value
  | .rad => value * radPerDeg
  | .grad => value * gradPerDeg
  | .custom => value
  | .auto =>
    match program with
    | .deg => value
    | .rad => value * radPerDeg
    | .grad => value * gradPerDeg
    | .unknown => value

end Units
end OperatorPanel
