import OperatorPanel.Settings

/-!
# The journal

What the program reports while it runs. A record names the part of the program that wrote it, so
that parts can be silenced, and says whether channel diagnostics were silenced when it was
written.
-/

namespace OperatorPanel

/-- The parts of the program that report. -/
inductive Source where
  | service | lifecycle | channel | pins | bridge | segmentWriter
  deriving DecidableEq, Repr

/-- The name by which log directives select a part. -/
def Source.label : Source → String
  | service => "hmi_bridge"
  | lifecycle => "hmi_bridge::lifecycle"
  | channel => "hmi_bridge::channel"
  | pins => "hmi_bridge::pins"
  | bridge => "hmi_bridge::bridge"
  | segmentWriter => "hmi_shm::writer"

/-- One report. -/
structure Record where
  level : LogLevel
  source : Source
  message : String
  fields : List (String × String)
  /-- Written while channel diagnostics were silenced. -/
  silenced : Bool
  deriving DecidableEq

end OperatorPanel
