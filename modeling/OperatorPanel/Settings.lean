import OperatorPanel.Number.Decimal
import OperatorPanel.Span
import OperatorPanel.Units

/-!
# Settings

What an installation can choose, with the values taken where it chooses nothing. A `Settings`
value may be anything; `Settings.fault?` is the check that settings pass before they are used.
-/

namespace OperatorPanel

/-- How much is logged. -/
inductive LogLevel where
  | trace | debug | info | warn | error
  deriving DecidableEq, Repr, Inhabited

/-- The word for a level, in log directives and in settings files. -/
def LogLevel.word : LogLevel → String
  | trace => "trace"
  | debug => "debug"
  | info => "info"
  | warn => "warn"
  | error => "error"

/-- How long a dispatch waits after its command is written. -/
inductive WaitPolicy where
  /-- Not at all. -/
  | none
  /-- Until the controller echoes the serial. -/
  | received
  /-- Until the echoed command is done or has failed. -/
  | done
  deriving DecidableEq, Repr, Inhabited

/-- The name of a policy, as the log shows it. -/
def WaitPolicy.label : WaitPolicy → String
  | none => "None"
  | received => "Received"
  | done => "Done"

/-- The units in which values are shown. -/
structure Display where
  linear : LinearUnits := .auto
  angular : AngularUnits := .auto
  deriving DecidableEq, Inhabited

/-- A position to probe for. -/
structure ProbeTarget where
  x : Number := 0
  y : Number := 0
  z : Number := -10
  deriving DecidableEq, Inhabited

/-- The bit of the debug mask that keeps channel diagnostics visible during connect. -/
def debugChannels : UInt32 := 0x40

/-- What an installation can choose. -/
structure Settings where
  logLevel : LogLevel := .info
  serviceName : String := "hmi_bridge"
  /-- The debug mask. -/
  debug : UInt32 := 0
  /-- What the controller's channels are named after. -/
  channelId : String := "emc"
  /-- Milliseconds between cycles. -/
  cycleMillis : UInt64 := 20
  waitPolicy : WaitPolicy := .done
  /-- Seconds; zero waits without limit. -/
  waitTimeout : Number := 0
  pollMillis : UInt64 := 100
  /-- Seconds in which a connection must come about. -/
  retryTime : Number := 10
  /-- Seconds between attempts at it. -/
  retryInterval : Number := 1
  /-- The least change of an override pin that is sent. -/
  overrideEpsilon : Number := 0.0001
  /-- The spindle speed where none is active. -/
  spindleSpeed : Number := 500
  /-- Cycles between statistics; zero for none. -/
  statsInterval : UInt64 := 1000
  display : Display := {}
  /-- A polarity per axis; zero inverts its jogs. -/
  polarities : List UInt8 := List.replicate 6 1
  probeTarget : ProbeTarget := {}
  /-- The manual lines that pins can run. -/
  lines : List String := []
  deriving DecidableEq, Inhabited

/-- What is wrong with settings. -/
inductive SettingsFault where
  | emptyServiceName
  | emptyChannelId
  | zeroCycle
  | zeroPoll
  | negative (field : String) (value : Number)
  | tooLong (field : String) (value : Number)
  | tooManyAxes (count : Nat)
  | tooManyLines (count : Nat)
  | lineTooLong (line : String)
  | probeNotFinite
  deriving DecidableEq

/-- What is said about a fault. -/
def SettingsFault.text : SettingsFault → String
  | emptyServiceName => "service_name cannot be empty"
  | emptyChannelId => "bridge.channel_id cannot be empty"
  | zeroCycle => "bridge.cycle_time_ms must be > 0"
  | zeroPoll => "bridge.poll_interval_ms must be > 0"
  | negative field value =>
    "bridge." ++ field ++ " must be a finite value >= 0, got " ++ value.text
  | tooLong field value => "bridge." ++ field ++ " is out of range, got " ++ value.text
  | tooManyAxes count =>
    "at most " ++ Text.decimal maxAxes ++ " axes supported, got " ++ Text.decimal count
  | tooManyLines count =>
    "at most " ++ Text.decimal maxLines ++ " mdi_commands supported, got " ++ Text.decimal count
  | lineTooLong line => -- a long line is shown by its beginning
    "mdi command longer than " ++ Text.decimal maxLineBytes ++ " bytes: "
      ++ String.ofList (line.toList.take 32) ++ "..."
  | probeNotFinite => "probe.target must be finite"

/-- A settings file that cannot be used. -/
inductive SettingsError where
  | missing
  /-- The file is not text, or not settings. -/
  | unreadable
  | invalid (fault : SettingsFault)
  deriving DecidableEq

/-- What is said about such a file; where reading failed, without the reason. -/
def SettingsError.text : SettingsError → String
  | missing => "Configuration file not found"
  | unreadable => "Failed to parse configuration"
  | invalid fault => "Configuration validation failed: " ++ fault.text

namespace Settings

/-! ### Derived values -/

def cycleTime (s : Settings) : Span := .ofMillis s.cycleMillis.toNat

def pollInterval (s : Settings) : Span := .ofMillis s.pollMillis.toNat

/-- The limit of a wait; none for waits without limit. -/
def waitLimit (s : Settings) : Option Span :=
  if 0 < s.waitTimeout then some (.ofSeconds s.waitTimeout) else none

def retryTotal (s : Settings) : Span := .ofSeconds s.retryTime

def retryPause (s : Settings) : Span := .ofSeconds s.retryInterval

/-- Whether channel diagnostics stay visible during connect. -/
def showsChannels (s : Settings) : Bool := s.debug &&& debugChannels != 0

/-- Whether the jogs of an axis are inverted. -/
def inverted (s : Settings) : List Bool := s.polarities.map (· == 0)

/-! ### Validity -/

/-- The numbers that must be finite and not negative, with their names. -/
def amounts (s : Settings) : List (String × Number) :=
  [("wait_timeout_s", s.waitTimeout),
    ("connect_retry_time_s", s.retryTime),
    ("connect_retry_interval_s", s.retryInterval),
    ("override_epsilon", s.overrideEpsilon),
    ("default_spindle_speed", s.spindleSpeed)]

/-- Those of them that are times. -/
def times (s : Settings) : List (String × Number) := s.amounts.take 3

/-- A fault, where something is bad. -/
def refuse (bad : Bool) (fault : SettingsFault) : Option SettingsFault :=
  if bad then some fault else none

/-- The first line that is too long to be sent. -/
def longLine? (s : Settings) : Option String := s.lines.find? (maxLineBytes < ·.utf8ByteSize)

/-- All checks, in the order in which faults are reported. -/
def checks (s : Settings) : List (Option SettingsFault) :=
  [refuse (s.serviceName == "") .emptyServiceName,
    refuse (s.channelId == "") .emptyChannelId,
    refuse (s.cycleMillis == 0) .zeroCycle,
    refuse (s.pollMillis == 0) .zeroPoll]
  ++ s.amounts.map (fun (field, value) =>
    refuse (!value.isFinite || value < 0) (.negative field value))
  ++ s.times.map (fun (field, value) =>
    refuse (Span.ofSeconds? value).isNone (.tooLong field value))
  ++ [refuse (maxAxes < s.polarities.length) (.tooManyAxes s.polarities.length),
    refuse (maxLines < s.lines.length) (.tooManyLines s.lines.length),
    s.longLine?.map .lineTooLong,
    refuse (!(s.probeTarget.x.isFinite && s.probeTarget.y.isFinite && s.probeTarget.z.isFinite))
      .probeNotFinite]

/-- The first thing that is wrong with settings; none if they can be used. -/
def fault? (s : Settings) : Option SettingsFault := s.checks.findSome? id

/-- Settings that can be used pass every check. -/
theorem eq_none_of_mem_checks {s : Settings} (h : s.fault? = none) {check : Option SettingsFault}
    (hcheck : check ∈ s.checks) : check = none :=
  List.findSome?_eq_none_iff.1 h check hcheck

theorem refuse_eq_none_iff {bad : Bool} {fault : SettingsFault} :
    refuse bad fault = none ↔ bad = false := by
  cases bad <;> simp [refuse]

theorem not_bad {s : Settings} (h : s.fault? = none) {bad : Bool} (fault : SettingsFault)
    (hcheck : refuse bad fault ∈ s.checks) : bad = false :=
  refuse_eq_none_iff.1 (eq_none_of_mem_checks h hcheck)

/-- Clients with such settings sleep between their looks. -/
theorem pollInterval_pos {s : Settings} (h : s.fault? = none) : 0 < s.pollInterval.nanos := by
  have hpoll : (s.pollMillis == 0) = false := not_bad h .zeroPoll (by simp [checks])
  have hmillis : s.pollMillis.toNat ≠ 0 := by
    intro hnat
    have hzero : s.pollMillis = 0 := UInt64.toNat_inj.1 hnat
    rw [hzero] at hpoll
    cases hpoll
  exact Nat.mul_pos (Nat.pos_of_ne_zero hmillis) (by decide)

/-- There are pins for all their axes. -/
theorem axes_le {s : Settings} (h : s.fault? = none) : s.polarities.length ≤ maxAxes := by
  have haxes : decide (maxAxes < s.polarities.length) = false :=
    not_bad h (.tooManyAxes s.polarities.length) (by simp [checks])
  exact Nat.not_lt.1 (of_decide_eq_false haxes)

/-- There are pins for all their lines. -/
theorem lines_le {s : Settings} (h : s.fault? = none) : s.lines.length ≤ maxLines := by
  have hlines : decide (maxLines < s.lines.length) = false :=
    not_bad h (.tooManyLines s.lines.length) (by simp [checks])
  exact Nat.not_lt.1 (of_decide_eq_false hlines)

/-- All their lines are short enough to be sent. -/
theorem line_le {s : Settings} (h : s.fault? = none) {line : String} (hline : line ∈ s.lines) :
    line.utf8ByteSize ≤ maxLineBytes := by
  have hlong : s.longLine?.map SettingsFault.lineTooLong = none :=
    eq_none_of_mem_checks h (by simp [checks])
  have hall := List.find?_eq_none.1 (Option.map_eq_none_iff.1 hlong) line hline
  exact Nat.not_lt.1 (by simpa using hall)

/-- Their amounts are finite and not negative. -/
theorem amount_nonneg {s : Settings} (h : s.fault? = none) (field : String) {value : Number}
    (hmem : (field, value) ∈ s.amounts) : value.isFinite = true ∧ 0 ≤ value := by
  have hvalue : (!value.isFinite || decide (value < 0)) = false := by
    apply not_bad h (.negative field value)
    simp only [checks, List.mem_append, List.mem_map]
    exact .inl (.inl (.inr ⟨_, hmem, rfl⟩))
  simp only [Bool.or_eq_false_iff, Bool.not_eq_false', decide_eq_false_iff_not] at hvalue
  obtain ⟨hfinite, hless⟩ := hvalue
  exact ⟨hfinite, Number.le_of_not_lt (by decide +kernel) (Number.isNaN_of_isFinite hfinite) hless⟩

end Settings
end OperatorPanel
