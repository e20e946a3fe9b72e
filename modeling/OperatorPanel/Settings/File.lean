import OperatorPanel.Settings
import OperatorPanel.Text.Utf8
import OperatorPanel.Toml.Document

/-!
# Settings files

A settings file is a document with a section for every part of the program. What it leaves out has
its default value, and what it has beyond that is passed over; only the service name must stand in
its section, where there is one. A section may also be written as a list of its values in order.
Numbers that are too great for their kind are errors only where they are looked at.
-/

namespace OperatorPanel

open Toml

/-! ### Single values -/

/-- Values that are written as words. -/
abbrev Words (α : Type) := List (String × α)

def LogLevel.words : Words LogLevel :=
  [LogLevel.trace, .debug, .info, .warn, .error].map fun level => (level.word, level)

def WaitPolicy.words : Words WaitPolicy :=
  [("none", .none), ("received", .received), ("done", .done)]

def LinearUnits.words : Words LinearUnits :=
  [("AUTO", .auto), ("MM", .mm), ("INCH", .inch), ("CM", .cm), ("CUSTOM", .custom)]

def AngularUnits.words : Words AngularUnits :=
  [("AUTO", .auto), ("DEG", .deg), ("RAD", .rad), ("GRAD", .grad), ("CUSTOM", .custom)]

namespace Toml.Value

/-- A text. -/
def text? : Value → Option String
  | .text s => some s
  | _ => none

/-- A natural number below a bound. -/
def below? (bound : Nat) : Value → Option Nat
  | .integer n => if 0 ≤ n && n < bound then some n.toNat else none
  | _ => none

/-- A floating-point number, or an integer of 64 bits as the nearest one. -/
def number? : Value → Option Number
  | .float x => some x
  | .integer n => -- the range of 64 bits, with a sign or without one
    if (if n < 0 then n.natAbs ≤ valuesOf 63 else n.natAbs < valuesOf 64) then some (.ofInt n)
    else none
  | _ => none

/-- Whether an array or a table has nothing in it. -/
def isEmpty : Value → Bool
  | .array items => items.isEmpty
  | .table _ entries => entries.isEmpty
  | _ => false

/-- A word; it may also be written as the one key of a table that has nothing under it. -/
def word? {α : Type} (words : Words α) : Value → Option α
  | .text s => words.lookup s
  | .table _ [(s, v)] => if v.isEmpty then words.lookup s else none
  | _ => none

/-- The items of an array, or the tables of some rows. -/
def items? : Value → Option (List Value)
  | .array items => some items
  -- rows are kept with the newest first
  | .rows tables => some (tables.reverse.map (.table .header))
  | _ => none

/-! ### Sections -/

/-- The section that a value is, with fields of these names: a table, a list of values for the
first of the names, or a date, which has none of the fields. What has no place in a list is not
looked at; what has another name in a table must at least be readable. -/
def section? (names : List String) : Value → Option Entries
  | .table _ entries =>
    if entries.all fun (name, v) => names.contains name || v.isReadable then some entries else none
  | .moment => some []
  | v => v.items?.map names.zip

end Toml.Value

namespace Toml.Entries

/-- Read a field of a section that must be there. -/
def require {α : Type} (entries : Entries) (name : String) (read : Value → Option α) : Option α :=
  (entries.lookup name).bind read

/-- Read a field of a section, which has a default. -/
def get {α : Type} (entries : Entries) (name : String) (read : Value → Option α) (default : α) :
    Option α :=
  match entries.lookup name with
  | none => some default
  | some v => read v

/-- Read a section within a section; nothing changes where there is none. -/
def within? {α : Type} (entries : Entries) (name : String) (names : List String)
    (read : Entries → α → Option α) (default : α) : Option α :=
  entries.get name (fun v => do read (← v.section? names) default) default

end Toml.Entries

namespace Settings

/-! ### The sections of a settings file -/

/-- Read what concerns the whole service. -/
def readShared (f : Entries) (s : Settings) : Option Settings := do
  return { s with
    logLevel := ← f.get "log_level" (·.word? LogLevel.words) s.logLevel
    serviceName := ← f.require "service_name" (·.text?) }

/-- A natural number of 64 bits. -/
def wide? (v : Value) : Option UInt64 := (v.below? (valuesOf 64)).map UInt64.ofNat

def bridgeFields : List String :=
  ["debug", "channel_id", "cycle_time_ms", "wait_policy", "wait_timeout_s", "poll_interval_ms",
    "connect_retry_time_s", "connect_retry_interval_s", "override_epsilon",
    "default_spindle_speed", "stats_interval"]

/-- Read what concerns the bridge to the controller. -/
def readBridge (f : Entries) (s : Settings) : Option Settings := do
  return { s with
    debug := ← f.get "debug" (fun v => (v.below? (valuesOf 32)).map UInt32.ofNat) s.debug
    channelId := ← f.get "channel_id" (·.text?) s.channelId
    cycleMillis := ← f.get "cycle_time_ms" wide? s.cycleMillis
    waitPolicy := ← f.get "wait_policy" (·.word? WaitPolicy.words) s.waitPolicy
    waitTimeout := ← f.get "wait_timeout_s" (·.number?) s.waitTimeout
    pollMillis := ← f.get "poll_interval_ms" wide? s.pollMillis
    retryTime := ← f.get "connect_retry_time_s" (·.number?) s.retryTime
    retryInterval := ← f.get "connect_retry_interval_s" (·.number?) s.retryInterval
    overrideEpsilon := ← f.get "override_epsilon" (·.number?) s.overrideEpsilon
    spindleSpeed := ← f.get "default_spindle_speed" (·.number?) s.spindleSpeed
    statsInterval := ← f.get "stats_interval" wide? s.statsInterval }

/-- Read what concerns the display. -/
def readDisplay (f : Entries) (s : Settings) : Option Settings := do
  return { s with
    display :=
      { linear := ← f.get "linear_units" (·.word? LinearUnits.words) s.display.linear
        angular := ← f.get "angular_units" (·.word? AngularUnits.words) s.display.angular } }

/-- Read a position: three numbers, and what follows them is passed over. -/
def target? (v : Value) : Option ProbeTarget := do
  match ← v.items? with
  | x :: y :: z :: _ => return { x := ← x.number?, y := ← y.number?, z := ← z.number? }
  | _ => none

/-- Read what concerns probing. -/
def readProbe (f : Entries) (s : Settings) : Option Settings := do
  return { s with probeTarget := ← f.get "target" target? s.probeTarget }

/-- Read the polarity of one axis. -/
def polarity? (v : Value) : Option UInt8 := do
  let f ← v.section? ["jogging_polarity"]
  f.get "jogging_polarity" (fun v => (v.below? (valuesOf 8)).map UInt8.ofNat) 1

def sections : List String := ["shared", "bridge", "display", "axes", "probe", "mdi_commands"]

/-- Read the settings that a document makes. -/
def ofEntries? (entries : Entries) : Option Settings := do
  let f ← Value.section? sections (.table .header entries)
  let s ← f.within? "shared" ["log_level", "service_name"] readShared {}
  let s ← f.within? "bridge" bridgeFields readBridge s
  let s ← f.within? "display" ["linear_units", "angular_units"] readDisplay s
  let s ← f.within? "probe" ["target"] readProbe s
  return { s with
    polarities := ← f.get "axes" (fun v => do (← v.items?).mapM polarity?) s.polarities
    lines := ← f.get "mdi_commands" (fun v => do (← v.items?).mapM (·.text?)) s.lines }

/-- Read the settings from the text of a settings file. -/
def ofText (text : String) : Except SettingsError Settings :=
  match (Toml.read? text).bind ofEntries? with
  | some s => .ok s
  | none => .error .unreadable

end Settings

/-- What stands where a settings file should be. -/
inductive SettingsFile where
  | missing
  /-- Something is in the way, or what stands there is no file. -/
  | unreadable
  | file (bytes : List UInt8)
  deriving DecidableEq, Repr

/-- The settings in a file. -/
def SettingsFile.load : SettingsFile → Except SettingsError Settings
  | missing => .error .missing
  | unreadable => .error .unreadable
  | file bytes =>
    match Text.Utf8.decode bytes with
    | .error _ => .error .unreadable
    | .ok text => Settings.ofText text

end OperatorPanel
