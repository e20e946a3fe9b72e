import OperatorPanel.Journal.Line
import OperatorPanel.Service

/-!
# The program

The outer layer: it reads the arguments and the settings file, prints the log, and paces the
cycles. The order to stop is a line on standard input, or its end. The segments of the program
live in the memory of the process, in a directory of their own.
-/

namespace OperatorPanel.Main

/-- The text that a request for help is answered with. -/
def helpText : String :=
  String.intercalate "\n"
    ["Operator-interface bridge between panel pins and a machine controller", "",
      "Usage: hmi_bridge [OPTIONS]", "",
      "Options:",
      "  -c, --config <CONFIG>  Path to the bridge configuration file [default: "
        ++ ({} : Options).settings ++ "]",
      "  -s, --simulate         Use the in-process simulated controller instead of shared memory",
      "      --shm-root <DIR>   Directory holding the shared-memory segment files [default: "
        ++ ({} : Options).root ++ "]",
      "  -v, --verbose          Enable verbose logging",
      "      --json             Output logs in JSON format",
      "  -h, --help             Print help",
      "  -V, --version          Print version"]

/-- The text that a mistake in the arguments is answered with. -/
def usageText : String :=
  "error: invalid arguments\n\nUsage: hmi_bridge [OPTIONS]\n\nFor more information, try '--help'."

/-- What stands where a settings file is looked for. -/
def settingsFile (path : String) : IO SettingsFile := do
  try
    let bytes ← IO.FS.readBinFile path
    return .file bytes.toList
  catch
    | .noFileOrDirectory .. => return .missing
    | _ => return .unreadable

/-- What keeps the segment directory from being read. -/
def rootFault? (path : String) : IO (Option FileFault) := do
  let path := System.mkFilePath [path]
  if ← path.isDir then return none
  else if ← path.pathExists then return some .notDirectory
  else return some .noSuchFile

/-- The world at the start of the program. -/
def firstWorld (o : Options) : IO World := do
  let fault ← rootFault? o.root
  return {
    simulator := { status := {} }
    directory := { root := o.root, fault, self := 1, alive := (· = 1), now := ← IO.monoNanosNow } }

/-- Print records. -/
def print (o : Options) (records : List Record) : IO Unit :=
  records.forM fun r => IO.println (if o.json then r.jsonLine else r.line)

/-- Print what the program still has to say, and give its exit code. -/
def finish (o : Options) : Option Service.Ending → IO UInt32
  | none => return 1
  | some ending => do
    print o ending.log
    return ending.exit.toUInt32

/-- Cycles until the order to stop comes. -/
partial def loop (o : Options) (s : Service.Working) (order : Task (Except IO.Error String)) :
    IO UInt32 := do
  print o s.log
  let s := { s with log := [] }
  if ← IO.hasFinished order then finish o s.stop
  else
    IO.sleep (UInt32.ofNat s.panel.value.cycleTime.millis)
    match s.cycle with
    | none => return 1
    | some s => loop o s order

/-- Run the program with its options. -/
def run (o : Options) : IO UInt32 := do
  let file ← settingsFile o.settings
  let asked ← IO.getEnv "HMI_LOG"
  match Service.begin? o asked file (← firstWorld o) with
  | none => return 1
  | some (.inr ending) => finish o (some ending)
  | some (.inl s) =>
    let input ← IO.getStdin
    loop o s (← IO.asTask input.getLine)

end OperatorPanel.Main

/-- The program. -/
def main (args : List String) : IO UInt32 := do
  match OperatorPanel.Request.ofArguments? args with
  | none =>
    IO.eprintln OperatorPanel.Main.usageText
    return 2
  | some .help =>
    IO.println OperatorPanel.Main.helpText
    return 0
  | some .version =>
    IO.println OperatorPanel.Service.versionLine
    return 0
  | some (.run o) => OperatorPanel.Main.run o
