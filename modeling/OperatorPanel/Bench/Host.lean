import OperatorPanel.Service

/-!
# A host

A host is where the program as a whole is tried: a directory that may hold a settings file, and
the segments of a controller that is running. `Host.run` says what can be seen from outside when
the program has ended.
-/

namespace OperatorPanel

/-- Where the program is started. -/
structure Host where
  /-- The path of the directory in which it is started. -/
  root : String
  /-- The text of the settings file there. -/
  settings : Option String := none
  /-- The status that a running controller shows. -/
  controller : Option Status := none
  /-- The log filter that is asked for. -/
  asked : Option String := none
  /-- The process of the program. -/
  self : UInt32
  /-- The process of the controller. -/
  other : UInt32
  now : Nat

namespace Host

/-- The name of the settings file. -/
def settingsName : String := "hmi.toml"

/-! ### Files -/

/-- The way to the directory in which the program is started. -/
def start (h : Host) : List String := ["tmp", h.root]

/-- The directories that every host has. -/
def directories : List (List String) :=
  [] :: ["dev", "shm"]
    :: (["bin", "dev", "etc", "home", "lib", "opt", "proc", "root", "run", "sbin", "sys", "tmp",
      "usr", "var"].map ([·]))

/-- The file that every host has, and that has nothing in it. -/
def emptyFile : List String := ["dev", "null"]

/-- What stands on the host. -/
def look (h : Host) (way : List String) : Place :=
  if way = h.start || directories.contains way then .directory
  else if way = emptyFile then .file
  else if way = h.start ++ [settingsName] && h.settings.isSome then .file
  else .missing

/-- Where a path leads on the host. -/
def resolve (h : Host) (path : String) : Except FileFault Path.End :=
  Path.resolve h.look h.start (if path.startsWith h.root then "/tmp/" ++ path else path)

/-- What stands at a path where a settings file is looked for. -/
def settingsFile (h : Host) (path : String) : SettingsFile :=
  match h.resolve path with
  | .error .noSuchFile | .ok (_, .missing) => .missing
  | .error _ | .ok (_, .directory) => .unreadable
  | .ok (way, .file) =>
    .file (if way = emptyFile then [] else Text.Utf8.encode (h.settings.getD ""))

/-- The directory at a path, without any segments. -/
def directoryAt (h : Host) (path : String) : Directory :=
  { root := path
    fault := Path.directoryFault? (h.resolve path)
    self := h.other
    alive := fun pid => pid = h.self || pid = h.other || pid = 0 || pid = 1
    now := h.now }

/-- Whether a path leads to the directory in which the program is started. -/
def isStart (h : Host) (path : String) : Bool :=
  match h.resolve path with
  | .ok (way, _) => way = h.start
  | .error _ => false

/-- The segments of the controller, put into a directory. -/
def withController (h : Host) (d : Directory) : Directory :=
  match h.controller with
  | none => d
  | some status =>
    let c := d.create "cli_stat" Segment.minSize
    let d := match c.result, Frame.encode Codec.status .status status with
      | .ok w, .ok bytes => (w.write bytes c.directory).2
      | _, _ => c.directory
    (d.create "cli_err" Segment.minSize).directory

/-! ### The program -/

/-- What surrounds the program. -/
def world (h : Host) (root : String) : World :=
  let d := h.directoryAt root
  let d := if h.isStart root then h.withController d else d
  { simulator := { status := {} }, directory := { d with self := h.self } }

/-- What can be seen from outside. -/
structure Seen where
  exit : UInt8
  log : List Record := []
  versionLine : Option String := none
  /-- The names in the directory, without the files of the controller. -/
  files : List String

/-- The names of a directory, without the files of the controller. -/
def filesLeft (h : Host) (d : Directory) : List String :=
  let names := (d.entries.map (·.1)).filter fun name =>
    !(["cli_stat", "cli_err"].map fun s => Directory.fileName s h.other).contains name
  if h.settings.isSome then settingsName :: names else names

/-- Start the program with some arguments; the order to stop comes in its first cycle. None where
it would never end. -/
def run (h : Host) (args : List String) : Option Seen :=
  let untouched := h.filesLeft (h.directoryAt h.root)
  match Request.ofArguments? args with
  | none => some { exit := 2, files := untouched }
  | some .help => some { exit := 0, files := untouched }
  | some .version =>
    some { exit := 0, versionLine := some Service.versionLine, files := untouched }
  | some (.run o) =>
    match Service.run o h.asked (h.settingsFile o.settings) 1 (h.world o.root) with
    | none => none
    | some e =>
      some
        { exit := e.exit, log := if o.json then e.log else []
          files := h.filesLeft e.world.directory }

end Host
end OperatorPanel
