import OperatorPanel.Segment.File

/-!
# The segment directory

The files of all segments stand in one directory, under names that give the segment and the
process that owns it. A file is found by its name until it is removed, and stays readable for
whoever holds it: an entry leads to a file by a number that is never used again.
-/

namespace OperatorPanel

/-- A directory of segment files, and what is known about processes. -/
structure Directory where
  /-- Where it is. -/
  root : String
  /-- What keeps it from being read, if it cannot be read. -/
  fault : Option FileFault := none
  /-- The process that acts. -/
  self : UInt32
  /-- Whether a process is running. -/
  alive : UInt32 → Bool
  /-- The names, each with the number of its file. -/
  entries : List (String × Nat) := []
  /-- All files there ever were, by number. -/
  files : List SegmentFile := []
  /-- The time, for the times that files carry. -/
  now : Nat := 0

namespace Directory

/-! ### Names -/

/-- What the names of the files of a segment start with. -/
def stem (name : String) : String := "hmi_" ++ name ++ "_"

/-- The name of the file of a segment that a process owns. -/
def fileName (name : String) (pid : UInt32) : String := stem name ++ Text.decimal pid.toNat

/-- The path of a file in a directory. -/
def pathOf (root file : String) : String :=
  (if root = "" || root.endsWith "/" then root else root ++ "/") ++ file

/-- The path of that file. -/
def path (root name : String) (pid : UInt32) : String := pathOf root (fileName name pid)

/-- The process that owns a file of the segment; none for other files. -/
def owner? (name file : String) : Option UInt32 :=
  (Text.after? (stem name).toList file.toList).bind fun digits =>
  (Text.unsigned? digits).bind fun pid =>
  if pid < valuesOf 32 then some (UInt32.ofNat pid) else none

/-! ### Files -/

/-- What stands in the directory; everything in it is a file. -/
def look (d : Directory) (way : List String) : Place :=
  match way with
  | [] => .directory
  | [file] => if d.entries.any (·.1 = file) then .file else .missing
  | _ => .missing

/-- The name of the file, new or old, to which a path from the directory leads. -/
def locate (d : Directory) (path : String) : Except FileFault String :=
  match (Path.textFault? (pathOf d.root path)).or d.fault with
  | some fault => .error fault
  | none =>
    match Path.follow d.look ([], .directory) (Path.parts path) with
    | .error fault => .error fault
    | .ok (_, .directory) => .error .isDirectory
    | .ok (way, _) => .ok (way.getLastD "")

/-- The number of the file under a name. -/
def number? (d : Directory) (file : String) : Option Nat := d.entries.lookup file

/-- The file of a number. -/
def file (d : Directory) (number : Nat) : SegmentFile := d.files.getD number default

/-- Change a file. -/
def modify (d : Directory) (number : Nat) (f : SegmentFile → SegmentFile) : Directory :=
  { d with files := d.files.modify number f }

/-- Change the header of a file. -/
def modifyHeader (d : Directory) (number : Nat) (f : SegmentHeader → SegmentHeader) : Directory :=
  d.modify number fun file => { file with header := f file.header }

/-- Put a new file under a name. -/
def add (d : Directory) (name : String) (file : SegmentFile) : Directory :=
  { d with
    entries := d.entries.filter (·.1 ≠ name) ++ [(name, d.files.length)]
    files := d.files ++ [file] }

/-- Remove a name. -/
def remove (d : Directory) (name : String) : Directory :=
  { d with entries := d.entries.filter (·.1 ≠ name) }

/-- Let time pass. -/
def tick (d : Directory) : Directory := { d with now := d.now + 1 }

/-- A file of a segment. -/
structure Match where
  file : String
  pid : UInt32
  number : Nat
  deriving DecidableEq, Repr

/-- The files of a segment, in the order of the directory. -/
def find (d : Directory) (name : String) : Except SegmentFault (List Match) :=
  match d.fault with
  | some .noSuchFile => .error (.notFound d.root)
  | some fault => .error (.file fault)
  | none =>
    .ok (d.entries.filterMap fun (file, number) =>
      (owner? name file).map fun pid => { file, pid, number })

end Directory
end OperatorPanel
