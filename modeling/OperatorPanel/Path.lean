import OperatorPanel.Text.Utf8

/-!
# Paths

A path is followed part by part from a directory on: `Path.follow` says where it leads, or what
stands in its way. Nothing is below what is missing or is a file, so an early fault hides a later
one. The tree of files is given by a function that says what stands where.
-/

namespace OperatorPanel

/-- What a file operation can fail with. -/
inductive FileFault where
  | noSuchFile
  | notDirectory
  | isDirectory
  | nameTooLong
  | nulInName
  deriving DecidableEq, Repr

/-- What is said about a file fault. -/
def FileFault.text : FileFault → String
  | noSuchFile => "No such file or directory (os error 2)"
  | notDirectory => "Not a directory (os error 20)"
  | isDirectory => "Is a directory (os error 21)"
  | nameTooLong => "File name too long (os error 36)"
  | nulInName => "file name contained an unexpected NUL byte"

/-- What stands at the end of a path. -/
inductive Place where
  | missing | file | directory
  deriving DecidableEq, Repr

namespace Path

/-- Bytes that a name may have. -/
def maxName : Nat := 255

/-- Bytes that a path may have. -/
def maxPath : Nat := 4095

/-- The parts of a path: what stands between its slashes. -/
def parts (path : String) : List String := (Text.split '/' path.toList).map String.ofList

/-- The names from the outermost directory to a place, and what stands there. -/
abbrev End := List String × Place

/-- Follow parts from an end; `look` says what stands in a tree of files. -/
def follow (look : List String → Place) : End → List String → Except FileFault End
  | found, [] => .ok found
  | (_, .missing), _ :: _ => .error .noSuchFile
  | (_, .file), _ :: _ => .error .notDirectory
  | (way, .directory), part :: parts =>
    if part = "" || part = "." then follow look (way, .directory) parts
    else if part = ".." then follow look (way.dropLast, .directory) parts
    else if maxName < part.utf8ByteSize then .error .nameTooLong
    else follow look (way ++ [part], look (way ++ [part])) parts

/-- What is wrong with the text of a path. -/
def textFault? (path : String) : Option FileFault :=
  if path.contains '\x00' then some .nulInName
  else if path = "" then some .noSuchFile
  else if maxPath < path.utf8ByteSize then some .nameTooLong
  else none

/-- Where a path leads. It starts at the outermost directory if its first character is a slash, and
otherwise in the directory with the way `start`. -/
def resolve (look : List String → Place) (start : List String) (path : String) :
    Except FileFault End :=
  match textFault? path with
  | some fault => .error fault
  | none =>
    follow look (if path.startsWith "/" then [] else start, .directory) (parts path)

/-- What keeps a directory from being read at the end of a path. -/
def directoryFault? : Except FileFault End → Option FileFault
  | .error fault => some fault
  | .ok (_, .missing) => some .noSuchFile
  | .ok (_, .file) => some .notDirectory
  | .ok (_, .directory) => none

end Path
end OperatorPanel
