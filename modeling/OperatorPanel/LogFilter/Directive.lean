import OperatorPanel.Journal
import OperatorPanel.LogFilter.FieldValue

/-!
# Log directives

A directive sets how much is logged. It is written `target[span{field=value}]=level`, and nearly
everything in it may be left out: a word alone is a level or else a target, for which everything is
logged. `LogDirective.ofText` reads one character after the other and remembers where the part
began that it is in. Blanks around a directive are passed over when its characters are counted, but
not when parts are taken from it, so that a directive after a blank is read wrongly.
-/

namespace OperatorPanel

/-! ### Levels -/

/-- How much a level lets through: nothing for zero, and everything for five. -/
abbrev Verbosity := Nat

/-- The least verbosity that lets a record of the level through. -/
def LogLevel.verbosity : LogLevel → Verbosity
  | error => 1
  | warn => 2
  | info => 3
  | debug => 4
  | trace => 5

namespace Verbosity

/-- The verbosity of everything. -/
def all : Verbosity := LogLevel.trace.verbosity

/-- The words for verbosities, in lower case. -/
def words : List (String × Verbosity) :=
  [("off", 0), ("error", 1), ("warn", 2), ("info", 3), ("debug", 4), ("trace", 5), ("", 1)]

/-- A verbosity, as a number or a word. -/
def ofText? (cs : List Char) : Option Verbosity :=
  match Text.unsigned? cs with
  | some n => if n ≤ all then some n else none
  | none => words.lookup (String.ofList cs).toLower

end Verbosity

/-! ### Directives -/

/-- A field that a directive asks for. -/
structure LogField where
  name : String
  /-- The directive asks for a value of the field, too. -/
  hasValue : Bool
  deriving DecidableEq, Repr

/-- A part of a filter. -/
structure LogDirective where
  /-- What the labels start with that it is for; none for all of them. -/
  target : Option String := none
  /-- The name of the span that it is for. -/
  span : Option String := none
  fields : List LogField := []
  verbosity : Verbosity := Verbosity.all
  deriving DecidableEq, Repr

namespace LogDirective

/-- Why a directive cannot be read. -/
inductive Fault where
  | unreadable
  /-- A part would begin or end within a character. -/
  | splitCharacter
  deriving DecidableEq, Repr

/-- The characters before and after a place in a text; places are counted in bytes. -/
def splitAt : List Char → (place : Nat) → Except Fault (List Char × List Char)
  | cs, 0 => .ok ([], cs)
  | [], _ + 1 => .error .splitCharacter
  | c :: cs, place + 1 =>
    if c.utf8Size ≤ place + 1 then
      (splitAt cs (place + 1 - c.utf8Size)).map fun (before, after) => (c :: before, after)
    else .error .splitCharacter

/-- What stands from one place in a text to another. -/
def slice (text : List Char) (start finish : Nat) : Except Fault (List Char) := do
  let (before, _) ← splitAt text finish
  return (← splitAt before start).2

/-- The part of a directive that is being read, with the place where it began. -/
inductive Part where
  | nothing
  /-- A target, or a level alone. -/
  | word
  | span (start : Nat)
  | field (start : Nat)
  /-- The fields have ended. -/
  | fields
  /-- The bracket is closed. -/
  | closed
  | level (start : Nat)
  deriving DecidableEq, Repr

/-- How far a directive was read. -/
structure Draft where
  part : Part := .nothing
  directive : LogDirective := {}

/-- Whether a directive can start with a character. -/
def isStart (c : Char) : Bool := Text.isAlphanumeric c || c == '-' || c == ':' || c == '_'

/-- A field, with a value after an equals sign. -/
def fieldOf (cs : List Char) : Except Fault LogField :=
  match Text.cut? '=' cs with
  | none => if cs.isEmpty then .error .unreadable else .ok ⟨String.ofList cs, false⟩
  | some (name, value) =>
    if FieldValue.isValue (value.takeWhile (· != '=')) then .ok ⟨String.ofList name, true⟩
    else .error .unreadable

/-- The level after an equals sign; everything where nothing stands there. -/
def levelOf (cs : List Char) : Except Fault Verbosity :=
  if cs.isEmpty then .ok Verbosity.all
  else
    match Verbosity.ofText? cs with
    | some verbosity => .ok verbosity
    | none => .error .unreadable

/-- Read the character at some place. -/
def read (text : List Char) (d : Draft) (place : Nat) (c : Char) : Except Fault Draft :=
  match d.part, c with
  | .nothing, '[' => .ok { d with part := .span (place + 1) }
  | .nothing, c => if isStart c then .ok { d with part := .word } else .error .unreadable
  | .word, '=' => do
    let target ← slice text 0 place
    return ⟨.level (place + 1), { d.directive with target := some (String.ofList target) }⟩
  | .word, '[' => do
    let target ← slice text 0 place
    return ⟨.span (place + 1), { d.directive with target := some (String.ofList target) }⟩
  | .span start, ']' => do
    let name ← slice text start place
    return ⟨.closed, { d.directive with span := some (String.ofList name) }⟩
  | .span start, '\x7b' => do
    let name ← slice text start place
    return ⟨.field (place + 1),
      { d.directive with span := if name.isEmpty then none else some (String.ofList name) }⟩
  | .field start, '\x7d' => do
    let field ← fieldOf (← slice text start place)
    return ⟨.fields, { d.directive with fields := d.directive.fields ++ [field] }⟩
  -- behind the fields of a span only the bracket that closes it can follow
  | .fields, ']' => .ok { d with part := .closed }
  | .closed, '=' => .ok { d with part := .level (place + 1) }
  | .fields, _ | .closed, _ => .error .unreadable
  -- any other character belongs to the part that is being read
  | .word, _ | .span _, _ | .field _, _ | .level _, _ => .ok d

/-- Read characters from some place on. -/
def readAll (text : List Char) (d : Draft) (place : Nat) : List Char → Except Fault Draft
  | [] => .ok d
  | c :: cs => do readAll text (← read text d place c) (place + c.utf8Size) cs

/-- What was read, at the end. -/
def finish (text : List Char) (d : Draft) : Except Fault LogDirective :=
  match d.part with
  | .word =>
    match Verbosity.ofText? text with
    | some verbosity => .ok { d.directive with verbosity }
    | none => .ok { d.directive with target := some (String.ofList text) }
  | .level start => do
    return { d.directive with verbosity := ← levelOf (← splitAt text start).2 }
  | .closed => .ok d.directive
  | _ => .error .unreadable

/-- A text without the blanks around it. -/
def trimmed (text : List Char) : List Char :=
  ((text.dropWhile Text.isSpace).reverse.dropWhile Text.isSpace).reverse

/-- Read a directive. -/
def ofText (text : List Char) : Except Fault LogDirective := do
  finish text (← readAll text {} 0 (trimmed text))

end LogDirective
end OperatorPanel
