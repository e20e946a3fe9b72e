import OperatorPanel.Text.CharClass
import OperatorPanel.Text.Reader

/-!
# Values of fields

A log directive may ask for the value of a field: a number, or a pattern for its text. `isValue`
says which texts are values. A pattern is a regular expression in which groups and sets are closed,
repetitions have something to repeat, and escapes are known. Counts of repetitions stand between
braces, which end the directive, so that no pattern here has them.
-/

namespace OperatorPanel
namespace FieldValue

open TextReader

/-! ### Numbers -/

/-- Take a number without a sign. -/
def number : TextReader Unit := do
  let whole ← takeRun Char.isDigit
  let places ← if ← accept "." then takeRun Char.isDigit else pure []
  check (!whole.isEmpty || !places.isEmpty)
  match ← next? with
  | some 'e' | some 'E' =>
    discard take
    unless ← accept "+" do discard <| accept "-"
    check !(← takeRun Char.isDigit).isEmpty
  | _ => return

/-- Whether a text is a number after a plus sign. All other numbers are patterns, too. -/
def isPlusNumber : List Char → Bool
  | '+' :: cs =>
    (number.whole? cs).isSome || ["inf", "infinity", "nan"].contains (String.ofList cs).toLower
  | _ => false

/-! ### Parts of patterns -/

/-- One part of a pattern, or of a set in it. -/
inductive Item where
  | literal (c : Char)
  /-- Any character of some sort. -/
  | sort
  /-- A position between characters. -/
  | position
  deriving DecidableEq

/-- A character by its number, in so many hexadecimal digits. -/
def numbered (digits : Nat) : TextReader Item := do
  let cs ← takeMany digits
  let isHex (c : Char) : Bool := c.isDigit || ('a' ≤ c && c ≤ 'f') || ('A' ≤ c && c ≤ 'F')
  let digit (c : Char) : Nat :=
    if c.isDigit then c.toNat - '0'.toNat else c.toLower.toNat - 'a'.toNat + 10
  let n := cs.foldl (fun n c => 16 * n + digit c) 0
  check (cs.all isHex && decide n.isValidChar)
  return .literal (Char.ofNat n)

/-- What an escape stands for, after its backslash. Boundaries of words are not known. -/
def escape : TextReader Item := do
  let c ← take
  if "dDsSwW".contains c then return .sort
  else if c == 'A' || c == 'z' then return .position
  else if "aftnrv".contains c then return .literal c
  else
    match c with
    | 'x' => numbered 2
    | 'u' => numbered 4
    | 'U' => numbered 8
    | 'p' | 'P' =>
      check ("CLMNPSZ".contains (← take).toUpper)
      return .sort
    | _ => -- any other punctuation stands for itself; angle brackets would open a word boundary
      check (c < '\x80' && !c.isAlphanum && c != '<' && c != '>')
      return .literal c

/-! ### Sets -/

/-- Take what opens a set, after its bracket: a bracket that closes it cannot come first. -/
def setStart : TextReader Unit := do
  discard <| accept "^"
  if (← takeRun (· == '-')).isEmpty then discard <| accept "]"

/-- Take one item of a set. -/
def setItem : TextReader Item := do
  match ← take with
  | '\\' => escape
  | c => return .literal c

/-- Whether a range goes on after its first end. -/
def isRange : TextReader Bool := fun input =>
  some ((match input with
    | '-' :: c :: _ => c != ']' && c != '-'
    | _ => false), input)

/-- Take one part of a set, in which so many sets are open, or its end. -/
def setStep (depth : Nat) : TextReader (Nat ⊕ Unit) := do
  if ← accept "]" then return if depth = 1 then .inr () else .inl (depth - 1)
  else if ← accept "[" then
    setStart
    return .inl (depth + 1)
  -- operators between sets need an operand neither before nor behind them
  else if ← accept "&&" then return .inl depth
  else if ← accept "--" then return .inl depth
  else if ← accept "~~" then return .inl depth
  else
    let low ← setItem
    check (low != .position)  -- a position is not a character, and so cannot stand in a set
    if ← isRange then
      discard take
      match low, ← setItem with
      | .literal a, .literal b => check (a ≤ b)
      | _, _ => refuse
    return .inl depth

/-- Take a set, after its bracket. -/
def set : TextReader Unit := do
  setStart
  iterate setStep 1

/-! ### Groups -/

/-- Whether a character may stand in the name of a group. -/
def isNamePart (first : Bool) (c : Char) : Bool :=
  c == '_' || if first then Text.isAlphanumeric c && !c.isDigit
    else Text.isAlphanumeric c || c == '.' || c == '[' || c == ']'

/-- Take the name of a group and what ends it. -/
def groupName : TextReader Unit := do
  let c ← take
  check (isNamePart true c)
  discard <| takeRun (isNamePart false)
  expect ">"

/-- Take flags, and whether a group follows. Some are there, and none twice; a minus sign stands
before some of them. -/
def flags : TextReader Bool := do
  let cs ← takeRun fun c => "imsUuRx-".contains c
  check (cs.Nodup && cs.getLast? != some '-')
  if ← accept ":" then return true
  else
    expect ")"
    check !cs.isEmpty
    return false

/-- Take what opens a group, after its parenthesis; whether a group follows. -/
def groupStart : TextReader Bool := do
  if ← accept "?P<" then
    groupName
    return true
  else if ← accept "?<" then
    groupName
    return true
  else if ← accept "?" then flags
  else return true

/-! ### Patterns -/

/-- How far a pattern was read. -/
structure Draft where
  /-- The open groups. -/
  groups : Nat := 0
  /-- There is something to repeat. -/
  repeatable : Bool := false

/-- Take one part of a pattern, or its end. -/
def patternStep (d : Draft) : TextReader (Draft ⊕ Unit) := do
  match ← next? with
  | none =>
    check (d.groups = 0)
    return .inr ()
  | some _ =>
    match ← take with
    | '(' =>
      let opened ← groupStart
      -- nothing stands in the new group yet, so nothing can be repeated
      return .inl { groups := if opened then d.groups + 1 else d.groups }
    | ')' =>
      check (0 < d.groups)
      return .inl { groups := d.groups - 1, repeatable := true }
    | '|' => return .inl { d with repeatable := false }
    | '*' | '+' | '?' =>
      check d.repeatable
      return .inl d
    -- a brace ends the directive, so that none stands for a count here
    | '\x7b' => refuse
    | '[' =>
      set
      return .inl { d with repeatable := true }
    | '\\' =>
      discard escape
      return .inl { d with repeatable := true }
    | _ => return .inl { d with repeatable := true }

/-- Take a pattern. -/
def pattern : TextReader Unit := iterate patternStep {}

/-- Whether a text is a value. -/
def isValue (cs : List Char) : Bool := isPlusNumber cs || (pattern.whole? cs).isSome

end FieldValue
end OperatorPanel
