import OperatorPanel.Toml.Layout

/-!
# Quoted texts

A text stands between quotes, in one line, or between triple quotes, over any number of lines.
Double quotes know escapes, single quotes take everything as it is written. After triple quotes a
line end is dropped, line ends within are kept as they are, and one or two quotes may stand
anywhere, also before the closing ones.
-/

namespace OperatorPanel.Toml

open Text TextReader

namespace Quoted

/-- A text from its characters in reverse order. -/
def ofReversed (cs : List Char) : String := String.ofList cs.reverse

/-- The value of a hexadecimal digit. -/
def hexDigit? (c : Char) : Option Nat :=
  if c.isDigit then some (c.toNat - '0'.toNat)
  else if 'a' ≤ c && c ≤ 'f' then some (c.toNat - 'a'.toNat + 10)
  else if 'A' ≤ c && c ≤ 'F' then some (c.toNat - 'A'.toNat + 10)
  else none

/-- The character whose number stands in so many hexadecimal digits. -/
def numbered (digits : Nat) : TextReader Char := do
  let values ← need ((← takeMany digits).mapM hexDigit?)
  let n := values.foldl (16 * · + ·) 0
  check (decide n.isValidChar)
  return Char.ofNat n

/-- What an escape stands for, after its backslash. -/
def escape : TextReader Char := do
  match ← take with
  | 'b' => return '\x08'
  | 't' => return '\t'
  | 'n' => return '\n'
  | 'f' => return '\x0c'
  | 'r' => return '\r'
  | 'e' => return '\x1b'
  | '"' => return '"'
  | '\\' => return '\\'
  | 'x' => numbered 2
  | 'u' => numbered 4
  | 'U' => numbered 8
  | _ => refuse

/-- One character between double quotes, or the closing quote. -/
def doubleStep (seen : List Char) : TextReader (List Char ⊕ String) := do
  match ← take with
  | '"' => return .inr (ofReversed seen)
  | '\\' => return .inl ((← escape) :: seen)
  | c =>
    check (isPlain c)
    return .inl (c :: seen)

/-- A text between double quotes. -/
def double : TextReader String := do
  expect "\""
  iterate doubleStep []

/-- A text between single quotes. -/
def single : TextReader String := do
  expect "'"
  let cs ← takeRun fun c => c != '\'' && isPlain c
  expect "'"
  return String.ofList cs

/-- Whether nothing but blanks stands before the end of the line. -/
def endsLine : TextReader Bool := fun input =>
  match input.dropWhile isBlank with
  | '\n' :: _ | '\r' :: '\n' :: _ => some (true, input)
  | _ => some (false, input)

/-- Take blanks and line ends. -/
def emptyLines : TextReader Unit :=
  iterate
    (fun () => do
      blanks
      return if ← newline? then .inl () else .inr ())
    ()

/-- Some quotes of a text between triple quotes, after the first of them: the last three of three
or more close it. -/
def quotes (quote : Char) (seen : List Char) : TextReader (List Char ⊕ String) := do
  let count := (← takeRun (· == quote)).length + 1
  -- fewer than three quotes belong to the text
  if count < 3 then return .inl (List.replicate count quote ++ seen)
  else
    check (count ≤ 5)  -- at most two quotes can stand right before the closing three
    return .inr (ofReversed (List.replicate (count - 3) quote ++ seen))

/-- One part of a text between triple quotes. A backslash at the end of a line hides the line end
and all blanks and line ends after it. -/
def blockStep (quote : Char) (seen : List Char) : TextReader (List Char ⊕ String) := do
  let c ← take
  if c == quote then quotes quote seen
  -- between single quotes a backslash stands for itself
  else if c == '\\' && quote == '"' then
    if ← endsLine then
      emptyLines
      return .inl seen
    else return .inl ((← escape) :: seen)
  -- a carriage return occurs only before a line feed, and stays in the text
  else if c == '\r' then
    expect "\n"
    return .inl ('\n' :: '\r' :: seen)
  else
    check (c == '\n' || isPlain c)
    return .inl (c :: seen)

/-- A text between triple quotes, after the opening ones. -/
def block (quote : Char) : TextReader String := do
  discard newline?
  iterate (blockStep quote) []

/-- A text between quotes of any sort. -/
def any : TextReader String := do
  if ← accept "\"\"\"" then block '"'
  else if ← accept "'''" then block '\''
  else if (← next?) == some '"' then double
  else single

end Quoted
end OperatorPanel.Toml
