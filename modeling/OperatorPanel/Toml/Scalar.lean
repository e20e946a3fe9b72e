import OperatorPanel.Number.Decimal
import OperatorPanel.Toml.Quoted

/-!
# Unquoted values

Truth values, integers, floating-point numbers, and dates and times. A single underscore may stand
between two digits. Integers are read in full, floating-point numbers to the nearest one; a number
that is too great for its kind is marked as such. Dates and times are checked, and not kept.
-/

namespace OperatorPanel.Toml

open Text TextReader

/-- An unquoted value. -/
inductive Scalar where
  | boolean (b : Bool)
  | integer (n : Int)
  | float (x : Number)
  /-- A number that is too great for its kind. -/
  | excess
  /-- A date, a time, or both. -/
  | moment
  deriving DecidableEq

namespace Scalar

/-! ### Numbers -/

/-- One or more digits, with single underscores between them. -/
def grouped? (isDigit : Char → Bool) : List Char → Option (List Char)
  | [] => none
  | [c] => if isDigit c then some [c] else none
  | c :: '_' :: rest => if isDigit c then (grouped? isDigit rest).map (c :: ·) else none
  | c :: rest => if isDigit c then (grouped? isDigit rest).map (c :: ·) else none

/-- The value of digits in a base. -/
def inBase? (base : Nat) (cs : List Char) : Option Nat := do
  let digits ← grouped? (fun c => (Quoted.hexDigit? c).any (· < base)) cs
  return digits.foldl (fun n c => base * n + (Quoted.hexDigit? c).getD 0) 0

/-- The digits of a whole number in decimal, which starts with a zero only when it is zero. -/
def wholeDigits? (cs : List Char) : Option (List Char) := do
  let digits ← grouped? Char.isDigit cs
  if digits.head? = some '0' && digits.length ≠ 1 then none else some digits

/-- Whether there is a minus sign, and what follows the sign, if there is one. -/
def signed : List Char → Bool × List Char
  | '+' :: cs => (false, cs)
  | '-' :: cs => (true, cs)
  | cs => (false, cs)

/-- A number with its sign. -/
def negateIf (negative : Bool) (n : Int) : Int := if negative then -n else n

/-- An integer in decimal, hexadecimal, octal or binary. -/
def integer? : List Char → Option Int
  -- the other bases take no sign
  | '0' :: 'x' :: cs => (inBase? 16 cs).map Int.ofNat
  | '0' :: 'o' :: cs => (inBase? 8 cs).map Int.ofNat
  | '0' :: 'b' :: cs => (inBase? 2 cs).map Int.ofNat
  | cs =>
    let (negative, cs) := signed cs
    (wholeDigits? cs).map fun digits => negateIf negative (digitsValue digits)

/-- The power of ten after an exponent sign; zero where there is none. -/
def exponent? : Option (List Char) → Option Int
  | none => some 0
  | some cs =>
    let (negative, cs) := signed cs
    (grouped? Char.isDigit cs).map fun digits => negateIf negative (digitsValue digits)

/-- The digits after a point; none where there is no point. -/
def fraction? : Option (List Char) → Option (List Char)
  | none => some []
  | some cs => grouped? Char.isDigit cs

/-- A text, and what follows the first character of some sort in it. -/
def cutAt (p : Char → Bool) (cs : List Char) : List Char × Option (List Char) :=
  (cs.takeWhile (!p ·), (cs.dropWhile (!p ·)).tail?)

/-- A floating-point number in decimal, with a fraction, an exponent or both. -/
def decimal? (cs : List Char) : Option Number := do
  let (negative, cs) := signed cs
  let (mantissa, power) := cutAt (fun c => c == 'e' || c == 'E') cs
  let (whole, places) := cutAt (· == '.') mantissa
  -- that would be an integer
  if power.isNone && places.isNone then none
  else
    let whole ← wholeDigits? whole
    let places ← fraction? places
    let power ← exponent? power  -- the digits behind the point are counted off the exponent
    return Decimal.toNumber negative ⟨digitsValue (whole ++ places), power - places.length⟩

/-- A floating-point number that has a name. -/
def named? (cs : List Char) : Option Number :=
  let (negative, cs) := signed cs
  let x? : Option Number := match String.ofList cs with
    | "inf" => some (.infinity false)
    | "nan" => some .nan
    | _ => none
  x?.map fun x => if negative then -x else x

/-! ### Dates and times -/

/-- A number of so many digits within limits. -/
def limited (digits low high : Nat) : TextReader Nat := do
  let n ← need (digits? (← takeMany digits))
  check (low ≤ n && n ≤ high)
  return n

def isLeap (year : Nat) : Bool := year % 4 == 0 && (year % 100 != 0 || year % 400 == 0)

/-- The number of days in a month. -/
def daysIn (year month : Nat) : Nat :=
  if month = 2 then if isLeap year then 29 else 28
  else if month ∈ [4, 6, 9, 11] then 30 else 31

/-- Take a date. -/
def date : TextReader Unit := do
  let year ← limited 4 0 9999
  expect "-"
  let month ← limited 2 1 12
  expect "-"
  discard <| limited 2 1 (daysIn year month)

/-- Take a time of day. The seconds may be left out, and a minute may have one more. -/
def time : TextReader Unit := do
  discard <| limited 2 0 23
  expect ":"
  discard <| limited 2 0 59
  if ← accept ":" then
    discard <| limited 2 0 60  -- the sixtieth second is a leap second
    if ← accept "." then
      check !(← takeRun Char.isDigit).isEmpty

/-- Take the distance to universal time, if it is given. -/
def offset : TextReader Unit := do
  match ← next? with
  | none => return
  | some _ =>
    match ← take with
    | 'Z' | 'z' => return
    | '+' | '-' =>
      discard <| limited 2 0 23
      expect ":"
      discard <| limited 2 0 59
    | _ => refuse

/-- Take a date and, if it goes on, a time of that day. -/
def dateTime : TextReader Unit := do
  date
  match ← next? with
  | none => return
  | some _ =>
    let c ← take
    check (c == 'T' || c == 't' || c == ' ')
    time
    offset

/-- Whether a text is a date, a time or both. -/
def isMoment (cs : List Char) : Bool :=
  (time.whole? cs).isSome || (dateTime.whole? cs).isSome

/-! ### All of them -/

/-- The characters of unquoted values. -/
def isPart (c : Char) : Bool :=
  c.isAlphanum || c == '+' || c == '-' || c == '_' || c == '.' || c == ':'

/-- An integer, where it is not too great. -/
def ofInt (n : Int) : Scalar :=
  if (if n < 0 then n.natAbs ≤ valuesOf 127 else n.natAbs < valuesOf 128) then .integer n
  else .excess

/-- A floating-point number in decimal, where it is not too great. -/
def ofNumber (x : Number) : Scalar := if x.isFinite then .float x else .excess

/-- The value that a text stands for. -/
def ofText? (cs : List Char) : Option Scalar :=
  if cs = "true".toList then some (.boolean true)
  else if cs = "false".toList then some (.boolean false)
  else
    ((integer? cs).map ofInt).or <| ((named? cs).map .float).or <|
      ((decimal? cs).map ofNumber).or <| if isMoment cs then some .moment else none

/-- Whether a time may follow after a space. -/
def isDate (cs : List Char) : Bool := (date.whole? cs).isSome

/-- Read an unquoted value. -/
def read : TextReader Scalar := fun input =>
  let cs := input.takeWhile isPart
  let rest := input.dropWhile isPart
  match rest with
  | ' ' :: c :: more =>
    if isDate cs && c.isDigit then
      let time := (c :: more).takeWhile isPart
      (ofText? (cs ++ ' ' :: time)).map (·, (c :: more).dropWhile isPart)
    else (ofText? cs).map (·, rest)
  | _ => (ofText? cs).map (·, rest)

end Scalar
end OperatorPanel.Toml
