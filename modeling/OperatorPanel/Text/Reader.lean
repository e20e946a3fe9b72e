import OperatorPanel.Text.Digits

/-!
# Readers

A reader takes something from the front of a text and leaves the rest, or refuses the text.
Choices are made by a look at what comes next and never taken back, so a text that is refused
once is refused for good. `iterate` repeats a step as long as there is text to read.
-/

namespace OperatorPanel

/-- What takes something from the front of a text. -/
abbrev TextReader := StateT (List Char) Option

namespace TextReader

variable {α σ : Type}

/-- Refuse the text. -/
def refuse : TextReader α := fun _ => none

/-- A value that may be missing; the text is refused where it is. -/
def need (value : Option α) : TextReader α := fun input => value.map (·, input)

/-- Refuse the text where a condition fails. -/
def check (condition : Bool) : TextReader Unit := if condition then pure () else refuse

/-- The next character, which is not taken; none at the end. -/
def next? : TextReader (Option Char) := fun input => some (input.head?, input)

/-- Take one character. -/
def take : TextReader Char
  | [] => none
  | c :: rest => some (c, rest)

/-- Take a number of characters. -/
def takeMany (n : Nat) : TextReader (List Char) := fun input =>
  if (input.take n).length = n then some (input.take n, input.drop n) else none

/-- Take characters as long as they are of some sort. -/
def takeRun (p : Char → Bool) : TextReader (List Char) := fun input =>
  some (input.takeWhile p, input.dropWhile p)

/-- Take one text. -/
def expect (lead : String) : TextReader Unit := fun input =>
  (Text.after? lead.toList input).map ((), ·)

/-- Take one text, if it comes next; whether it did. -/
def accept (lead : String) : TextReader Bool := fun input =>
  match Text.after? lead.toList input with
  | some rest => some (true, rest)
  | none => some (false, input)

/-- Repeat a step until it gives a result, once for every character of a text and once more. -/
def iterateAlong (step : σ → TextReader (σ ⊕ α)) : (turns : List Char) → σ → TextReader α
  | [], s => do
    match ← step s with
    | .inl _ => refuse
    | .inr a => pure a
  | _ :: turns, s => do
    match ← step s with
    | .inl s => iterateAlong step turns s
    | .inr a => pure a

/-- Repeat a step until it gives a result. Where every other step takes a character or more, there
is a turn for each of them. -/
def iterate (step : σ → TextReader (σ ⊕ α)) (s : σ) : TextReader α := fun input =>
  iterateAlong step input s input

/-- What a reader makes of a whole text. -/
def whole? (r : TextReader α) (input : List Char) : Option α :=
  match r input with
  | some (a, []) => some a
  | _ => none

end TextReader
end OperatorPanel
