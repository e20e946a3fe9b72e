import OperatorPanel.Text.Reader

/-!
# Blanks, line ends and comments

Between the parts of a line only spaces and tabs may stand. A comment goes on to the end of its
line. No control character but the tab stands anywhere, and a carriage return only before a line
feed.
-/

namespace OperatorPanel.Toml

open Text TextReader

/-- The characters that separate the parts of a line. -/
def isBlank (c : Char) : Bool := c == ' ' || c == '\t'

/-- The characters that may stand in comments and, quotes and escapes apart, in texts. -/
def isPlain (c : Char) : Bool := c == '\t' || (' ' ≤ c && c != '\x7f')

/-- Take blanks. -/
def blanks : TextReader Unit := do discard <| takeRun isBlank

/-- Take the end of a line, if it comes next; whether it did. -/
def newline? : TextReader Bool := do
  if ← accept "\n" then return true else accept "\r\n"

/-- Take a comment, if one comes next. -/
def comment : TextReader Unit := do
  if ← accept "#" then discard <| takeRun isPlain

/-- Take what may follow the last part of a line, and the end of the line or of the text. -/
def lineEnd : TextReader Unit := do
  blanks
  comment
  unless ← newline? do check (← next?).isNone

/-- Take blanks, comments and line ends. -/
def gap : TextReader Unit :=
  iterate
    (fun () => do
      blanks
      comment
      return if ← newline? then .inl () else .inr ())
    ()

end OperatorPanel.Toml
