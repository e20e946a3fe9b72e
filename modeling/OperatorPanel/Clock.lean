import OperatorPanel.Span

/-!
# Clocks

Time passes while the program sleeps, and may pass by itself before every look at the clock:
`drift` says how much, so that a statement over all clocks covers every scheduler. Sleeping takes
at least as long as asked for, and no clock goes back.
-/

namespace OperatorPanel

/-- A clock, in nanoseconds since it was started. -/
structure Clock where
  now : Nat := 0
  /-- How often it was looked at. -/
  looks : Nat := 0
  /-- What passes by itself before each look. -/
  drift : Nat → Nat := fun _ => 0

namespace Clock

/-- Look at the clock. -/
def look (c : Clock) : Nat × Clock :=
  let now := c.now + c.drift c.looks
  (now, { c with now, looks := c.looks + 1 })

/-- Sleep. -/
def sleep (c : Clock) (t : Span) : Clock := { c with now := c.now + t.nanos }

theorem now_le_look (c : Clock) : c.now ≤ c.look.1 := Nat.le_add_right _ _

end Clock
end OperatorPanel
