import OperatorPanel.Link

/-!
# The client of a controller

A `Client` numbers the commands that it sends. The controller echoes the serial of the command
that it accepted last, so the client can wait until a command has arrived, or until it is done.
Every attempt spends one serial, unless the command is refused before anything is written.

A wait without limit may never end. The operations that wait give an `Option`: `none` says that
the operation would go on for ever.
-/

namespace OperatorPanel

/-- Whether a look at the status found a new one. -/
inductive Freshness where
  | new | unchanged
  deriving DecidableEq, Repr

/-- The status that was seen last. -/
structure Watch where
  status : Status := {}
  updates : Nat := 0

namespace Watch

variable {T : Transport}

/-- Look at the status once. What is no status leaves the last one standing. -/
def refresh (watch : Watch) (l : Link T) (w : World) :
    Except PanelError Freshness × Watch × Link T × World :=
  match l.peek w with
  | (.status s, l, w) => (.ok .new, { status := s, updates := watch.updates + 1 }, l, w)
  | (.noData, l, w) => (.ok .unchanged, watch, l, w)
  | (.fault reason, l, w) =>
    (.error (.connection ("status channel fault: " ++ reason)), watch, l, w)
  | (.other type, l, w) =>
    (.error (.protocol
      ("unexpected status message type " ++ Text.hexadecimal type.toNat)), watch, l, w)

end Watch

/-- How a client waits. -/
structure WaitSettings where
  policy : WaitPolicy
  /-- None waits without limit. -/
  limit : Option Span
  interval : Span
  deriving DecidableEq

/-- The client of a controller. -/
structure Client (T : Transport) where
  link : Link T
  wait : WaitSettings
  watch : Watch := {}
  /-- The serial that was used last. -/
  serial : Int32 := 0

namespace Client

variable {T : Transport}

/-- The status that was seen last. -/
def status (c : Client T) : Status := c.watch.status

/-- Open the channels. -/
def connect (c : Client T) (w : World) : Except PanelError Unit × Client T × World :=
  let (r, link, w) := c.link.connect w
  (r, { c with link }, w)

/-- Close the channels. -/
def close (c : Client T) (w : World) : Client T × World :=
  let (link, w) := c.link.close w
  ({ c with link }, w)

/-- Look at the status once. -/
def refresh (c : Client T) (w : World) : Except PanelError Freshness × Client T × World :=
  let (r, watch, link, w) := c.watch.refresh c.link w
  (r, { c with watch, link }, w)

/-- A refresh is a look through the link. -/
theorem refresh_link (c : Client T) (w : World) : (c.refresh w).2.1.link = (c.link.peek w).2.1 := by
  simp only [refresh, Watch.refresh]
  split <;> simp_all

theorem refresh_world (c : Client T) (w : World) : (c.refresh w).2.2 = (c.link.peek w).2.2 := by
  simp only [refresh, Watch.refresh]
  split <;> simp_all

/-- Take the next notice. -/
def poll (c : Client T) (w : World) : Except PanelError (Option Notice) × Client T × World :=
  let (r, link, w) := c.link.poll w
  (r, { c with link }, w)

/-- Send a command under a given serial; the counter stays as it is. -/
def send (c : Client T) (serial : Int32) (command : Command) (w : World) :
    Except PanelError Unit × Client T × World :=
  let (r, link, w) := c.link.send { serial, command } w
  (r, { c with link }, w)

/-! ### Waiting -/

/-- Whether a wait that has taken so long is at its limit. -/
def atLimit (limit : Option Span) (taken : Nat) : Bool :=
  match limit with
  | none => false
  | some t => t.nanos ≤ taken

/-- So many rounds suffice for a wait: either the limit comes, or nothing new comes any more. -/
def rounds (c : Client T) (limit : Option Span) (w : World) : Nat :=
  match limit with
  | none => c.link.patience w
  | some t =>
    if c.wait.interval.nanos = 0 then c.link.patience w
    else (t.nanos + c.wait.interval.nanos - 1) / c.wait.interval.nanos + 1

/-- Look at the status until it echoes the serial. The limit counts from `start`. -/
def awaitEcho (serial : Int32) (limit : Option Span) (start : Nat) :
    (rounds : Nat) → Client T → World → Option (Except PanelError Unit × Client T × World)
  | 0, _, _ => none
  | rounds + 1, c, w =>
    let (_, c, w) := c.refresh w
    if c.status.echo = serial then some (.ok (), c, w)
    else
      let (now, w) := w.time
      if atLimit limit (now - start) then
        some (.error (.timeout serial "received" ⟨now - start⟩), c, w)
      else awaitEcho serial limit start rounds c (w.sleep c.wait.interval)

/-- Wait until the controller echoes a serial, at most for so long. -/
def waitReceivedFor (c : Client T) (serial : Int32) (limit : Option Span) (w : World) :
    Option (Except PanelError Unit × Client T × World) :=
  let rounds := c.rounds limit w
  let (start, w) := w.time
  awaitEcho serial limit start rounds c w

/-- Wait until the controller echoes a serial. -/
def waitReceived (c : Client T) (serial : Int32) (w : World) :
    Option (Except PanelError Unit × Client T × World) :=
  c.waitReceivedFor serial c.wait.limit w

/-- Look at the status until it says that the echoed command has ended. -/
def awaitEnd (serial : Int32) (start : Nat) :
    (rounds : Nat) → Client T → World → Option (Except PanelError Unit × Client T × World)
  | 0, _, _ => none
  | rounds + 1, c, w =>
    match c.status.state with
    | .done => some (.ok (), c, w)
    | .error => some (.error (.remote serial), c, w)
    | _ =>
      let (now, w) := w.time
      if atLimit c.wait.limit (now - start) then
        some (.error (.timeout serial "done" ⟨now - start⟩), c, w)
      else
        let (_, c, w) := c.refresh (w.sleep c.wait.interval)
        awaitEnd serial start rounds c w

/-- Wait until the controller has finished a command. What comes after the echo has a limit of its
own. -/
def waitDone (c : Client T) (serial : Int32) (w : World) :
    Option (Except PanelError Unit × Client T × World) :=
  match c.waitReceived serial w with
  | none => none
  | some (.error e, c, w) => some (.error e, c, w)
  | some (.ok (), c, w) =>
    let rounds := c.rounds c.wait.limit w
    let (start, w) := w.time
    awaitEnd serial start (rounds + 1) c w

/-- Wait as a policy says. -/
def waitBy (c : Client T) (policy : WaitPolicy) (serial : Int32) (w : World) :
    Option (Except PanelError Unit × Client T × World) :=
  match policy with
  | .none => some (.ok (), c, w)
  | .received => c.waitReceived serial w
  | .done => c.waitDone serial w

/-! ### Dispatching -/

/-- Send a command under the next serial and wait as a policy says. The result is the serial. -/
def dispatchWith (c : Client T) (command : Command) (policy : WaitPolicy) (w : World) :
    Option (Except PanelError Int32 × Client T × World) :=
  match command.fault? with
  | some fault => some (.error (.invalid fault.text), c, w)
  | none => -- a command that is refused above costs no serial; one that cannot be sent does
    let serial := c.serial + 1
    match { c with serial }.send serial command w with
    | (.error e, c, w) => some (.error e, c, w)
    | (.ok (), c, w) =>
      match c.waitBy policy serial w with
      | none => none
      | some (.error e, c, w) => some (.error e, c, w)
      | some (.ok (), c, w) => some (.ok serial, c, w)

/-- Send a command and wait as the settings say. -/
def dispatch (c : Client T) (command : Command) (w : World) :
    Option (Except PanelError Int32 × Client T × World) :=
  c.dispatchWith command c.wait.policy w

/-- Run the open program from a line. Without an open program nothing is sent; a status that
cannot be read leaves the decision to the last one. -/
def runProgram (c : Client T) (line : Int32) (w : World) :
    Option (Except PanelError Int32 × Client T × World) :=
  -- whether the look succeeded does not matter, only what is known after it
  let (_, c, w) := c.refresh w
  if c.status.programOpen then c.dispatch (.programRun line) w
  else some (.error (.invalid "no program file is open"), c, w)

end Client
end OperatorPanel
