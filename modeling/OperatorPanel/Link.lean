import OperatorPanel.Channel

/-!
# Links

A `Link` holds the three channels to a controller. Connecting opens them in order and tries again
within a budget of time; channels that are open already stay open between attempts, and none
stays open when the budget is spent. Nothing connects by itself.
-/

namespace OperatorPanel

/-- What the panel's operations can fail with. -/
inductive PanelError where
  /-- A channel is missing or does not work. -/
  | connection (reason : String)
  /-- A channel holds what does not belong there. -/
  | protocol (reason : String)
  /-- A wait came to its limit. -/
  | timeout (serial : Int32) (stage : String) (waited : Span)
  /-- The controller reports that the command failed. -/
  | remote (serial : Int32)
  /-- Refused here, and never sent. -/
  | invalid (reason : String)
  | settings (error : SettingsError)
  deriving DecidableEq

/-- The text of a serial. -/
def serialText (serial : Int32) : String :=
  if serial.toInt < 0 then "-" ++ Text.decimal serial.toInt.natAbs
  else Text.decimal serial.toInt.natAbs

/-- What is said about an error. -/
def PanelError.text : PanelError → String
  | connection reason => "connection error: " ++ reason
  | protocol reason => "protocol error: " ++ reason
  | timeout serial stage waited =>
    "timed out after " ++ Text.decimal waited.millis ++ " ms waiting for serial "
      ++ serialText serial ++ " (" ++ stage ++ ")"
  | remote serial => "controller reported error for serial " ++ serialText serial
  | invalid reason => "invalid argument: " ++ reason
  | settings error => error.text

/-- A fault of a channel as an error of the panel. -/
def PanelError.ofFault : ChannelFault → PanelError
  | .unexpected type => .protocol type.unexpectedText
  | fault => .connection fault.text

/-- How far a link is. -/
inductive LinkState where
  | disconnected | connecting | connected | closed
  deriving DecidableEq, Repr

/-- Attempts at fixed intervals within a budget of time. -/
structure RetryPolicy where
  total : Span
  interval : Span
  deriving DecidableEq, Repr

namespace RetryPolicy

/-- There is another attempt after so much waiting, if there are pauses and the next one stays below
the budget. -/
def allowsRetry (p : RetryPolicy) (waited : Span) : Bool :=
  p.interval ≠ .zero && waited.nanos + p.interval.nanos < p.total.nanos

/-- Less of the budget is left after every pause. -/
theorem left_lt {p : RetryPolicy} {waited : Span} (h : p.allowsRetry waited = true) :
    p.total.nanos - (waited.add p.interval).nanos < p.total.nanos - waited.nanos := by
  obtain ⟨hpause, hfits⟩ := Bool.and_eq_true_iff.1 h
  have hlong : p.interval.nanos ≠ 0 := fun h => of_decide_eq_true hpause (congrArg Span.mk h)
  have hfits := of_decide_eq_true hfits
  rw [Span.nanos_add]
  omega

end RetryPolicy

/-- The channels to a controller. -/
structure Link (T : Transport) where
  retry : RetryPolicy
  /-- Silence channel diagnostics while connecting. -/
  silences : Bool
  command : Option T.CommandEnd := none
  status : Option T.StatusEnd := none
  notices : Option T.NoticeEnd := none
  state : LinkState := .disconnected

namespace Link

variable {T : Transport}

def isConnected (l : Link T) : Bool := l.state = .connected

/-! ### Opening and closing -/

/-- Open the command channel unless it is open. -/
def openCommand (l : Link T) (w : World) : Except PanelError (Link T) × World :=
  match l.command with
  | some _ => (.ok l, w)
  | none =>
    match T.openCommand w with
    | (.ok c, w) => (.ok { l with command := some c }, w)
    | (.error fault, w) => (.error (.ofFault fault), w)

/-- Open the status channel unless it is open. -/
def openStatus (l : Link T) (w : World) : Except PanelError (Link T) × World :=
  match l.status with
  | some _ => (.ok l, w)
  | none =>
    match T.openStatus w with
    | (.ok s, w) => (.ok { l with status := some s }, w)
    | (.error fault, w) => (.error (.ofFault fault), w)

/-- Open the notice channel unless it is open. -/
def openNotices (l : Link T) (w : World) : Except PanelError (Link T) × World :=
  match l.notices with
  | some _ => (.ok l, w)
  | none =>
    match T.openNotices w with
    | (.ok n, w) => (.ok { l with notices := some n }, w)
    | (.error fault, w) => (.error (.ofFault fault), w)

/-- Open what is not open yet, as far as that works. -/
def openMissing (l : Link T) (w : World) : Option PanelError × Link T × World :=
  match l.openCommand w with
  | (.error e, w) => (some e, l, w)
  | (.ok l, w) =>
    match l.openStatus w with
    | (.error e, w) => (some e, l, w)
    | (.ok l, w) =>
      match l.openNotices w with
      | (.error e, w) => (some e, l, w)
      | (.ok l, w) => (none, l, w)

/-- Close every channel. -/
def release (l : Link T) (w : World) : Link T × World :=
  let w := match l.command with
    | some c => T.closeCommand c w
    | none => w
  let w := match l.status with
    | some s => T.closeStatus s w
    | none => w
  let w := match l.notices with
    | some n => T.closeNotices n w
    | none => w
  ({ l with command := none, status := none, notices := none }, w)

/-- Try to open everything, and again after a pause as long as the policy allows it. The number of
attempts comes with the result. -/
def attempt (l : Link T) (retry : RetryPolicy) (w : World) (attempts : UInt32) (waited : Span) :
    Option PanelError × UInt32 × Link T × World :=
  match l.openMissing w with
  | (none, l, w) => (none, attempts + 1, l, w)
  | (some e, l, w) =>
    if h : retry.allowsRetry waited then
      have := RetryPolicy.left_lt h
      l.attempt retry (w.sleep retry.interval) (attempts + 1) (waited.add retry.interval)
    else (some e, attempts + 1, l, w)
termination_by retry.total.nanos - waited.nanos

/-- Open all channels within the budget. -/
def connect (l : Link T) (w : World) : Except PanelError Unit × Link T × World :=
  if l.isConnected then (.ok (), l, w)
  else
    let l := { l with state := .connecting }  -- in between: both ends below set the state again
    let w := if l.silences then w.silence else w
    let (e?, attempts, l, w) := l.attempt l.retry w 0 .zero
    let w := if l.silences then w.restore else w
    match e? with
    | none =>
      (.ok (), { l with state := .connected },
        w.note .info .channel "controller channels connected"
          [("transport", T.name), ("attempts", Text.decimal attempts.toNat)])
    | some e => -- channels that did open are not kept across a failed connection
      let (l, w) := l.release w
      (.error e, { l with state := .disconnected },
        w.note .error .channel "controller channels not available"
          [("transport", T.name), ("attempts", Text.decimal attempts.toNat), ("error", e.text)])

/-- Close the link; closing it again does nothing. -/
def close (l : Link T) (w : World) : Link T × World :=
  if l.state = .closed then (l, w)
  else
    let (l, w) := l.release w
    ({ l with state := .closed },
      w.note .info .channel "controller channels closed" [("transport", T.name)])

/-! ### Use -/

/-- Send a message. -/
def send (l : Link T) (m : Message) (w : World) : Except PanelError Unit × Link T × World :=
  match l.command with
  | none => (.error (.connection "command channel is not valid"), l, w)
  | some c =>
    if T.isValid c w then
      match T.send c m w with
      | (.ok (), c, w) => (.ok (), { l with command := some c }, w)
      | (.error fault, c, w) => (.error (.connection fault.text), { l with command := some c }, w)
    else (.error (.connection "command channel is not valid"), l, w)

/-- Look at the status. -/
def peek (l : Link T) (w : World) : Peek × Link T × World :=
  match l.status with
  | none => (.fault "status channel closed", l, w)
  | some s =>
    let (found, s, w) := T.peek s w
    (found, { l with status := some s }, w)

/-- A look at the status uses no other channel. -/
theorem peek_link (l : Link T) (w : World) :
    (l.peek w).2.1 = { l with status := (l.peek w).2.1.status } := by
  unfold peek
  split <;> rfl

/-- Take the next notice; a closed channel has none. -/
def poll (l : Link T) (w : World) : Except PanelError (Option Notice) × Link T × World :=
  match l.notices with
  | none => (.ok none, l, w)
  | some n =>
    match T.poll n w with
    | (.ok notice, n, w) => (.ok notice, { l with notices := some n }, w)
    | (.error fault, n, w) => (.error (.ofFault fault), { l with notices := some n }, w)

/-- So many looks at the status suffice to see everything that comes by itself. -/
def patience (l : Link T) (w : World) : Nat :=
  match l.status with
  | none => 1
  | some s => T.patience s w

end Link
end OperatorPanel
