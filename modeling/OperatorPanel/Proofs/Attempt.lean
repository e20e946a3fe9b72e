import OperatorPanel.Panel
import OperatorPanel.Proofs.Waiting

/-!
# Attempts

An `Attempt` is what can be said afterwards about one try to send a command: the command, whether
it passed the checks, whether it was written to the command channel, and what came of it. A try
is refused, or it spends a serial and is not sent, or it is sent and waited for (`Dispatched`, and
for the simulated controller `Attempted`).

Records are kept beside the operations and not by them: the operations with records are those
without, once the records are thrown away (`outcome_attempt`, `outcome_attemptRun`).
-/

namespace OperatorPanel

/-! ### What becomes of a dispatch

A dispatch goes one of three ways, by where it stops: at the check, at the channel, or nowhere. The
relation keeps the hypothesis of each way with what it leaves behind, so that an argument about
dispatches is three short cases.
-/

namespace Client

variable {T : Transport}

/-- The next message as it is sent: under a fresh serial. -/
def sendNext (c : Client T) (command : Command) (w : World) :
    Except PanelError Unit × Client T × World :=
  { c with serial := c.serial + 1 }.send (c.serial + 1) command w

/-- The three ways of a dispatch. -/
inductive Dispatched (c : Client T) (command : Command) (w : World) :
    Except PanelError Int32 → Client T → World → Prop
  /-- A command that does not pass its check changes nothing. -/
  | refused {fault : Command.Fault} :
      command.fault? = some fault → Dispatched c command w (.error (.invalid fault.text)) c w
  /-- A message that cannot be written has its serial all the same. -/
  | unsent {e : PanelError} {c' : Client T} {w' : World} :
      command.fault? = none → c.sendNext command w = (.error e, c', w') →
      Dispatched c command w (.error e) c' w'
  /-- After a message that was written comes a wait. -/
  | sent {r : Except PanelError Int32} {c₁ c' : Client T} {w₁ w' : World} :
      command.fault? = none → c.sendNext command w = (.ok (), c₁, w₁) → Waits c₁ w₁ c' w' →
      (∀ n, r = .ok n → n = c.serial + 1) → Dispatched c command w r c' w'

/-- Every dispatch goes one of these ways. -/
theorem dispatched {c c' : Client T} {command : Command} {policy : WaitPolicy} {w w' : World}
    {r : Except PanelError Int32} (h : c.dispatchWith command policy w = some (r, c', w')) :
    Dispatched c command w r c' w' := by
  unfold dispatchWith at h
  split at h
  · -- refused before a serial is spent
    next fault hfault =>
      cases h
      exact .refused hfault
  · next hfault =>
      dsimp only at h
      split at h
      · next e _ _ hsend =>
          cases h
          exact .unsent hfault hsend
      · next c₁ w₁ hsend =>
          split at h  -- a wait without an end is no dispatch at all
          · cases h
          · next hwait =>
              cases h
              exact .sent hfault hsend (waitBy_waits hwait) (fun _ hn => by cases hn)
          · next hwait =>
              cases h
              exact .sent hfault hsend (waitBy_waits hwait) (fun _ hn => by cases hn; rfl)

end Client

/-! ### Sending to the simulated controller

A simulated controller takes a message at once and as a whole, or not at all. Which of the two it is
can be told beforehand.
-/

/-- Whether a message that is sent now arrives. -/
def Link.canSend (l : Link Simulated.transport) (w : World) : Bool :=
  l.command.isSome && w.simulator.commandValid

/-- A message arrives as a whole, or nothing happens. -/
theorem Link.send_simulated (l : Link Simulated.transport) (m : Message) (w : World) :
    l.send m w =
      if l.canSend w then (.ok (), l, { w with simulator := w.simulator.receive m })
      else (.error (.connection "command channel is not valid"), l, w) := by
  obtain ⟨retry, silences, command, status, notices, state⟩ := l
  cases command with
  | none => rfl
  | some c =>
      cases hv : w.simulator.commandValid <;> simp [send, canSend, Simulated.send, hv]

/-- A client sends when its link can. -/
theorem Client.send_simulated (c : Client Simulated.transport) (serial : Int32)
    (command : Command) (w : World) :
    c.send serial command w =
      if c.link.canSend w then
        (.ok (), c, { w with simulator := w.simulator.receive { serial, command } })
      else (.error (.connection "command channel is not valid"), c, w) := by
  simp only [send, Link.send_simulated]
  cases c.link.canSend w <;> rfl

/-! ### Attempts

The record of an attempt is computed beside the operation, from the same client in the same world.
It says more than the result: whether a number was spent, and whether anything was written.
-/

/-- A try to send a command, as it looks afterwards. -/
structure Attempt where
  command : Command
  /-- It passed the checks, so a serial was spent on it. -/
  passed : Bool
  /-- It was written to the command channel. -/
  written : Bool
  result : Except PanelError Int32

namespace Client

variable {T : Transport}

/-- Whether the next message would be written. -/
def delivers (c : Client T) (command : Command) (w : World) : Bool :=
  (c.sendNext command w).1.isOk

/-- Dispatch a command, and keep a record of it. -/
def attempt (c : Client T) (command : Command) (policy : WaitPolicy) (w : World) :
    Option (Attempt × Client T × World) :=
  (c.dispatchWith command policy w).map fun (result, c', w') =>
    ({ command
       passed := command.fault?.isNone
       written := command.fault?.isNone && c.delivers command w
       result }, c', w')

/-- Run the open program, and keep a record of it. -/
def attemptRun (c : Client T) (line : Int32) (w : World) :
    Option (Attempt × Client T × World) :=
  let (_, c, w) := c.refresh w
  if c.status.programOpen then c.attempt (.programRun line) c.wait.policy w
  else
    some
      ({ command := .programRun line
         passed := false
         written := false
         result := .error (.invalid "no program file is open") }, c, w)

/-- What is kept of an attempt when the record is thrown away. -/
def outcome (a : Attempt × Client T × World) : Except PanelError Int32 × Client T × World :=
  (a.1.result, a.2)

/-- Keeping a record changes nothing. -/
theorem outcome_attempt (c : Client T) (command : Command) (policy : WaitPolicy) (w : World) :
    (c.attempt command policy w).map outcome = c.dispatchWith command policy w := by
  simp only [attempt, Option.map_map]
  cases c.dispatchWith command policy w <;> rfl

/-- So it is with the record of a program run. -/
theorem outcome_attemptRun (c : Client T) (line : Int32) (w : World) :
    (c.attemptRun line w).map outcome = c.runProgram line w := by
  simp only [attemptRun, runProgram]
  split
  · exact outcome_attempt ..
  · rfl

end Client

/-! ### What becomes of an attempt

With a simulated controller a dispatch is decided by two questions, whether the command passes its
check and whether the link can send, so that the three ways are told without the operations.
-/

namespace Client

/-- The three ways of an attempt to send a command to the simulated controller. -/
inductive Attempted (c : Client Simulated.transport) (command : Command) (w : World) :
    Attempt → Client Simulated.transport → World → Prop
  | refused {fault : Command.Fault} :
      command.fault? = some fault →
      Attempted c command w
        { command, passed := false, written := false, result := .error (.invalid fault.text) } c w
  | unsent {e : PanelError} :
      command.fault? = none → c.link.canSend w = false →
      Attempted c command w { command, passed := true, written := false, result := .error e }
        { c with serial := c.serial + 1 } w
  | sent {r : Except PanelError Int32} {c' : Client Simulated.transport} {w' : World} :
      command.fault? = none → c.link.canSend w = true →
      Waits { c with serial := c.serial + 1 }
        { w with simulator := w.simulator.receive { serial := c.serial + 1, command } } c' w' →
      (∀ n, r = .ok n → n = c.serial + 1) →
      Attempted c command w { command, passed := true, written := true, result := r } c' w'

/-- The next message arrives just if the link can send. -/
theorem sendNext_simulated (c : Client Simulated.transport) (command : Command) (w : World) :
    c.sendNext command w =
      if c.link.canSend w then
        (.ok (), { c with serial := c.serial + 1 },
          { w with simulator := w.simulator.receive { serial := c.serial + 1, command } })
      else
        (.error (.connection "command channel is not valid"), { c with serial := c.serial + 1 },
          w) :=
  send_simulated { c with serial := c.serial + 1 } (c.serial + 1) command w

/-- A command is delivered just if the link can send. -/
theorem delivers_eq_canSend (c : Client Simulated.transport) (command : Command) (w : World) :
    c.delivers command w = c.link.canSend w := by
  rw [delivers, sendNext_simulated]
  cases c.link.canSend w <;> rfl

/-- **Every attempt goes one of the three ways.** -/
theorem attempted {c c' : Client Simulated.transport} {command : Command} {policy : WaitPolicy}
    {w w' : World} {a : Attempt} (h : c.attempt command policy w = some (a, c', w')) :
    Attempted c command w a c' w' := by
  obtain ⟨⟨r, c₁, w₁⟩, hdispatch, heq⟩ := Option.map_eq_some_iff.1 h
  cases heq
  rw [delivers_eq_canSend]
  -- the message was sent just if the link could send, so two of the four cases contradict
  cases dispatched hdispatch with
  | refused hfault =>
      rw [hfault]
      exact .refused hfault
  | unsent hfault hsend =>
      rw [sendNext_simulated] at hsend
      cases hcan : c.link.canSend w with
      | false =>
          rw [hcan] at hsend
          cases hsend
          rw [hfault]
          exact .unsent hfault hcan
      | true =>
          rw [hcan] at hsend
          cases hsend
  | sent hfault hsend hwaits hresult =>
      rw [sendNext_simulated] at hsend
      cases hcan : c.link.canSend w with
      | false =>
          rw [hcan] at hsend
          cases hsend
      | true =>
          rw [hcan] at hsend
          cases hsend
          rw [hfault]
          exact .sent hfault hcan hwaits hresult

end Client

/-! ### The attempts of actions

An action of a pin asks for a dispatch or for a program run. A list of actions is carried out one by
one, and each record is made in the state that the actions before it have left.
-/

/-- Do what an action asks for, and keep a record of it. -/
def Action.attempt {T : Transport} (action : Action) (client : Client T) (world : World) :
    Option (Attempt × Client T × World) :=
  match action with
  | .send command | .startJog _ command => client.attempt command client.wait.policy world
  | .runProgram => client.attemptRun 0 world

/-- The command that an action sends. -/
def Action.command : Action → Command
  | .send command | .startJog _ command => command
  | .runProgram => .programRun 0

/-- Keeping records of actions changes nothing either. -/
theorem Action.outcome_attempt {T : Transport} (action : Action) (client : Client T)
    (world : World) :
    (action.attempt client world).map Client.outcome
      = CycleState.dispatch action client world := by
  cases action with
  | send command => exact Client.outcome_attempt ..
  | startJog axis command => exact Client.outcome_attempt ..
  | runProgram => exact Client.outcome_attemptRun ..

/-- The attempts that a list of actions leads to, in order and with their pins. -/
def CycleState.attempts {T : Transport} (s : CycleState T) :
    List (InputPin × Action) → List (InputPin × Attempt)
  | [] => []
  | (pin, action) :: actions =>
    match action.attempt s.client s.world, s.perform pin action with
    | some (a, _), some s' => (pin, a) :: attempts s' actions
    | _, _ => []

end OperatorPanel
