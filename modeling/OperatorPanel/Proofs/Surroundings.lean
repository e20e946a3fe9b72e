import OperatorPanel.Proofs.Policies

/-!
# Surroundings

Around a panel and its controller lie the notices that nobody has taken yet, the files, and the
journal. No operation of a client asks for them: amid other surroundings a wait, an attempt or a
connecting comes to the same, and leaves the surroundings as they were (`Client.attempt_amid`,
`Client.surroundings_attempt`).
-/

namespace OperatorPanel

/-- What a client does not ask for. -/
structure Surroundings where
  notices : List Notice
  directory : Directory
  journal : List Record

/-! ### The same world amid others

One world is compared with another that has the same controller at the same time and differs in
everything that a client does not ask for. An operation is indifferent to its surroundings when the
two commute: to exchange them before it or after it comes to the same.
-/

namespace World

variable (w : World) (x y : Surroundings)

/-- What lies around the controller. -/
def surroundings : Surroundings := ⟨w.simulator.notices, w.directory, w.journal⟩

/-- The same controller at the same time, amid other surroundings. -/
def amid : World :=
  { w with
    simulator := { w.simulator with notices := x.notices }
    directory := x.directory
    journal := x.journal }

@[simp] theorem time_amid : (w.amid x).time = (w.time.1, w.time.2.amid x) := rfl

@[simp] theorem sleep_amid (t : Span) : (w.amid x).sleep t = (w.sleep t).amid x := rfl

end World

/-- The result of an operation amid other surroundings. -/
def Surroundings.around {α β : Type} (x : Surroundings) (r : α × β × World) : α × β × World :=
  (r.1, r.2.1, r.2.2.amid x)

/-- What comes to the same amid the surroundings that there are leaves them as they are. -/
theorem Surroundings.of_around {α β : Type} {x : Surroundings} {o : Option (α × β × World)}
    (h : o = o.map x.around) {r : α × β × World} (hr : o = some r) : r.2.2.surroundings = x := by
  rw [hr] at h
  rw [Option.some.inj h]
  rfl

namespace Simulator

variable (c : Simulator) (notices : List Notice)

/-- A look at the status takes no notice. -/
theorem peek_amid (seen : UInt64) :
    peek { c with notices } seen
      = ((c.peek seen).1, (c.peek seen).2.1, { (c.peek seen).2.2 with notices }) := by
  have hadvance : advance { c with notices } = { c.advance with notices } := by
    unfold advance
    dsimp only
    split <;> rfl
  unfold peek
  rw [hadvance]
  dsimp only
  split
  · rfl
  · split
    · rfl
    · split <;> rfl

/-- To open a channel takes none either. -/
theorem openChannel_amid :
    openChannel { c with notices } = (c.openChannel.1, { c.openChannel.2 with notices }) := by
  unfold openChannel
  dsimp only
  split <;> rfl

end Simulator

namespace Link

variable (l : Link Simulated.transport) (w : World) (x : Surroundings)

/-- So a look through a link is the same amid others. -/
theorem peek_amid : l.peek (w.amid x) = x.around (l.peek w) := by
  unfold peek
  split
  · rfl
  · next seen _ =>
      dsimp only [Simulated.peek, World.amid]
      rw [Simulator.peek_amid]
      rfl

theorem canSend_amid : l.canSend (w.amid x) = l.canSend w := rfl

end Link

/-! ### Waits

A wait is looks and pauses, and decides by the time and by what it sees. The loops are followed turn
by turn, by induction on the turns that are left.
-/

namespace Client

variable (c : Client Simulated.transport) (w : World) (x : Surroundings)

/-- A refresh is a look. -/
theorem refresh_amid : c.refresh (w.amid x) = x.around (c.refresh w) := by
  unfold refresh Watch.refresh
  rw [Link.peek_amid]
  rcases c.link.peek w with ⟨_ | _, l, v⟩ <;> rfl

theorem surroundings_refresh : (c.refresh w).2.2.surroundings = w.surroundings :=
  Surroundings.of_around (congrArg some (c.refresh_amid w w.surroundings)) rfl

/-- How often a wait may look depends on the client alone. -/
theorem rounds_amid (limit : Option Span) : c.rounds limit (w.amid x) = c.rounds limit w := by
  have hpatience : c.link.patience (w.amid x) = c.link.patience w := by
    unfold Link.patience
    split <;> rfl
  unfold rounds
  rw [hpatience]

/-- To send reaches the controller, and touches nothing around it. -/
theorem send_amid (serial : Int32) (command : Command) :
    c.send serial command (w.amid x) = x.around (c.send serial command w) := by
  rw [send_simulated, send_simulated, Link.canSend_amid]
  split <;> rfl

/-- The wait for an echo, turn by turn. -/
theorem awaitEcho_amid (serial : Int32) (limit : Option Span) (start rounds : Nat) :
    awaitEcho serial limit start rounds c (w.amid x)
      = (awaitEcho serial limit start rounds c w).map x.around := by
  induction rounds generalizing c w with
  | zero => rfl
  | succ rounds ih =>
      unfold awaitEcho
      rw [refresh_amid]
      -- the look gives the same in both worlds; from here on there is one of it
      generalize c.refresh w = looked
      obtain ⟨r, c₁, w₁⟩ := looked
      dsimp only [Surroundings.around]
      rw [World.time_amid]
      split
      · rfl
      · -- the clock is the same in both, so both reach the limit at once or neither does
        by_cases hlimit : atLimit limit (w₁.time.1 - start) = true
        · rw [if_pos hlimit, if_pos hlimit]
          rfl
        · rw [if_neg hlimit, if_neg hlimit]
          exact ih c₁ (w₁.time.2.sleep c₁.wait.interval)

theorem waitReceivedFor_amid (serial : Int32) (limit : Option Span) :
    c.waitReceivedFor serial limit (w.amid x)
      = (c.waitReceivedFor serial limit w).map x.around := by
  unfold waitReceivedFor
  rw [rounds_amid, World.time_amid]
  exact awaitEcho_amid ..

/-- A wait leaves its surroundings alone. -/
theorem surroundings_waitReceivedFor {c c' : Client Simulated.transport} {w w' : World}
    {serial : Int32} {limit : Option Span} {r : Except PanelError Unit}
    (h : c.waitReceivedFor serial limit w = some (r, c', w')) :
    w'.surroundings = w.surroundings :=
  Surroundings.of_around (c.waitReceivedFor_amid w w.surroundings serial limit) h

/-- The wait for the end of a command, turn by turn. -/
theorem awaitEnd_amid (serial : Int32) (start rounds : Nat) :
    awaitEnd serial start rounds c (w.amid x)
      = (awaitEnd serial start rounds c w).map x.around := by
  induction rounds generalizing c w with
  | zero => rfl
  | succ rounds ih =>
      unfold awaitEnd
      rw [World.time_amid]
      split
      · rfl
      · rfl
      · dsimp only
        by_cases hlimit : atLimit c.wait.limit (w.time.1 - start) = true
        · rw [if_pos hlimit, if_pos hlimit]
          rfl
        · rw [if_neg hlimit, if_neg hlimit, World.sleep_amid, refresh_amid]
          generalize c.refresh (w.time.2.sleep c.wait.interval) = looked
          obtain ⟨r, c₁, w₁⟩ := looked
          exact ih c₁ w₁

theorem waitDone_amid (serial : Int32) :
    c.waitDone serial (w.amid x) = (c.waitDone serial w).map x.around := by
  unfold waitDone waitReceived
  rw [waitReceivedFor_amid]
  rcases c.waitReceivedFor serial c.wait.limit w with _ | ⟨_ | _, c₁, w₁⟩
  · rfl
  · rfl
  · dsimp only [Option.map_some, Surroundings.around]
    rw [rounds_amid, World.time_amid]
    exact awaitEnd_amid ..

/-- **A wait comes to the same amid any surroundings.** -/
theorem waitBy_amid (policy : WaitPolicy) (serial : Int32) :
    c.waitBy policy serial (w.amid x) = (c.waitBy policy serial w).map x.around := by
  cases policy with
  | none => rfl
  | received => exact waitReceivedFor_amid ..
  | done => exact waitDone_amid ..

/-! ### Attempts

An attempt is a check, a message and a wait, and a program run looks at the status before it. None
of these has anything to do with the surroundings.
-/

/-- A dispatch comes to the same amid any surroundings. -/
theorem dispatchWith_amid (command : Command) (policy : WaitPolicy) :
    c.dispatchWith command policy (w.amid x)
      = (c.dispatchWith command policy w).map x.around := by
  unfold dispatchWith
  split
  · rfl
  · dsimp only
    rw [send_amid]
    rcases send { c with serial := c.serial + 1 } (c.serial + 1) command w with ⟨_ | _, c₁, w₁⟩
    · rfl
    · dsimp only [Surroundings.around]
      rw [waitBy_amid]
      rcases c₁.waitBy policy (c.serial + 1) w₁ with _ | ⟨_ | _, c₂, w₂⟩ <;> rfl

/-- **An attempt comes to the same amid any surroundings**, and leaves them as they are. -/
theorem attempt_amid (command : Command) (policy : WaitPolicy) :
    c.attempt command policy (w.amid x) = (c.attempt command policy w).map x.around := by
  unfold attempt
  rw [dispatchWith_amid, delivers_eq_canSend, delivers_eq_canSend, Link.canSend_amid]
  cases c.dispatchWith command policy w <;> rfl

/-- So does running the program. -/
theorem attemptRun_amid (line : Int32) :
    c.attemptRun line (w.amid x) = (c.attemptRun line w).map x.around := by
  unfold attemptRun
  rw [refresh_amid]
  generalize c.refresh w = looked
  obtain ⟨r, c₁, w₁⟩ := looked
  dsimp only [Surroundings.around]
  split
  · exact attempt_amid ..
  · rfl

variable {c c' : Client Simulated.transport} {w w' : World} {a : Attempt}

theorem surroundings_attempt {command : Command} {policy : WaitPolicy}
    (h : c.attempt command policy w = some (a, c', w')) : w'.surroundings = w.surroundings :=
  Surroundings.of_around (c.attempt_amid w w.surroundings command policy) h

theorem surroundings_attemptRun {line : Int32} (h : c.attemptRun line w = some (a, c', w')) :
    w'.surroundings = w.surroundings :=
  Surroundings.of_around (c.attemptRun_amid w w.surroundings line) h

end Client

theorem Action.attempt_amid (action : Action) (c : Client Simulated.transport) (w : World)
    (x : Surroundings) :
    action.attempt c (w.amid x) = (action.attempt c w).map x.around := by
  cases action with
  | send command => exact Client.attempt_amid ..
  | startJog axis command => exact Client.attempt_amid ..
  | runProgram => exact Client.attemptRun_amid ..

theorem Action.surroundings_attempt {action : Action} {c c' : Client Simulated.transport}
    {w w' : World} {a : Attempt} (h : action.attempt c w = some (a, c', w')) :
    w'.surroundings = w.surroundings :=
  Surroundings.of_around (action.attempt_amid c w w.surroundings) h

/-! ### Connecting

Connecting tries to open three channels, and pauses between the attempts. Its journal is another
matter: what it writes there is written amid the surroundings, so this is about the attempts and not
about all of it.
-/

namespace Link

variable (l : Link Simulated.transport) (w : World) (x : Surroundings)

/-- To open one end asks the controller only. -/
theorem openEnd_amid {α : Type} (kind : ChannelKind) (end_ : α) :
    Simulated.openEnd kind end_ (w.amid x)
      = ((Simulated.openEnd kind end_ w).1, (Simulated.openEnd kind end_ w).2.amid x) := by
  unfold Simulated.openEnd
  dsimp only [World.amid]
  rw [Simulator.openChannel_amid]
  dsimp only
  split <;> rfl

theorem openCommand_amid :
    l.openCommand (w.amid x) = ((l.openCommand w).1, (l.openCommand w).2.amid x) := by
  unfold openCommand
  split
  · rfl
  · dsimp only
    rw [openEnd_amid]
    rcases Simulated.openEnd .command () w with ⟨_ | _, v⟩ <;> rfl

theorem openStatus_amid :
    l.openStatus (w.amid x) = ((l.openStatus w).1, (l.openStatus w).2.amid x) := by
  unfold openStatus
  split
  · rfl
  · dsimp only
    rw [openEnd_amid]
    rcases Simulated.openEnd .status (0 : UInt64) w with ⟨_ | _, v⟩ <;> rfl

theorem openNotices_amid :
    l.openNotices (w.amid x) = ((l.openNotices w).1, (l.openNotices w).2.amid x) := by
  unfold openNotices
  split
  · rfl
  · dsimp only
    rw [openEnd_amid]
    rcases Simulated.openEnd .error () w with ⟨_ | _, v⟩ <;> rfl

/-- To open what is missing is to open up to three of them. -/
theorem openMissing_amid : l.openMissing (w.amid x) = x.around (l.openMissing w) := by
  unfold openMissing
  rw [openCommand_amid]
  rcases l.openCommand w with ⟨_ | l₁, w₁⟩
  · rfl
  · dsimp only
    rw [openStatus_amid]
    rcases l₁.openStatus w₁ with ⟨_ | l₂, w₂⟩
    · rfl
    · dsimp only
      rw [openNotices_amid]
      rcases l₂.openNotices w₂ with ⟨_ | l₃, w₃⟩ <;> rfl

/-- The attempts to connect are the same: what the policy allows does not depend on the
surroundings. -/
theorem attempt_amid (retry : RetryPolicy) (attempts : UInt32) (waited : Span) :
    l.attempt retry (w.amid x) attempts waited
      = ((l.attempt retry w attempts waited).1,
          x.around (l.attempt retry w attempts waited).2) := by
  fun_induction attempt l retry w attempts waited with
  | case1 l w attempts waited l₁ w₁ hopen =>
      rw [attempt, openMissing_amid, hopen]
      rfl
  | case2 l w attempts waited e l₁ w₁ hopen hallows _ ih =>
      rw [attempt, openMissing_amid, hopen]
      dsimp only [Surroundings.around]
      rw [dif_pos hallows]
      exact ih
  | case3 l w attempts waited e l₁ w₁ hopen hspent =>
      rw [attempt, openMissing_amid, hopen]
      dsimp only [Surroundings.around]
      rw [dif_neg hspent]

/-- The attempts leave the surroundings as they were. -/
theorem surroundings_attempt (retry : RetryPolicy) (attempts : UInt32) (waited : Span) :
    (l.attempt retry w attempts waited).2.2.2.surroundings = w.surroundings := by
  have hsame := l.attempt_amid w w.surroundings retry attempts waited
  exact Surroundings.of_around (congrArg (fun r => some r.2) hsame) rfl

end Link

end OperatorPanel
