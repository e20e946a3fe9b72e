import OperatorPanel.Proofs.Acknowledgement
import OperatorPanel.Proofs.Coherence
import OperatorPanel.Proofs.Tracker

/-!
# Running the open program

A program is run only if one is open, as far as the client knows after another look at the status.
What it knows is right whenever that look succeeds, in every state that a client and its controller
reach together (`Client.Reached`): by operations of the client in any order, by the scripts of the
controller, faults and frames that do not belong included, and by other users of the controller.

The versions of the status must not have come round. An operation counts at most two, one for a
message and one for the end of its command; `Client.Reached` therefore counts the operations.
-/

namespace OperatorPanel

namespace Client

/-! ### What client and controller reach together

Nothing is assumed about the order of things here: any operation may come after any other, and
operations of other users as well. That is more than panels do, and it is as much as tests may do.
-/

/-- One operation: of the client, of the controller, or of somebody else on the controller. -/
inductive Step (c : Client Simulated.transport) (w : World) :
    Client Simulated.transport → World → Prop
  -- what the client does
  | connect : Step c w (c.connect w).2.1 (c.connect w).2.2
  | close : Step c w (c.close w).1 (c.close w).2
  | refresh : Step c w (c.refresh w).2.1 (c.refresh w).2.2
  | poll : Step c w (c.poll w).2.1 (c.poll w).2.2
  | setSerial (serial : Int32) : Step c w { c with serial } w
  | send (serial : Int32) (command : Command) :
      Step c w (c.send serial command w).2.1 (c.send serial command w).2.2
  | dispatch {command : Command} {policy : WaitPolicy} {r : Except PanelError Int32}
      {c' : Client Simulated.transport} {w' : World} :
      c.dispatchWith command policy w = some (r, c', w') → Step c w c' w'
  | waitReceived {serial : Int32} {limit : Option Span} {r : Except PanelError Unit}
      {c' : Client Simulated.transport} {w' : World} :
      c.waitReceivedFor serial limit w = some (r, c', w') → Step c w c' w'
  | waitDone {serial : Int32} {r : Except PanelError Unit} {c' : Client Simulated.transport}
      {w' : World} :
      c.waitDone serial w = some (r, c', w') → Step c w c' w'
  | runProgram {line : Int32} {r : Except PanelError Int32} {c' : Client Simulated.transport}
      {w' : World} :
      c.runProgram line w = some (r, c', w') → Step c w c' w'
  -- what happens to the controller besides
  | script (script : Script) : Step c w c { w with simulator := script.apply w.simulator }
  /-- The controller forgets what it has received. -/
  | forget : Step c w c { w with simulator := { w.simulator with received := [] } }
  /-- Somebody else opens a channel. -/
  | opened : Step c w c { w with simulator := w.simulator.openChannel.2 }
  /-- Somebody else sends a message. -/
  | received (m : Message) : Step c w c { w with simulator := w.simulator.receive m }
  /-- Somebody else looks at the status. -/
  | peeked (seen : UInt64) : Step c w c { w with simulator := (w.simulator.peek seen).2.2 }
  /-- Somebody else takes a notice. -/
  | noticed : Step c w c { w with simulator := w.simulator.takeNotice.2 }

/-- **What is reached in so many operations** by a client that was just made, at a controller that
was just made. What happens away from the controller is not counted. -/
inductive Reached : Nat → Client Simulated.transport → World → Prop
  | new {retry : RetryPolicy} {silences : Bool} {wait : WaitSettings} {w : World}
      {status : Status} :
      w.simulator = { status } → Reached 0 { link := { retry, silences }, wait } w
  | around {n : Nat} {c : Client Simulated.transport} {w w' : World} :
      Reached n c w → w'.simulator = w.simulator → Reached n c w'
  | step {n : Nat} {c c' : Client Simulated.transport} {w w' : World} :
      Reached n c w → Step c w c' w' → Reached (n + 1) c' w'

/-! ### What the client knows

Knowing is a matter of versions again: a client whose channel remembers the controller's version has
seen its status. Each operation moves the version on by two at most, which is what bounds the number
of operations.
-/

/-- **A client that is informed** after so many operations: it is up to date, and so many versions
have been counted at most, with the one that is still to come by itself. -/
structure Informed (n : Nat) (c : Client Simulated.transport) (w : World) : Prop where
  upToDate : UpToDate c.status c w
  counted : w.simulator.version.toNat + w.simulator.pending ≤ 2 * n + 1

namespace Informed

variable {n : Nat} {c c₁ c' : Client Simulated.transport} {w w₁ w' : World}

theorem mono {m : Nat} (h : Informed n c w) (hle : n ≤ m) : Informed m c w where
  upToDate := h.upToDate
  counted := by
    have := h.counted
    omega

theorem apart (h : Informed n c w) (hapart : Apart c w c₁ w₁) : Informed n c₁ w₁ where
  upToDate := by
    have hstatus : c₁.status = c.status := congrArg Watch.status hapart.watch
    rw [hstatus]
    exact h.upToDate.apart hapart
  counted := by
    have hpending : w₁.simulator.pending = w.simulator.pending := by
      rw [Simulator.pending, Simulator.pending, hapart.polls]
    rw [hapart.version, hpending]
    exact h.counted

/-- What leaves the status of the controller alone. -/
theorem unshown (h : Informed n c w) (hstatus : w₁.simulator.status = w.simulator.status)
    (hversion : w₁.simulator.version = w.simulator.version)
    (hpolls : w₁.simulator.pollsUntilDone = w.simulator.pollsUntilDone) : Informed n c w₁ :=
  h.apart ⟨rfl, .inl rfl, hstatus, hversion, hpolls⟩

theorem around (h : Informed n c w) (hsimulator : w₁.simulator = w.simulator) :
    Informed n c w₁ :=
  h.unshown (by rw [hsimulator]) (by rw [hsimulator]) (by rw [hsimulator])

theorem refresh (h : Informed n c w) (hfew : 2 * n + 1 < UInt64.size) :
    Informed n (c.refresh w).2.1 (c.refresh w).2.2 := by
  have hcounted := h.counted
  obtain ⟨hupdated, hversions⟩ := h.upToDate.refresh (by omega)
  exact ⟨hupdated, by omega⟩

theorem waits (h : Informed n c w) (hfew : 2 * n + 1 < UInt64.size) (hwaits : Waits c w c' w') :
    Informed n c' w' :=
  hwaits.invariant (P := fun c w => Informed n c w) (fun _ _ h => h.refresh hfew)
    (fun _ _ h => h.around rfl) (fun _ _ _ h => h.around rfl) h

/-- The status changes, with a version of its own. -/
theorem changed (h : Informed n c w) (hfew : 2 * (n + 1) + 1 < UInt64.size)
    (hversion : w₁.simulator.version = w.simulator.touch.version) : Informed (n + 1) c w₁ := by
  have hcounted := h.counted
  have hpending := w₁.simulator.pending_le_one
  have hnext : w₁.simulator.version.toNat = w.simulator.version.toNat + 1 := by
    rw [hversion]
    exact Simulator.toNat_version_touch (by omega)
  exact ⟨h.upToDate.changed (by omega) hversion, by omega⟩

/-- A look at the controller by somebody else. -/
theorem advanced (h : Informed n c w) (hfew : 2 * n + 1 < UInt64.size)
    (hsimulator : w₁.simulator = w.simulator.advance) : Informed n c w₁ := by
  have hcounted := h.counted
  have hadvance := w.simulator.pending_advance
  rw [← hsimulator] at hadvance
  -- a look by somebody else may end the command that is executing, and then the version moves on
  rcases w.simulator.advance_cases with ⟨_, hsame, hkept⟩ | ⟨hending, hnext⟩
  · rw [← hsimulator] at hsame hkept
    refine ⟨⟨rfl, ?_, ?_⟩, ?_⟩
    · rw [hsame]
      exact h.upToDate.counted
    · rw [hsame, hkept]
      exact h.upToDate.seen
    · rw [hsame]
      omega
  · rw [← hsimulator] at hnext
    rw [hending, changes_changed, changes_nil] at hadvance
    have hcount : w₁.simulator.version.toNat = w.simulator.version.toNat + 1 := by
      rw [hnext]
      exact Simulator.toNat_version_touch (by omega)
    exact ⟨h.upToDate.changed (by omega) hnext, by omega⟩

theorem receive (h : Informed n c w) (hfew : 2 * (n + 1) + 1 < UInt64.size) (m : Message) :
    Informed (n + 1) c { w with simulator := w.simulator.receive m } :=
  h.changed hfew rfl

/-- A dispatch sends one message at most. -/
theorem dispatched {command : Command} {r : Except PanelError Int32} (h : Informed n c w)
    (hfew : 2 * (n + 1) + 1 < UInt64.size) (hdispatched : Dispatched c command w r c' w') :
    Informed (n + 1) c' w' := by
  -- a fresh number by itself is no contact with the controller
  have hspent : Informed n { c with serial := c.serial + 1 } w := h.apart (.ofSimulator rfl rfl rfl)
  cases hdispatched with
  | refused _ => exact h.mono (Nat.le_succ n)
  | unsent _ hsend =>
      rw [sendNext_simulated] at hsend
      split at hsend
      · cases hsend
      · cases hsend
        exact hspent.mono (Nat.le_succ n)
  | sent _ hsend hwaits _ =>
      rw [sendNext_simulated] at hsend
      split at hsend
      · cases hsend
        exact (hspent.receive hfew _).waits hfew hwaits
      · cases hsend

/-- **Every operation leaves the client informed.** -/
theorem step (h : Informed n c w) (hfew : 2 * (n + 1) + 1 < UInt64.size)
    (hstep : Step c w c' w') : Informed (n + 1) c' w' := by
  have hlater : Informed (n + 1) c w := h.mono (Nat.le_succ n)
  have hbefore : 2 * n + 1 < UInt64.size := by omega
  cases hstep with
  | connect => exact hlater.apart (c.apart_connect w)
  | close => exact hlater.apart (c.apart_close w)
  | refresh => exact hlater.refresh hfew
  | poll => exact hlater.apart (c.apart_poll w)
  | setSerial serial => exact hlater.apart (.ofSimulator rfl rfl rfl)
  | send serial command =>
      rw [send_simulated]
      split  -- a message that is written is a version more, and one that is not written is none
      · exact h.receive hfew _
      · exact hlater
  | dispatch hdispatch => exact h.dispatched hfew (Client.dispatched hdispatch)
  | waitReceived hwait => exact hlater.waits hfew (waitReceivedFor_waits hwait)
  | waitDone hwait => exact hlater.waits hfew (waitDone_waits hwait)
  | runProgram hrun =>
      unfold Client.runProgram at hrun
      dsimp only at hrun
      split at hrun
      · exact (h.refresh hbefore).dispatched hfew (Client.dispatched hrun)
      · cases hrun
        exact hlater.refresh hfew
  | script script =>
      cases script with
      | edit f => exact h.changed hfew rfl
      | acknowledge => exact hlater.unshown rfl rfl rfl
      | validate => exact hlater.unshown rfl rfl rfl
      | disturb => exact hlater.unshown rfl rfl rfl
      | interject => exact hlater.unshown rfl rfl rfl
      | report => exact hlater.unshown rfl rfl rfl
      | failOpens => exact hlater.unshown rfl rfl rfl
  | forget => exact hlater.unshown rfl rfl rfl
  | opened =>
      obtain ⟨hstatus, hversion, hpolls⟩ := (Simulator.Reached.openChannel w.simulator).shown
      exact hlater.unshown hstatus hversion hpolls
  | received m => exact h.receive hfew m
  | peeked seen =>
      rcases w.simulator.peek_cases seen with ⟨_, hpeek⟩ | ⟨_, hpeek⟩ | ⟨_, hpeek⟩ | ⟨_, hpeek⟩ <;>
        rw [hpeek]
      · exact hlater
      · exact hlater.unshown rfl rfl rfl
      · exact hlater.advanced hfew rfl
      · exact hlater.advanced hfew rfl
  | noticed =>
      rw [Simulator.takeNotice_eq]
      exact hlater.unshown rfl rfl rfl

end Informed

/-- **A client is informed in every state that is reached**, as long as the versions do not come
round. -/
theorem Reached.informed {n : Nat} {c : Client Simulated.transport} {w : World}
    (h : Reached n c w) (hfew : 2 * n + 1 < UInt64.size) : Informed n c w := by
  induction h with
  | new hsimulator =>
      refine ⟨.ofClosed rfl ?_, ?_⟩
      · rw [hsimulator]
        show (0 : UInt64) < 1
        decide
      · rw [hsimulator]
        exact Nat.le_refl 1
  | around _ hsimulator ih => exact (ih hfew).around hsimulator
  | step _ hstep ih => exact (ih (by omega)).step hfew hstep

/-! ### One run

What a run comes to is decided by the status after its look. The look may succeed or fail, and if it
succeeds what it shows is the controller's own status, by what was said of informed clients.
-/

/-- Whether a run of the open program is refused. -/
def Refuses (c : Client Simulated.transport) (line : Int32) (w : World) : Prop :=
  ∃ reason c' w', c.runProgram line w = some (.error (.invalid reason), c', w')

/-- **The rule for runs from a line**, after so many operations. The status that counts is the one
that the client holds after its look: without an open program in it nothing is sent. -/
structure RunRule (n : Nat) (c : Client Simulated.transport) (w : World) (line : Int32) : Prop where
  /-- The run is written if a program is open and the channel works, and nothing else is. -/
  writes : ∀ r c' w', c.runProgram line w = some (r, c', w') →
    w'.simulator.received = w.simulator.received ++
      if (c.refresh w).2.1.status.programOpen && c.link.canSend w then
        [{ serial := c.serial + 1, command := .programRun line }]
      else []
  /-- A run that waits for ever was written. -/
  endless : c.runProgram line w = none → (c.refresh w).2.1.status.programOpen = true
  /-- Where the look succeeds, with something new or not, the controller decides. -/
  decides : (c.refresh w).1.isOk = true → 2 * n + 1 < UInt64.size →
    (c.Refuses line w ↔ w.simulator.status.programOpen = false)
  /-- Where it fails, the last status decides. -/
  stale : (c.refresh w).1.isOk = false →
    (c.Refuses line w ↔ c.status.programOpen = false)
  /-- A run that is refused spends no serial and sends nothing. -/
  refused : ∀ reason c' w', c.runProgram line w = some (.error (.invalid reason), c', w') →
    c'.serial = c.serial ∧ w'.simulator.received = w.simulator.received

variable {n : Nat} {c c' : Client Simulated.transport} {w w' : World} {line : Int32}

/-- No wait ends with a refusal. -/
theorem waitBy_not_invalid {T : Transport} {c c' : Client T} {policy : WaitPolicy} {serial : Int32}
    {w w' : World} {e : PanelError} (h : c.waitBy policy serial w = some (.error e, c', w'))
    (reason : String) : e ≠ .invalid reason := by
  rintro rfl
  cases policy with
  | none => cases h
  | received =>
      obtain ⟨hok, _⟩ | ⟨t, htimeout, _⟩ := awaitEcho_ends h
      · cases hok
      · cases htimeout
  | done => -- the wait ends with the echo and goes on to the end of the command
      simp only [waitBy, waitDone] at h
      split at h
      · cases h
      · next hwait =>
          cases h
          obtain ⟨hok, _⟩ | ⟨t, htimeout, _⟩ := awaitEcho_ends hwait
          · cases hok
          · cases htimeout
      · obtain ⟨hok, _⟩ | ⟨hremote, _⟩ | ⟨t, htimeout, _⟩ := awaitEnd_ends h
        · cases hok
        · cases hremote
        · cases htimeout

/-- Without an open program. -/
theorem runProgram_of_closed (hopen : (c.refresh w).2.1.status.programOpen = false) :
    c.runProgram line w
      = some
          (.error (.invalid "no program file is open"), (c.refresh w).2.1, (c.refresh w).2.2) := by
  unfold runProgram
  dsimp only
  rw [if_neg (by rw [hopen]; decide)]

/-- With an open program. -/
theorem runProgram_of_open (hopen : (c.refresh w).2.1.status.programOpen = true) :
    c.runProgram line w = (c.refresh w).2.1.dispatch (.programRun line) (c.refresh w).2.2 := by
  unfold runProgram
  dsimp only
  rw [if_pos hopen]

/-- What comes of the run of an open program. -/
theorem runProgram_opened {r : Except PanelError Int32}
    (hopen : (c.refresh w).2.1.status.programOpen = true)
    (h : c.runProgram line w = some (r, c', w')) :
    (∀ reason, r ≠ .error (.invalid reason)) ∧
      w'.simulator.received = w.simulator.received ++
        if c.link.canSend w then [{ serial := c.serial + 1, command := .programRun line }]
        else [] := by
  rw [runProgram_of_open hopen] at h
  have hreceived := (c.quiet_refresh w).simulator.received
  rw [← canSend_refresh]
  -- the look before the run has received nothing, so the dispatch is the whole of it
  obtain ⟨hcan, rfl, _, rfl⟩ | ⟨hcan, waited, hwait, rfl⟩ := dispatchWith_eq_some rfl h
  · rw [if_neg (by rw [hcan]; decide), List.append_nil]
    exact ⟨nofun, hreceived⟩
  · rw [if_pos hcan, ← hreceived]
    refine ⟨?_, (waitBy_waits hwait).quiet.simulator.received⟩
    intro reason hinvalid
    cases waited with
    | ok _ => cases hinvalid
    | error e =>
        refine waitBy_not_invalid hwait reason ?_
        exact Except.error.inj hinvalid

/-- **A run is refused when no program is open in the status after the look.** -/
theorem refuses_iff : c.Refuses line w ↔ (c.refresh w).2.1.status.programOpen = false := by
  constructor
  · rintro ⟨reason, c', w', hrun⟩
    refine Bool.eq_false_iff.2 fun hopen => ?_
    exact (runProgram_opened hopen hrun).1 reason rfl
  · intro hopen
    exact ⟨_, _, _, runProgram_of_closed hopen⟩

/-- A look leaves it to the controller which program is open. -/
theorem programOpen_refresh (c : Client Simulated.transport) (w : World) :
    (c.refresh w).2.2.simulator.status.programOpen = w.simulator.status.programOpen := by
  rw [(c.quiet_refresh w).simulator.status]
  rfl

/-- A look that fails leaves what was seen before. -/
theorem status_of_failed (h : (c.refresh w).1.isOk = false) :
    (c.refresh w).2.1.status = c.status := by
  rcases hlook : c.refresh w with ⟨r, c₁, w₁⟩
  rw [hlook] at h
  cases r with
  | ok f => cases h
  | error e =>
      cases looked hlook with
      | failed hapart => exact congrArg Watch.status hapart.watch

theorem Reached.runRule (h : Reached n c w) (line : Int32) : RunRule n c w line where
  writes r c' w' hrun := by
    -- the run was refused or dispatched, as the status says that the look has left
    cases hopen : (c.refresh w).2.1.status.programOpen with
    | true => exact (runProgram_opened hopen hrun).2
    | false =>
        rw [runProgram_of_closed hopen] at hrun
        cases hrun
        simpa using (c.quiet_refresh w).simulator.received
  endless hnone := by
    cases hopen : (c.refresh w).2.1.status.programOpen with
    | true => rfl
    | false =>
        rw [runProgram_of_closed hopen] at hnone
        cases hnone
  decides hok hfew := by
    have hinformed := h.informed hfew
    have hcounted := hinformed.counted
    rw [refuses_iff, hinformed.upToDate.current (by omega) hok, programOpen_refresh]
  stale hfailed := by rw [refuses_iff, status_of_failed hfailed]
  refused reason c' w' hrun := by
    have hopen := refuses_iff.1 ⟨reason, c', w', hrun⟩
    rw [runProgram_of_closed hopen] at hrun
    cases hrun
    exact ⟨rfl, (c.quiet_refresh w).simulator.received⟩

end Client

/-! ### The pin that runs the program -/

namespace Console

variable {c : Console} {now : InputSample} {status : Status}

/-- When its pin turns active, the open program is to run. -/
theorem mem_scanPins_programRun {pins : List InputPin}
    (hpin : .control .programRun ∈ pins)
    (hrises : c.previous.rises now (.control .programRun) = true) :
    (.control .programRun, .runProgram) ∈ (scanPins now status pins c).1 := by
  induction pins generalizing c with
  | nil => cases hpin
  | cons pin pins ih =>
      rw [scanPins_cons]
      rcases List.mem_cons.1 hpin with rfl | hpin
      · have hacts : c.pinAction now status (.control .programRun) = (some .runProgram, c) :=
          if_pos hrises
        rw [hacts]
        exact List.mem_append_left _ (List.mem_singleton.2 rfl)
      · refine List.mem_append_right _ (ih hpin ?_)
        rw [(c.pinAction_console now status pin).2]
        exact hrises

end Console

namespace Client

variable {n : Nat}

/-- An action of a cycle is one operation. -/
theorem Reached.perform {s s' : CycleState Simulated.transport} {pin : InputPin} {action : Action}
    (h : Reached n s.client s.world) (hperform : s.perform pin action = some s') :
    Reached (n + 1) s'.client s'.world := by
  -- whatever its outcome, the action is one step of the client
  have hstep {r : Except PanelError Int32} {client : Client Simulated.transport} {world : World}
      (hdispatch : CycleState.dispatch action s.client s.world = some (r, client, world)) :
      s.client.Step s.world client world := by
    cases action with
    | send command => exact .dispatch hdispatch
    | startJog axis command => exact .dispatch hdispatch
    | runProgram => exact .runProgram hdispatch
  unfold CycleState.perform at hperform
  split at hperform
  · cases hperform
  · next hdispatch =>
      cases hperform
      exact h.step (hstep hdispatch)
  · next hdispatch =>
      cases hperform
      exact (h.step (hstep hdispatch)).around rfl

theorem Reached.performAll {s s' : CycleState Simulated.transport}
    {actions : List (InputPin × Action)} (h : Reached n s.client s.world)
    (hperform : s.performAll actions = some s') :
    Reached (n + actions.length) s'.client s'.world := by
  induction actions generalizing n s with
  | nil =>
      cases hperform
      exact h
  | cons action actions ih =>
      obtain ⟨pin, action⟩ := action
      unfold CycleState.performAll at hperform
      split at hperform
      · cases hperform
      · next s₁ hfirst =>
          have hrest := ih (h.perform hfirst) hperform
          rw [List.length_cons, Nat.add_comm actions.length, ← Nat.add_assoc]
          exact hrest

/-- A run that is refused is counted as a failure, and nothing else becomes of it. -/
theorem Refuses.perform {s : CycleState Simulated.transport} (h : s.client.Refuses 0 s.world)
    (pin : InputPin) :
    ∃ s', s.perform pin .runProgram = some s' ∧ s'.console = s.console ∧
      s'.report = { s.report with failed := s.report.failed + 1 } ∧
      s'.client.serial = s.client.serial ∧
      s'.world.simulator.received = s.world.simulator.received := by
  have hdispatch : CycleState.dispatch .runProgram s.client s.world
      = some (.error (.invalid "no program file is open"), (s.client.refresh s.world).2.1,
          (s.client.refresh s.world).2.2) :=
    runProgram_of_closed (refuses_iff.1 h)
  unfold CycleState.perform
  rw [hdispatch]
  exact ⟨_, rfl, rfl, rfl, rfl, (s.client.quiet_refresh s.world).simulator.received⟩

/-- **A program is run only if one is open**: in every state that a client reaches with its
controller, a run from any line follows the rule for runs. So does, in a cycle from there, the run
that is due when its pin turns active, after all that the cycle has sent before it; and when it is
refused the cycle goes on. -/
theorem Reached.runs_open_program {c : Client Simulated.transport} {w : World}
    (h : Reached n c w) :
    (∀ line, RunRule n c w line) ∧
    ∀ (console : Console) (bus : PinBus),
      console.previous.rises (bus.sample w).1 (.control .programRun) = true →
      ∃ done rest, (console.scan (bus.sample w).1 c.status).1
          = done ++ (.control .programRun, .runProgram) :: rest ∧
        ∀ s, (console.scanned c bus w).performAll done = some s →
          RunRule (n + done.length) s.client s.world 0 ∧
          (s.client.Refuses 0 s.world →
            ∃ s', s.perform (.control .programRun) .runProgram = some s' ∧
              s'.console = s.console ∧
              s'.report = { s.report with failed := s.report.failed + 1 } ∧
              s'.client.serial = s.client.serial ∧
              s'.world.simulator.received = s.world.simulator.received ∧
              s.performAll ((.control .programRun, .runProgram) :: rest) = s'.performAll rest) := by
  refine ⟨h.runRule, ?_⟩
  intro console bus hrises
  have hmem : (.control .programRun, .runProgram) ∈ (console.scan (bus.sample w).1 c.status).1 :=
    Console.mem_scanPins_programRun (InputPin.control_mem_registered _) hrises
  -- the actions before this one are what happens between the scan and the run
  obtain ⟨done, rest, hscan⟩ := List.append_of_mem hmem
  refine ⟨done, rest, hscan, ?_⟩
  intro s hperform
  have hsampled : Reached n c (bus.sample w).2.2 := h.around (bus.simulator_sample w)
  -- the actions before it are steps of the client too, one for each
  have hreached : Reached (n + done.length) s.client s.world := hsampled.performAll hperform
  refine ⟨hreached.runRule 0, ?_⟩
  intro hrefuses
  obtain ⟨s', hrefused, hconsole, hreport, hserial, hreceived⟩ :=
    hrefuses.perform (.control .programRun)
  refine ⟨s', hrefused, hconsole, hreport, hserial, hreceived, ?_⟩
  rw [CycleState.performAll, hrefused]

/-- The controller opens a program. -/
def opening (w : World) : World :=
  { w with
    simulator := (Script.edit fun t => { t with programFile := "part.ngc" }).apply w.simulator }

/-- A client has connected, and no program is open: a run is refused, and so is that of the pin.
Then the controller opens a program, and a run is not refused any more. -/
theorem Reached.runs_open_program_connected :
    ∃ p c w s', Panel.create Simulated.transport {} { carrier := .memory {} } = .ok p ∧
      c = (p.client.connect (.echoing 7)).2.1 ∧ w = (p.client.connect (.echoing 7)).2.2 ∧
      Reached 1 c w ∧ c.Refuses 5 w ∧
      (p.console.scanned c (Panel.pressing (.control .programRun)) w).perform
        (.control .programRun) .runProgram = some s' ∧
      s'.report.failed = 1 ∧ s'.client.serial = c.serial ∧
      s'.world.simulator.received = [] ∧ ¬c.Refuses 5 (opening w) := by
  have hevaluates :
      (Panel.create Simulated.transport {} { carrier := .memory {} }).toOption.any
        (fun p =>
          let c := (p.client.connect (.echoing 7)).2.1
          let w := (p.client.connect (.echoing 7)).2.2
          let sample := (Panel.pressing (.control .programRun)).sample w
          decide (
            ((c.refresh w).1.isOk = true ∧ w.simulator.status.programOpen = false) ∧
            ((c.refresh (opening w)).1.isOk = true ∧
              (opening w).simulator.status.programOpen = true) ∧
            ((c.refresh sample.2.2).1.isOk = true ∧
              sample.2.2.simulator.status.programOpen = false ∧
              sample.2.2.simulator.received = []) ∧
            p.console.previous.rises sample.1 (.control .programRun) = true ∧
            (p.console.scan sample.1 c.status).1
              = [(.control .programRun, .runProgram)])) = true := by
    decide +kernel
  rcases hcreate : Panel.create Simulated.transport {} { carrier := .memory {} } with _ | p
  · rw [hcreate] at hevaluates
    cases hevaluates
  · rw [hcreate, Except.toOption, Option.any_some] at hevaluates
    obtain ⟨⟨hok, hclosed⟩, ⟨hok', hopened⟩, ⟨hok'', hclosed', hreceived⟩, hrises, hscan⟩ :=
      of_decide_eq_true hevaluates
    have hconnected : Reached 1 (p.client.connect (.echoing 7)).2.1
        (p.client.connect (.echoing 7)).2.2 := by
      refine .step ?_ .connect
      obtain ⟨_, setup, _, rfl⟩ := Panel.create_eq_ok hcreate
      exact .new rfl
    generalize hc : (p.client.connect (.echoing 7)).2.1 = c at *
    generalize hw : (p.client.connect (.echoing 7)).2.2 = w at *
    have hlater : Reached 2 c (opening w) := hconnected.step (.script _)
    obtain ⟨hlines, hpin⟩ := hconnected.runs_open_program
    obtain ⟨hlines', _⟩ := hlater.runs_open_program
    obtain ⟨done, rest, hactions, hruns⟩ :=
      hpin p.console (Panel.pressing (.control .programRun)) hrises
    -- there is nothing else to do in that cycle
    have hdone : done = [] := by
      rw [hscan] at hactions
      cases done with
      | nil => rfl
      | cons _ done =>
          have hlength := congrArg List.length hactions
          simp at hlength
    subst hdone
    obtain ⟨hrule, hgoes⟩ := hruns _ rfl
    obtain ⟨s', hrefused, _, hreport, hserial, hlog, _⟩ :=
      hgoes ((hrule.decides hok'' (by decide)).2 hclosed')
    refine ⟨p, c, w, s', rfl, hc.symm, hw.symm, hconnected,
      ((hlines 5).decides hok (by decide)).2 hclosed, hrefused, by rw [hreport]; rfl, hserial,
      hlog.trans hreceived, ?_⟩
    intro hrefuses
    rw [(hlines' 5).decides hok' (by decide), hopened] at hrefuses
    cases hrefuses

end Client

end OperatorPanel
