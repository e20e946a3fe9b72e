import Mathlib.Algebra.Order.Floor.Div
import OperatorPanel.Proofs.Startup
import OperatorPanel.Route

/-!
# Deadlines

A wait with a limit ends, whatever comes from the controller: the client looks once at once and
once after each interval, and only as long as the limit has not come (`Panel.waits_end`). All that
is asked for is that no look sets the clock back (`Transport.KeepsTime`), and that the client sleeps
between its looks at all.

The waits of a client count their rounds down. What bounds them here does not: a loop is given by
its single turn, and `Turns` says in which turn it ends, without a count that could run out
(`Turns.of_paced`). `ReceivesIn`, `FinishesIn`, `WaitsIn`, `DispatchesIn` and `Panel.ShutsIn` are
the operations of a client and of a panel together with the looks that they take.
-/

namespace OperatorPanel

/-! ### Loops

A loop is given by its turn, which ends it or leads to a state to go on from. When it ends is a
relation, so a bound on the turns is a statement about the loop and not about the fuel that some
function was given.
-/

section

variable {σ ρ : Type} {turn : σ → ρ ⊕ σ}

/-- A turn of a loop brings a result, or a state to go on from. `Turns turn n s r`: from `s` the
loop ends in its `n`th turn, with `r`. -/
inductive Turns (turn : σ → ρ ⊕ σ) : Nat → σ → ρ → Prop
  | last {s : σ} {r : ρ} : turn s = .inl r → Turns turn 1 s r
  | next {n : Nat} {s s' : σ} {r : ρ} :
      turn s = .inr s' → Turns turn n s' r → Turns turn (n + 1) s r

/-- A loop that is given up after so many turns. -/
def turnsUpTo (turn : σ → ρ ⊕ σ) : Nat → σ → Option ρ
  | 0, _ => none
  | n + 1, s =>
    match turn s with
    | .inl r => some r
    | .inr s' => turnsUpTo turn n s'

/-- A loop that ends in time is not given up. -/
theorem Turns.upTo {n m : Nat} {s : σ} {r : ρ} (h : Turns turn n s r) (hm : n ≤ m) :
    turnsUpTo turn m s = some r := by
  induction h generalizing m with
  | last hturn =>
      obtain ⟨m, rfl⟩ := Nat.exists_eq_add_of_le' hm
      rw [turnsUpTo, hturn]
  | next hturn _ ih =>
      obtain ⟨m, rfl⟩ := Nat.exists_eq_add_of_le' (Nat.le_trans (Nat.le_add_left 1 _) hm)
      rw [turnsUpTo, hturn]
      apply ih
      omega

end

/-! ### The clock -/

/-- No look at the status sets the clock back. -/
def Transport.KeepsTime (T : Transport) : Prop :=
  ∀ s w, w.clock.now ≤ (T.peek s w).2.2.clock.now

/-- A look through either of the program's own channels takes no time at all. -/
theorem Route.keepsTime (r : Route) : r.transport.KeepsTime := by
  intro s w
  cases r with
  | simulated => exact Nat.le_refl _
  | shared channel => exact Nat.le_refl _

variable {T : Transport}

theorem Transport.KeepsTime.refresh (h : T.KeepsTime) (c : Client T) (w : World) :
    w.clock.now ≤ (c.refresh w).2.2.clock.now := by
  rw [Client.refresh_world]
  unfold Link.peek
  split
  · exact Nat.le_refl _
  · exact h ..

namespace Client

/-! ### The turns of a wait

The client's waits are recursions on a number of rounds. Here the same waits are given by what one
turn does; the two equations at the end of the section say that a count of `n` rounds is a loop that
is given up after `n` turns, so that nothing is left of the count once enough turns are known.
-/

/-- What a wait brings, with the client and the world afterwards. -/
abbrev Outcome (T : Transport) : Type := Except PanelError Unit × Client T × World

/-- One turn of the wait for an echo: a look, and a sleep unless the echo is there or the limit has
come. -/
def echoTurn (serial : Int32) (limit : Option Span) (start : Nat) :
    Client T × World → Outcome T ⊕ Client T × World
  | (c, w) =>
    let (_, c, w) := c.refresh w
    if c.status.echo = serial then .inl (.ok (), c, w)
    else
      let (now, w) := w.time
      if atLimit limit (now - start) then
        .inl (.error (.timeout serial "received" ⟨now - start⟩), c, w)
      else .inr (c, w.sleep c.wait.interval)

/-- One turn of the wait for the end: unless the command has ended or the limit has come, a sleep
and a look. -/
def endTurn (serial : Int32) (start : Nat) : Client T × World → Outcome T ⊕ Client T × World
  | (c, w) =>
    match c.status.state with
    | .done => .inl (.ok (), c, w)
    | .error => .inl (.error (.remote serial), c, w)
    | _ =>
      let (now, w) := w.time
      if atLimit c.wait.limit (now - start) then
        .inl (.error (.timeout serial "done" ⟨now - start⟩), c, w)
      else
        let (_, c, w) := c.refresh (w.sleep c.wait.interval)
        .inr (c, w)

/-- The wait for the echo is the loop of its turn. -/
theorem awaitEcho_eq (serial : Int32) (limit : Option Span) (start n : Nat) (c : Client T)
    (w : World) :
    awaitEcho serial limit start n c w = turnsUpTo (echoTurn serial limit start) n (c, w) := by
  induction n generalizing c w with
  | zero => rfl
  | succ n ih =>
      rw [awaitEcho, turnsUpTo, echoTurn]
      dsimp only
      split  -- the echo is there, or the limit has come, or there is another turn
      · rfl
      · split
        · rfl
        · exact ih ..

/-- The wait for the end is the loop of its turn. -/
theorem awaitEnd_eq (serial : Int32) (start n : Nat) (c : Client T) (w : World) :
    awaitEnd serial start n c w = turnsUpTo (endTurn serial start) n (c, w) := by
  induction n generalizing c w with
  | zero => rfl
  | succ n ih =>
      rw [awaitEnd, turnsUpTo, endTurn]
      dsimp only
      cases c.status.state  -- only a command that is still executing gets as far as the clock
      case done => rfl
      case error => rfl
      -- both states that are left take the same way
      all_goals
        dsimp only
        split
        · rfl
        · exact ih ..

/-! ### Loops that keep pace

The clock bounds the turns. A loop that goes on has done so before its limit, and has slept since;
hence what is missing until the limit shrinks by an interval with every turn, whatever the looks
bring. That is all that is used of the two loops.
-/

/-- A loop of a client keeps pace with a limit that counts from `start`: what it goes on from was
reached before the limit, and where it goes on an interval has passed. -/
def Paced (turn : Client T × World → Outcome T ⊕ Client T × World) (wait : WaitSettings)
    (limit : Span) (start : Nat) : Prop :=
  ∀ ⦃c c' w w'⦄, c.wait = wait → turn (c, w) = .inr (c', w') →
    c'.wait = wait ∧ w.clock.now - start < limit.nanos ∧
      w.clock.now + wait.interval.nanos ≤ w'.clock.now

/-- The wait for the echo keeps pace. -/
theorem paced_echoTurn (hT : T.KeepsTime) (serial : Int32) (wait : WaitSettings) (limit : Span)
    (start : Nat) : Paced (T := T) (echoTurn serial (some limit) start) wait limit start := by
  intro c c' w w' hwait hturn
  have hnow := hT.refresh c w
  -- a look changes nothing about how the client waits
  have hkept := (c.keeps_refresh w).wait.trans hwait
  unfold echoTurn at hturn
  dsimp only at hturn
  generalize c.refresh w = looked at hnow hkept hturn
  obtain ⟨_, c₁, w₁⟩ := looked
  split at hturn  -- a turn that goes on has found another serial, and the limit had not come
  · cases hturn
  · split at hturn
    · cases hturn
    · next hbefore =>
        -- the time that was compared with the limit is no earlier than the look
        have hlook : w₁.clock.now ≤ w₁.time.1 := w₁.clock.now_le_look
        simp only [atLimit, decide_eq_true_eq, Nat.not_le] at hbefore
        cases hturn
        dsimp only at hnow hkept hbefore
        refine ⟨hkept, by omega, ?_⟩
        show _ ≤ w₁.time.1 + c₁.wait.interval.nanos
        rw [hkept]
        omega

/-- The wait for the end keeps pace, too: it compares before it sleeps. -/
theorem paced_endTurn (hT : T.KeepsTime) (serial : Int32) {wait : WaitSettings} {limit : Span}
    (start : Nat) (hlimit : wait.limit = some limit) :
    Paced (T := T) (endTurn serial start) wait limit start := by
  intro c c' w w' hwait hturn
  subst hwait
  have hlook : w.clock.now ≤ w.time.1 := w.clock.now_le_look
  have hnow : w.time.1 + c.wait.interval.nanos
      ≤ (c.refresh (w.time.2.sleep c.wait.interval)).2.2.clock.now :=
    hT.refresh c (w.time.2.sleep c.wait.interval)
  unfold endTurn at hturn
  dsimp only at hturn
  split at hturn  -- again only the turn that goes on is of interest
  · cases hturn
  · cases hturn
  · split at hturn
    · cases hturn
    · next hbefore =>
        rw [hlimit] at hbefore
        simp only [atLimit, decide_eq_true_eq, Nat.not_le] at hbefore
        cases hturn
        exact ⟨(c.keeps_refresh _).wait, by omega,
          Nat.le_trans (Nat.add_le_add_right hlook _) hnow⟩

/-- **A loop that keeps pace ends**: where `n` intervals fill what is left of the limit, `n + 1`
turns are enough. -/
theorem Paced.ends {turn : Client T × World → Outcome T ⊕ Client T × World} {wait : WaitSettings}
    {limit : Span} {start n : Nat} (h : Paced turn wait limit start) {c : Client T} {w : World}
    (hwait : c.wait = wait) (hstart : start ≤ w.clock.now)
    (hn : limit.nanos ≤ (w.clock.now - start) + n * wait.interval.nanos) :
    ∃ k ≤ n, ∃ out, Turns turn (k + 1) (c, w) out := by
  -- by induction on the intervals that fill what is left of the limit
  induction n generalizing c w with
  | zero =>
      rcases hturn : turn (c, w) with out | ⟨c', w'⟩
      · exact ⟨0, Nat.le_refl 0, out, .last hturn⟩
      · -- the limit has come, so that the loop cannot have gone on
        obtain ⟨_, hbefore, _⟩ := h hwait hturn
        omega
  | succ n ih =>
      rcases hturn : turn (c, w) with out | ⟨c', w'⟩
      · exact ⟨0, Nat.zero_le _, out, .last hturn⟩
      · -- an interval less is missing until the limit
        obtain ⟨hwait', _, hslept⟩ := h hwait hturn
        rw [Nat.add_mul] at hn
        obtain ⟨k, hk, out, hends⟩ := ih (w := w') hwait' (by omega) (by omega)
        exact ⟨k + 1, Nat.succ_le_succ hk, out, .next hturn hends⟩

end Client

/-- So many looks are enough for a wait with a limit: one at once and one after each interval. -/
def WaitSettings.looks (s : WaitSettings) (limit : Span) : Nat :=
  limit.nanos ⌈/⌉ s.interval.nanos + 1

/-- At once, and after 10, 20 and 30 milliseconds. -/
example : WaitSettings.looks ⟨.received, none, .ofMillis 10⟩ (.ofMillis 25) = 4 := by rfl

namespace Client

/-- A wait with a limit counts down from the looks that are enough for it. -/
theorem rounds_some {c : Client T} (limit : Span) (w : World)
    (hinterval : 0 < c.wait.interval.nanos) : c.rounds (some limit) w = c.wait.looks limit := by
  rw [rounds, WaitSettings.looks, if_neg (Nat.ne_of_gt hinterval), Nat.ceilDiv_eq_add_pred_div]

/-- A loop that keeps pace from its start ends within the looks that are enough for its limit. -/
theorem Paced.ends_looks {turn : Client T × World → Outcome T ⊕ Client T × World}
    {limit : Span} {c : Client T} {w : World} (h : Paced turn c.wait limit w.time.1)
    (hinterval : 0 < c.wait.interval.nanos) :
    ∃ k, k + 1 ≤ c.wait.looks limit ∧ ∃ out, Turns turn (k + 1) (c, w.time.2) out := by
  have hfill : limit.nanos ≤ c.wait.interval.nanos • (limit.nanos ⌈/⌉ c.wait.interval.nanos) :=
    le_smul_ceilDiv hinterval
  rw [smul_eq_mul, Nat.mul_comm] at hfill
  -- the limit counts from the time that was read before the first turn
  obtain ⟨k, hk, out, hends⟩ := h.ends (c := c) (w := w.time.2) rfl (Nat.le_refl w.time.1)
    (Nat.le_trans hfill (Nat.le_add_left _ _))
  exact ⟨k, Nat.succ_le_succ hk, out, hends⟩

/-! ### Operations and the looks that they take

Each operation comes with the number of looks that it takes, as a relation that mentions no fuel: a
wait that ends in its `n`th turn has looked `n` times, and an operation adds up the looks of its
parts. A dispatch that is refused, or whose message cannot be sent, looks at nothing.
-/

/-- The wait for the echo of a serial, in so many looks. -/
def ReceivesIn (c : Client T) (serial : Int32) (limit : Option Span) (w : World) (looks : Nat)
    (out : Outcome T) : Prop :=
  Turns (echoTurn serial limit w.time.1) looks (c, w.time.2) out

/-- The wait for the end of a command, in so many looks. Once the echo is there, the client looks
between two turns only, so that there is a look less than turns. -/
inductive FinishesIn (c : Client T) (serial : Int32) (w : World) : Nat → Outcome T → Prop
  | unreceived {looks : Nat} {e : PanelError} {c' : Client T} {w' : World} :
      c.ReceivesIn serial c.wait.limit w looks (.error e, c', w') →
      FinishesIn c serial w looks (.error e, c', w')
  | received {looks more : Nat} {c₁ : Client T} {w₁ : World} {out : Outcome T} :
      c.ReceivesIn serial c.wait.limit w looks (.ok (), c₁, w₁) →
      Turns (endTurn serial w₁.time.1) (more + 1) (c₁, w₁.time.2) out →
      FinishesIn c serial w (looks + more) out

/-- The wait that a policy asks for, in so many looks. -/
def WaitsIn (c : Client T) (policy : WaitPolicy) (serial : Int32) (w : World) (looks : Nat)
    (out : Outcome T) : Prop :=
  match policy with
  | .none => looks = 0 ∧ out = (.ok (), c, w)
  | .received => c.ReceivesIn serial c.wait.limit w looks out
  | .done => c.FinishesIn serial w looks out

/-- A command is dispatched in so many looks. Only what was sent is waited for. -/
inductive DispatchesIn (c : Client T) (command : Command) (policy : WaitPolicy) (w : World) :
    Nat → Except PanelError Int32 × Client T × World → Prop
  | refused {fault : Command.Fault} : command.fault? = some fault →
      DispatchesIn c command policy w 0 (.error (.invalid fault.text), c, w)
  | unsent {e : PanelError} {c' : Client T} {w' : World} : command.fault? = none →
      c.sendNext command w = (.error e, c', w') →
      DispatchesIn c command policy w 0 (.error e, c', w')
  | sent {looks : Nat} {r : Except PanelError Unit} {c₁ c' : Client T} {w₁ w' : World} :
      command.fault? = none →
      c.sendNext command w = (.ok (), c₁, w₁) →
      c₁.WaitsIn policy (c.serial + 1) w₁ looks (r, c', w') →
      DispatchesIn c command policy w looks (r.map fun _ => c.serial + 1, c', w')

end Client

namespace Panel

/-- Settling at shutdown, in so many looks. -/
inductive SettlesIn (p : Panel T) (baseline : Int32) (w : World) : Nat → Panel T × World → Prop
  | idle : p.client.serial = baseline → SettlesIn p baseline w 0 (p, w)
  | acknowledged {looks : Nat} {client : Client T} {w' : World} : p.client.serial ≠ baseline →
      p.client.ReceivesIn p.client.serial (some (p.client.wait.limit.getD shutdownLimit)) w looks
        (.ok (), client, w') →
      SettlesIn p baseline w looks ({ p with client }, w')
  | unacknowledged {looks : Nat} {e : PanelError} {client : Client T} {w' : World} :
      p.client.serial ≠ baseline →
      p.client.ReceivesIn p.client.serial (some (p.client.wait.limit.getD shutdownLimit)) w looks
        (.error e, client, w') →
      SettlesIn p baseline w looks
        ({ p with client },
          w'.note .warn .lifecycle "last command not acknowledged before shutdown"
            [("serial", serialText p.client.serial), ("error", e.text)])

/-- The last step of a shutdown. -/
def leave (p : Panel T) (w : World) : Panel T × World :=
  let (client, w) := p.client.close w
  ({ p with client }, w.note .info .lifecycle "bridge shut down")

/-- A shutdown in so many looks. -/
inductive ShutsIn (p : Panel T) (w : World) : Nat → Panel T × World → Prop
  | again : p.ended = true → ShutsIn p w 0 ({ p with running := false }, w)
  | unstarted : p.ended = false → p.baseline = none →
      ShutsIn p w 0 (leave { p with running := false, ended := true } w)
  | started {baseline : Int32} {looks : Nat} {settled : Panel T × World} : p.ended = false →
      p.baseline = some baseline →
      SettlesIn { p with running := false, ended := true } baseline w looks settled →
      ShutsIn p w looks
        (leave (settled.1.restoreBaseline baseline settled.2).1
          (settled.1.restoreBaseline baseline settled.2).2)

end Panel

/-! ### Every wait ends

For every operation the loops inside it end by `Paced.ends_looks`, so that the count-down of the
program is never used up (`Turns.upTo`), and its looks are those of the loops. Between the two loops
of a wait for the end the client and its world have changed, but not how the client waits.
-/

/-- An operation ends, and what comes of it takes at most so many looks. -/
def EndsWithin {ρ : Type} (most : Nat) (result : Option ρ) (takes : Nat → ρ → Prop) : Prop :=
  ∃ out, result = some out ∧ ∃ looks ≤ most, takes looks out

theorem EndsWithin.isSome {ρ : Type} {most : Nat} {result : Option ρ} {takes : Nat → ρ → Prop}
    (h : EndsWithin most result takes) : result.isSome := by
  obtain ⟨out, rfl, _⟩ := h
  rfl

namespace Client

variable {c : Client T}

/-- **The wait for an echo** under a limit ends within the looks that are enough for it. -/
theorem endsWithin_waitReceivedFor (hT : T.KeepsTime) (hinterval : 0 < c.wait.interval.nanos)
    (serial : Int32) (limit : Span) (w : World) :
    EndsWithin (c.wait.looks limit) (c.waitReceivedFor serial (some limit) w)
      (c.ReceivesIn serial (some limit) w) := by
  obtain ⟨k, hk, out, hends⟩ :=
    (paced_echoTurn hT serial c.wait limit w.time.1).ends_looks hinterval
  refine ⟨out, ?_, k + 1, hk, hends⟩
  -- the count-down of the program is just the bound on the turns
  rw [waitReceivedFor, rounds_some limit w hinterval]
  dsimp only
  rw [awaitEcho_eq]
  exact hends.upTo hk

/-- **The wait for the end** of a command ends within twice as many: its second part has a limit of
its own, which begins with the echo. -/
theorem endsWithin_waitDone (hT : T.KeepsTime) (hinterval : 0 < c.wait.interval.nanos)
    {limit : Span} (hlimit : c.wait.limit = some limit) (serial : Int32) (w : World) :
    EndsWithin (2 * c.wait.looks limit) (c.waitDone serial w) (c.FinishesIn serial w) := by
  obtain ⟨⟨r, c₁, w₁⟩, hreceived, k, hk, hreceives⟩ :=
    endsWithin_waitReceivedFor hT hinterval serial limit w
  rw [← hlimit] at hreceived hreceives
  rw [waitDone, waitReceived, hreceived]
  cases r with
  -- without an echo the second loop is never entered
  | error e => exact ⟨_, rfl, k, by omega, .unreceived hreceives⟩
  | ok _ => -- with one it begins with another client, whose settings are the same
      have hwait : c₁.wait = c.wait := (waitReceivedFor_waits hreceived).keeps.wait
      have hlimit₁ : c₁.wait.limit = some limit := by rw [hwait, hlimit]
      have hinterval₁ : 0 < c₁.wait.interval.nanos := by rw [hwait]; exact hinterval
      obtain ⟨m, hm, out, hends⟩ :=
        (paced_endTurn hT serial w₁.time.1 hlimit₁).ends_looks hinterval₁
      refine ⟨out, ?_, k + m, ?_, .received hreceives hends⟩
      · dsimp only
        rw [hlimit₁, rounds_some limit w₁ hinterval₁, awaitEnd_eq]
        exact hends.upTo (Nat.le_succ_of_le hm)
      · -- the first turn of the second loop has no look before it
        rw [hwait] at hm
        omega

/-- Whatever a policy waits for, the longer wait bounds it. -/
theorem endsWithin_waitBy (hT : T.KeepsTime) (hinterval : 0 < c.wait.interval.nanos)
    {limit : Span} (hlimit : c.wait.limit = some limit) (policy : WaitPolicy) (serial : Int32)
    (w : World) :
    EndsWithin (2 * c.wait.looks limit) (c.waitBy policy serial w) (c.WaitsIn policy serial w) := by
  cases policy with
  | none => exact ⟨_, rfl, 0, Nat.zero_le _, rfl, rfl⟩
  | received =>
      obtain ⟨out, hreceived, k, hk, hreceives⟩ :=
        endsWithin_waitReceivedFor hT hinterval serial limit w
      rw [← hlimit] at hreceived hreceives
      exact ⟨out, hreceived, k, by omega, hreceives⟩
  | done => exact endsWithin_waitDone hT hinterval hlimit serial w

/-- **A dispatch** takes the looks of its wait, and it waits only for what was sent. -/
theorem endsWithin_dispatchWith (hT : T.KeepsTime) (hinterval : 0 < c.wait.interval.nanos)
    {limit : Span} (hlimit : c.wait.limit = some limit) (command : Command) (policy : WaitPolicy)
    (w : World) :
    EndsWithin (2 * c.wait.looks limit) (c.dispatchWith command policy w)
      (c.DispatchesIn command policy w) := by
  unfold dispatchWith
  cases hfault : command.fault? with
  | some fault => exact ⟨_, rfl, 0, Nat.zero_le _, .refused hfault⟩
  | none => -- sending leaves the settings of the waits as they are
      have hwait : ({ c with serial := c.serial + 1 }.send (c.serial + 1) command w).2.1.wait
          = c.wait := rfl
      rcases hsend : { c with serial := c.serial + 1 }.send (c.serial + 1) command w with
        ⟨e | _, c₁, w₁⟩
      · dsimp only
        rw [hsend]
        exact ⟨_, rfl, 0, Nat.zero_le _, .unsent hfault hsend⟩
      · rw [hsend] at hwait
        dsimp only at hwait ⊢
        obtain ⟨⟨r, c', w'⟩, hwaited, k, hk, hwaits⟩ :=
          endsWithin_waitBy (c := c₁) hT (by rw [hwait]; exact hinterval) (by rw [hwait, hlimit])
            policy (c.serial + 1) w₁
        have hdispatches := DispatchesIn.sent hfault hsend hwaits
        rw [hwait] at hk
        rw [hsend]
        dsimp only
        rw [hwaited]
        -- the serial is told of or the error is; the looks are the same
        cases r with
        | error e => exact ⟨_, rfl, k, hk, hdispatches⟩
        | ok _ => exact ⟨_, rfl, k, hk, hdispatches⟩

/-- What makes all waits of a client end: they have a limit, and it sleeps between its looks. -/
structure Bounded (c : Client T) : Prop where
  limit : c.wait.limit.isSome = true
  interval : 0 < c.wait.interval.nanos

theorem Bounded.keep {c c' : Client T} (h : c.Bounded) (hwait : c'.wait = c.wait) :
    c'.Bounded := by
  refine ⟨?_, ?_⟩ <;> rw [hwait]
  · exact h.limit
  · exact h.interval

/-- So a dispatch of such a client has a result. -/
theorem Bounded.dispatchWith_isSome (h : c.Bounded) (hT : T.KeepsTime) (command : Command)
    (policy : WaitPolicy) (w : World) : (c.dispatchWith command policy w).isSome := by
  obtain ⟨limit, hlimit⟩ := Option.isSome_iff_exists.1 h.limit
  exact (endsWithin_dispatchWith hT h.interval hlimit command policy w).isSome

/-- **The waits of a client end**, each within the looks that are enough for it. -/
structure WaitsEnd (c : Client T) : Prop where
  received (serial : Int32) (limit : Span) (w : World) :
    EndsWithin (c.wait.looks limit) (c.waitReceivedFor serial (some limit) w)
      (c.ReceivesIn serial (some limit) w)
  /-- What comes after the echo has a limit of its own. -/
  done {limit : Span} (hlimit : c.wait.limit = some limit) (serial : Int32) (w : World) :
    EndsWithin (2 * c.wait.looks limit) (c.waitDone serial w) (c.FinishesIn serial w)
  dispatch {limit : Span} (hlimit : c.wait.limit = some limit) (command : Command)
      (policy : WaitPolicy) (w : World) :
    EndsWithin (2 * c.wait.looks limit) (c.dispatchWith command policy w)
      (c.DispatchesIn command policy w)

end Client

namespace Panel

variable {p : Panel T}

/-- **Settling** waits for the last serial, unless nothing was sent since the startup. Where the
client waits without limit, the shutdown has one of its own. -/
theorem endsWithin_settle (hT : T.KeepsTime) (hinterval : 0 < p.client.wait.interval.nanos)
    (baseline : Int32) (w : World) :
    EndsWithin (p.client.wait.looks (p.client.wait.limit.getD shutdownLimit))
      (p.settle baseline w) (p.SettlesIn baseline w) := by
  unfold settle
  by_cases hidle : p.client.serial = baseline
  · rw [if_pos hidle]
    exact ⟨_, rfl, 0, Nat.zero_le _, .idle hidle⟩
  · obtain ⟨⟨r, client, w'⟩, hreceived, k, hk, hreceives⟩ :=
      Client.endsWithin_waitReceivedFor hT hinterval p.client.serial
        (p.client.wait.limit.getD shutdownLimit) w
    rw [if_neg hidle, hreceived]
    cases r with
    | ok _ => exact ⟨_, rfl, k, hk, .acknowledged hidle hreceives⟩
    | error e => exact ⟨_, rfl, k, hk, .unacknowledged hidle hreceives⟩

/-- **A shutdown** takes the looks of its settling: a second one, and one before any startup, take
none. -/
theorem endsWithin_shutdown (hT : T.KeepsTime) (hinterval : 0 < p.client.wait.interval.nanos)
    (w : World) :
    EndsWithin (p.client.wait.looks (p.client.wait.limit.getD shutdownLimit))
      (p.shutdown w) (p.ShutsIn w) := by
  have hsettle := endsWithin_settle (p := { p with running := false, ended := true }) hT hinterval
  unfold shutdown
  dsimp only
  split
  · next hended => exact ⟨_, rfl, 0, Nat.zero_le _, .again hended⟩
  · next hended =>
      rw [Bool.not_eq_true] at hended
      split
      · next hnone =>
          split at hnone  -- nothing to settle, or settling, which ends
          · cases hnone
          · next baseline _ =>
              obtain ⟨_, hsettled, _⟩ := hsettle baseline w
              rw [hsettled] at hnone
              cases hnone
      · -- what comes of settling is closed and told of in every case
        next q v hhanded =>
          split at hhanded
          · next hbaseline =>
              cases hhanded
              exact ⟨_, rfl, 0, Nat.zero_le _, .unstarted hended hbaseline⟩
          · next baseline hbaseline =>
              obtain ⟨_, hsettled, k, hk, hsettles⟩ := hsettle baseline w
              rw [hsettled] at hhanded
              have hshuts := ShutsIn.started hended hbaseline hsettles
              rw [Option.some.inj hhanded] at hshuts
              exact ⟨_, rfl, k, hk, hshuts⟩

/-- **Waits end**, whatever comes from the controller: those of the client with a limit, and the
shutdown of the panel with or without one. -/
theorem waits_end (hT : T.KeepsTime) (p : Panel T) (hinterval : 0 < p.client.wait.interval.nanos) :
    p.client.WaitsEnd ∧
      ∀ w, EndsWithin (p.client.wait.looks (p.client.wait.limit.getD shutdownLimit))
        (p.shutdown w) (p.ShutsIn w) where
  left :=
    { received := Client.endsWithin_waitReceivedFor hT hinterval
      done := Client.endsWithin_waitDone hT hinterval
      dispatch := Client.endsWithin_dispatchWith hT hinterval }
  right := endsWithin_shutdown hT hinterval

/-- Settings with a limit of a second on waits. -/
def timed : Settings := { waitTimeout := 1 }

/-- A panel that waits for a second at most, and looks ten times a second, has started. Then eleven
looks are enough for an echo and for a shutdown, and twice as many for any dispatch. -/
theorem waits_end_timed :
    ∃ p p₁ w₁, Panel.create Simulated.transport timed { carrier := .memory {} } = .ok p ∧
      p.startup (.echoing 7) = (.ok (), p₁, w₁) ∧
      Simulated.transport.KeepsTime ∧ 0 < p₁.client.wait.interval.nanos ∧
      (∀ serial w, EndsWithin 22 (p₁.client.waitDone serial w) (p₁.client.FinishesIn serial w)) ∧
      (∀ command policy w, EndsWithin 22 (p₁.client.dispatchWith command policy w)
        (p₁.client.DispatchesIn command policy w)) ∧
      ∀ w, EndsWithin 11 (p₁.shutdown w) (p₁.ShutsIn w) := by
  have hstarts : (Panel.create Simulated.transport timed { carrier := .memory {} }).toOption.any
      (fun p => (p.startup (.echoing 7)).1.isOk && decide
        (0 < (p.startup (.echoing 7)).2.1.client.wait.interval.nanos ∧
          (p.startup (.echoing 7)).2.1.client.wait.limit = some (.ofMillis 1000) ∧
          (p.startup (.echoing 7)).2.1.client.wait.looks (.ofMillis 1000) = 11)) = true := by
    decide +kernel
  obtain ⟨p, hp, hstarted⟩ := (Option.any_eq_true _ _).1 hstarts
  obtain ⟨hok, hwait⟩ := Bool.and_eq_true_iff.1 hstarted
  obtain ⟨hinterval, hlimit, hlooks⟩ := of_decide_eq_true hwait
  -- what the computation has found about the startup, as an equation
  have hstart : p.startup (.echoing 7)
      = (.ok (), (p.startup (.echoing 7)).2.1, (p.startup (.echoing 7)).2.2) := by
    rcases hresult : p.startup (.echoing 7) with ⟨e | _, p₁, w₁⟩
    · rw [hresult] at hok
      cases hok
    · rfl
  obtain ⟨hwaits, hshutdown⟩ := waits_end Route.simulated.keepsTime _ hinterval
  have hdone := hwaits.done hlimit
  have hdispatch := hwaits.dispatch hlimit
  rw [hlimit, Option.getD_some, hlooks] at hshutdown
  rw [hlooks] at hdone hdispatch
  exact ⟨p, _, _, create_of_toOption hp, hstart, Route.simulated.keepsTime, hinterval, hdone,
    hdispatch, hshutdown⟩

end Panel
end OperatorPanel
