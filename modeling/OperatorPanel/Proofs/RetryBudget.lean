import Mathlib.Order.Bounds.Basic
import OperatorPanel.Proofs.Deadlines
import OperatorPanel.Proofs.Restart

/-!
# The budget for connecting

Between two attempts to connect there is a pause, and there is another attempt as long as the
pauses, the next one included, stay below the budget. So the number of attempts is the least number
of pauses that use the budget up (`RetryPolicy.affords_repeats`).

The attempts are the turns of a loop (`Link.turn`), which is what `Link.attempt` runs through
(`Link.attempt_of_turns`). At a simulated controller that fails to open so many channels, an attempt
opens nothing as long as it fails, and everything afterwards (`Link.openMissing_failing`,
`Link.openMissing_working`). Over the turns this gives what connecting comes to
(`Link.connect_within_budget`).
-/

namespace OperatorPanel

/-! ### How many attempts

The rule looks at the time that was waited, and adds one interval before it compares. Counted in
pauses this is a division with a remainder, in which the budget itself is not reached any more.
-/

namespace RetryPolicy

/-- How many pauses the budget has room for: as long as all of them stay below it. -/
def repeats (p : RetryPolicy) : Nat :=
  if p.interval.nanos = 0 then 0 else (p.total.nanos - 1) / p.interval.nanos

/-- There is room for one more pause after so many exactly if there are pauses, and with the next
one they stay below the budget. -/
theorem lt_repeats_iff (p : RetryPolicy) (k : Nat) :
    k < p.repeats ↔
      p.interval.nanos ≠ 0 ∧ k * p.interval.nanos + p.interval.nanos < p.total.nanos := by
  unfold repeats
  by_cases hpause : p.interval.nanos = 0
  · simp [hpause]
  · rw [if_neg hpause, ← Nat.succ_le_iff, Nat.le_div_iff_mul_le (Nat.pos_of_ne_zero hpause),
      Nat.succ_mul]
    constructor
    · intro hfits
      exact ⟨hpause, by omega⟩
    · rintro ⟨_, hfits⟩
      omega

/-- The time that so many pauses take. -/
def waited (p : RetryPolicy) (k : Nat) : Span := ⟨k * p.interval.nanos⟩

/-- Before the first pause no time was waited. -/
theorem waited_zero (p : RetryPolicy) : p.waited 0 = .zero := by
  rw [waited, Nat.zero_mul, Span.zero]

/-- Each pause adds one interval. -/
theorem waited_succ (p : RetryPolicy) (k : Nat) :
    (p.waited k).add p.interval = p.waited (k + 1) := by
  rw [waited, waited, Span.add, Nat.succ_mul]

/-- **Another attempt is allowed as long as there is room for a pause.** -/
theorem allowsRetry_waited (p : RetryPolicy) (k : Nat) :
    p.allowsRetry (p.waited k) = true ↔ k < p.repeats := by
  rw [lt_repeats_iff, allowsRetry, Bool.and_eq_true_iff, decide_eq_true_iff, decide_eq_true_iff]
  exact and_congr_left' (not_congr ⟨congrArg Span.nanos, congrArg Span.mk⟩)

/-- The attempts that a policy affords: the least number of intervals, and at least one, that use
the budget up, or a single one where the interval is empty. -/
def Affords (p : RetryPolicy) (attempts : Nat) : Prop :=
  if p.interval.nanos = 0 then attempts = 1
  else IsLeast {k | 1 ≤ k ∧ p.total.nanos ≤ k * p.interval.nanos} attempts

/-- **A policy affords the first attempt and its repetitions.** -/
theorem affords_repeats (p : RetryPolicy) : p.Affords (p.repeats + 1) := by
  unfold Affords
  split
  · next hpause => simp [repeats, hpause]
  · next hpause =>
      refine ⟨⟨Nat.le_add_left 1 _, ?_⟩, ?_⟩
      · -- after the last attempt another pause does not fit
        have hlast := (p.lt_repeats_iff p.repeats).not.1 (Nat.lt_irrefl _)
        rw [not_and, Nat.not_lt] at hlast
        rw [Nat.succ_mul]
        exact hlast hpause
      · rintro k ⟨hk, hspent⟩
        by_contra hearly
        have hfits := ((p.lt_repeats_iff (k - 1)).1 (by omega)).2  -- but before it every one did
        rw [← Nat.succ_mul, Nat.succ_eq_add_one, Nat.sub_add_cancel hk] at hfits
        omega

end RetryPolicy

/-! ### One attempt

What an attempt does to a simulated controller is counted there: one try for each channel up to the
first that fails. So the world after an attempt is told by two numbers, the failed tries and the
others, and those of several attempts add up.
-/

/-- The controller after so many tries to open a channel, the failed ones first. -/
def Simulator.tried (c : Simulator) (failed opened : Nat) : Simulator :=
  { c with
    openAttempts := c.openAttempts + UInt32.ofNat (failed + opened)
    failingOpens := c.failingOpens - failed }

/-- Tries add up, wherever the counter of the controller has got to. -/
theorem Simulator.tried_tried (c : Simulator) (m n m' n' : Nat) :
    (c.tried m n).tried m' n' = c.tried (m + m') (n + n') := by
  unfold tried
  simp only [Simulator.mk.injEq, true_and, and_true]
  constructor
  · omega
  · rw [UInt32.add_assoc, ← UInt32.ofNat_add]
    congr 2
    omega

/-- The world after so many tries to open a channel. -/
def World.opens (w : World) (failed opened : Nat) : World :=
  { w with simulator := w.simulator.tried failed opened }

theorem World.opens_opens (w : World) (m n m' n' : Nat) :
    (w.opens m n).opens m' n' = w.opens (m + m') (n + n') := by
  unfold opens
  rw [Simulator.tried_tried]

theorem World.opens_none (w : World) : w.opens 0 0 = w := by
  simp [opens, Simulator.tried]

/-- The world after so many attempts that have failed, with a pause after each. -/
def World.retried (w : World) (t : Span) (n : Nat) : World :=
  { w with
    simulator := w.simulator.tried n 0
    clock := { w.clock with now := w.clock.now + n * t.nanos } }

/-- Only what is written down, and who hears it, may differ. -/
structure World.Told (w w' : World) : Prop where
  simulator : w'.simulator = w.simulator
  clock : w'.clock = w.clock

theorem World.retried_zero (w : World) (t : Span) : w.retried t 0 = w := by
  simp [retried, Simulator.tried]

/-- A failed attempt and a pause, and then more of them. -/
theorem World.retried_succ (w : World) (t : Span) (n : Nat) :
    ((w.opens 1 0).sleep t).retried t n = w.retried t (n + 1) := by
  unfold retried opens sleep Clock.sleep
  simp only [Simulator.tried_tried, World.mk.injEq, Clock.mk.injEq, true_and, and_true]
  constructor
  · rw [Nat.add_comm]
  · rw [Nat.succ_mul]
    omega

/-- Failed attempts and further openings are so many openings. -/
theorem World.retried_opens (w : World) (t : Span) (n failed opened : Nat) :
    ((w.retried t n).opens failed opened).simulator = w.simulator.tried (n + failed) opened := by
  unfold retried opens
  dsimp only
  rw [Simulator.tried_tried, Nat.zero_add]

namespace Link

/-- The channels that are not open, in the order in which they are opened. -/
def missing {T : Transport} (l : Link T) : List ChannelKind :=
  (if l.command.isNone then [.command] else []) ++
    ((if l.status.isNone then [.status] else []) ++ if l.notices.isNone then [.error] else [])

/-- The link with every channel open; those that were open stay as they are. -/
def filled (l : Link Simulated.transport) : Link Simulated.transport :=
  { l with command := some (), status := some (l.status.getD 0), notices := some () }

/-- The error for a channel of a controller that cannot be reached. -/
def unreachable (kind : ChannelKind) : PanelError :=
  .ofFault (.unavailable kind "simulated controller not reachable")

/-- As long as openings are to fail, one more fails. -/
theorem openEnd_failing {α : Type} {w : World} (h : 0 < w.simulator.failingOpens)
    (kind : ChannelKind) (end_ : α) :
    Simulated.openEnd kind end_ w
      = (.error (.unavailable kind "simulated controller not reachable"), w.opens 1 0) := by
  simp [Simulated.openEnd, Simulator.openChannel, World.opens, Simulator.tried, h]

/-- Afterwards each opening succeeds. -/
theorem openEnd_working {α : Type} {w : World} (h : w.simulator.failingOpens = 0)
    (kind : ChannelKind) (end_ : α) :
    Simulated.openEnd kind end_ w = (.ok end_, w.opens 0 1) := by
  simp [Simulated.openEnd, Simulator.openChannel, World.opens, Simulator.tried, h]

variable {l : Link Simulated.transport} {w : World} {kind : ChannelKind} {kinds : List ChannelKind}

/-- **An attempt that fails** does so at the first channel that is missing, and opens none. -/
theorem openMissing_failing (hmissing : l.missing = kind :: kinds)
    (h : 0 < w.simulator.failingOpens) :
    l.openMissing w = (some (unreachable kind), l, w.opens 1 0) := by
  -- the ends are opened in this order, so the first that is missing decides
  obtain ⟨retry, silences, command, status, notices, state⟩ := l
  cases command with
  | none =>
      cases hmissing
      simp [openMissing, openCommand, openEnd_failing h, unreachable]
  | some c =>
      cases status with
      | none =>
          cases hmissing
          simp [openMissing, openCommand, openStatus, openEnd_failing h, unreachable]
      | some s =>
          cases notices with
          | none =>
              cases hmissing
              simp [openMissing, openCommand, openStatus, openNotices, openEnd_failing h,
                unreachable]
          | some n => cases hmissing

/-- **An attempt that succeeds** opens every channel that is missing, and no other. -/
theorem openMissing_working (h : w.simulator.failingOpens = 0) :
    l.openMissing w = (none, l.filled, w.opens 0 l.missing.length) := by
  have hlater (n : Nat) : (w.opens 0 n).simulator.failingOpens = 0 := h
  have hunused : w.opens 0 0 = w := w.opens_none
  obtain ⟨retry, silences, command, status, notices, state⟩ := l
  -- the channels that are open already cost no try
  cases command <;> cases status <;> cases notices <;>
    simp [openMissing, openCommand, openStatus, openNotices, openEnd_working, h, hlater, hunused,
      missing, filled, World.opens_opens]

/-! ### All attempts

Connecting is a loop, and an attempt is a turn of it. `Turns` tells in which turn a loop ends, so
that the number of attempts is exact, also where the count that comes with the result has wrapped
around.
-/

section

variable {T : Transport}

/-- One attempt to connect, and the pause after it if the policy allows another one. -/
def turn (retry : RetryPolicy) : Link T × World × Span →
    (Option PanelError × Link T × World) ⊕ (Link T × World × Span)
  | (l, w, waited) =>
    match l.openMissing w with
    | (none, l, w) => .inl (none, l, w)
    | (some e, l, w) =>
      if retry.allowsRetry waited then
        .inr (l, w.sleep retry.interval, waited.add retry.interval)
      else .inl (some e, l, w)

/-- **Trying to open everything is this loop**: what it comes to, and in how many attempts. -/
theorem attempt_of_turns {retry : RetryPolicy} {n : Nat} {s : Link T × World × Span}
    {r : Option PanelError × Link T × World} (h : Turns (turn retry) n s r) (attempts : UInt32) :
    s.1.attempt retry s.2.1 attempts s.2.2 = (r.1, attempts + UInt32.ofNat n, r.2) := by
  -- by induction on the turns, of which the last is the one that has an outcome
  induction h generalizing attempts with
  | @last s r hturn =>
      obtain ⟨l, w, waited⟩ := s
      rw [turn] at hturn
      rw [attempt]
      generalize l.openMissing w = opened at hturn ⊢
      obtain ⟨_ | e, l₁, w₁⟩ := opened
      · cases hturn
        rfl
      · dsimp only at hturn ⊢
        split at hturn
        · -- the loop is over, so no other attempt was allowed
          cases hturn
        · next hspent =>
            cases hturn
            rw [dif_neg hspent]
            rfl
  | @next n s s' r hturn _ ih =>
      obtain ⟨l, w, waited⟩ := s
      rw [turn] at hturn
      rw [attempt]
      generalize l.openMissing w = opened at hturn ⊢
      obtain ⟨_ | e, l₁, w₁⟩ := opened
      · cases hturn
      · dsimp only at hturn ⊢
        split at hturn
        · next hallows =>
            cases hturn
            rw [dif_pos hallows, ih, UInt32.ofNat_add, UInt32.add_comm (UInt32.ofNat n),
              UInt32.add_assoc]
            rfl
        · cases hturn

end

variable {retry : RetryPolicy}

/-- A failed attempt with room for a pause leads to the next one. -/
theorem turn_failing (hmissing : l.missing = kind :: kinds) (h : 0 < w.simulator.failingOpens)
    {k : Nat} (hroom : k < retry.repeats) :
    turn retry (l, w, retry.waited k)
      = .inr (l, (w.opens 1 0).sleep retry.interval, retry.waited (k + 1)) := by
  rw [turn, openMissing_failing hmissing h]
  dsimp only
  rw [if_pos ((retry.allowsRetry_waited k).2 hroom), retry.waited_succ]

/-- Where more openings fail than there are attempts left, every attempt fails. The induction is on
the pauses that there is still room for. -/
theorem turns_failing (hmissing : l.missing = kind :: kinds) {k left : Nat}
    (hleft : k + left = retry.repeats) (h : left < w.simulator.failingOpens) :
    Turns (turn retry) (left + 1) (l, w, retry.waited k)
      (some (unreachable kind), l, (w.retried retry.interval left).opens 1 0) := by
  induction left generalizing w k with
  | zero =>
      apply Turns.last
      have hspent : ¬k < retry.repeats := by omega
      rw [turn, openMissing_failing hmissing h]
      dsimp only
      rw [if_neg ((retry.allowsRetry_waited k).not.2 hspent), World.retried_zero]
  | succ left ih =>
      have hrest : left < ((w.opens 1 0).sleep retry.interval).simulator.failingOpens := by
        show left < w.simulator.failingOpens - 1
        omega
      rw [← World.retried_succ]
      exact .next (turn_failing hmissing (by omega) (by omega)) (ih (by omega) hrest)

/-- Where an attempt is left when no opening fails any more, it opens all that is missing. The
induction is on the openings that will fail. -/
theorem turns_working (hmissing : l.missing ≠ []) {k failing : Nat}
    (hleft : k + failing ≤ retry.repeats) (h : w.simulator.failingOpens = failing) :
    Turns (turn retry) (failing + 1) (l, w, retry.waited k)
      (none, l.filled, (w.retried retry.interval failing).opens 0 l.missing.length) := by
  obtain ⟨kind, kinds, hkinds⟩ := List.exists_cons_of_ne_nil hmissing
  induction failing generalizing w k with
  | zero =>
      apply Turns.last
      rw [turn, openMissing_working h, World.retried_zero]
  | succ failing ih =>
      have hrest : ((w.opens 1 0).sleep retry.interval).simulator.failingOpens = failing := by
        show w.simulator.failingOpens - 1 = failing
        omega
      rw [← World.retried_succ]
      exact .next (turn_failing hkinds (by omega) (by omega)) (ih (by omega) hrest)

end Link

/-! ### What a link can come to

Between its uses a link is either connected or without channels. A connect relies on this: from a
link that is not connected it has to open three channels, and not what happens to be missing.
-/

/-- A new link, or what it has become by whatever it was used for, in any world at any time. -/
inductive Link.Arises {T : Transport} : Link T → Prop
  | new (retry : RetryPolicy) (silences : Bool) : Arises { retry, silences }
  | connect {l : Link T} (w : World) : Arises l → Arises (l.connect w).2.1
  | close {l : Link T} (w : World) : Arises l → Arises (l.close w).1
  | send {l : Link T} (m : Message) (w : World) : Arises l → Arises (l.send m w).2.1
  | peek {l : Link T} (w : World) : Arises l → Arises (l.peek w).2.1
  | poll {l : Link T} (w : World) : Arises l → Arises (l.poll w).2.1

/-- Channels are held by connected links only. -/
def Link.Settled {T : Transport} (l : Link T) : Prop := l.state = .connected ∨ l.Empty

namespace Link.Settled

variable {T : Transport} {l : Link T}

/-- A connect either opens every channel or gives up all of them. -/
theorem connect (h : l.Settled) (w : World) : (l.connect w).2.1.Settled := by
  unfold Link.connect
  split
  · exact h
  · dsimp only
    split
    · exact .inl rfl
    · exact .inr ⟨rfl, rfl, rfl⟩

/-- Closing gives up all channels. -/
theorem close (h : l.Settled) (w : World) : (l.close w).1.Settled := by
  unfold Link.close
  split
  · exact h
  · exact .inr ⟨rfl, rfl, rfl⟩

/-- Sending goes through the command channel, and keeps it. -/
theorem send (h : l.Settled) (m : Message) (w : World) : (l.send m w).2.1.Settled := by
  obtain hstate | hempty := h
  · unfold Link.send
    repeat' split
    all_goals exact .inl hstate
  · rw [Link.send, hempty.command]
    exact .inr hempty

/-- Looking at the status keeps its end open. -/
theorem peek (h : l.Settled) (w : World) : (l.peek w).2.1.Settled := by
  obtain hstate | hempty := h
  · unfold Link.peek
    split
    all_goals exact .inl hstate
  · rw [Link.peek, hempty.status]
    exact .inr hempty

/-- Reading notices keeps their end open. -/
theorem poll (h : l.Settled) (w : World) : (l.poll w).2.1.Settled := by
  obtain hstate | hempty := h
  · unfold Link.poll
    repeat' split
    all_goals exact .inl hstate
  · rw [Link.poll, hempty.notices]
    exact .inr hempty

end Link.Settled

/-- Nothing that a link is used for leaves a channel open in one that is not connected. -/
theorem Link.Arises.settled {T : Transport} {l : Link T} (h : l.Arises) : l.Settled := by
  induction h with
  | new retry silences => exact .inr ⟨rfl, rfl, rfl⟩
  | connect w _ ih => exact ih.connect w
  | close w _ ih => exact ih.close w
  | send m w _ ih => exact ih.send m w
  | peek w _ ih => exact ih.peek w
  | poll w _ ih => exact ih.poll w

/-! ### Connecting

Around its attempts a connect silences the diagnostics, writes to the journal, and releases what a
failure has left open. At a simulated controller none of this counts as a try or takes time, so the
figures are those of the loop.
-/

/-- A controller that will fail to open so many channels. -/
def World.failing (count : Nat) : World where
  simulator := { status := .atRest 3, failingOpens := count }
  directory := { root := "", self := 1, alive := fun _ => false }

namespace Link

variable {l : Link Simulated.transport} {w : World}

/-- A link without channels has to open all three. -/
theorem Empty.missing {T : Transport} {l : Link T} (h : l.Empty) :
    l.missing = [.command, .status, .error] := by
  simp [Link.missing, h.command, h.status, h.notices]

/-- Whether diagnostics are silenced reaches neither the controller nor the clock. -/
theorem told_if (b : Bool) {v v' : World} (h : v.Told v') : v.Told (if b then v' else v) := by
  cases b with
  | false => exact ⟨rfl, rfl⟩
  | true => exact h

/-- Where the attempts to connect begin: the link is connecting, and diagnostics may be silent. -/
def starting {T : Transport} (l : Link T) (w : World) : Link T × World × Span :=
  ({ l with state := .connecting }, if l.silences then w.silence else w, .zero)

/-- Connecting takes so many attempts. -/
def ConnectsIn {T : Transport} (l : Link T) (w : World) (attempts : Nat) : Prop :=
  ∃ r, Turns (turn l.retry) attempts (l.starting w) r

/-- **Connecting goes as its attempts go**; what is said about it reaches neither the controller nor
the clock. -/
theorem connect_of_turns (hstate : l.state ≠ .connected) {n : Nat} {e? : Option PanelError}
    {l₁ : Link Simulated.transport} {w₁ : World}
    (h : Turns (turn l.retry) n (l.starting w) (e?, l₁, w₁)) :
    ∃ w', w₁.Told w' ∧ l.connect w = match e? with
      | none => (.ok (), { l₁ with state := .connected }, w')
      | some e => (.error e, { l₁ with
          command := none, status := none, notices := none, state := .disconnected }, w') := by
  have hattempt := attempt_of_turns h 0
  dsimp only [starting] at hattempt
  have hidle : ¬l.isConnected = true := by simpa [isConnected] using hstate
  -- the log is restored after the attempts, which neither the simulator nor the clock notices
  have hrestored : w₁.Told (if l₁.silences then w₁.restore else w₁) := told_if _ ⟨rfl, rfl⟩
  unfold connect
  rw [if_neg hidle]
  dsimp only
  rw [hattempt]
  cases e? with
  | none =>
      refine ⟨_, ?_, rfl⟩
      exact ⟨hrestored.simulator, hrestored.clock⟩
  | some e =>
      dsimp only
      rw [release_simulated]
      refine ⟨_, ?_, rfl⟩
      exact ⟨hrestored.simulator, hrestored.clock⟩

/-- **Connecting ends within its budget.** Take any policy, a link that has come about in any way
and is not connected, and a controller that will fail to open so many channels.

An attempt that fails does so at the first channel that is missing and opens none, and one that
succeeds opens those that are missing and no other. If the policy affords more attempts than will
fail, the link is connected in the attempt after the failures, after one opening for every failure
and three more, and connecting it once more opens nothing. Otherwise all attempts that the policy
affords are made and fail, with one opening each, the link holds no channel and is disconnected.
Between the attempts it sleeps for the interval. The controller counts the openings, up to where its
count wraps around. -/
theorem connect_within_budget (harises : l.Arises) (hstate : l.state ≠ .connected) (w : World) :
    (∀ (l₁ : Link Simulated.transport) (v : World),
      (v.simulator.failingOpens = 0 →
        l₁.openMissing v = (none, l₁.filled, v.opens 0 l₁.missing.length)) ∧
      ∀ kind kinds, l₁.missing = kind :: kinds → 0 < v.simulator.failingOpens →
        l₁.openMissing v = (some (unreachable kind), l₁, v.opens 1 0)) ∧
    ∃ attempts, l.retry.Affords attempts ∧
      (w.simulator.failingOpens < attempts →
        l.ConnectsIn w (w.simulator.failingOpens + 1) ∧ ∃ l' w',
        l.connect w = (.ok (), l', w') ∧ l'.state = .connected ∧ l'.Open ∧
        w'.simulator.openAttempts
          = w.simulator.openAttempts + UInt32.ofNat (w.simulator.failingOpens + 3) ∧
        w'.simulator.failingOpens = 0 ∧
        w'.clock.now
          = w.clock.now + w.simulator.failingOpens * l.retry.interval.nanos ∧
        ∀ v, l'.connect v = (.ok (), l', v)) ∧
      (attempts ≤ w.simulator.failingOpens → l.ConnectsIn w attempts ∧ ∃ reason l' w',
        l.connect w = (.error (.connection reason), l', w') ∧ l'.state = .disconnected ∧
        l'.Empty ∧
        w'.simulator.openAttempts = w.simulator.openAttempts + UInt32.ofNat attempts ∧
        w'.simulator.failingOpens = w.simulator.failingOpens - attempts ∧
        w'.clock.now = w.clock.now + (attempts - 1) * l.retry.interval.nanos) := by
  have hempty : l.Empty := harises.settled.resolve_left hstate
  have hmissing : Link.missing { l with state := .connecting } = [.command, .status, .error] :=
    Empty.missing ⟨hempty.command, hempty.status, hempty.notices⟩
  have hstarting : l.starting w = ({ l with state := .connecting },
      if l.silences then w.silence else w, l.retry.waited 0) := by
    rw [l.retry.waited_zero]
    rfl
  have htold : w.Told (if l.silences then w.silence else w) := told_if _ ⟨rfl, rfl⟩
  generalize (if l.silences then w.silence else w) = v at hstarting htold
  rw [← htold.simulator, ← htold.clock]
  refine ⟨?_, l.retry.repeats + 1, l.retry.affords_repeats, ?_, ?_⟩
  · intro l₁ v
    exact ⟨openMissing_working, fun _ _ => openMissing_failing⟩
  · intro hfew
    have hroom : 0 + v.simulator.failingOpens ≤ l.retry.repeats := by omega
    have hturns := turns_working (by rw [hmissing]; simp) hroom rfl
    rw [← hstarting] at hturns
    -- as many tries have failed as were to fail, and then three have succeeded
    obtain ⟨w', hw', heq⟩ := connect_of_turns hstate hturns
    refine ⟨⟨_, hturns⟩, _, w', heq, rfl, ⟨rfl, rfl, rfl⟩, ?_, ?_, ?_, connect_of_connected rfl⟩
    · rw [hw'.simulator, hmissing, World.retried_opens]
      rfl
    · rw [hw'.simulator]
      exact Nat.sub_self _
    · rw [hw'.clock]
      rfl
  · intro hmany
    have hturns := turns_failing (w := v) hmissing (Nat.zero_add _) hmany
    rw [← hstarting] at hturns
    -- every attempt has failed at the command channel
    obtain ⟨w', hw', heq⟩ := connect_of_turns hstate hturns
    refine ⟨⟨_, hturns⟩, _, _, w', heq, rfl, ⟨rfl, rfl, rfl⟩, ?_, ?_, ?_⟩
    · rw [hw'.simulator, World.retried_opens]
      rfl
    · rw [hw'.simulator, World.retried_opens]
      rfl
    · rw [hw'.clock]
      rfl

/-- A new link with a budget of two and a half intervals. -/
def patient : Link Simulated.transport where
  retry := { total := ⟨5⟩, interval := ⟨2⟩ }
  silences := true

/-- Three attempts are afforded, so two failures are overcome and three are not. -/
theorem connect_within_budget_thrice :
    (patient.ConnectsIn (.failing 2) 3 ∧
      ∃ l' w', patient.connect (.failing 2) = (.ok (), l', w') ∧
        w'.simulator.openAttempts = 5) ∧
    patient.ConnectsIn (.failing 3) 3 ∧
      ∃ reason l' w', patient.connect (.failing 3) = (.error (.connection reason), l', w') ∧
        w'.simulator.openAttempts = 3 ∧ l'.Empty := by
  have harises : patient.Arises := .new _ _
  -- two seconds between attempts in a budget of five: the third attempt comes at four seconds
  have hthree {attempts : Nat} (h : patient.retry.Affords attempts) : attempts = 3 := by
    obtain ⟨⟨_, hspent⟩, hleast⟩ : IsLeast {k | 1 ≤ k ∧ 5 ≤ k * 2} attempts := h
    have hle : attempts ≤ 3 := hleast (by decide)
    omega
  constructor
  · obtain ⟨_, attempts, hafford, hworks, _⟩ :=
      connect_within_budget harises (by decide) (.failing 2)
    obtain ⟨hattempts, l', w', hconnect, _, _, hopens, _⟩ :=
      hworks (by rw [hthree hafford]; decide)
    exact ⟨hattempts, l', w', hconnect, hopens⟩
  · obtain ⟨_, attempts, hafford, _, hfails⟩ :=
      connect_within_budget harises (by decide) (.failing 3)
    rw [hthree hafford] at hfails
    obtain ⟨hattempts, reason, l', w', hconnect, _, hempty, hopens, _⟩ := hfails (by decide)
    exact ⟨hattempts, reason, l', w', hconnect, hopens, hempty⟩

end Link
end OperatorPanel
