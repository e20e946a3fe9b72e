import OperatorPanel.Proofs.Coherence

/-!
# Commands that are done after some looks

A simulated controller may acknowledge a command as executing, and be done with it only after its
status was looked at so many times. `Exchange` is such a controller with all the status channels
that are open to it; messages are sent, channels are opened and looked through, and the controller
is scripted, in any order (`Exchange.Move`).

What one move can do is said once (`Exchange.move_cases`): a message is accepted, a look counts, or
nothing happens that matters. `Simulator.Pending` says how far the last accepted command got, by its
acknowledgement and the number of looks that counted since; it is kept from move to move, so the
command is done at its look and not before (`Exchange.delayed_completion`).
-/

namespace OperatorPanel

/-- Whether a look counts for the command that is executing: it was answered neither with a fault
nor with a frame that is no status. -/
def Peek.counts : Peek → Bool
  | .noData | .status _ => true
  | .fault _ | .other _ => false

/-- Whether a script edits the status. -/
def Script.edits : Script → Bool
  | .edit _ => true
  | _ => false

/-! ### How far a command got

The acknowledgement that was in force when a command was accepted decides what is to come: with
`completeAfter` a count of looks is set, and the look that finds it at zero is the one with which
the command is done. All other acknowledgements leave no count behind.
-/

namespace Simulator

variable {c c' : Simulator} {told : Status} {ack : Acknowledgement} {looks polls : Nat}

/-- How far a command is that was accepted with some acknowledgement, and after that so many looks
have counted; `told` is what the status was when it was accepted. -/
inductive Pending (told : Status) : Acknowledgement → Nat → Simulator → Prop
  /-- Nothing is to come. -/
  | settled {ack : Acknowledgement} {looks : Nat} {c : Simulator} :
      (∀ polls, ack ≠ .completeAfter polls) → c.pollsUntilDone = none → c.status = told →
      Pending told ack looks c
  /-- Some looks are left. -/
  | waiting {polls looks left : Nat} {c : Simulator} :
      polls = looks + left → c.pollsUntilDone = some left → c.status = told →
      Pending told (.completeAfter polls) looks c
  | done {polls looks : Nat} {c : Simulator} :
      polls < looks → c.pollsUntilDone = none → c.status = { told with state := .done } →
      Pending told (.completeAfter polls) looks c

/-- Nothing that matters to a command has changed. -/
structure Unmoved (c c' : Simulator) : Prop where
  status : c'.status = c.status
  version : c'.version = c.version
  polls : c'.pollsUntilDone = c.pollsUntilDone
  received : c'.received = c.received

/-- Opening a channel, whether it succeeds or not, does not matter to a command. -/
theorem Unmoved.of_reached (h : c.Reached c') : c.Unmoved c' := by
  rw [h]
  exact ⟨rfl, rfl, rfl, rfl⟩

/-- What does not matter to a command does not take it any further. -/
theorem Pending.unmoved (h : Pending told ack looks c) (hunmoved : c.Unmoved c') :
    Pending told ack looks c' := by
  cases h with
  | settled hother hpolls hstatus =>
      exact .settled hother (hunmoved.polls.trans hpolls) (hunmoved.status.trans hstatus)
  | waiting hleft hpolls hstatus =>
      exact .waiting hleft (hunmoved.polls.trans hpolls) (hunmoved.status.trans hstatus)
  | done hpast hpolls hstatus =>
      exact .done hpast (hunmoved.polls.trans hpolls) (hunmoved.status.trans hstatus)

/-- **Accepting a command starts it anew**, whatever was pending. -/
theorem pending_receive (c : Simulator) (m : Message) :
    Pending (c.receive m).status c.ack 0 (c.receive m) := by
  have hpolls : (c.receive m).pollsUntilDone = c.ack.polls := rfl
  cases hack : c.ack with
  | completeAfter polls =>
      rw [hack] at hpolls
      exact .waiting (Nat.zero_add polls).symm hpolls rfl
  | complete | receive | fail | ignore =>
      rw [hack] at hpolls
      exact .settled nofun hpolls rfl

/-- Without a count a look changes nothing. -/
theorem advance_of_none (h : c.pollsUntilDone = none) : c.advance = c := by
  rw [Simulator.advance, h]

/-- **A look that counts takes the command one look further.** -/
theorem Pending.advance (h : Pending told ack looks c) :
    Pending told ack (looks + 1) c.advance := by
  -- one case for each phase; only the one that waits has something to advance
  cases h with
  | settled hother hpolls hstatus =>
      rw [advance_of_none hpolls]
      exact .settled hother hpolls hstatus
  | @waiting polls _ left _ hleft hpolls hstatus =>
      cases left with
      | zero => -- this is the look with which the command is done
          have hends : c.advance.pollsUntilDone = none ∧
              c.advance.status = { c.status with state := .done } := by
            rw [Simulator.advance, hpolls]
            exact ⟨rfl, rfl⟩
          exact .done (by omega) hends.1 (hstatus ▸ hends.2)
      | succ left => -- one look less is left
          have hwaits : c.advance.pollsUntilDone = some left ∧ c.advance.status = c.status := by
            rw [Simulator.advance, hpolls]
            exact ⟨rfl, rfl⟩
          exact .waiting (by omega) hwaits.1 (hwaits.2.trans hstatus)
  | done hpast hpolls hstatus =>
      rw [advance_of_none hpolls]
      exact .done (Nat.lt_succ_of_lt hpast) hpolls hstatus

/-- A command that is done after some looks is executing until then. -/
theorem Pending.completing (h : Pending told (.completeAfter polls) looks c)
    (hexec : told.state = .exec) :
    c.status = { told with state := if looks ≤ polls then .exec else .done } := by
  cases h with
  -- the acknowledgement is the one with a count, so it cannot be settled
  | settled hother => exact absurd rfl (hother polls)
  | waiting hleft hpolls hstatus =>
      rw [hstatus, if_pos (by omega), ← hexec]
  | done hpast hpolls hstatus =>
      rw [hstatus, if_neg (Nat.not_le.2 hpast)]

/-- Any other command stays as it was acknowledged. -/
theorem Pending.status_eq (h : Pending told ack looks c)
    (hother : ∀ polls, ack ≠ .completeAfter polls) : c.status = told := by
  cases h with
  | settled _ _ hstatus => exact hstatus
  | @waiting polls | @done polls => exact absurd rfl (hother polls)

/-- No look is left when all have been had. -/
theorem Pending.polls_eq (h : Pending told (.completeAfter looks) looks c) :
    c.pollsUntilDone = some 0 := by
  cases h with
  | settled hother => exact absurd rfl (hother looks)
  | @waiting _ _ left _ hleft hpolls =>
      rw [hpolls]
      congr 1  -- as many looks have been had as there were, so none is left
      omega
  | done hpast => exact absurd hpast (Nat.lt_irrefl looks)

/-- A look counts a version just where the command that is executing ends with it. -/
theorem toNat_version_advance (hfew : c.version.toNat + c.pending < UInt64.size) :
    c.advance.version.toNat = c.version.toNat + changes c.ending := by
  -- at most one more change is to come by itself, which is why it is counted
  have hending := c.changes_ending_le
  rcases c.advance_cases with ⟨hnone, hsame, -⟩ | ⟨hone, hnext⟩
  · rw [hsame, hnone, changes_nil, Nat.add_zero]
  · rw [hone, changes_changed, changes_nil] at hending ⊢
    rw [hnext]
    exact toNat_version_touch (by omega)

end Simulator

/-! ### Messages, looks and scripts

The controller is used through its own operations only: `Simulated.send`, `openEnd` and `peek`, as
the channels use them, and scripts, which stand for whoever tests the panel. A status channel is a
version that was seen last; there may be any number of them, and looks through all of them count
alike.
-/

/-- A simulated controller in its world, and the status channels that are open to it, each with the
version that was found last. -/
structure Exchange where
  world : World
  ends : List UInt64 := []

/-- What happens to a controller that is not edited. -/
inductive Exchange.Move where
  /-- Someone sends a message. -/
  | send (m : Message)
  /-- Someone opens one more status channel. -/
  | connect
  /-- Someone looks through the status channel of this number. -/
  | look (number : Nat)
  | script (script : Script) (keeps : script.edits = false)

namespace Exchange

/-- The controller. -/
abbrev controller (e : Exchange) : Simulator := e.world.simulator

/-- A controller to which nothing has happened yet. -/
def fresh (w : World) (status : Status) : Exchange := ⟨{ w with simulator := { status } }, []⟩

/-- What is found by a look through a channel, if it is there, and what there is then. -/
def look (e : Exchange) (number : Nat) : Option (Peek × Exchange) :=
  e.ends[number]?.map fun seen =>
    let (found, seen, world) := Simulated.peek seen e.world
    (found, { world, ends := e.ends.set number seen })

/-- What a move comes to. -/
def after (e : Exchange) : Move → Exchange
  | .send m => { e with world := (Simulated.send m e.world).2 }
  | .connect =>
    match Simulated.openEnd .status 0 e.world with
    | (.ok seen, world) => { world, ends := e.ends ++ [seen] }
    | (.error _, world) => { e with world }
  | .look number => ((e.look number).map (·.2)).getD e
  | .script s _ => { e with world := { e.world with simulator := s.apply e.world.simulator } }

/-- One move after the other. -/
def run (e : Exchange) (moves : List Move) : Exchange := moves.foldl after e

/-- Whether a move is a look that counts. -/
def counts (e : Exchange) : Move → Bool
  | .look number => (e.look number).any (·.1.counts)
  | _ => false

/-- How many looks count. -/
def looks (e : Exchange) : List Move → Nat
  | [] => 0
  | move :: moves => (if e.counts move then 1 else 0) + (e.after move).looks moves

variable {e : Exchange}

/-- A message is accepted while the command channel is valid. -/
theorem after_send {m : Message} (hvalid : e.controller.commandValid = true) :
    e.after (.send m)
      = { e with world := { e.world with simulator := e.controller.receive m } } := by
  rw [after, Simulated.send, if_pos hvalid]

/-- **What a look can do**: it counts, and may find a status; or it is answered with something else,
and nothing that matters happens. -/
theorem look_cases {number : Nat} {found : Peek} {next : Exchange}
    (h : e.look number = some (found, next)) :
    (found.counts = true ∧ next.controller = e.controller.advance ∧
      (∀ seen ∈ next.ends, seen ∈ e.ends ∨ seen = e.controller.advance.version) ∧
      (found = .noData ∧ e.controller.advance.version ∈ e.ends ∨
        found = .status next.controller.status)) ∨
    (found.counts = false ∧ e.controller.Unmoved next.controller ∧
      ∀ seen ∈ next.ends, seen ∈ e.ends) := by
  obtain ⟨seen, hseen, hlook⟩ := Option.map_eq_some_iff.1 h
  -- the channel keeps the version that it has found, and the others keep theirs
  have hmem := List.mem_of_getElem? hseen
  have hends : ∀ known ∈ e.ends.set number seen, known ∈ e.ends := by
    intro known hknown
    rcases List.mem_or_eq_of_mem_set hknown with hold | rfl
    · exact hold
    · exact hmem
  -- a fault, a frame that is no status, nothing new, or a status
  rcases e.controller.peek_cases seen with ⟨reason, hpeek⟩ | ⟨type, hpeek⟩ |
    ⟨hsame, hpeek⟩ | ⟨hnew, hpeek⟩ <;> simp only [Simulated.peek, hpeek] at hlook <;> cases hlook
  · exact .inr ⟨rfl, ⟨rfl, rfl, rfl, rfl⟩, hends⟩
  · exact .inr ⟨rfl, ⟨rfl, rfl, rfl, rfl⟩, hends⟩
  · exact .inl ⟨rfl, rfl, fun known hknown => .inl (hends known hknown), .inl ⟨rfl, hsame ▸ hmem⟩⟩
  · exact .inl ⟨rfl, rfl, fun known hknown => List.mem_or_eq_of_mem_set hknown, .inr rfl⟩

/-- **What one move can do**: a message is accepted, a look counts, or nothing happens that
matters. -/
theorem move_cases (e : Exchange) (move : Move) :
    (∃ m, e.counts move = false ∧
      (e.after move).controller = e.controller.receive m ∧ (e.after move).ends = e.ends) ∨
    (e.counts move = true ∧ (e.after move).controller = e.controller.advance ∧
      ∀ seen ∈ (e.after move).ends, seen ∈ e.ends ∨ seen = e.controller.advance.version) ∨
    (e.counts move = false ∧ e.controller.Unmoved (e.after move).controller ∧
      ∀ seen ∈ (e.after move).ends, seen ∈ e.ends ∨ seen = 0) := by
  -- one case per move: sending may be refused, opening may fail, a look may find nothing there
  cases move with
  | send m =>
      by_cases hvalid : e.controller.commandValid = true
      · rw [after_send hvalid]
        exact .inl ⟨m, rfl, rfl, rfl⟩
      · have hsame : e.after (.send m) = e := by rw [after, Simulated.send, if_neg hvalid]
        rw [hsame]
        exact .inr (.inr ⟨rfl, ⟨rfl, rfl, rfl, rfl⟩, fun _ hseen => .inl hseen⟩)
  | connect => -- a channel that was just opened has found no version yet, which is zero
      have hreached := Link.reached_openEnd ChannelKind.status (0 : UInt64) e.world
      right; right
      refine ⟨rfl, ?_⟩
      simp only [after]
      split
      · next seen world hopened =>
          rw [hopened] at hreached
          cases Link.openEnd_eq_ok hopened
          refine ⟨.of_reached hreached, fun seen hseen => ?_⟩
          simpa using hseen
      · next fault world hopened =>
          rw [hopened] at hreached
          exact ⟨.of_reached hreached, fun _ hseen => .inl hseen⟩
  | look number =>
      right
      simp only [after, counts]
      cases hlook : e.look number with
      | none => exact .inr ⟨rfl, ⟨rfl, rfl, rfl, rfl⟩, fun _ hseen => .inl hseen⟩
      | some looked =>
          obtain ⟨found, next⟩ := looked
          rcases look_cases hlook with ⟨hcounts, hnext, hends, -⟩ | ⟨hcounts, hnext, hends⟩
          · exact .inl ⟨hcounts, hnext, hends⟩
          · exact .inr ⟨hcounts, hnext, fun seen hseen => .inl (hends seen hseen)⟩
  | script script hkeeps => -- no script but an edit reaches the status or the count
      refine .inr (.inr ⟨rfl, ?_, fun _ hseen => .inl hseen⟩)
      cases script with
      | edit f => cases hkeeps
      | acknowledge | validate | disturb | interject | report | failOpens =>
          exact ⟨rfl, rfl, rfl, rfl⟩

/-- No move takes a message back. -/
theorem length_received_after (e : Exchange) (move : Move) :
    e.controller.received.length ≤ (e.after move).controller.received.length := by
  rcases e.move_cases move with ⟨m, -, hnext, -⟩ | ⟨-, hnext, -⟩ | ⟨-, hunmoved, -⟩
  · rw [hnext]
    show _ ≤ (e.controller.received ++ [m]).length
    simp
  · rw [hnext, (Simulator.sameButLooks_advance _).received]
  · rw [hunmoved.received]

/-- Nor does any number of moves. -/
theorem length_received_run (e : Exchange) (moves : List Move) :
    e.controller.received.length ≤ (e.run moves).controller.received.length := by
  induction moves generalizing e with
  | nil => exact Nat.le_refl _
  | cons move moves ih => exact Nat.le_trans (e.length_received_after move) (ih (e.after move))

/-! ### Between two commands

While no message is accepted, `Pending` is kept: the number of messages received does not change,
and a move that would accept one makes it greater. So the hypothesis that nothing else was accepted
is only about the two ends of a run, and holds in between because messages are never taken back.
-/

section Pending

variable {told : Status} {ack : Acknowledgement} {looks : Nat}

/-- **One move takes a command one look further if it is a look that counts**, and not at all
otherwise, as long as no other command is accepted. -/
theorem pending_after (h : e.controller.Pending told ack looks) {move : Move}
    (hnone : (e.after move).controller.received.length ≤ e.controller.received.length) :
    (e.after move).controller.Pending told ack (looks + if e.counts move then 1 else 0) := by
  rcases e.move_cases move with ⟨m, -, hnext, -⟩ | ⟨hcounts, hnext, -⟩ | ⟨hcounts, hunmoved, -⟩
  · -- the message would be one more
    rw [hnext] at hnone
    have hmore : (e.controller.received ++ [m]).length ≤ e.controller.received.length := hnone
    simp at hmore
  · rw [hcounts, hnext]
    exact h.advance
  · rw [hcounts]
    exact h.unmoved hunmoved

/-- **So does any number of moves.** -/
theorem pending_run (h : e.controller.Pending told ack looks) {moves : List Move}
    (hnone : (e.run moves).controller.received.length ≤ e.controller.received.length) :
    (e.run moves).controller.Pending told ack (looks + e.looks moves) := by
  induction moves generalizing e looks with
  -- by induction on the moves, with the looks that have counted so far
  | nil => exact h
  | cons move moves ih => -- between the two ends the number of messages cannot have been greater
      have hfirst := e.length_received_after move
      have hrest := (e.after move).length_received_run moves
      have hlater := ih (pending_after h (Nat.le_trans hrest hnone)) (Nat.le_trans hnone hfirst)
      rw [Exchange.looks, ← Nat.add_assoc]
      exact hlater

end Pending

/-! ### Versions

Whether a look finds a status is decided by versions, which count modulo 2 to the 64th. The look
with which a command is done finds it as long as that version is a new one. Each message touches the
status once, and once more if it is done by itself later; so half as many messages are harmless.
-/

/-- The versions have not come round: every message has brought two at most, with the one that is
still to come by itself, and nobody has found a version of which there was none yet. -/
structure Dated (e : Exchange) : Prop where
  counted : e.controller.version.toNat + e.controller.pending
    ≤ 2 * e.controller.received.length + 1
  seen : ∀ seen ∈ e.ends, seen.toNat ≤ e.controller.version.toNat

/-- In the beginning the version is one, and no channel is open. -/
theorem dated_fresh (w : World) (status : Status) : (fresh w status).Dated :=
  ⟨Nat.le_refl 1, fun _ hseen => absurd hseen List.not_mem_nil⟩

/-- Fewer than `2 ^ 63` messages do not bring the versions round. -/
theorem Dated.after (h : e.Dated) {move : Move}
    (hfew : (e.after move).controller.received.length < valuesOf 63) :
    (e.after move).Dated := by
  have hcounted := h.counted
  have hadvance := e.controller.pending_advance
  have hround : 2 * valuesOf 63 = UInt64.size := rfl
  -- a message is accepted, a look counts, or nothing happens that matters
  rcases e.move_cases move with ⟨m, -, hnext, hends⟩ | ⟨-, hnext, hends⟩ | ⟨-, hunmoved, hends⟩
  · have hlength : (e.after move).controller.received.length
        = e.controller.received.length + 1 := by
      rw [hnext]
      exact List.length_append
    have hversion : (e.after move).controller.version.toNat
        = e.controller.version.toNat + 1 := by
      rw [hnext]
      exact Simulator.toNat_version_touch (c := e.controller) (by omega)
    -- the message may bring one more version by itself, but no other is to come any more
    have hpending := (e.after move).controller.pending_le_one
    refine ⟨by omega, fun seen hseen => ?_⟩
    rw [hends] at hseen
    exact Nat.le_trans (h.seen seen hseen) (by omega)
  · -- a look may bring the version that was still to come
    have hreceived := (Simulator.sameButLooks_advance e.controller).received
    rw [← hnext] at hreceived hadvance
    have hversion := Simulator.toNat_version_advance (c := e.controller)
      (by rw [hreceived] at hfew; omega)
    rw [← hnext] at hversion hends
    refine ⟨by rw [hreceived]; omega, fun seen hseen => ?_⟩
    rcases hends seen hseen with hold | rfl
    · exact Nat.le_trans (h.seen seen hold) (by omega)
    · exact Nat.le_refl _
  · -- what else happens brings no version, and a new channel has found none
    refine ⟨?_, fun seen hseen => ?_⟩
    · rw [Simulator.pending, hunmoved.version, hunmoved.polls, hunmoved.received]
      exact hcounted
    · rw [hunmoved.version]
      rcases hends seen hseen with hold | rfl
      · exact h.seen seen hold
      · exact Nat.zero_le _

/-- So does no history of so few messages. -/
theorem Dated.run (h : e.Dated) {moves : List Move}
    (hfew : (e.run moves).controller.received.length < valuesOf 63) : (e.run moves).Dated := by
  induction moves generalizing e with
  | nil => exact h
  | cons move moves ih =>
      have hless := (e.after move).length_received_run moves
      exact ih (h.after (Nat.lt_of_le_of_lt hless hfew)) hfew

/-- The look with which a command ends finds a version that nobody has found before. -/
theorem Dated.not_mem (h : e.Dated) (hfew : e.controller.received.length < valuesOf 63)
    (hlast : e.controller.pollsUntilDone = some 0) :
    e.controller.advance.version ∉ e.ends := by
  intro hmem
  have hround : 2 * valuesOf 63 = UInt64.size := rfl
  have hcounted := h.counted
  have hending : changes e.controller.ending = 1 := by
    rw [Simulator.ending, if_pos hlast]
    rfl
  -- the version with this look is one beyond all that were found
  have hversion := Simulator.toNat_version_advance (c := e.controller) (by omega)
  have hseen := h.seen _ hmem
  omega

/-- **A command is done after so many looks.** Let a controller that nobody edits be sent messages,
be looked at through any of its status channels, be told to acknowledge in other ways, and be
disturbed in any order; then it accepts a message, and again all of this happens, but no other
message is accepted. If messages are acknowledged as done after `polls` looks then, the command is
executing as long as no more than `polls` looks have counted, and done from the next one on; in any
other way it stays as it was acknowledged. This is all that changes in the status, and what was
pending before has no part in it.

The next look, if it counts, finds the status as it is then, or finds nothing new; but the look with
which the command is done finds it, unless there have been `2 ^ 63` messages. A look that is
answered with a fault or with a frame that is no status changes neither the status nor how many
looks are left. -/
theorem delayed_completion (w : World) (status : Status) (before after : List Move) (m : Message) :
    let e := (fresh w status).run before
    let told := e.after (.send m)
    let now := told.run after
    let looks := told.looks after
    (Simulated.send m e.world).1 = .ok () →
    now.controller.received = told.controller.received →
    told.controller.status = Simulator.acknowledge
        (Simulator.effect e.controller.status m.command) m.serial e.controller.ack ∧
      (∀ pending, told.controller
        = Simulator.receive { e.controller with pollsUntilDone := pending } m) ∧
      ((∀ polls, e.controller.ack ≠ .completeAfter polls) →
        now.controller.status = told.controller.status) ∧
      (∀ polls, e.controller.ack = .completeAfter polls →
        now.controller.status = { told.controller.status with
          state := if looks ≤ polls then .exec else .done } ∧
        ∀ number found next, now.look number = some (found, next) → found.counts = true →
          next.controller.status = { told.controller.status with
            state := if looks < polls then .exec else .done } ∧
          (found = .noData ∨ found = .status next.controller.status) ∧
          (looks = polls → now.controller.received.length < valuesOf 63 →
            found = .status next.controller.status)) ∧
      ∀ number found next, now.look number = some (found, next) → found.counts = false →
        next.controller.status = now.controller.status ∧
        next.controller.pollsUntilDone = now.controller.pollsUntilDone := by
  intro e told now looks haccepted hnone
  -- what was accepted was accepted through a valid channel
  have hvalid : e.controller.commandValid = true := by
    unfold Simulated.send at haccepted
    split at haccepted
    · assumption
    · cases haccepted
  have htold : told.controller = e.controller.receive m :=
    congrArg (·.controller) (after_send hvalid)
  -- the invariant starts at the message and is carried to the present
  have hpending : now.controller.Pending told.controller.status e.controller.ack looks := by
    have hstart := e.controller.pending_receive m
    rw [← htold] at hstart
    have hnow := pending_run hstart (Nat.le_of_eq (congrArg List.length hnone))
    rw [Nat.zero_add] at hnow
    exact hnow
  refine ⟨by rw [htold]; rfl, fun pending => htold, hpending.status_eq, fun polls hack => ?_,
    fun number found next hlook hmissed => ?_⟩
  · -- a command that is done after some looks is executing once it was accepted
    rw [hack] at hpending
    have hexec : told.controller.status.state = .exec := by
      rw [htold]
      simp [Simulator.receive, Simulator.touch, hack, Simulator.acknowledge, Simulator.echo]
    refine ⟨hpending.completing hexec, fun number found next hlook hcounts => ?_⟩
    -- a look that counts is one look further; one that does not is excluded
    rcases look_cases hlook with ⟨-, hnext, -, hfound⟩ | ⟨hmissed, -⟩
    · refine ⟨?_, hfound.imp_left (·.1), fun hlast hfew => hfound.resolve_left ?_⟩
      · rw [hnext]
        exact hpending.advance.completing hexec
      · -- nobody has found the version that comes with this look
        have htoldFew := Nat.lt_of_le_of_lt (told.length_received_run after) hfew
        have hbeforeFew := Nat.lt_of_le_of_lt (e.length_received_after (.send m)) htoldFew
        have hdated : now.Dated :=
          (((dated_fresh w status).run hbeforeFew).after htoldFew).run hfew
        rw [← hlast] at hpending
        exact fun hknown => hdated.not_mem hfew hpending.polls_eq hknown.2
    · rw [hmissed] at hcounts
      cases hcounts
  · -- a look that does not count leaves status and count as they are
    rcases look_cases hlook with ⟨hcounts, -⟩ | ⟨-, hunmoved, -⟩
    · rw [hmissed] at hcounts
      cases hcounts
    · exact ⟨hunmoved.status, hunmoved.polls⟩

/-- A command is accepted that is done after five looks, and one of them has been had. -/
def underWay : List Move :=
  [.script (.acknowledge (.completeAfter 5)) rfl, .connect, .send ⟨1, .mistOn⟩, .look 0,
    .script (.acknowledge (.completeAfter 2)) rfl]

/-- Two looks count, and two do not. -/
def disturbed : List Move :=
  [.look 0, .script (.disturb (some "cable")) rfl, .look 0, .script (.disturb none) rfl,
    .script (.interject 119) rfl, .look 0, .look 0]

/-- The next command is done with the third look that counts. -/
theorem delayed_completion_disturbed :
    let e := (fresh (.echoing 0) {}).run underWay
    let now := (e.after (.send ⟨2, .floodOn⟩)).run disturbed
    (Simulated.send ⟨2, .floodOn⟩ e.world).1 = .ok () ∧
      now.controller.received = (e.after (.send ⟨2, .floodOn⟩)).controller.received ∧
      now.controller.status = { echo := 2, state := .exec, mist := true, flood := true } ∧
      ∃ found next, now.look 0 = some (found, next) ∧
        found = .status { echo := 2, state := .done, mist := true, flood := true } := by
  intro e now
  -- what can be computed is: the message is accepted, and nothing else arrives
  have haccepted : (Simulated.send ⟨2, .floodOn⟩ e.world).1 = .ok () := by decide +kernel
  have hnone : now.controller.received = (e.after (.send ⟨2, .floodOn⟩)).controller.received := by
    decide +kernel
  obtain ⟨htold, -, -, hcompletes, -⟩ :=
    delayed_completion (.echoing 0) {} underWay disturbed ⟨2, .floodOn⟩ haccepted hnone
  obtain ⟨hnow, hlooks⟩ := hcompletes 2 rfl
  obtain ⟨found, next, hlook⟩ : ∃ found next, now.look 0 = some (found, next) := ⟨_, _, rfl⟩
  have hcounts : found.counts = true := by
    have hall : (now.look 0).all (·.1.counts) = true := by decide +kernel
    rw [hlook] at hall
    exact hall
  obtain ⟨hnext, -, hlast⟩ := hlooks 0 found next hlook hcounts
  refine ⟨haccepted, hnone, hnow.trans (by decide +kernel), found, next, hlook, ?_⟩
  rw [hlast (by decide +kernel) (by decide +kernel), hnext]
  decide +kernel

end Exchange
end OperatorPanel
