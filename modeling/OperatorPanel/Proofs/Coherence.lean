import OperatorPanel.Proofs.Contact

/-!
# What a client knows after a look

A controller into which nothing is injected answers every look at its open status channel. So a
client that follows it (`Client.Sound`) knows after every look what the controller has then, however
often it has looked before (`Sound.current`), and it stays so through all that it does.

That the versions do not come round is said by counting ahead (`Simulator.Spare`): so many messages
may still come, and so many changes of the status by the controller itself.
-/

namespace OperatorPanel

/-! ### Versions to spare

A status that is looked at is new when its version differs from the one seen before. This is right
as long as the versions do not come round in between, and to know that one counts ahead: the
messages that may still come, with two changes for each, the change that is pending, and the edits.
-/

namespace Simulator

variable {c c' : Simulator}

/-- Nothing is injected: looks at the status are answered with a status. -/
structure Clear (c : Simulator) : Prop where
  fault : c.fault = none
  unexpected : c.unexpected = none

/-- Contact with a panel injects nothing. -/
theorem Used.clear (h : c.Used c') (hclear : c.Clear) : c'.Clear := by
  refine h.invariant (P := Clear) ?_ ?_ ?_ ?_ hclear
  · intro c c' hreached hc
    rw [hreached]
    exact ⟨hc.fault, hc.unexpected⟩
  · intro c seen hc
    have hadvance : c.advance.fault = none ∧ c.advance.unexpected = none := by
      unfold advance
      split <;> exact ⟨hc.fault, hc.unexpected⟩
    unfold peek
    rw [hc.fault, hc.unexpected]
    dsimp only
    split <;> exact ⟨hadvance.1, hadvance.2⟩
  · intro c notices hc
    exact ⟨hc.fault, hc.unexpected⟩
  · intro c m hc
    exact ⟨hc.fault, hc.unexpected⟩

/-- No contact takes a message back. -/
theorem Used.length_le (h : c.Used c') : c.received.length ≤ c'.received.length := by
  refine h.invariant (P := fun d => c.received.length ≤ d.received.length) ?_ ?_ ?_ ?_
    (Nat.le_refl _)
  · intro d d' hreached hd
    rw [hreached.received]
    exact hd
  · intro d seen hd
    rw [(d.sameButLooks_peek seen).received]
    exact hd
  · intro d notices hd
    exact hd
  · intro d m hd
    have hlength : (d.receive m).received.length = d.received.length + 1 := List.length_append
    omega

/-- The change of the status that is still to come by itself. -/
def pending (c : Simulator) : Nat := if c.pollsUntilDone.isSome then 1 else 0

/-- No more than one change is pending. -/
theorem pending_le_one (c : Simulator) : c.pending ≤ 1 := by
  unfold pending
  split <;> omega

/-- A look brings it about, or leaves it pending. -/
theorem changes_ending_le (c : Simulator) : changes c.ending ≤ c.pending := by
  unfold ending pending
  split
  · next hpolls =>
      rw [hpolls]
      exact Nat.le_refl 1
  · exact Nat.zero_le _

/-- Whichever it is, none comes in addition. -/
theorem pending_advance (c : Simulator) : c.advance.pending + changes c.ending ≤ c.pending := by
  unfold pending ending advance
  rcases hpolls : c.pollsUntilDone with _ | _ | n <;> simp [hpolls, touch]

/-- The versions do not come round before there are `last` messages, and so many edits. Every
message may change the status twice: when it arrives, and when its command is done. -/
def Spare (last edits : Nat) (c : Simulator) : Prop :=
  c.version.toNat + c.pending + 2 * (last - c.received.length) + edits < UInt64.size

instance (last edits : Nat) (c : Simulator) : Decidable (c.Spare last edits) :=
  inferInstanceAs (Decidable (_ < _))

end Simulator

/-- **A client stays up to date when it looks**, and no look brings more versions than the one that
was pending. -/
theorem Client.UpToDate.refresh {c : Client Simulated.transport} {w : World}
    (h : UpToDate c.status c w)
    (hfew : w.simulator.version.toNat + w.simulator.pending < UInt64.size) :
    UpToDate (c.refresh w).2.1.status (c.refresh w).2.1 (c.refresh w).2.2 ∧
      (c.refresh w).2.2.simulator.version.toNat + (c.refresh w).2.2.simulator.pending
        ≤ w.simulator.version.toNat + w.simulator.pending := by
  have hending := w.simulator.changes_ending_le
  have hadvance := w.simulator.pending_advance
  rcases hlook : c.refresh w with ⟨r, c₁, w₁⟩
  cases r with
  | error e => -- a look that fails leaves the client and the pending change as they were
      cases Client.looked hlook with
      | failed hapart =>
          have hstatus : c₁.status = c.status := congrArg Watch.status hapart.watch
          refine ⟨hstatus ▸ h.apart hapart, ?_⟩
          have hpending : w₁.simulator.pending = w.simulator.pending := by
            rw [Simulator.pending, Simulator.pending, hapart.polls]
          exact Nat.le_of_eq (by rw [hapart.version, hpending])
  | ok f =>
      obtain ⟨hupdated, hversion⟩ := h.looked hlook (by omega)
      have hpending : w₁.simulator.pending = w.simulator.advance.pending := by
        cases Client.looked hlook with
        | succeeded _ hsimulator _ _ => rw [hsimulator]
      have hstatus := hupdated.status
      rw [← hstatus] at hupdated
      refine ⟨hupdated, ?_⟩
      dsimp only
      rw [hversion, hpending]
      omega

/-- **After a look that succeeds a client knows what the controller has.** -/
theorem Client.UpToDate.current {c : Client Simulated.transport} {w : World}
    (h : UpToDate c.status c w)
    (hfew : w.simulator.version.toNat + w.simulator.pending < UInt64.size)
    (hok : (c.refresh w).1.isOk = true) :
    (c.refresh w).2.1.status = (c.refresh w).2.2.simulator.status := by
  have hending := w.simulator.changes_ending_le
  rcases hlook : c.refresh w with ⟨r, c₁, w₁⟩
  rw [hlook] at hok
  cases r with
  | error e => cases hok
  | ok f => exact (h.looked hlook (by omega)).1.status

/-! ### Sound clients

Being up to date says what the client would see, and is of use only when it does see. So a sound
client has a controller that answers, and versions to spare for as long as the argument will need
them.
-/

namespace Client

variable {c c₁ c' : Client Simulated.transport} {w w₁ w' : World} {last edits : Nat}

/-- **A client that follows its controller**: it is up to date, the controller answers its looks,
and the versions do not come round. -/
structure Sound (last edits : Nat) (c : Client Simulated.transport) (w : World) : Prop where
  upToDate : UpToDate c.status c w
  clear : w.simulator.Clear
  spare : w.simulator.Spare last edits

namespace Sound

/-- What does not concern the status, and sends nothing. -/
theorem apart (h : Sound last edits c w) (hapart : Apart c w c₁ w₁)
    (hclear : w₁.simulator.Clear)
    (hreceived : w₁.simulator.received = w.simulator.received) : Sound last edits c₁ w₁ where
  upToDate := by
    have hstatus : c₁.status = c.status := congrArg Watch.status hapart.watch
    rw [hstatus]
    exact h.upToDate.apart hapart
  clear := hclear
  spare := by
    unfold Simulator.Spare Simulator.pending
    rw [hapart.version, hapart.polls, hreceived]
    exact h.spare

/-- What happens away from client and controller. -/
theorem around (h : Sound last edits c w) (hsimulator : w₁.simulator = w.simulator) :
    Sound last edits c w₁ := by
  refine h.apart (.ofSimulator rfl rfl hsimulator) ?_ (by rw [hsimulator])
  rw [hsimulator]
  exact h.clear

/-- The channel is open, so a look succeeds. -/
theorem refresh_isOk (h : Sound last edits c w) :
    (c.refresh w).1.isOk = c.link.status.isSome := by
  rcases hopen : c.link.status with _ | seen
  · simp only [Client.refresh, Watch.refresh, Link.peek, hopen]
    rfl
  · simp only [Client.refresh, Watch.refresh, Link.peek, hopen, Simulated.peek, Simulator.peek,
      h.clear.fault, h.clear.unexpected]
    split <;> rename_i hfound <;> split at hfound <;> cases hfound <;> rfl

/-- A look keeps a client sound. -/
theorem refresh (h : Sound last edits c w) :
    Sound last edits (c.refresh w).2.1 (c.refresh w).2.2 := by
  have hspare := h.spare
  unfold Simulator.Spare at hspare
  obtain ⟨hupdated, hversions⟩ := h.upToDate.refresh (by omega)
  refine ⟨hupdated, (c.used_refresh w).clear h.clear, ?_⟩
  unfold Simulator.Spare
  rw [(c.quiet_refresh w).simulator.received]
  omega

/-- **After a look the client knows what the controller has**, if its channel is open. -/
theorem current (h : Sound last edits c w) (hopen : c.link.status.isSome = true) :
    (c.refresh w).2.1.status = (c.refresh w).2.2.simulator.status := by
  have hspare := h.spare
  unfold Simulator.Spare at hspare
  exact h.upToDate.current (by omega) (h.refresh_isOk.trans hopen)

/-- The same after a wait for an echo: it ends with a look, whether the echo came or not. -/
theorem awaitEcho_current (h : Sound last edits c w) {serial : Int32} {limit : Option Span}
    {start rounds : Nat} {r : Except PanelError Unit}
    (hwait : awaitEcho serial limit start rounds c w = some (r, c', w'))
    (hopen : c.link.status.isSome = true) : c'.status = w'.simulator.status := by
  -- by induction on the looks; each ends the wait or is followed by another
  induction rounds generalizing c w with
  | zero => cases hwait
  | succ rounds ih =>
      have hlooked := h.refresh
      have hcurrent := h.current hopen
      have hsteady := (c.steady_refresh w).status
      rcases hlook : c.refresh w with ⟨r₁, c₁, w₁⟩
      rw [hlook] at hlooked hcurrent hsteady
      simp only [awaitEcho, hlook] at hwait
      split at hwait
      · cases hwait
        exact hcurrent
      · split at hwait
        · cases hwait
          exact hcurrent
        · have hslept : Sound last edits c₁ (w₁.time.2.sleep c₁.wait.interval) :=
            hlooked.around rfl
          exact ih hslept hwait (hsteady.trans hopen)

/-- So it is after a wait for what was received. -/
theorem waitReceivedFor_current (h : Sound last edits c w) {serial : Int32} {limit : Option Span}
    {r : Except PanelError Unit} (hwait : c.waitReceivedFor serial limit w = some (r, c', w'))
    (hopen : c.link.status.isSome = true) : c'.status = w'.simulator.status := by
  unfold waitReceivedFor at hwait
  dsimp only at hwait
  have hstarted : Sound last edits c w.time.2 := h.around rfl
  exact hstarted.awaitEcho_current hwait hopen

/-- A wait keeps a client sound. -/
theorem waits (h : Sound last edits c w) (hwaits : Waits c w c' w') : Sound last edits c' w' :=
  hwaits.invariant (P := fun c w => Sound last edits c w) (fun _ _ h => h.refresh)
    (fun _ _ h => h.around rfl) (fun _ _ _ h => h.around rfl) h

/-- The controller receives a message, and it is one of those that may still come. -/
theorem receive (h : Sound last edits c w) (m : Message)
    (hlast : w.simulator.received.length < last) :
    Sound last edits c { w with simulator := w.simulator.receive m } := by
  have hspare := h.spare
  unfold Simulator.Spare at hspare
  have hversion : (w.simulator.receive m).version.toNat = w.simulator.version.toNat + 1 :=
    Simulator.toNat_version_touch (c := w.simulator) (by omega)
  refine ⟨h.upToDate.changed (by omega) rfl, ⟨h.clear.fault, h.clear.unexpected⟩, ?_⟩
  have hpending := (w.simulator.receive m).pending_le_one
  have hlength : (w.simulator.receive m).received.length = w.simulator.received.length + 1 :=
    List.length_append
  show Simulator.Spare last edits (w.simulator.receive m)
  unfold Simulator.Spare
  omega

/-- The controller changes its status by itself. -/
theorem edit (h : Sound last (edits + 1) c w) (f : Status → Status) :
    Sound last edits c { w with simulator := w.simulator.update f } := by
  have hspare := h.spare
  unfold Simulator.Spare at hspare
  have hversion : (w.simulator.update f).version.toNat = w.simulator.version.toNat + 1 :=
    Simulator.toNat_version_touch (c := w.simulator) (by omega)
  refine ⟨h.upToDate.changed (by omega) rfl, ⟨h.clear.fault, h.clear.unexpected⟩, ?_⟩
  have hpending : (w.simulator.update f).pending = w.simulator.pending := rfl
  have hreceived : (w.simulator.update f).received = w.simulator.received := rfl
  show Simulator.Spare last edits (w.simulator.update f)
  unfold Simulator.Spare
  rw [hreceived]
  omega

end Sound

/-- Without a channel a client learns nothing. -/
theorem Waits.dark (h : Waits c w c' w') (hclosed : c.link.status = none) :
    c'.watch = c.watch := by
  refine (h.invariant (P := fun c₁ _ => c₁.watch = c.watch ∧ c₁.link.status = none)
    ?_ (fun _ _ h => h) (fun _ _ _ h => h) ⟨rfl, hclosed⟩).1
  rintro c₁ w₁ ⟨hwatch, hnone⟩
  simp only [Client.refresh, Watch.refresh, Link.peek, hnone]
  exact ⟨hwatch, trivial⟩

end Client
end OperatorPanel
