import OperatorPanel.Proofs.Following

/-!
# Acknowledgements

A client holds a command for received when the status that it has seen echoes the serial, and for
done when that status says so. `Client.Waited` lists the ways in which a wait ends, each with what
the status says then. What a client sees it has from the controller, so no status that is left from
an earlier command passes for an acknowledgement (`no_false_acknowledgement`).
-/

namespace OperatorPanel

namespace Simulator

/-- No command changes the echo by what it does. -/
theorem echo_effect (s : Status) (command : Command) : (effect s command).echo = s.echo := by
  cases command
  case programRun line =>
    show (if s.programOpen = true then _ else s).echo = s.echo
    split <;> rfl
  case toolSetOffset tool length diameter =>
    show (if tool = s.toolNumber then _ else s).echo = s.echo
    split <;> rfl
  case spindleOff =>
    -- with the status written out, the speed is not computed
    show Status.echo { s with spindleSpeed := 0, spindleDirection := .stopped } = s.echo
    rfl
  all_goals rfl

/-- A controller that ignores commands does not echo them. -/
theorem echo_receive_ignore {c : Simulator} (hignore : c.ack = .ignore) (m : Message) :
    (c.receive m).status.echo = c.status.echo := by
  show (acknowledge (effect c.status m.command) m.serial c.ack).echo = c.status.echo
  rw [hignore]
  exact echo_effect c.status m.command

end Simulator

namespace Client

/-! ### How waits end

A wait is a loop over looks, and ends where one of them shows what it waits for or where its time is
over. What the client has seen last is then the reason for the result.
-/

section

variable {T : Transport} {c c' : Client T} {w w' : World} {r : Except PanelError Unit}
  {serial : Int32} {start rounds : Nat}

/-- The wait for an echo ends with the echo, or without it when the time is over. -/
theorem awaitEcho_ends {limit : Option Span}
    (h : awaitEcho serial limit start rounds c w = some (r, c', w')) :
    r = .ok () ∧ c'.status.echo = serial ∨
      ∃ t, r = .error (.timeout serial "received" t) ∧ c'.status.echo ≠ serial := by
  induction rounds generalizing c w with
  | zero => cases h
  | succ rounds ih =>
      simp only [awaitEcho] at h
      split at h
      · next hecho =>
          cases h
          exact .inl ⟨rfl, hecho⟩
      · next hecho =>
          split at h
          · cases h
            exact .inr ⟨_, rfl, hecho⟩
          · exact ih h

/-- The wait for the end of a command ends with done, with an error, or with neither. -/
theorem awaitEnd_ends (h : awaitEnd serial start rounds c w = some (r, c', w')) :
    r = .ok () ∧ c'.status.state = .done ∨
      r = .error (.remote serial) ∧ c'.status.state = .error ∨
      ∃ t, r = .error (.timeout serial "done" t) ∧ c'.status.state ≠ .done ∧
        c'.status.state ≠ .error := by
  -- by induction on the turns: every turn ends the wait or looks once more
  induction rounds generalizing c w with
  | zero => cases h
  | succ rounds ih =>
      simp only [awaitEnd] at h
      split at h
      · next hstate =>
          cases h
          exact .inl ⟨rfl, hstate⟩
      · next hstate =>
          cases h
          exact .inr (.inl ⟨rfl, hstate⟩)
      · next hdone herror =>
          split at h
          · cases h
            exact .inr (.inr ⟨_, rfl, hdone, herror⟩)
          · exact ih h

end

/-- The ways in which a wait ends, with what the status says that was seen last. -/
inductive Waited {T : Transport} (serial : Int32) (c : Client T) :
    WaitPolicy → Except PanelError Unit → Prop
  | unasked : Waited serial c .none (.ok ())
  | received : c.status.echo = serial → Waited serial c .received (.ok ())
  | done : c.status.echo = serial → c.status.state = .done → Waited serial c .done (.ok ())
  | failed : c.status.echo = serial → c.status.state = .error →
      Waited serial c .done (.error (.remote serial))
  | unechoed {policy : WaitPolicy} {t : Span} : policy ≠ .none → c.status.echo ≠ serial →
      Waited serial c policy (.error (.timeout serial "received" t))
  | unfinished {t : Span} : c.status.echo = serial → c.status.state ≠ .done →
      c.status.state ≠ .error → Waited serial c .done (.error (.timeout serial "done" t))

namespace Waited

variable {T : Transport} {serial : Int32} {c : Client T} {policy : WaitPolicy}

/-- What ends well has seen what it waited for. -/
theorem of_ok (h : Waited serial c policy (.ok ())) :
    (policy ≠ .none → c.status.echo = serial) ∧ (policy = .done → c.status.state = .done) := by
  cases h with
  | unasked => exact ⟨fun hpolicy => absurd rfl hpolicy, fun hpolicy => by cases hpolicy⟩
  | received hecho => exact ⟨fun _ => hecho, fun hpolicy => by cases hpolicy⟩
  | done hecho hdone => exact ⟨fun _ => hecho, fun _ => hdone⟩

/-- A failure that is reported is the controller's own. -/
theorem of_remote {n : Int32} (h : Waited serial c policy (.error (.remote n))) :
    n = serial ∧ policy = .done ∧ c.status.echo = serial ∧ c.status.state = .error := by
  cases h with
  | failed hecho herror => exact ⟨rfl, rfl, hecho, herror⟩

/-- What is reported as late has not come by then. -/
theorem of_timeout {n : Int32} {stage : String} {t : Span}
    (h : Waited serial c policy (.error (.timeout n stage t))) :
    n = serial ∧ (stage = "received" ∧ policy ≠ .none ∧ c.status.echo ≠ serial ∨
      stage = "done" ∧ policy = .done ∧ c.status.echo = serial ∧ c.status.state ≠ .done ∧
        c.status.state ≠ .error) := by
  cases h with
  | unechoed hpolicy hecho => exact ⟨rfl, .inl ⟨rfl, hpolicy, hecho⟩⟩
  | unfinished hecho hdone herror => exact ⟨rfl, .inr ⟨rfl, rfl, hecho, hdone, herror⟩⟩

end Waited

/-! ### What a client sees it has from the controller

A client learns of an echo by looking, and a look shows what the controller has. Between the looks
the controller does not change its echo, since only a message would, and a wait sends none.
-/

section

variable {c c₁ c' : Client Simulated.transport} {w w₁ w' : World} {serial : Int32}

/-- A look leaves the echo that was seen, or brings the controller's. -/
theorem echo_looked {r : Except PanelError Freshness} (h : c.refresh w = (r, c₁, w₁)) :
    c₁.status.echo = c.status.echo ∨ c₁.status.echo = w.simulator.status.echo := by
  cases looked h with
  | failed hapart => exact .inl (congrArg (·.status.echo) hapart.watch)
  | succeeded _ hsimulator _ hstatus =>
      rw [hstatus]
      split
      · exact .inl rfl
      · rw [hsimulator]
        exact .inr w.simulator.sameButLooks_advance.echo

/-- **The echo that a wait ends with** was there before it, or is that of the controller. -/
theorem Waits.echo (h : Waits c w c' w') :
    c'.status.echo = c.status.echo ∨ c'.status.echo = w.simulator.status.echo := by
  have hboth : (c'.status.echo = c.status.echo ∨ c'.status.echo = w.simulator.status.echo) ∧
      w'.simulator.status.echo = w.simulator.status.echo := by
    -- the invariant is about both ends, since a look copies the echo from the one to the other
    refine h.invariant (P := fun c₁ w₁ =>
      (c₁.status.echo = c.status.echo ∨ c₁.status.echo = w.simulator.status.echo) ∧
        w₁.simulator.status.echo = w.simulator.status.echo) ?_ ?_ ?_ ⟨.inl rfl, rfl⟩
    · intro c₁ w₁ ⟨hseen, hcontroller⟩
      have hquiet := (c₁.quiet_refresh w₁).simulator.echo
      rcases hlook : c₁.refresh w₁ with ⟨r, c₂, w₂⟩
      rw [hlook] at hquiet
      refine ⟨?_, hquiet.trans hcontroller⟩
      rcases echo_looked hlook with hsame | hnew
      · show c₂.status.echo = _ ∨ c₂.status.echo = _
        rw [hsame]
        exact hseen
      · exact .inr (hnew.trans hcontroller)
    · intro c₁ w₁ hkept
      exact hkept
    · intro c₁ w₁ t hkept
      exact hkept
  exact hboth.1

/-- An echo that is seen after a message the controller has from that message, and it does not
ignore commands. -/
theorem Waits.echoed {m : Message}
    (h : Waits c { w with simulator := w.simulator.receive m } c' w')
    (hseen : c.status.echo ≠ m.serial) (hcontroller : w.simulator.status.echo ≠ m.serial)
    (hecho : c'.status.echo = m.serial) :
    w'.simulator.status.echo = m.serial ∧ w.simulator.ack ≠ .ignore := by
  have hechoed : (w.simulator.receive m).status.echo = m.serial := by
    rcases h.echo with hsame | hnew
    · exact absurd (hsame.symm.trans hecho) hseen
    · exact hnew.symm.trans hecho
  refine ⟨h.quiet.simulator.echo.trans hechoed, fun hignore => ?_⟩
  rw [Simulator.echo_receive_ignore hignore] at hechoed
  exact hcontroller hechoed

/-- A wait that begins without the echo ends in one of these ways. -/
theorem waited {policy : WaitPolicy} {r : Except PanelError Unit}
    (hbefore : c.status.echo ≠ serial) (h : c.waitBy policy serial w = some (r, c', w')) :
    Waited serial c' policy r := by
  cases policy with
  | none =>
      cases h
      exact .unasked
  | received =>
      obtain ⟨rfl, hecho⟩ | ⟨t, rfl, hecho⟩ := awaitEcho_ends h
      · exact .received hecho
      · exact .unechoed (by decide) hecho
  | done =>
      simp only [waitBy, waitDone] at h
      split at h
      · cases h
      · next hwait =>
          cases h
          obtain ⟨hok, _⟩ | ⟨t, herror, hecho⟩ := awaitEcho_ends hwait
          · cases hok
          · cases herror
            exact .unechoed (by decide) hecho
      · next c₁ w₁ hwait =>
          -- the echo has come from the controller, so no later look takes it away
          have hreceived : c₁.status.echo = serial := by
            obtain ⟨_, hecho⟩ | ⟨t, herror, _⟩ := awaitEcho_ends hwait
            · exact hecho
            · cases herror
          have hwaits := waitReceivedFor_waits hwait
          have hcontroller : w₁.simulator.status.echo = serial := by
            rw [hwaits.quiet.simulator.echo]
            rcases hwaits.echo with hsame | hnew
            · exact absurd (hsame.symm.trans hreceived) hbefore
            · exact hnew.symm.trans hreceived
          have hecho : c'.status.echo = serial := by
            rcases (awaitEnd_waits h).echo with hsame | hnew
            · exact hsame.trans hreceived
            · exact hnew.trans hcontroller
          obtain ⟨rfl, hdone⟩ | ⟨rfl, herror⟩ | ⟨t, rfl, hdone, herror⟩ := awaitEnd_ends h
          · exact .done hecho hdone
          · exact .failed hecho herror
          · exact .unfinished hecho hdone herror

/-! ### Dispatches

Before a dispatch neither side has the fresh serial as its echo. So an echo of it that is seen
afterwards is of this command, and the result can be told from the status that was seen last.
-/

/-- A valid command is not sent at all, or it is sent under the next serial and waited for. -/
theorem dispatchWith_eq_some {command : Command} {policy : WaitPolicy} {r : Except PanelError Int32}
    (hvalid : command.fault? = none) (h : c.dispatchWith command policy w = some (r, c', w')) :
    c.link.canSend w = false ∧ r = .error (.connection "command channel is not valid") ∧
        c' = { c with serial := c.serial + 1 } ∧ w' = w ∨
      c.link.canSend w = true ∧ ∃ waited,
        waitBy { c with serial := c.serial + 1 } policy (c.serial + 1)
            { w with simulator := w.simulator.receive { serial := c.serial + 1, command } }
          = some (waited, c', w') ∧ r = waited.map fun _ => c.serial + 1 := by
  simp only [dispatchWith, hvalid, send_simulated] at h
  cases hcan : c.link.canSend w with
  | false => -- the channel is invalid: the serial is spent, and nothing else has happened
      rw [if_neg (by rw [hcan]; decide)] at h
      cases h
      exact .inl ⟨rfl, rfl, rfl, rfl⟩
  | true =>
      rw [if_pos hcan] at h
      dsimp only at h
      split at h  -- the message is there; what is left is what the wait comes to
      · cases h
      · next hwait =>
          cases h
          exact .inr ⟨rfl, _, hwait, rfl⟩
      · next hwait =>
          cases h
          exact .inr ⟨rfl, _, hwait, rfl⟩

/-- **No false acknowledgement.** When a command is dispatched under a serial that neither the
status seen last nor the controller echoes, the result says what the status says that was seen
last, whatever the controller does meanwhile: a command that is reported as received or done was
received and is echoed, by the controller too, and one that is reported as failed or late is in
the state that the error names. Without a wait nothing is looked at. -/
theorem no_false_acknowledgement {command : Command} {policy : WaitPolicy}
    {r : Except PanelError Int32} (hvalid : command.fault? = none)
    (hseen : c.status.echo ≠ c.serial + 1) (hcontroller : w.simulator.status.echo ≠ c.serial + 1)
    (hdispatch : c.dispatchWith command policy w = some (r, c', w')) :
    let n := c.serial + 1
    c'.serial = n ∧
    (policy = .none → c' = { c with serial := n } ∧
      w' = if c.link.canSend w then
        { w with simulator := w.simulator.receive { serial := n, command } } else w) ∧
    (∀ m, r = .ok m → m = n ∧
      w'.simulator.received = w.simulator.received ++ [{ serial := n, command }] ∧
      (policy ≠ .none → c'.status.echo = n ∧ w'.simulator.status.echo = n) ∧
      (policy = .done → c'.status.state = .done)) ∧
    (∀ m, r = .error (.remote m) → m = n ∧ policy = .done ∧ c'.status.echo = n ∧
      c'.status.state = .error) ∧
    (∀ m stage t, r = .error (.timeout m stage t) → m = n ∧
      (stage = "received" ∧ policy ≠ .none ∧ c'.status.echo ≠ n ∨
        stage = "done" ∧ policy = .done ∧ c'.status.echo = n ∧ c'.status.state ≠ .done ∧
          c'.status.state ≠ .error)) ∧
    (w.simulator.ack = .ignore → policy ≠ .none → ∀ m, r ≠ .ok m) := by
  intro n
  obtain ⟨hcan, rfl, rfl, rfl⟩ | ⟨hcan, waited, hwait, rfl⟩ := dispatchWith_eq_some hvalid hdispatch
  · -- nothing was sent, and the error is neither of the two
    refine ⟨rfl, fun _ => ⟨rfl, ?_⟩, nofun, nofun, nofun, fun _ _ => nofun⟩
    rw [if_neg (by rw [hcan]; decide)]
  · have hended := Client.waited (c := { c with serial := n }) hseen hwait
    have hwaits := waitBy_waits hwait
    have hserial : c'.serial = n := hwaits.keeps.serial
    have hreceived : w'.simulator.received
        = w.simulator.received ++ [{ serial := n, command }] := hwaits.quiet.simulator.received
    have hechoed : c'.status.echo = n →
        w'.simulator.status.echo = n ∧ w.simulator.ack ≠ .ignore :=
      hwaits.echoed hseen hcontroller
    have hunwatched : policy = .none → c' = { c with serial := n } ∧
        w' = if c.link.canSend w then
          { w with simulator := w.simulator.receive { serial := n, command } } else w := by
      intro hpolicy
      subst hpolicy
      cases hwait
      rw [if_pos hcan]
      exact ⟨rfl, rfl⟩
    -- a result is read off the way in which the wait has ended
    cases waited with
    | ok _ =>
        obtain ⟨hecho, hdone⟩ := hended.of_ok
        refine ⟨hserial, hunwatched, ?_, nofun, nofun, ?_⟩
        · intro m hm
          cases hm
          exact ⟨rfl, hreceived, fun hpolicy => ⟨hecho hpolicy, (hechoed (hecho hpolicy)).1⟩, hdone⟩
        · intro hignore hpolicy
          exact absurd hignore (hechoed (hecho hpolicy)).2
    | error e =>
        refine ⟨hserial, hunwatched, nofun, ?_, ?_, fun _ _ => nofun⟩
        · intro m hm
          cases hm
          exact hended.of_remote
        · intro m stage t hm
          cases hm
          exact hended.of_timeout

end

/-- A client with open channels, whose waits last up to a second. -/
def attached (serial : Int32) : Client Simulated.transport where
  link :=
    { retry := { total := .ofParts 1 0, interval := .ofParts 1 0 }
      silences := false
      command := some ()
      status := some 0
      notices := some ()
      state := .connected }
  wait := { policy := .done, limit := some (.ofParts 1 0), interval := .ofParts 0 1000000 }
  serial

/-- A controller that is done with a command at the third look only. -/
theorem no_false_acknowledgement_late :
    let busy : World :=
      { World.echoing 7 with
        simulator := { (World.echoing 7).simulator with ack := .completeAfter 2 } }
    ∃ c' w', (attached 7).dispatchWith .taskAbort .done busy = some (.ok 8, c', w') ∧
      w'.simulator.received = [{ serial := 8, command := .taskAbort }] ∧
      c'.status.echo = 8 ∧ w'.simulator.status.echo = 8 ∧ c'.status.state = .done := by
  intro busy
  -- that it ends, and with which result, is computed; all the rest follows from the theorem
  have hends : ((attached 7).dispatchWith .taskAbort .done busy).any
      (fun (r, _) => r.toOption = some 8) := by
    decide +kernel
  rcases hdispatch : (attached 7).dispatchWith .taskAbort .done busy with _ | ⟨r, c', w'⟩
  · rw [hdispatch] at hends
    cases hends
  · rw [hdispatch] at hends
    cases r with
    | error e => cases hends
    | ok n =>
        obtain ⟨_, _, hok, _⟩ := no_false_acknowledgement (c := attached 7) (w := busy) rfl
          (by decide) (by decide) hdispatch
        obtain ⟨rfl, hreceived, hecho, hdone⟩ := hok n rfl
        obtain ⟨hclient, hcontroller⟩ := hecho (by decide)
        exact ⟨c', w', rfl, hreceived, hclient, hcontroller, hdone rfl⟩

end Client
end OperatorPanel
