import OperatorPanel.Proofs.Cycle

/-!
# Connecting and starting

A startup that succeeds leaves every channel open, has taken its baseline from the status that
the controller showed, and has sent nothing.

Connecting goes through the three channels as often as the budget allows. What holds through all
of it is said once, for opening one channel (`Simulator.Reached`, `Link.Unseen`), and carried over
the repetitions by `Link.attempt_tried`.
-/

namespace OperatorPanel

/-! ### Opening channels

All three channels are opened alike: there is one already, or the controller is asked for one. The
link that comes of a success is therefore known beforehand, and what fails leaves the link as it
was.
-/

/-- Between the two, somebody has tried to open channels, and nothing else has happened. -/
def Simulator.Reached (c c' : Simulator) : Prop :=
  c' = { c with failingOpens := c'.failingOpens, openAttempts := c'.openAttempts }

namespace Simulator.Reached

theorem refl (c : Simulator) : c.Reached c := rfl

theorem trans {c c₁ c' : Simulator} (h : c.Reached c₁) (h' : c₁.Reached c') : c.Reached c' := by
  unfold Reached at h h' ⊢
  rw [h', h]

theorem received {c c' : Simulator} (h : c.Reached c') : c'.received = c.received := by
  rw [h]

theorem commandValid {c c' : Simulator} (h : c.Reached c') :
    c'.commandValid = c.commandValid := by
  rw [h]

theorem echo {c c' : Simulator} (h : c.Reached c') : c'.status.echo = c.status.echo := by
  rw [h]

theorem version {c c' : Simulator} (h : c.Reached c') : c'.advance.version = c.advance.version := by
  rw [h]
  unfold advance
  dsimp only
  split <;> rfl

theorem openChannel (c : Simulator) : c.Reached c.openChannel.2 := by
  unfold Simulator.openChannel
  dsimp only
  split <;> rfl

end Simulator.Reached

namespace Link

/-- The status was not looked at yet since its channel was opened. -/
def Unseen (l : Link Simulated.transport) : Prop := ∀ seen, l.status = some seen → seen = 0

/-- Every channel is open. -/
structure Open {T : Transport} (l : Link T) : Prop where
  command : l.command.isSome = true
  status : l.status.isSome = true
  notices : l.notices.isSome = true

/-- No channel is open. -/
structure Empty {T : Transport} (l : Link T) : Prop where
  command : l.command = none
  status : l.status = none
  notices : l.notices = none

theorem Empty.not_open {T : Transport} {l : Link T} (h : l.Empty) : ¬l.Open := by
  intro hopen
  have hcommand := hopen.command
  rw [h.command] at hcommand
  cases hcommand

theorem Empty.canSend {l : Link Simulated.transport} (h : l.Empty) (w : World) :
    l.canSend w = false := by
  rw [Link.canSend, h.command]
  rfl

/-- Channels may have been opened, and a new status channel has nothing seen yet. -/
structure Grows (l l' : Link Simulated.transport) : Prop where
  state : l'.state = l.state
  status : l'.status = l.status ∨ l'.status = some 0

namespace Grows

theorem refl (l : Link Simulated.transport) : Grows l l := ⟨rfl, .inl rfl⟩

theorem trans {l l₁ l' : Link Simulated.transport} (h : Grows l l₁) (h' : Grows l₁ l') :
    Grows l l' where
  state := h'.state.trans h.state
  status := by
    rcases h'.status with hstatus | hstatus
    · rw [hstatus]
      exact h.status
    · exact .inr hstatus

theorem unseen {l l' : Link Simulated.transport} (h : Grows l l') (hl : l.Unseen) :
    l'.Unseen := by
  intro seen hseen
  rcases h.status with hstatus | hstatus
  · rw [hstatus] at hseen
    exact hl seen hseen
  · rw [hstatus] at hseen
    cases hseen
    rfl

end Grows

/-- Whichever end is asked for, the controller counts an attempt. -/
theorem reached_openEnd {α : Type} (kind : ChannelKind) (end_ : α) (w : World) :
    w.simulator.Reached (Simulated.openEnd kind end_ w).2.simulator := by
  have hreached := Simulator.Reached.openChannel w.simulator
  unfold Simulated.openEnd
  dsimp only
  split <;> exact hreached

theorem openEnd_eq_ok {α : Type} {kind : ChannelKind} {end_ found : α} {w w' : World}
    (h : Simulated.openEnd kind end_ w = (.ok found, w')) : found = end_ := by
  unfold Simulated.openEnd at h
  dsimp only at h
  split at h
  · cases h
    rfl
  · cases h

/-- Opening one channel is a try to reach the controller; success gives the link `opened`. -/
def Opens (w : World) (opened : Link Simulated.transport)
    (r : Except PanelError (Link Simulated.transport)) (w' : World) : Prop :=
  w.simulator.Reached w'.simulator ∧ ∀ l', r = .ok l' → l' = opened

theorem openCommand_opens (l : Link Simulated.transport) (w : World) :
    Opens w { l with command := some () } (l.openCommand w).1 (l.openCommand w).2 := by
  have hreached : w.simulator.Reached (Simulated.transport.openCommand w).2.simulator :=
    reached_openEnd ..
  unfold openCommand
  split
  · next hopen =>
      refine ⟨.refl _, fun l' hl' => ?_⟩
      cases hl'
      rw [← hopen]
  · split <;> next hopen =>
      rw [hopen] at hreached
      refine ⟨hreached, fun l' hl' => ?_⟩
      cases hl'
      try rfl

theorem openStatus_opens (l : Link Simulated.transport) (w : World) :
    Opens w { l with status := some (l.status.getD 0) } (l.openStatus w).1 (l.openStatus w).2 := by
  have hreached : w.simulator.Reached (Simulated.transport.openStatus w).2.simulator :=
    reached_openEnd ..
  unfold openStatus
  split  -- the channel is open already, or it is opened now at the version zero
  · next hopen =>
      refine ⟨.refl _, fun l' hl' => ?_⟩
      cases hl'
      rw [hopen, Option.getD_some, ← hopen]
  · next hclosed =>
      split <;> next hopen =>
        rw [hopen] at hreached
        refine ⟨hreached, fun l' hl' => ?_⟩
        cases hl'
        try rw [openEnd_eq_ok hopen, hclosed, Option.getD_none]

theorem openNotices_opens (l : Link Simulated.transport) (w : World) :
    Opens w { l with notices := some () } (l.openNotices w).1 (l.openNotices w).2 := by
  have hreached : w.simulator.Reached (Simulated.transport.openNotices w).2.simulator :=
    reached_openEnd ..
  unfold openNotices
  split
  · next hopen =>
      refine ⟨.refl _, fun l' hl' => ?_⟩
      cases hl'
      rw [← hopen]
  · split <;> next hopen =>
      rw [hopen] at hreached
      refine ⟨hreached, fun l' hl' => ?_⟩
      cases hl'
      try rfl

/-! ### Connecting

Tries are put behind each other, with pauses between them. What is kept is only what all of them
keep; that the channels are open in the end is owed to the last one alone.
-/

/-- What became of a link after some tries: every try was to open channels, and success means that
all of them are open. -/
structure Tried (l : Link Simulated.transport) (w : World) (e? : Option PanelError)
    (l' : Link Simulated.transport) (w' : World) : Prop where
  reached : w.simulator.Reached w'.simulator
  grows : l.Grows l'
  isOpen : e? = none → l'.Open

theorem openMissing_tried (l : Link Simulated.transport) (w : World) :
    l.Tried w (l.openMissing w).1 (l.openMissing w).2.1 (l.openMissing w).2.2 := by
  have grows_status (l : Link Simulated.transport) :
      l.Grows { l with status := some (l.status.getD 0) } := by
    refine ⟨rfl, ?_⟩
    cases hstatus : l.status with
    | none => exact .inr rfl
    | some seen => exact .inl rfl
  -- where a channel does not open, those before it stay open
  have hcommand := l.openCommand_opens w
  unfold openMissing
  -- the three channels in their order; the first one that does not open ends the try
  rcases hopen : l.openCommand w with ⟨_ | l₁, w₁⟩
  · rw [hopen] at hcommand
    exact ⟨hcommand.1, .refl l, fun h => by cases h⟩
  · rw [hopen] at hcommand
    cases hcommand.2 _ rfl
    have hstatus := openStatus_opens { l with command := some () } w₁
    dsimp only
    rcases hopen : openStatus { l with command := some () } w₁ with ⟨_ | l₂, w₂⟩
    · rw [hopen] at hstatus
      exact ⟨hcommand.1.trans hstatus.1, ⟨rfl, .inl rfl⟩, fun h => by cases h⟩
    · rw [hopen] at hstatus
      cases hstatus.2 _ rfl
      have hgrows := grows_status { l with command := some () }
      have hnotices := openNotices_opens
        { l with command := some (), status := some (l.status.getD 0) } w₂
      dsimp only
      rcases hopen : openNotices
        { l with command := some (), status := some (l.status.getD 0) } w₂ with ⟨_ | l₃, w₃⟩
      · rw [hopen] at hnotices
        exact ⟨hcommand.1.trans (hstatus.1.trans hnotices.1), ⟨rfl, hgrows.status⟩,
          fun h => by cases h⟩
      · rw [hopen] at hnotices
        cases hnotices.2 _ rfl
        exact ⟨hcommand.1.trans (hstatus.1.trans hnotices.1), ⟨rfl, hgrows.status⟩,
          fun _ => ⟨rfl, rfl, rfl⟩⟩

theorem Tried.trans {l l₁ l' : Link Simulated.transport} {w w₁ w' : World}
    {e₁? e? : Option PanelError} (h : l.Tried w e₁? l₁ w₁) (h' : l₁.Tried w₁ e? l' w') :
    l.Tried w e? l' w' where
  reached := h.reached.trans h'.reached
  grows := h.grows.trans h'.grows
  isOpen := h'.isOpen

/-- However often it is tried: the induction is on the attempts that the policy allows. -/
theorem attempt_tried (l : Link Simulated.transport) (retry : RetryPolicy) (w : World)
    (attempts : UInt32) (waited : Span) :
    l.Tried w (l.attempt retry w attempts waited).1 (l.attempt retry w attempts waited).2.2.1
      (l.attempt retry w attempts waited).2.2.2 := by
  fun_induction attempt l retry w attempts waited with
  | case1 l w attempts waited l₁ w₁ hopen =>
      have hfirst := l.openMissing_tried w
      rw [hopen] at hfirst
      exact hfirst
  | case2 l w attempts waited e l₁ w₁ hopen hallows _ ih =>
      have hfirst := l.openMissing_tried w
      rw [hopen] at hfirst
      -- between two tries there is only a pause
      have hslept : l.Tried w (some e) l₁ (w₁.sleep retry.interval) :=
        ⟨hfirst.reached, hfirst.grows, fun h => by cases h⟩
      exact hslept.trans ih
  | case3 l w attempts waited e l₁ w₁ hopen hspent =>
      have hfirst := l.openMissing_tried w
      rw [hopen] at hfirst
      exact hfirst

/-- **A link that was connected is open**, and connecting has only opened channels. -/
theorem connect_eq_ok {l l' : Link Simulated.transport} {w w' : World}
    (h : l.connect w = (.ok (), l', w')) :
    w.simulator.Reached w'.simulator ∧ (l.Unseen → l'.Unseen) ∧ l'.state = .connected ∧
      (l.state ≠ .connected → l'.Open) := by
  unfold connect at h
  split at h
  · next hconnected =>
      cases h
      have hstate : l.state = .connected := by simpa [isConnected] using hconnected
      exact ⟨.refl _, fun h => h, hstate, fun h => absurd hstate h⟩
  · -- silencing the diagnostics does not reach the controller
    have hsilenced : (if l.silences then w.silence else w).simulator = w.simulator := by
      split <;> rfl
    have htried := attempt_tried { l with state := .connecting } l.retry
      (if l.silences then w.silence else w) 0 .zero
    dsimp only at h
    rcases hattempt : attempt { l with state := .connecting } l.retry
      (if l.silences then w.silence else w) 0 .zero with ⟨_ | e, attempts, l₁, w₁⟩
    · rw [hattempt] at h htried
      cases h
      refine ⟨?_, htried.grows.unseen, rfl, fun _ => ?_⟩
      · have hreached := htried.reached
        rw [hsilenced] at hreached
        split <;> exact hreached
      · exact ⟨(htried.isOpen rfl).command, (htried.isOpen rfl).status,
          (htried.isOpen rfl).notices⟩
    · rw [hattempt] at h
      cases h

end Link

/-! ### The baseline

A startup takes the serial that is echoed from its first look. Through a channel that was opened
just now any status is new to the client, the one with version zero apart.
-/

/-- The first look at a status through a channel that was just opened finds the serial that the
controller echoes now. Versions count modulo 2 to the 64th, and at zero the look finds nothing. -/
theorem Simulator.echo_peek {c : Simulator} {s : Status} {seen : UInt64} {c' : Simulator}
    (h : c.peek 0 = (.status s, seen, c')) :
    c.advance.version ≠ 0 ∧ s.echo = c.status.echo := by
  have hadvance := (Simulator.sameButLooks_advance c).echo
  unfold peek at h
  split at h
  · cases h
  · split at h
    · cases h
    · dsimp only at h
      split at h
      · cases h
      · next hversion =>
          cases h
          exact ⟨hversion, hadvance⟩

theorem Simulator.version_of_noData {c c' : Simulator} {seen : UInt64}
    (h : c.peek 0 = (.noData, seen, c')) : c.advance.version = 0 := by
  unfold peek at h
  split at h
  · cases h
  · split at h
    · cases h
    · dsimp only at h
      split at h
      · assumption
      · cases h

namespace Client

/-- A client connects through its link, and keeps all else. -/
theorem connect_eq_ok {c c' : Client Simulated.transport} {w w' : World}
    (h : c.connect w = (.ok (), c', w')) :
    ∃ link, c.link.connect w = (.ok (), link, w') ∧ c' = { c with link } := by
  unfold connect at h
  rcases hlink : c.link.connect w with ⟨r, link, w₁⟩
  rw [hlink] at h
  cases h
  exact ⟨link, rfl, rfl⟩

/-- A first look that succeeds shows what the controller echoes, or, at version zero, leaves what
was seen before. -/
theorem echo_refresh {c c' : Client Simulated.transport} {w w' : World} {f : Freshness}
    (h : c.refresh w = (.ok f, c', w')) (hunseen : c.link.Unseen) :
    c'.status.echo
      = if w.simulator.advance.version = 0 then c.status.echo else w.simulator.status.echo := by
  -- a look through a closed channel is a fault, so the startup would have failed
  rcases hopen : c.link.status with _ | seen
  · have hpeek : c.link.peek w = (.fault "status channel closed", c.link, w) := by
      rw [Link.peek, hopen]
    rw [refresh, Watch.refresh, hpeek] at h
    cases h
  · rw [hunseen seen hopen] at hopen
    rcases hlook : w.simulator.peek 0 with ⟨found, seen', simulator⟩
    have hpeek : c.link.peek w
        = (found, { c.link with status := some seen' }, { w with simulator }) := by
      rw [Link.peek, hopen]
      dsimp only [Simulated.peek]
      rw [hlook]
    rw [refresh, Watch.refresh, hpeek] at h
    cases found with
    | status s =>
        cases h
        obtain ⟨hversion, hecho⟩ := Simulator.echo_peek hlook
        rw [if_neg hversion]
        exact hecho
    | noData =>
        cases h
        rw [if_pos (Simulator.version_of_noData hlook)]
        rfl
    | fault reason => cases h
    | other type => cases h

end Client

namespace Panel

/-- What a startup that succeeds leaves behind. -/
structure Started (p : Panel Simulated.transport) (w : World) (b : Int32)
    (p' : Panel Simulated.transport) (w' : World) : Prop where
  baseline : p'.baseline = some b
  serial : p'.client.serial = b
  /-- The baseline is the serial that the controller echoed; at version zero there is nothing to
  see, and it is the one that was seen before. -/
  echo : p.client.link.Unseen →
    b = if w.simulator.advance.version = 0 then p.client.status.echo
      else w.simulator.status.echo
  /-- Nothing was sent. -/
  received : w'.simulator.received = w.simulator.received
  commandValid : w'.simulator.commandValid = w.simulator.commandValid
  connected : p'.client.link.state = .connected
  isOpen : p.client.link.state ≠ .connected → p'.client.link.Open
  wait : p'.client.wait = p.client.wait
  console : p'.console = p.console
  running : p'.running = true
  ended : p'.ended = p.ended

/-- To take the baseline, what is shown must be published and the status must be seen. -/
theorem captureBaseline_eq_ok {p p' : Panel Simulated.transport} {w w' : World}
    (h : p.captureBaseline w = (.ok (), p', w')) :
    ∃ (w₁ w₂ : World) (f : Freshness) (bus : PinBus) (client : Client Simulated.transport),
      w₁.simulator = w.simulator ∧ p.client.refresh w₁ = (.ok f, client, w₂) ∧
      w'.simulator = w₂.simulator ∧
      p' = { p with
        bus
        client := { client with serial := client.status.echo }
        baseline := some client.status.echo } := by
  have hpublish := p.bus.simulator_publish (.inactive p.console.setup.axisCount) w
  unfold captureBaseline at h
  split at h
  · cases h
  · next bus w₁ hpub =>
      rw [hpub] at hpublish
      split at h
      · cases h
      · next f client w₂ hlook =>
          cases h
          exact ⟨w₁, w₂, f, bus, client, hpublish, hlook, rfl, rfl⟩

/-- **A startup that succeeds has its baseline from the controller, and has sent nothing.** -/
theorem started {p p' : Panel Simulated.transport} {w w' : World}
    (h : p.startup w = (.ok (), p', w')) : ∃ b, p.Started w b p' w' := by
  unfold startup at h
  dsimp only at h
  split at h
  · cases h
  · next c₁ w₁ hconnect =>
      obtain ⟨link, hlink, rfl⟩ := Client.connect_eq_ok hconnect
      obtain ⟨hreached, hunseen, hstate, hopen⟩ := Link.connect_eq_ok hlink
      rw [World.simulator_note] at hreached
      split at h
      · next hbaseline =>
          cases h
          obtain ⟨w₂, w₃, f, bus, client, hw₂, hlook, hw', rfl⟩ := captureBaseline_eq_ok hbaseline
          have hkeeps := Client.keeps_refresh { p.client with link } w₂
          have hsteady := Client.steady_refresh { p.client with link } w₂
          have hquiet := Client.quiet_refresh { p.client with link } w₂
          rw [hlook] at hkeeps hsteady hquiet
          -- the look is what the serial comes from; connecting and publishing have left the echo as
          -- it was
          refine ⟨client.status.echo, rfl, rfl, ?_, ?_, ?_, ?_, ?_, hkeeps.wait, rfl, rfl, rfl⟩
          · intro hp
            have hecho := Client.echo_refresh hlook (hunseen hp)
            rw [hw₂, hreached.version, hreached.echo] at hecho
            exact hecho
          · rw [hw', hquiet.simulator.received, hw₂, hreached.received]
          · rw [hw', hquiet.simulator.commandValid, hw₂, hreached.commandValid]
          · exact hsteady.state.trans hstate
          · intro hp
            exact ⟨hsteady.command.trans (hopen hp).command,
              hsteady.status.trans (hopen hp).status, hsteady.notices.trans (hopen hp).notices⟩
      · cases h

section Invariant

variable {P : Client Simulated.transport → World → Prop}
  (connect : ∀ c w, P c w → P (c.connect w).2.1 (c.connect w).2.2)
  (refresh : ∀ c w, P c w → P (c.refresh w).2.1 (c.refresh w).2.2)
  (close : ∀ c w, P c w → P (c.close w).1 (c.close w).2)
  (aside : ∀ c w, P c w → ∀ c' w', c'.link = c.link → c'.watch = c.watch → c'.wait = c.wait →
    w'.simulator = w.simulator → P c' w')
  {p : Panel Simulated.transport} {w : World}

include refresh aside in
/-- What looks keep, and what happens away from link, watch and controller. -/
theorem captureBaseline_invariant (hP : P p.client w) :
    P (p.captureBaseline w).2.1.client (p.captureBaseline w).2.2 := by
  have hpublish := p.bus.simulator_publish (.inactive p.console.setup.axisCount) w
  unfold captureBaseline
  rcases hpub : p.bus.publish (.inactive p.console.setup.axisCount) w with ⟨_ | _, bus, w₁⟩
  · rw [hpub] at hpublish
    exact aside _ _ hP _ _ rfl rfl rfl hpublish
  · rw [hpub] at hpublish
    have hlooked := refresh _ _ (aside _ _ hP p.client w₁ rfl rfl rfl hpublish)
    dsimp only
    split <;> next hlook =>
      rw [hlook] at hlooked
      exact aside _ _ hlooked _ _ rfl rfl rfl rfl

include connect refresh close aside in
/-- **What connecting, looking and closing keep, every startup keeps**, whatever comes of it. -/
theorem startup_invariant (hP : P p.client w) :
    P (p.startup w).2.1.client (p.startup w).2.2 := by
  unfold startup
  dsimp only
  have hconnect := connect _ _ (aside _ _ hP p.client (w.note .info .lifecycle "starting bridge"
    [("transport", Simulated.transport.name),
      ("axes", Text.decimal p.console.setup.axisCount)]) rfl rfl rfl rfl)
  split  -- the connect has failed, or the baseline is taken next
  · next hconnected =>
      rw [hconnected] at hconnect
      exact hconnect
  · next client connected hconnected =>
      rw [hconnected] at hconnect
      have hcaptured : P (captureBaseline { p with client } connected).2.1.client
          (captureBaseline { p with client } connected).2.2 :=
        captureBaseline_invariant refresh aside hconnect
      split
      · next hbaseline =>
          rw [hbaseline] at hcaptured
          exact hcaptured
      · -- where the baseline cannot be taken the link is closed again
        next hbaseline =>
          rw [hbaseline] at hcaptured
          exact close _ _ (aside _ _ hcaptured _ _ rfl rfl rfl rfl)

end Invariant

theorem console_captureBaseline (p : Panel Simulated.transport) (w : World) :
    (p.captureBaseline w).2.1.console = p.console := by
  unfold captureBaseline
  split
  · rfl
  · split <;> rfl

/-- Whatever comes of a startup, no pin is scanned. -/
theorem console_startup (p : Panel Simulated.transport) (w : World) :
    (p.startup w).2.1.console = p.console := by
  unfold startup
  dsimp only
  split
  · rfl
  · next client w₁ _ =>
      have hconsole := console_captureBaseline { p with client } w₁
      split <;> next hbaseline => rw [hbaseline] at hconsole; exact hconsole

end Panel

/-! ### New panels

What is used of a new panel: that its settings passed every check, that it is not connected, and
that it remembers no sample.
-/

/-- Lines that are all short enough are kept as they are. -/
theorem text_of_mapM {limit : Nat} {texts : List String} {lines : List (BoundedText limit)}
    (h : texts.mapM (BoundedText.ofString? limit) = some lines) :
    lines.map (·.text) = texts := by
  -- by induction on the texts; each one fits, or there are no lines at all
  induction texts generalizing lines with
  | nil =>
      cases h
      rfl
  | cons text texts ih =>
      rw [List.mapM_cons] at h
      obtain ⟨line, hline, h⟩ := Option.bind_eq_some_iff.1 h
      obtain ⟨rest, hrest, h⟩ := Option.bind_eq_some_iff.1 h
      cases h
      unfold BoundedText.ofString? at hline
      split at hline
      · cases hline
        exact congrArg _ (ih hrest)
      · cases hline

/-- A setup has the axes, the lines and the least change of its settings. -/
theorem Setup.ofSettings_eq_ok {settings : Settings} {setup : Setup}
    (h : Setup.ofSettings settings = .ok setup) :
    setup.axisCount = settings.polarities.length ∧
      setup.lines.map (·.text) = settings.lines ∧
      setup.overrideEpsilon = settings.overrideEpsilon := by
  unfold ofSettings at h
  split at h
  · next lines hlines =>
      cases h
      exact ⟨rfl, text_of_mapM hlines, rfl⟩
  · cases h

theorem Setup.registered_ofSettings {settings : Settings} {setup : Setup}
    (h : Setup.ofSettings settings = .ok setup) :
    setup.registered
      = InputPin.registered settings.polarities.length settings.lines.length := by
  obtain ⟨haxes, hlines, _⟩ := Setup.ofSettings_eq_ok h
  rw [registered, haxes, ← hlines, List.length_map]

/-- How a panel is made. -/
structure Panel.New (settings : Settings) (p : Panel Simulated.transport) : Prop where
  valid : settings.fault? = none
  link : p.client.link.state = .disconnected ∧ p.client.link.status = none
  interval : p.client.wait.interval = settings.pollInterval
  previous : p.console.previous = .empty
  ended : p.ended = false

/-- **A panel is made of its settings**, which pass every check, and a bus. -/
theorem Panel.create_eq_ok {settings : Settings} {bus : PinBus} {p : Panel Simulated.transport}
    (h : Panel.create Simulated.transport settings bus = .ok p) :
    settings.fault? = none ∧ ∃ setup, Setup.ofSettings settings = .ok setup ∧
      p = { client :=
              { link :=
                  { retry := { total := settings.retryTotal, interval := settings.retryPause }
                    silences := !settings.showsChannels }
                wait :=
                  { policy := settings.waitPolicy
                    limit := settings.waitLimit
                    interval := settings.pollInterval } }
            console := { setup }
            bus
            cycleTime := settings.cycleTime } := by
  unfold create at h
  split at h  -- settings that cannot be used are refused first
  · cases h
  · next hvalid =>
      split at h
      · cases h
      · next setup hsetup => exact ⟨hvalid, setup, hsetup, (Except.ok.inj h).symm⟩

/-- A new panel has not looked at anything yet. -/
theorem Panel.new_of_create {settings : Settings} {bus : PinBus} {p : Panel Simulated.transport}
    (h : Panel.create Simulated.transport settings bus = .ok p) : New settings p := by
  obtain ⟨hvalid, setup, _, rfl⟩ := create_eq_ok h
  exact ⟨hvalid, ⟨rfl, rfl⟩, rfl, rfl, rfl⟩

theorem Panel.setup_of_create {settings : Settings} {bus : PinBus} {p : Panel Simulated.transport}
    (h : Panel.create Simulated.transport settings bus = .ok p) :
    p.console.setup.axisCount = settings.polarities.length ∧
      p.console.setup.lines.map (·.text) = settings.lines ∧
      p.console.setup.overrideEpsilon = settings.overrideEpsilon := by
  obtain ⟨_, setup, hsetup, rfl⟩ := create_eq_ok h
  exact Setup.ofSettings_eq_ok hsetup

/-! ### A startup to begin with

The witnesses of the statements about sessions begin here, with a controller at which nothing is
going on.
-/

/-- A controller at rest that echoes a serial, and no panel in any other process. -/
def World.echoing (serial : Int32) : World where
  simulator := { status := { Status.atRest 3 with echo := serial } }
  directory := { root := "", self := 1, alive := fun _ => false }

/-- A panel that there is was made. -/
theorem Panel.create_of_toOption {settings : Settings} {bus : PinBus}
    {p : Panel Simulated.transport}
    (h : (Panel.create Simulated.transport settings bus).toOption = some p) :
    Panel.create Simulated.transport settings bus = .ok p := by
  cases hcreate : Panel.create Simulated.transport settings bus with
  | error e =>
      rw [hcreate] at h
      cases h
  | ok q =>
      rw [hcreate] at h
      exact congrArg Except.ok (Option.some.inj h)

/-- With the default settings and a bus in memory, a panel starts. -/
theorem Panel.default_starts :
    ∃ p p₁ w₁, Panel.create Simulated.transport {} { carrier := .memory {} } = .ok p ∧
      p.client.link.status = none ∧ p.startup (.echoing 7) = (.ok (), p₁, w₁) := by
  have hstarts : (Panel.create Simulated.transport {} { carrier := .memory {} }).toOption.any
      (fun p => p.client.link.status.isNone && (p.startup (.echoing 7)).1.isOk) = true := by
    decide +kernel
  rcases hcreate : Panel.create Simulated.transport {} { carrier := .memory {} } with _ | p
  · rw [hcreate] at hstarts
    cases hstarts
  · rw [hcreate] at hstarts
    obtain ⟨hclosed, hok⟩ := Bool.and_eq_true_iff.1 hstarts
    rcases hstart : p.startup (.echoing 7) with ⟨_ | _, p₁, w₁⟩
    · rw [hstart] at hok
      cases hok
    · exact ⟨p, p₁, w₁, rfl, Option.isNone_iff_eq_none.1 hclosed, hstart⟩

end OperatorPanel
