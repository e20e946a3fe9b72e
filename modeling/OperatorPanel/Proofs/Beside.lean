import OperatorPanel.Proofs.Agreement
import OperatorPanel.Proofs.Surroundings

/-!
# Beside each other

Two worlds are beside each other (`World.Beside`) when they differ in their surroundings alone:
in the notices that were not taken yet, in the files, and in the journal. A panel tells them apart
only by what its bus carries out of the files. So two panels with the same samples on the registered
pins, whose buses take the same, stay beside each other (`Panel.Beside.cycle`, `startup`,
`shutdown`), and all that is different in what their cycles report is the count of the notices.

What becomes of the notices is said in a closed form (`CycleState.passNotices_eq`).
-/

namespace OperatorPanel

/-! ### Worlds beside each other

The controller, the clock and the switch for diagnostics are the same in worlds beside each other;
the surroundings may be any. A proof about two such worlds names the one world and puts it amid the
surroundings of the other.
-/

/-- Two worlds that differ in their surroundings alone. -/
def World.Beside (w w' : World) : Prop := w' = w.amid w'.surroundings

namespace World.Beside

variable {w w₁ w' : World}

theorem refl (w : World) : w.Beside w := rfl

theorem symm (h : w.Beside w') : w'.Beside w := by
  unfold Beside at h ⊢
  rw [h]
  rfl

theorem trans (h : w.Beside w₁) (h' : w₁.Beside w') : w.Beside w' := by
  unfold Beside at h h' ⊢
  rw [h', h]
  rfl

theorem eq_amid (h : w.Beside w') : ∃ x, w' = w.amid x := ⟨_, h⟩

theorem note (w : World) (level : LogLevel) (source : Source) (message : String)
    (fields : List (String × String)) : w.Beside (w.note level source message fields) := rfl

theorem files (w : World) (directory : Directory) : w.Beside { w with directory } := rfl

/-- Looking at the clock. -/
theorem time (h : w.Beside w') : w'.time.1 = w.time.1 ∧ w.time.2.Beside w'.time.2 := by
  obtain ⟨x, rfl⟩ := h.eq_amid
  exact ⟨rfl, rfl⟩

/-- What every wait and every look keeps. -/
theorem around {α β : Type} (x : Surroundings) (r : α × β × World) :
    r.2.2.Beside (x.around r).2.2 := rfl

end World.Beside

/-! ### Lines about notices

A journal has lines of many kinds, and only some of them tell of a notice. They are told apart by
their source and the beginning of their text, which no other line of a bridge shares.
-/

/-- Whether a line of the journal tells of a notice. -/
def Record.tells (r : Record) : Bool :=
  r.source = .bridge && "controller: ".toList.isPrefixOf r.message.toList

/-- The line about a notice that is passed on. -/
def Notice.record (notice : Notice) (silenced : Bool) : Record where
  level := .warn
  source := .bridge
  message := "controller: " ++ notice.text.text
  fields := [("kind", notice.kind.label)]
  silenced := silenced

@[simp] theorem Notice.tells_record (notice : Notice) (silenced : Bool) :
    (notice.record silenced).tells = true := by
  simp [Record.tells, Notice.record]

namespace World

/-- The lines of the journal that tell of notices. -/
def told (w : World) : List Record := w.journal.filter (·.tells)

/-- No notice was taken, and none was told of. -/
structure Untold (w w' : World) : Prop where
  notices : w'.simulator.notices = w.simulator.notices
  told : w'.told = w.told

namespace Untold

variable {w w₁ w' : World}

theorem refl (w : World) : w.Untold w := ⟨rfl, rfl⟩

theorem trans (h : w.Untold w₁) (h' : w₁.Untold w') : w.Untold w' :=
  ⟨h'.notices.trans h.notices, h'.told.trans h.told⟩

theorem ofSurroundings (h : w'.surroundings = w.surroundings) : w.Untold w' where
  notices := congrArg Surroundings.notices h
  told := congrArg (List.filter Record.tells) (congrArg Surroundings.journal h)

/-- A line that does not tell of a notice. -/
theorem line {level : LogLevel} {source : Source} {message : String}
    {fields : List (String × String)}
    (h : Record.tells { level, source, message, fields, silenced := w.gate.isSilent } = false) :
    w.Untold (w.note level source message fields) where
  notices := rfl
  told := by
    unfold World.told note
    rw [List.filter_append, List.filter_cons_of_neg (by rw [h]; decide), List.filter_nil,
      List.append_nil]

end Untold

/-- Only files were used, and only lines that tell of no notice were written. -/
structure Aside (w w' : World) : Prop where
  beside : w.Beside w'
  untold : w.Untold w'

namespace Aside

variable {w w₁ w' : World}

theorem refl (w : World) : w.Aside w := ⟨.refl w, .refl w⟩

theorem trans (h : w.Aside w₁) (h' : w₁.Aside w') : w.Aside w' :=
  ⟨h.beside.trans h'.beside, h.untold.trans h'.untold⟩

theorem line {level : LogLevel} {source : Source} {message : String}
    {fields : List (String × String)}
    (h : Record.tells { level, source, message, fields, silenced := w.gate.isSilent } = false) :
    w.Aside (w.note level source message fields) :=
  ⟨.note .., .line h⟩

/-- Files are no business of a controller. -/
theorem files (w : World) (directory : Directory) : w.Aside { w with directory } :=
  ⟨rfl, rfl, rfl⟩

end Aside
end World

/-! ### Buses

A bus works on files and writes lines of its own. Whatever it does, the controller does not see it.
-/

namespace SegmentBus

variable (b : SegmentBus) (w : World)

/-- A sample is made of attaching, looking and warning, and each of these is aside. -/
theorem aside_sample : w.Aside (b.sample w).2.2 := by
  have haside : Sampling fun _ w _ w' => w.Aside w' :=
    { refl := fun _ w => .refl w
      trans := .trans
      attachSegment := fun _ _ => .files ..
      dropReader := fun _ _ _ => .files ..
      note := fun _ _ _ _ _ => .line rfl
      know := fun _ w _ _ _ => .refl w }
  exact haside.sample b w

theorem aside_publish (out : OutputPins) : w.Aside (b.publish out w).2.2 := by
  unfold publish
  split
  · exact .refl w
  · split
    · exact .refl w
    · next bytes _ =>
        have hwritten : w.Aside (w.writeSegment b.writer bytes).2 := .files ..
        generalize w.writeSegment b.writer bytes = written at hwritten ⊢
        rcases written with ⟨_ | writer, v⟩ <;> exact hwritten

end SegmentBus

namespace PinBus

variable (b : PinBus) (w : World)

/-- **Pins come out of the files and go into them.** -/
theorem aside_sample : w.Aside (b.sample w).2.2 := by
  obtain ⟨carrier, refuses⟩ := b
  cases carrier with
  | memory b => exact .refl w
  | segment b => exact b.aside_sample w

theorem aside_publish (out : OutputPins) : w.Aside (b.publish out w).2.2 := by
  obtain ⟨carrier, refuses⟩ := b
  unfold publish
  split
  · exact .refl w
  · cases carrier with
    | memory b => exact .refl w
    | segment b => exact b.aside_publish w out

end PinBus

/-! ### Connecting

A link opens its channels at the controller, so connecting is the same beside; of the surroundings
it changes the journal alone, and its lines tell of no notice.
-/

namespace Link

variable (l : Link Simulated.transport) (w : World) (x : Surroundings)

/-- **Whether a link connects does not depend on its surroundings**, and it only leaves a line in
the journal. -/
theorem connect_beside {w w' : World} (h : w.Beside w') :
    (l.connect w').1 = (l.connect w).1 ∧ (l.connect w').2.1 = (l.connect w).2.1 ∧
      (l.connect w).2.2.Beside (l.connect w').2.2 := by
  obtain ⟨x, rfl⟩ := h.eq_amid
  -- silence is a matter of the journal, which is part of the surroundings
  have hsilenced : (if l.silences then (w.amid x).silence else w.amid x)
      = (if l.silences then w.silence else w).amid x := by
    split <;> rfl
  unfold connect
  split
  · exact ⟨rfl, rfl, h⟩
  · dsimp only
    rw [hsilenced, attempt_amid]
    generalize attempt { l with state := .connecting } l.retry
      (if l.silences then w.silence else w) 0 .zero = tried
    obtain ⟨_ | e, attempts, ⟨retry, silences, command, status, notices, state⟩, w₁⟩ := tried
    · cases silences <;> exact ⟨rfl, rfl, rfl⟩
    · -- a connect that fails gives up what it has opened, which on a simulated link changes nothing
      have hreleased (w : World) := release_simulated
        { retry, silences, command, status, notices, state } w
      cases silences <;> simp only [Surroundings.around, hreleased, true_and] <;> rfl

/-- Connecting to the simulated controller touches no file and no notice. -/
theorem connect_leaves :
    (l.connect w).2.2.directory = w.directory ∧ w.Untold (l.connect w).2.2 := by
  -- neither silence nor the attempts touch files or notices
  have hsilenced : (if l.silences then w.silence else w).surroundings = w.surroundings := by
    split <;> rfl
  have htried := surroundings_attempt { l with state := .connecting }
    (if l.silences then w.silence else w) l.retry 0 .zero
  rw [hsilenced] at htried
  unfold connect
  split
  · exact ⟨rfl, .refl w⟩
  · dsimp only
    generalize attempt { l with state := .connecting } l.retry
      (if l.silences then w.silence else w) 0 .zero = tried at htried ⊢
    obtain ⟨e?, attempts, l₁, w₁⟩ := tried
    have hrestored : (if l₁.silences then w₁.restore else w₁).surroundings = w.surroundings := by
      rw [← htried]
      split <;> rfl
    dsimp only
    generalize (if l₁.silences then w₁.restore else w₁) = v at hrestored ⊢
    have hfiles : v.directory = w.directory := congrArg Surroundings.directory hrestored
    have huntold : w.Untold v := .ofSurroundings hrestored
    cases e? with
    | none => exact ⟨hfiles, huntold.trans (.line rfl)⟩
    | some e =>
        dsimp only
        rw [release_simulated]
        exact ⟨hfiles, huntold.trans (.line rfl)⟩

theorem close_untold : w.Untold (l.close w).2 := by
  unfold close
  split
  · exact .refl w
  · rw [release_simulated]
    exact .line rfl

theorem close_beside {w w' : World} (h : w.Beside w') :
    (l.close w').1 = (l.close w).1 ∧ (l.close w).2.Beside (l.close w').2 := by
  unfold close
  split
  · exact ⟨rfl, h⟩
  · rw [release_simulated, release_simulated]
    obtain ⟨x, rfl⟩ := h.eq_amid
    exact ⟨rfl, rfl⟩

end Link

/-! ### Notices

Notices wait at the controller in the order in which they were raised. A cycle takes some of them
from the front and writes a line for each, so all of it can be written down at once (`World.tell`).
-/

namespace World

/-- The world after these notices were taken and each was written into the journal. -/
def tell (w : World) (told : List Notice) : World :=
  w.amid
    { notices := w.simulator.notices.drop told.length
      directory := w.directory
      journal := w.journal ++ told.map (·.record w.gate.isSilent) }

@[simp] theorem tell_nil (w : World) : w.tell [] = w := by
  unfold tell
  rw [List.map_nil, List.append_nil]
  rfl

/-- Telling concerns the surroundings alone. -/
theorem Beside.tell (w : World) (told : List Notice) : w.Beside (w.tell told) := rfl

theorem tell_tell (w : World) (notice : Notice) (told : List Notice) :
    (w.tell [notice]).tell told = w.tell (notice :: told) := by
  unfold tell amid
  simp [Gate.isSilent]

end World

namespace Link

variable {l : Link Simulated.transport} {w : World} {n : Nat}

/-- The notices that so many looks find. -/
def pending (l : Link Simulated.transport) (w : World) (n : Nat) : List Notice :=
  if l.notices.isSome then w.simulator.notices.take n else []

/-- Without a channel, or without a notice that waits, a look finds nothing. -/
theorem poll_of_pending_nil (h : l.pending w (n + 1) = []) : l.poll w = (.ok none, l, w) := by
  obtain ⟨retry, silences, command, status, _ | channel, state⟩ := l
  · rfl
  · have hnone : w.simulator.notices = [] := by
      simpa [pending] using h
    have htaken : w.simulator.takeNotice = (none, w.simulator) := by
      unfold Simulator.takeNotice
      rw [hnone]
    unfold poll
    dsimp only [Simulated.poll]
    rw [htaken]

/-- A notice that is found is the oldest one, and the link stays as it is. -/
theorem poll_of_pending_cons {notice : Notice} {rest : List Notice}
    (h : l.pending w (n + 1) = notice :: rest) :
    l.poll w = (.ok (some notice), l,
        w.amid { w.surroundings with notices := w.simulator.notices.drop 1 }) ∧
      l.pending (w.tell [notice]) n = rest := by
  -- without a notice channel nothing is pending, and with one it is what the controller has kept
  obtain ⟨retry, silences, command, status, _ | channel, state⟩ := l
  · cases h
  · rcases hnotices : w.simulator.notices with _ | ⟨oldest, others⟩
    · simp [pending, hnotices] at h
    · obtain ⟨rfl, rfl⟩ : oldest = notice ∧ others.take n = rest := by
        simpa [pending, hnotices] using h
      have htaken : w.simulator.takeNotice
          = (some oldest, { w.simulator with notices := others }) := by
        unfold Simulator.takeNotice
        rw [hnotices]
      constructor
      · unfold poll
        dsimp only [Simulated.poll]
        rw [htaken]
        rfl
      · simp [pending, World.tell, World.amid, hnotices]

end Link

namespace Client

theorem connect_beside (c : Client Simulated.transport) {w w' : World} (h : w.Beside w') :
    (c.connect w').1 = (c.connect w).1 ∧ (c.connect w').2.1 = (c.connect w).2.1 ∧
      (c.connect w).2.2.Beside (c.connect w').2.2 := by
  obtain ⟨hresult, hlink, hworld⟩ := c.link.connect_beside h
  refine ⟨hresult, ?_, hworld⟩
  unfold connect
  dsimp only
  rw [hlink]

theorem close_beside (c : Client Simulated.transport) {w w' : World} (h : w.Beside w') :
    (c.close w').1 = (c.close w).1 ∧ (c.close w).2.Beside (c.close w').2 := by
  obtain ⟨hlink, hworld⟩ := c.link.close_beside h
  refine ⟨?_, hworld⟩
  unfold close
  dsimp only
  rw [hlink]

end Client

/-- **What passing on notices comes to**: they are taken from the front, each is written into the
journal, and they are counted. -/
theorem CycleState.passNotices_eq (s : CycleState Simulated.transport) (n : Nat) :
    s.passNotices n =
      { s with
        report := { s.report with
          noticesPassed := s.report.noticesPassed + (s.client.link.pending s.world n).length }
        world := s.world.tell (s.client.link.pending s.world n) } := by
  -- by induction on the looks: one that finds a notice leaves the notices behind it to the rest
  induction n generalizing s with
  | zero =>
      have hnone : s.client.link.pending s.world 0 = [] := by simp [Link.pending]
      rw [hnone, World.tell_nil]
      rfl
  | succ n ih =>
      unfold passNotices Client.poll
      rcases hpending : s.client.link.pending s.world (n + 1) with _ | ⟨notice, rest⟩
      · rw [Link.poll_of_pending_nil hpending, World.tell_nil]
        rfl
      · obtain ⟨hpoll, hrest⟩ := Link.poll_of_pending_cons hpending
        rw [hpoll]
        dsimp only
        have hnoted : (s.world.amid { s.world.surroundings with
              notices := s.world.simulator.notices.drop 1 }).note .warn .bridge
              ("controller: " ++ notice.text.text) [("kind", notice.kind.label)]
            = s.world.tell [notice] := rfl
        rw [hnoted, ih, hrest, World.tell_tell, List.length_cons, Nat.add_assoc,
          Nat.add_comm 1]

/-- Taking the next notice leaves the client as it is. -/
theorem Client.poll_eq (c : Client Simulated.transport) (w : World) :
    c.poll w = (.ok (c.link.pending w 1).head?, c, w.amid { w.surroundings with
      notices := w.simulator.notices.drop (c.link.pending w 1).length }) := by
  unfold poll
  rcases hpending : c.link.pending w 1 with _ | ⟨notice, rest⟩
  · rw [Link.poll_of_pending_nil hpending]
    rfl
  · obtain ⟨hpoll, hrest⟩ := Link.poll_of_pending_cons hpending
    have hnone : rest = [] := by
      rw [← hrest]
      simp [Link.pending]
    rw [hpoll, hnone]
    rfl

/-! ### Cycles

From the same scan on, both cycles take the same steps with the same results. The notices are
counted in the report, and this count is the only thing in it that may differ.
-/

namespace CycleState

variable {s s' : CycleState Simulated.transport}

/-- Two cycles that have come equally far beside each other. They may have passed on different
notices. -/
structure Beside (s s' : CycleState Simulated.transport) : Prop where
  console : s'.console = s.console
  client : s'.client = s.client
  report : s'.report = { s.report with noticesPassed := s'.report.noticesPassed }
  world : s.world.Beside s'.world

namespace Beside

theorem after (h : s.Beside s') (pin : InputPin) (action : Action) (a : Attempt)
    (client : Client Simulated.transport) {world world' : World} (hworld : world.Beside world') :
    (s.after pin action a client world).Beside (s'.after pin action a client world') := by
  unfold CycleState.after
  rw [h.console, h.report]
  split
  · exact ⟨rfl, rfl, rfl, hworld⟩
  · -- a failed attempt leaves a line in each journal
    refine ⟨rfl, rfl, rfl, ?_⟩
    exact ((World.Beside.note ..).symm.trans hworld).trans (.note ..)

/-- The same action by both. -/
theorem perform (h : s.Beside s') (pin : InputPin) (action : Action) :
    Option.Rel Beside (s.perform pin action) (s'.perform pin action) := by
  obtain ⟨x, hworld⟩ := h.world.eq_amid
  rw [perform_eq, perform_eq, h.client, hworld, Action.attempt_amid]
  rcases action.attempt s.client s.world with _ | ⟨a, client, world⟩
  · exact .none
  · exact .some (h.after pin action a client (.around x (a, client, world)))

/-- **The same actions by both.** -/
theorem performAll (h : s.Beside s') (actions : List (InputPin × Action)) :
    Option.Rel Beside (s.performAll actions) (s'.performAll actions) := by
  induction actions generalizing s s' with
  | nil => exact .some h
  | cons action actions ih =>
      obtain ⟨pin, action⟩ := action
      have hperformed := h.perform pin action
      unfold CycleState.performAll
      generalize s.perform pin action = performed, s'.perform pin action = performed'
        at hperformed ⊢
      cases hperformed with
      | none => exact .none
      | some hafter => exact ih hafter

/-- The attempts are the same, and so are their results. -/
theorem attempts (h : s.Beside s') (actions : List (InputPin × Action)) :
    s'.attempts actions = s.attempts actions := by
  -- by induction on the actions; both sides make the same attempt or none
  induction actions generalizing s s' with
  | nil => rfl
  | cons action actions ih =>
      obtain ⟨pin, action⟩ := action
      have hperformed := h.perform pin action
      obtain ⟨x, hworld⟩ := h.world.eq_amid
      unfold CycleState.attempts
      rw [h.client, hworld, Action.attempt_amid]
      generalize s.perform pin action = performed, s'.perform pin action = performed'
        at hperformed ⊢
      rcases action.attempt s.client s.world with _ | ⟨a, client, world⟩
      · rfl
      · cases hperformed with
        | none => rfl
        | some hafter => exact congrArg _ (ih hafter)

theorem tell (h : s.Beside s') (n : Nat) : (s.passNotices n).Beside (s'.passNotices n) := by
  rw [passNotices_eq, passNotices_eq]
  refine ⟨h.console, h.client, ?_, ?_⟩
  · dsimp only
    rw [h.report]
  · exact (World.Beside.tell ..).symm.trans (h.world.trans (.tell ..))

theorem refresh (h : s.Beside s') : s.refresh.Beside s'.refresh := by
  obtain ⟨x, hworld⟩ := h.world.eq_amid
  unfold CycleState.refresh
  rw [h.client, hworld, Client.refresh_amid, h.console, h.report]
  rcases s.client.refresh s.world with ⟨_ | freshness, client, world⟩
  · refine ⟨rfl, rfl, rfl, ?_⟩
    dsimp only [Surroundings.around]
    split <;> rfl
  · refine ⟨rfl, rfl, rfl, ?_⟩
    dsimp only [Surroundings.around]
    split <;> rfl

end Beside
end CycleState

/-- **Beside each other, the same scan leads to the same cycle**, up to the publishing. -/
theorem Console.act_beside {c : Console} {now now' : InputSample}
    {client : Client Simulated.transport} {w w' : World}
    (hscan : c.scan now' client.status = c.scan now client.status) (h : w.Beside w') :
    Option.Rel CycleState.Beside (c.act now client w) (c.act now' client w') := by
  unfold act
  rw [hscan]
  generalize c.scan now client.status = scanned
  obtain ⟨actions, console⟩ := scanned
  have hstart : CycleState.Beside { console, client, world := w }
      { console, client, world := w' } := ⟨rfl, rfl, rfl, h⟩
  have hperformed := hstart.performAll actions
  dsimp only
  generalize CycleState.performAll { console, client, world := w } actions = performed,
    CycleState.performAll { console, client, world := w' } actions = performed' at hperformed ⊢
  cases hperformed with
  | none => exact .none
  | some hacted => exact .some (hacted.tell _).refresh

/-! ### Panels

Panels beside each other have everything in common but their buses. The buses are in the hands of
the files, so what is asked of them is named: that the samples agree on the registered pins, and
that the buses take the same (`opens`, `shows`).
-/

namespace Panel

/-- Two panels beside each other: they have different buses at most. -/
structure Beside (p : Panel Simulated.transport) (w : World) (p' : Panel Simulated.transport)
    (w' : World) : Prop where
  panel : p' = { p with bus := p'.bus }
  world : w.Beside w'

/-- What a startup shows once it has connected, and whether the bus takes it. -/
def opens (p : Panel Simulated.transport) (w : World) : Option (OutputPins × Bool) :=
  let out := OutputPins.inactive p.console.setup.axisCount
  if (p.client.connect w).1.isOk then some (out, (p.bus.publish out w).1.isOk) else none

/-- A cycle after its sample was taken, up to the publishing. -/
def acts (p : Panel Simulated.transport) (w : World) : Option (CycleState Simulated.transport) :=
  p.console.act (p.sampled w) p.client (p.bus.sample w.time.2).2.2

/-- What a cycle gives to the bus, and what comes of it. -/
def publishes (p : Panel Simulated.transport) (w : World)
    (s : CycleState Simulated.transport) : Except PanelError Unit × PinBus × World :=
  (p.bus.sample w.time.2).2.1.publish (s.console.outputs s.client) s.world

/-- What a cycle shows, and whether the bus takes it. -/
def shows (p : Panel Simulated.transport) (w : World) : Option (OutputPins × Bool) :=
  (p.acts w).map fun s => (s.console.outputs s.client, (p.publishes w s).1.isOk)

/-- The end of a cycle. -/
def concludes (p : Panel Simulated.transport) (w : World) (s : CycleState Simulated.transport) :
    CycleReport × Panel Simulated.transport × World :=
  let (published, bus, world) := p.publishes w s
  let world := match published with
    | .ok () => world
    | .error e => world.note .warn .bridge "output pin publish failed" [("error", e.text)]
  let previous := s.console.previous.takeOver s.console.setup.registered (p.sampled w)
  ({ s.report with publishFailed := s.report.publishFailed || !published.isOk },
    { p with
      console := { s.console with previous }
      client := s.client
      bus
      stats := p.stats.record ⟨world.time.1 - w.time.1⟩ p.cycleTime s.report.failed
        s.report.refreshFailed },
    world.time.2)

variable {p p' : Panel Simulated.transport} {w w' : World}

theorem cycle_eq (p : Panel Simulated.transport) (w : World) :
    p.cycle w = (p.acts w).map (p.concludes w) := by
  unfold cycle Console.cycle concludes publishes acts sampled
  generalize hsample : p.bus.sample w.time.2 = sample
  obtain ⟨now, bus, v⟩ := sample
  dsimp only
  rw [hsample]
  dsimp only
  rcases p.console.act now p.client v with _ | s
  · rfl
  · dsimp only [Option.map_some]
    generalize bus.publish (s.console.outputs s.client) s.world = published
    obtain ⟨_ | _, bus₁, v₁⟩ := published
    · dsimp only [Except.isOk, Except.toBool]
      rw [Bool.not_false, Bool.or_true]
    · dsimp only [Except.isOk, Except.toBool]
      -- whether the publishing failed enters the report here by a case, there by a disjunction
      rw [Bool.not_true, Bool.or_false]

/-- The setup of a console is the same all through a cycle. -/
theorem setup_acts {s : CycleState Simulated.transport} (h : p.acts w = some s) :
    s.console.setup = p.console.setup := by
  unfold acts at h
  obtain ⟨acted, hacted, _, htidies⟩ := Console.act_eq_some h
  have hscanned := Console.scanPins_console (p.sampled w) p.client.status
    p.console.setup.registered p.console
  rw [htidies.setup, (CycleState.performs_of_performAll hacted).console.2]
  dsimp only [Console.scan]
  exact hscanned.1

namespace Beside

theorem eq_withBus (h : p.Beside w p' w') : ∃ bus, p' = { p with bus } := ⟨_, h.panel⟩

theorem client (h : p.Beside w p' w') : p'.client = p.client := by rw [h.panel]

theorem console (h : p.Beside w p' w') : p'.console = p.console := by rw [h.panel]

/-- Samples that agree are scanned alike. -/
theorem decided (h : p.Beside w p' w')
    (hagrees : InputSample.Agrees p.console.setup.registered (p.sampled w) (p'.sampled w')) :
    p'.decided w' = p.decided w := by
  unfold Panel.decided
  rw [h.console, h.client]
  exact Console.scan_agrees hagrees _

theorem sampled (h : p.Beside w p' w') :
    (p.bus.sample w.time.2).2.2.Beside (p'.bus.sample w'.time.2).2.2 :=
  (PinBus.aside_sample ..).beside.symm.trans
    (h.world.time.2.trans (PinBus.aside_sample ..).beside)

theorem acts (h : p.Beside w p' w')
    (hagrees : InputSample.Agrees p.console.setup.registered (p.sampled w) (p'.sampled w')) :
    Option.Rel CycleState.Beside (p.acts w) (p'.acts w') := by
  unfold Panel.acts
  rw [h.console, h.client]
  exact Console.act_beside (Console.scan_agrees hagrees _) h.sampled

/-- **The attempts of a cycle are the same, and so are their results.** -/
theorem attempts (h : p.Beside w p' w')
    (hagrees : InputSample.Agrees p.console.setup.registered (p.sampled w) (p'.sampled w')) :
    p'.attempts w' = p.attempts w := by
  unfold Panel.attempts Panel.scanned
  rw [h.decided hagrees, h.client]
  apply CycleState.Beside.attempts
  exact ⟨rfl, rfl, rfl, h.sampled⟩

theorem shows (h : p.Beside w p' w')
    (hagrees : InputSample.Agrees p.console.setup.registered (p.sampled w) (p'.sampled w')) :
    (p'.shows w').map (·.1) = (p.shows w).map (·.1) := by
  have hacts := h.acts hagrees
  unfold Panel.shows
  generalize p.acts w = acted, p'.acts w' = acted' at hacts ⊢
  cases hacts with
  | none => rfl
  | some hacted =>
      dsimp only [Option.map_some]
      rw [hacted.console, hacted.client]

/-- The end of a cycle, when both buses take what is published, or none of them. -/
theorem concludes {s s' : CycleState Simulated.transport} (h : p.Beside w p' w')
    (hs : s.Beside s')
    (hagrees : InputSample.Agrees s.console.setup.registered (p.sampled w) (p'.sampled w'))
    (haccepts : (p'.publishes w' s').1.isOk = (p.publishes w s).1.isOk) :
    (p'.concludes w' s').1 = { (p.concludes w s).1 with
        noticesPassed := (p'.concludes w' s').1.noticesPassed } ∧
      (p.concludes w s).2.1.Beside (p.concludes w s).2.2 (p'.concludes w' s').2.1
        (p'.concludes w' s').2.2 := by
  have hpublished : (p.publishes w s).2.2.Beside (p'.publishes w' s').2.2 :=
    (PinBus.aside_publish ..).beside.symm.trans
      (hs.world.trans (PinBus.aside_publish ..).beside)
  obtain ⟨bus, rfl⟩ := h.eq_withBus
  unfold Panel.concludes
  rw [hs.console, hs.client, hs.report, hagrees.takeOver, h.world.time.1]
  generalize p.publishes w s = published, publishes { p with bus } w' s' = published'
    at haccepts hpublished ⊢
  obtain ⟨_ | _, bus, v⟩ := published <;> obtain ⟨_ | _, bus', v'⟩ := published'
  · -- both lines are written, though the errors in them may be different
    have hnoted (fields fields' : List (String × String)) :
        (v.note .warn .bridge "output pin publish failed" fields).Beside
          (v'.note .warn .bridge "output pin publish failed" fields') :=
      (World.Beside.note ..).symm.trans (hpublished.trans (.note ..))
    refine ⟨rfl, ?_, (hnoted _ _).time.2⟩
    dsimp only
    rw [(hnoted _ _).time.1]
  · cases haccepts
  · cases haccepts
  · refine ⟨rfl, ?_, hpublished.time.2⟩
    dsimp only
    rw [hpublished.time.1]

/-- **A cycle by both.** The reports are the same, the notices that were passed on apart. -/
theorem cycle (h : p.Beside w p' w')
    (hagrees : InputSample.Agrees p.console.setup.registered (p.sampled w) (p'.sampled w'))
    (haccepts : ∀ s s', p.acts w = some s → p'.acts w' = some s' →
      (p'.publishes w' s').1.isOk = (p.publishes w s).1.isOk) :
    Option.Rel (fun r r' => r'.1 = { r.1 with noticesPassed := r'.1.noticesPassed } ∧
      r.2.1.Beside r.2.2 r'.2.1 r'.2.2) (p.cycle w) (p'.cycle w') := by
  have hacts := h.acts hagrees
  rw [cycle_eq, cycle_eq]
  -- cycles beside each other end both or not at all, so there are two cases
  rcases hacted : p.acts w with _ | s <;> rcases hacted' : p'.acts w' with _ | s' <;>
    rw [hacted, hacted'] at hacts <;> cases hacts
  · exact .none
  · next hs =>
      rw [← setup_acts hacted] at hagrees
      exact .some (h.concludes hs hagrees (haccepts s s' hacted hacted'))

/-! #### Startups -/

theorem captureBaseline (h : p.Beside w p' w')
    (haccepts : (p'.bus.publish (.inactive p.console.setup.axisCount) w').1.isOk
      = (p.bus.publish (.inactive p.console.setup.axisCount) w).1.isOk) :
    (p'.captureBaseline w').1.isOk = (p.captureBaseline w).1.isOk ∧
      (p.captureBaseline w).2.1.Beside (p.captureBaseline w).2.2 (p'.captureBaseline w').2.1
        (p'.captureBaseline w').2.2 := by
  obtain ⟨bus', rfl⟩ := h.eq_withBus
  have hpublished : (p.bus.publish (.inactive p.console.setup.axisCount) w).2.2.Beside
      (bus'.publish (.inactive p.console.setup.axisCount) w').2.2 :=
    (PinBus.aside_publish ..).beside.symm.trans
      (h.world.trans (PinBus.aside_publish ..).beside)
  unfold Panel.captureBaseline
  dsimp only at haccepts ⊢
  generalize p.bus.publish (.inactive p.console.setup.axisCount) w = published,
    bus'.publish (.inactive p.console.setup.axisCount) w' = published' at haccepts hpublished ⊢
  -- the buses take the first outputs alike, so the two other cases do not arise
  obtain ⟨_ | _, bus₁, v⟩ := published <;> obtain ⟨_ | _, bus₁', v'⟩ := published'
  · exact ⟨rfl, rfl, hpublished⟩
  · cases haccepts
  · cases haccepts
  · obtain ⟨x, hworld⟩ := hpublished.eq_amid
    dsimp only at hworld ⊢
    rw [hworld, Client.refresh_amid]  -- from here on only the client acts
    rcases p.client.refresh v with ⟨_ | f, client, u⟩ <;> exact ⟨rfl, rfl, rfl⟩

/-- **A startup by both**, if both buses take what is shown, or none of them. -/
theorem startup (h : p.Beside w p' w')
    (haccepts : (p'.opens w').map (·.2) = (p.opens w).map (·.2)) :
    (p.startup w).2.1.Beside (p.startup w).2.2 (p'.startup w').2.1 (p'.startup w').2.2 := by
  obtain ⟨bus', rfl⟩ := h.eq_withBus
  unfold Panel.startup
  dsimp only
  generalize hnoted : w.note .info .lifecycle "starting bridge" [("transport",
    Simulated.transport.name), ("axes", Text.decimal p.console.setup.axisCount)] = noted
  generalize hnoted' : w'.note .info .lifecycle "starting bridge" [("transport",
    Simulated.transport.name), ("axes", Text.decimal p.console.setup.axisCount)] = noted'
  have hstart : w.Beside noted := by
    rw [← hnoted]
    rfl
  have hworlds : noted.Beside noted' := by
    rw [← hnoted, ← hnoted']
    exact (World.Beside.note ..).symm.trans (h.world.trans (.note ..))
  -- neither the line in the journal nor the connecting changes any file
  have hfiles : (p.client.connect noted).2.2.directory = w.directory := by
    rw [← hnoted]
    exact (p.client.link.connect_leaves _).1
  have hfiles' : (p.client.connect noted').2.2.directory = w'.directory := by
    rw [← hnoted']
    exact (p.client.link.connect_leaves _).1
  have hopens := (p.client.connect_beside hstart).1
  have hopens' := (p.client.connect_beside h.world).1
  obtain ⟨hresult, hclient, hconnected⟩ := p.client.connect_beside hworlds
  generalize p.client.connect noted = connected, p.client.connect noted' = connected'
    at hresult hclient hconnected hfiles hfiles' hopens ⊢
  obtain ⟨r, client, v⟩ := connected
  obtain ⟨r', client', v'⟩ := connected'
  dsimp only at hresult hclient hconnected hfiles hfiles' hopens ⊢
  subst hresult hclient
  cases r' with
  | error e => exact ⟨rfl, hconnected⟩
  | ok =>
      -- the baseline is captured with the bus that the panel had before, so what `opens` says of
      -- the first publishing can be used
      have hopened : Beside { p with client := client' } v { p with client := client', bus := bus' }
          v' := ⟨rfl, hconnected⟩
      have hcaptured := hopened.captureBaseline (by
        dsimp only
        rw [(p.bus.publish_files _ hfiles).1, (bus'.publish_files _ hfiles').1]
        unfold opens at haccepts
        dsimp only at haccepts
        rw [hopens', ← hopens] at haccepts
        exact Option.some.inj haccepts)
      obtain ⟨hok, hcaptured⟩ := hcaptured
      dsimp only
      generalize Panel.captureBaseline { p with client := client' } v = captured,
        Panel.captureBaseline { p with client := client', bus := bus' } v' = captured'
        at hok hcaptured ⊢
      obtain ⟨_ | _, q, u⟩ := captured <;> obtain ⟨_ | _, q', u'⟩ := captured'
      · obtain ⟨bus₁, rfl⟩ := hcaptured.eq_withBus
        have hnoted (fields fields' : List (String × String)) :
            (u.note .error .lifecycle "startup failed after connect" fields).Beside
              (u'.note .error .lifecycle "startup failed after connect" fields') :=
          (World.Beside.note ..).symm.trans (hcaptured.world.trans (.note ..))
        obtain ⟨hclient, hclosed⟩ := q.client.close_beside (hnoted _ _)
        exact ⟨by dsimp only; rw [hclient], hclosed⟩
      · cases hok
      · cases hok
      · obtain ⟨bus₁, rfl⟩ := hcaptured.eq_withBus
        exact ⟨rfl, hcaptured.world⟩

/-! #### Shutdowns -/

theorem settle (h : p.Beside w p' w') (b : Int32) :
    Option.Rel (fun r r' => r.1.Beside r.2 r'.1 r'.2) (p.settle b w) (p'.settle b w') := by
  obtain ⟨bus', rfl⟩ := h.eq_withBus
  obtain ⟨x, rfl⟩ := h.world.eq_amid
  unfold Panel.settle
  dsimp only
  split
  · exact .some h
  · rw [Client.waitReceivedFor_amid]
    rcases p.client.waitReceivedFor p.client.serial (some (p.client.wait.limit.getD shutdownLimit))
      w with _ | ⟨_ | _, client, v⟩
    · exact .none
    · exact .some ⟨rfl, rfl⟩
    · exact .some ⟨rfl, rfl⟩

theorem restoreBaseline (h : p.Beside w p' w') (b : Int32) :
    (p.restoreBaseline b w).1.Beside (p.restoreBaseline b w).2 (p'.restoreBaseline b w').1
      (p'.restoreBaseline b w').2 := by
  obtain ⟨bus', rfl⟩ := h.eq_withBus
  obtain ⟨x, rfl⟩ := h.world.eq_amid
  unfold Panel.restoreBaseline
  dsimp only
  rw [Client.send_amid]
  rcases p.client.send b .null w with ⟨_ | _, client, v⟩ <;> exact ⟨rfl, rfl⟩

/-- The end of a shutdown. -/
theorem finish (h : p.Beside w p' w') :
    (Panel.finish (p, w)).1.Beside (Panel.finish (p, w)).2 (Panel.finish (p', w')).1
      (Panel.finish (p', w')).2 := by
  obtain ⟨hclient, hclosed⟩ := p.client.close_beside h.world
  unfold Panel.finish
  dsimp only
  rw [h.client]
  refine ⟨?_, (World.Beside.note ..).symm.trans (hclosed.trans (.note ..))⟩
  dsimp only
  rw [hclient, h.panel]

/-- **A shutdown by both.** -/
theorem shutdown (h : p.Beside w p' w') :
    Option.Rel (fun r r' => r.1.Beside r.2 r'.1 r'.2) (p.shutdown w) (p'.shutdown w') := by
  obtain ⟨bus', rfl⟩ := h.eq_withBus
  have hended (baseline : Option Int32) :
      Beside { p with running := false, baseline, ended := true } w
        { p with bus := bus', running := false, baseline, ended := true } w' := ⟨rfl, h.world⟩
  unfold Panel.shutdown
  dsimp only
  -- the second shutdown does nothing, and the first one depends on whether there is a baseline
  split
  · exact .some ⟨rfl, h.world⟩
  · cases p.baseline with
    | none => exact .some (hended none).finish
    | some b =>
        have hsettled := (hended (some b)).settle b
        dsimp only
        generalize
          Panel.settle { p with running := false, baseline := some b, ended := true } b w = settled,
          Panel.settle { p with bus := bus', running := false, baseline := some b, ended := true } b
            w' = settled' at hsettled ⊢
        cases hsettled with
        | none => exact .none
        | some hs => exact .some (hs.restoreBaseline b).finish

end Beside
end Panel

end OperatorPanel
