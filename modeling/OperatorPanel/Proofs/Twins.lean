import OperatorPanel.Proofs.Coherence
import OperatorPanel.Proofs.Mirror

/-!
# Twins

Two clients that send the same messages to two controllers, and differ only in how long they wait.
The one that waits longer looks more often at the status; so it knows more at times, and its
controller may be further with the command that was echoed last. What they agree on nevertheless
(`Client.Twins`) is kept by waits of any length on either side (`Twins.waits`), and by every
operation that both take: connecting, an attempt to send a command, a whole cycle.

How far the echoed command got is seen in one field of the status, and neither a scan nor the output
pins ask for it (`Status.Matches`).
-/

namespace OperatorPanel

/-! ### What is blind for the state of a command

The two controllers may be at different points of the last command: the one that was looked at more
often has counted down further. Everything else in their statuses is equal, and what reads a status
without asking for that one field gives the same for both.
-/

/-- Two statuses that differ at most in how far the echoed command got. -/
def Status.Matches (s s' : Status) : Prop := s' = { s with state := s'.state }

namespace Status.Matches

variable {s s' : Status}

theorem refl (s : Status) : s.Matches s := rfl

theorem symm (h : s.Matches s') : s'.Matches s := by
  unfold Matches at h ⊢
  rw [h]

theorem echo (h : s.Matches s') : s'.echo = s.echo := by rw [h]

theorem programOpen (h : s.Matches s') : s'.programOpen = s.programOpen := by
  rw [h]
  rfl

theorem outputs (h : s.Matches s') (display : Display) (axes : Nat) :
    OutputPins.ofStatus s' display axes = OutputPins.ofStatus s display axes := by
  rw [h]
  rfl

/-- What a message does to a status does not depend on the state of the command before it. -/
theorem carryOut (h : s.Matches s') (ack : Acknowledgement) (m : Message) :
    (Simulator.carryOut ack s m).Matches (Simulator.carryOut ack s' m) := by
  rw [h]
  exact Simulator.carryOut_state ack s s'.state m

end Status.Matches

/-! ### Controllers

Controllers that are the same but for how often they were looked at stay so under everything that a
link does to them: a message, the opening of a channel, the taking of a notice.
-/

namespace Simulator.SameButLooks

variable {c c' : Simulator}

theorem symm (h : c.SameButLooks c') : c'.SameButLooks c :=
  ⟨h.received.symm, h.ack.symm, h.commandValid.symm, h.fault.symm, h.notices.symm,
    h.failingOpens.symm, h.openAttempts.symm, Status.Matches.symm h.status⟩

/-- A message finds both in the same state, up to the progress of the message before it, and starts
anew for both. -/
theorem receive (h : c.SameButLooks c') (m : Message) :
    (c.receive m).SameButLooks (c'.receive m) where
  received := congrArg (· ++ [m]) h.received
  ack := h.ack
  commandValid := h.commandValid
  fault := h.fault
  notices := h.notices
  failingOpens := h.failingOpens
  openAttempts := h.openAttempts
  status := by
    -- which states a message leaves is decided by the acknowledgement, which is the same
    have hcarried := Status.Matches.carryOut h.status c.ack m
    have hreceived : (c'.receive m).status = carryOut c.ack c'.status m := by
      show carryOut c'.ack c'.status m = _
      rw [h.ack]
    rw [hreceived]
    exact hcarried

/-- Whether a channel opens. -/
theorem openChannel (h : c.SameButLooks c') : c'.openChannel.1 = c.openChannel.1 ∧
    c.openChannel.2.SameButLooks c'.openChannel.2 := by
  have hattempts := congrArg (· + 1) h.openAttempts
  unfold Simulator.openChannel
  dsimp only at hattempts ⊢
  rw [h.failingOpens]
  split
  · exact ⟨rfl, h.received, h.ack, h.commandValid, h.fault, h.notices, rfl, hattempts, h.status⟩
  · exact ⟨rfl, h.received, h.ack, h.commandValid, h.fault, h.notices, rfl, hattempts, h.status⟩

theorem takeNotice (h : c.SameButLooks c') : c'.takeNotice.1 = c.takeNotice.1 ∧
    c.takeNotice.2.SameButLooks c'.takeNotice.2 := by
  unfold Simulator.takeNotice
  rw [h.notices]
  split
  · exact ⟨rfl, h⟩
  · exact ⟨rfl, h.received, h.ack, h.commandValid, h.fault, rfl, h.failingOpens, h.openAttempts,
      h.status⟩

end Simulator.SameButLooks

/-! ### Buses

Both sides keep their pins in equal files, while the rest of their worlds, clocks and journals among
it, may differ. So each operation of a bus is taken through a change of everything around the files.
-/

namespace SegmentBus

variable {w w' : World}

/-- What comes of it, the files included, depends on the files alone. -/
theorem attach_files (b : SegmentBus) (h : w'.directory = w.directory) :
    (b.attach w').1 = (b.attach w).1 ∧ (b.attach w').2.directory = (b.attach w).2.directory := by
  unfold attach
  split
  · exact ⟨rfl, h⟩
  · unfold World.attachSegment
    rw [h]
    rcases w.directory.attach b.inputSegment with ⟨_ | reader, directory⟩ <;> exact ⟨rfl, rfl⟩

/-- A warning is a line of the journal, which is not among the files. -/
theorem warn_files (b : SegmentBus) (h : w'.directory = w.directory) (names : List String) :
    (b.warn w' names).1 = (b.warn w names).1 ∧
      (b.warn w' names).2.directory = (b.warn w names).2.directory := by
  induction names generalizing b w w' with
  | nil => exact ⟨rfl, h⟩
  | cons name names ih =>
      unfold warn
      split
      · exact ih b h
      · exact ih _ h

theorem take_files (b : SegmentBus) (reader : SegmentReader) (h : w'.directory = w.directory) :
    (b.take reader w').1 = (b.take reader w).1 ∧
      (b.take reader w').2.directory = (b.take reader w).2.directory := by
  unfold take
  rw [h]
  split
  · exact ⟨rfl, h⟩
  · next block reader₁ _ =>
      dsimp only
      split
      · next pins _ =>
          obtain ⟨hbus, hfiles⟩ :=
            warn_files { b with reader := some reader₁ } h (InputSample.ofNamed pins).unknown
          exact ⟨by rw [hbus], hfiles⟩
      all_goals exact ⟨rfl, h⟩

theorem look_files (b : SegmentBus) (h : w'.directory = w.directory) :
    (b.look w').1 = (b.look w).1 ∧ (b.look w').2.directory = (b.look w).2.directory := by
  unfold look
  split
  · exact ⟨rfl, h⟩
  · next reader _ =>
      rw [h]
      split
      · exact b.take_files reader h
      · split
        · exact ⟨rfl, h⟩
        · exact ⟨rfl, congrArg reader.drop h⟩

theorem sample_files (b : SegmentBus) (h : w'.directory = w.directory) :
    (b.sample w').1 = (b.sample w).1 ∧ (b.sample w').2.1 = (b.sample w).2.1 ∧
      (b.sample w').2.2.directory = (b.sample w).2.2.directory := by
  obtain ⟨hattached, hfiles⟩ := b.attach_files h
  obtain ⟨hlooked, hafter⟩ := (b.attach w).1.look_files hfiles
  unfold sample
  dsimp only
  rw [hattached, hlooked]
  exact ⟨rfl, rfl, hafter⟩

theorem publish_files (b : SegmentBus) (out : OutputPins) (h : w'.directory = w.directory) :
    (b.publish out w').1 = (b.publish out w).1 ∧ (b.publish out w').2.1 = (b.publish out w).2.1 ∧
      (b.publish out w').2.2.directory = (b.publish out w).2.2.directory := by
  unfold publish
  split
  · exact ⟨rfl, rfl, h⟩
  · split
    · exact ⟨rfl, rfl, h⟩
    · next bytes _ =>
        unfold World.writeSegment
        rw [h]
        rcases b.writer.write bytes w.directory with ⟨_ | writer, directory⟩ <;>
          exact ⟨rfl, rfl, rfl⟩

end SegmentBus

namespace PinBus

variable {w w' : World}

/-- **A sample depends on the files alone**, and so does what is left of bus and files. -/
theorem sample_files (b : PinBus) (h : w'.directory = w.directory) :
    (b.sample w').1 = (b.sample w).1 ∧ (b.sample w').2.1 = (b.sample w).2.1 ∧
      (b.sample w').2.2.directory = (b.sample w).2.2.directory := by
  obtain ⟨carrier, refuses⟩ := b
  cases carrier with
  | memory b => exact ⟨rfl, rfl, h⟩
  | segment b =>
      obtain ⟨hsample, hbus, hfiles⟩ := b.sample_files h
      refine ⟨hsample, ?_, hfiles⟩
      show PinBus.mk (.segment (b.sample w').2.1) refuses = ⟨.segment (b.sample w).2.1, refuses⟩
      rw [hbus]

theorem publish_files (b : PinBus) (out : OutputPins) (h : w'.directory = w.directory) :
    (b.publish out w').1 = (b.publish out w).1 ∧ (b.publish out w').2.1 = (b.publish out w).2.1 ∧
      (b.publish out w').2.2.directory = (b.publish out w).2.2.directory := by
  obtain ⟨carrier, refuses⟩ := b
  unfold publish
  split
  · exact ⟨rfl, rfl, h⟩
  · cases carrier with
    | memory b => exact ⟨rfl, rfl, h⟩
    | segment b =>
        obtain ⟨hresult, hbus, hfiles⟩ := b.publish_files out h
        refine ⟨hresult, ?_, hfiles⟩
        show PinBus.mk (.segment (b.publish out w').2.1) refuses
          = ⟨.segment (b.publish out w).2.1, refuses⟩
        rw [hbus]

end PinBus

/-! ### Consoles

Which axis a console tracks depends on the result of an attempt to start a jog, and results are
where the twins may differ. The tracker is therefore left out of what two consoles have in common;
no pin asks for it.
-/

namespace Console

/-- Two consoles that remember the same. They may track different axes. -/
structure Matches (c c' : Console) : Prop where
  setup : c'.setup = c.setup
  previous : c'.previous = c.previous
  feed : c'.feedOverride = c.feedOverride
  spindle : c'.spindleOverride = c.spindleOverride

theorem Matches.symm {c c' : Console} (h : c.Matches c') : c'.Matches c :=
  ⟨h.setup.symm, h.previous.symm, h.feed.symm, h.spindle.symm⟩

theorem Matches.trans {c c₁ c' : Console} (h : c.Matches c₁) (h' : c₁.Matches c') : c.Matches c' :=
  ⟨h'.setup.trans h.setup, h'.previous.trans h.previous, h'.feed.trans h.feed,
    h'.spindle.trans h.spindle⟩

/-- What a momentary pin does. -/
theorem Matches.momentaryAction {c c' : Console} (h : c.Matches c') {status status' : Status}
    (hstatus : status.Matches status') (now : InputSample) (pin : InputPin) :
    c'.momentaryAction now status' pin = c.momentaryAction now status pin := by
  have hspeed : c'.spindleSpeed status' = c.spindleSpeed status := by
    rw [hstatus, spindleSpeed, spindleSpeed, h.setup]
  cases pin with
  | control control =>
      cases control <;>
        simp only [Console.momentaryAction, controlAction, hspeed, h.setup]
  | axis a index =>
      cases a <;> simp only [Console.momentaryAction, incrementJog, h.setup]
  | line index => simp only [Console.momentaryAction, h.setup]

/-- A jog pin asks for the edge and for the mode, and the tracker only says whom it lets go of. -/
theorem Matches.jogAction {c c' : Console} (h : c.Matches c') {status status' : Status}
    (hstatus : status.Matches status') (now : InputSample) (pin : InputPin) (axis : UInt8)
    (direction : Number) :
    (c'.jogAction pin axis direction now status').1 = (c.jogAction pin axis direction now status).1
      ∧ (c.jogAction pin axis direction now status).2.Matches
        (c'.jogAction pin axis direction now status').2 := by
  have hteleop : status'.teleop = status.teleop := by
    rw [hstatus]
    rfl
  have hstart : c'.startCommand axis direction now status'
      = c.startCommand axis direction now status := by
    rw [startCommand, startCommand, hteleop, h.setup]
  have hstop : stopCommand axis status' = stopCommand axis status := by
    rw [stopCommand, stopCommand, hteleop]
  have hrises : c'.previous.rises now pin = c.previous.rises now pin := by rw [h.previous]
  have hfalls : c'.previous.falls now pin = c.previous.falls now pin := by rw [h.previous]
  have hreleased : (if c.jogging = some axis then { c with jogging := none } else c).Matches
      (if c'.jogging = some axis then { c' with jogging := none } else c') := by
    -- four combinations of the trackers, and in each of them nothing but the tracker changes
    split <;> split <;> exact ⟨h.setup, h.previous, h.feed, h.spindle⟩
  unfold Console.jogAction
  rw [hrises, hfalls, hstart, hstop]
  split
  · exact ⟨rfl, h⟩
  · split
    · exact ⟨rfl, hreleased⟩
    · exact ⟨rfl, h⟩

/-- **What one pin does** depends on what the console remembers, and not on how far a command
got. -/
theorem Matches.pinAction {c c' : Console} (h : c.Matches c') {status status' : Status}
    (hstatus : status.Matches status') (now : InputSample) (pin : InputPin) :
    (c'.pinAction now status' pin).1 = (c.pinAction now status pin).1 ∧
      (c.pinAction now status pin).2.Matches (c'.pinAction now status' pin).2 := by
  have hsettled (value last : Number) : c'.settled value last = c.settled value last := by
    rw [settled, settled, h.setup]
  -- a button that turns active does what the status says, and that is the same in both
  have momentary (pin : InputPin) :
      (if c'.previous.rises now pin then (c'.momentaryAction now status' pin, c')
          else (none, c')).1
        = (if c.previous.rises now pin then (c.momentaryAction now status pin, c)
          else (none, c)).1 ∧
      (if c.previous.rises now pin then (c.momentaryAction now status pin, c)
          else (none, c)).2.Matches
        (if c'.previous.rises now pin then (c'.momentaryAction now status' pin, c')
          else (none, c')).2 := by
    rw [h.previous, h.momentaryAction hstatus]
    split <;> exact ⟨rfl, h⟩
  cases pin with
  | control control =>
      cases control
      case feedOverride =>
        rw [pinAction_feedOverride, pinAction_feedOverride]
        dsimp only
        rw [hsettled, h.feed]
        split
        · exact ⟨rfl, h⟩
        · exact ⟨rfl, h.setup, h.previous, rfl, h.spindle⟩
      case spindleOverride =>
        rw [pinAction_spindleOverride, pinAction_spindleOverride]
        dsimp only
        rw [hsettled, h.spindle]
        split
        · exact ⟨rfl, h⟩
        · exact ⟨rfl, h.setup, h.previous, h.feed, rfl⟩
      all_goals exact momentary _
  | axis a index =>
      cases a
      case jogPlus => exact h.jogAction hstatus now _ index 1
      case jogMinus => exact h.jogAction hstatus now _ index (-1)
      all_goals exact momentary _
  | line index => exact momentary _

/-- Scanning the pins one after another, by induction on their list: what a pin leaves of the two
consoles is what the pins behind it start from. -/
theorem Matches.scanPins {c c' : Console} (h : c.Matches c') {status status' : Status}
    (hstatus : status.Matches status') (now : InputSample) (pins : List InputPin) :
    (Console.scanPins now status' pins c').1 = (Console.scanPins now status pins c).1 ∧
      (Console.scanPins now status pins c).2.Matches (Console.scanPins now status' pins c').2 := by
  induction pins generalizing c c' with
  | nil => exact ⟨rfl, h⟩
  | cons pin pins ih =>
      obtain ⟨haction, hacted⟩ := h.pinAction hstatus now pin
      obtain ⟨hactions, hscanned⟩ := ih hacted
      unfold Console.scanPins
      dsimp only
      rw [haction, hactions]
      split <;> exact ⟨rfl, hscanned⟩

theorem Matches.scan {c c' : Console} (h : c.Matches c') {status status' : Status}
    (hstatus : status.Matches status') (now : InputSample) :
    (c'.scan now status').1 = (c.scan now status).1 ∧
      (c.scan now status).2.Matches (c'.scan now status').2 := by
  unfold Console.scan
  rw [h.setup]
  exact h.scanPins hstatus now _

end Console

/-! ### Links

The version that a link saw last is the only thing in it that depends on the looks. Opening, closing
and polling do not ask for it, so they come to the same for two links that differ in it.
-/

namespace Link

variable {l l' : Link Simulated.transport} {w w' : World}

/-- Two links to controllers that look the same through them. They may have seen different
versions of the status. -/
structure Matches (l : Link Simulated.transport) (w : World) (l' : Link Simulated.transport)
    (w' : World) : Prop where
  link : l' = { l with status := l'.status }
  channel : l'.status.isSome = l.status.isSome
  simulator : w.simulator.SameButLooks w'.simulator
  directory : w'.directory = w.directory

theorem Matches.refl (l : Link Simulated.transport) (w : World) : l.Matches w l w :=
  ⟨rfl, rfl, .refl _, rfl⟩

/-- What happens around the links, to the same files. -/
theorem Matches.inWorlds {v v' : World} (h : l.Matches w l' w')
    (hsimulator : v.simulator = w.simulator) (hsimulator' : v'.simulator = w'.simulator)
    (hdirectory : v'.directory = v.directory) : l.Matches v l' v' where
  link := h.link
  channel := h.channel
  simulator := by
    rw [hsimulator, hsimulator']
    exact h.simulator
  directory := hdirectory

theorem Matches.around {v v' : World} (h : l.Matches w l' w')
    (hsimulator : v.simulator = w.simulator) (hdirectory : v.directory = w.directory)
    (hsimulator' : v'.simulator = w'.simulator) (hdirectory' : v'.directory = w'.directory) :
    l.Matches v l' v' :=
  h.inWorlds hsimulator hsimulator' (by rw [hdirectory, hdirectory', h.directory])

theorem Matches.canSend (h : l.Matches w l' w') : l'.canSend w' = l.canSend w := by
  rw [Link.canSend, Link.canSend, h.link, h.simulator.commandValid]

/-! #### Opening and closing -/

/-- The results of opening a channel: both fail for the same reason, or both links have grown. -/
inductive OpenBoth (l l' : Link Simulated.transport) :
    Except PanelError (Link Simulated.transport) × World →
    Except PanelError (Link Simulated.transport) × World → Prop
  | failed {e : PanelError} {v v' : World} :
      l.Matches v l' v' → OpenBoth l l' (.error e, v) (.error e, v')
  | opened {l₁ l₁' : Link Simulated.transport} {v v' : World} :
      l₁.Matches v l₁' v' → OpenBoth l l' (.ok l₁, v) (.ok l₁', v')

/-- An end of a channel opens at both controllers or at none, since both have the same number of
failures left. -/
theorem openEnd_both {α : Type} (kind : ChannelKind) (end_ : α)
    (h : w.simulator.SameButLooks w'.simulator) (hdirectory : w'.directory = w.directory) :
    ∃ (r : Except ChannelFault α) (v v' : World), Simulated.openEnd kind end_ w = (r, v) ∧
      Simulated.openEnd kind end_ w' = (r, v') ∧ v.simulator.SameButLooks v'.simulator ∧
      v'.directory = v.directory := by
  obtain ⟨hopened, hafter⟩ := h.openChannel
  unfold Simulated.openEnd
  dsimp only
  rw [hopened]
  split <;> exact ⟨_, _, _, rfl, rfl, hafter, hdirectory⟩

namespace Matches

theorem openCommand (h : l.Matches w l' w') :
    OpenBoth l l' (l.openCommand w) (l'.openCommand w') := by
  have hcommand : l'.command = l.command := by rw [h.link]
  obtain ⟨r, v, v', hopen, hopen', hsimulator, hdirectory⟩ :=
    openEnd_both .command () h.simulator h.directory
  unfold Link.openCommand
  dsimp only
  rw [hcommand, hopen, hopen']
  split
  · exact .opened h
  · cases r with
    | error fault => exact .failed ⟨h.link, h.channel, hsimulator, hdirectory⟩
    | ok c =>
        refine .opened ⟨?_, h.channel, hsimulator, hdirectory⟩
        rw [h.link]

theorem openStatus (h : l.Matches w l' w') :
    OpenBoth l l' (l.openStatus w) (l'.openStatus w') := by
  obtain ⟨r, v, v', hopen, hopen', hsimulator, hdirectory⟩ :=
    openEnd_both .status (0 : UInt64) h.simulator h.directory
  have hchannel := h.channel
  unfold Link.openStatus
  dsimp only
  rw [hopen, hopen']
  -- both have a status channel or none of them has, which rules the mixed cases out
  rcases hstatus : l.status with _ | seen <;> rcases hstatus' : l'.status with _ | seen' <;>
    rw [hstatus, hstatus'] at hchannel
  · cases r with
    | error fault => exact .failed ⟨h.link, h.channel, hsimulator, hdirectory⟩
    | ok s =>
        refine .opened ⟨?_, rfl, hsimulator, hdirectory⟩
        rw [h.link]
  · cases hchannel
  · cases hchannel
  · exact .opened h

theorem openNotices (h : l.Matches w l' w') :
    OpenBoth l l' (l.openNotices w) (l'.openNotices w') := by
  have hnotices : l'.notices = l.notices := by rw [h.link]
  obtain ⟨r, v, v', hopen, hopen', hsimulator, hdirectory⟩ :=
    openEnd_both .error () h.simulator h.directory
  unfold Link.openNotices
  dsimp only
  rw [hnotices, hopen, hopen']
  split
  · exact .opened h
  · cases r with
    | error fault => exact .failed ⟨h.link, h.channel, hsimulator, hdirectory⟩
    | ok c =>
        refine .opened ⟨?_, h.channel, hsimulator, hdirectory⟩
        rw [h.link]

theorem openMissing (h : l.Matches w l' w') :
    (l'.openMissing w').1 = (l.openMissing w).1 ∧
      (l.openMissing w).2.1.Matches (l.openMissing w).2.2 (l'.openMissing w').2.1
        (l'.openMissing w').2.2 := by
  -- each channel is opened in both or in none, so the two stop at the same one
  have hcommand := h.openCommand
  unfold Link.openMissing
  generalize l.openCommand w = opened, l'.openCommand w' = opened' at hcommand ⊢
  cases hcommand with
  | failed hfailed => exact ⟨rfl, hfailed⟩
  | @opened l₁ l₁' v v' hopened =>
      have hstatus := hopened.openStatus
      dsimp only
      generalize l₁.openStatus v = opened, l₁'.openStatus v' = opened' at hstatus ⊢
      cases hstatus with
      | failed hfailed => exact ⟨rfl, hfailed⟩
      | @opened l₂ l₂' v v' hopened =>
          have hnotices := hopened.openNotices
          dsimp only
          generalize l₂.openNotices v = opened, l₂'.openNotices v' = opened' at hnotices ⊢
          cases hnotices with
          | failed hfailed => exact ⟨rfl, hfailed⟩
          | opened hopened => exact ⟨rfl, hopened⟩

/-- What comes of one try comes of the other. -/
theorem openMissing_of_eq (h : l.Matches w l' w') {e? : Option PanelError}
    {l₁ : Link Simulated.transport} {w₁ : World} (hopen : l.openMissing w = (e?, l₁, w₁)) :
    ∃ l₁' w₁', l'.openMissing w' = (e?, l₁', w₁') ∧ l₁.Matches w₁ l₁' w₁' := by
  have hmissing := h.openMissing
  rw [hopen] at hmissing
  generalize l'.openMissing w' = opened' at hmissing ⊢
  obtain ⟨e?', l₁', w₁'⟩ := opened'
  obtain ⟨rfl, hopened⟩ := hmissing
  exact ⟨l₁', w₁', rfl, hopened⟩

/-- However often it is tried, both come to the same: what the policy allows does not depend on
them. -/
theorem attempt (h : l.Matches w l' w') (retry : RetryPolicy) (attempts : UInt32)
    (waited : Span) :
    (l'.attempt retry w' attempts waited).1 = (l.attempt retry w attempts waited).1 ∧
      (l.attempt retry w attempts waited).2.2.1.Matches (l.attempt retry w attempts waited).2.2.2
        (l'.attempt retry w' attempts waited).2.2.1
        (l'.attempt retry w' attempts waited).2.2.2 := by
  -- the induction follows the attempts of the first link; the second takes the same branch each
  -- time
  fun_induction Link.attempt l retry w attempts waited generalizing l' w' with
  | case1 l w attempts waited l₁ w₁ hopen =>
      obtain ⟨l₁', w₁', hopen', hopened⟩ := h.openMissing_of_eq hopen
      rw [Link.attempt, hopen']
      exact ⟨rfl, hopened⟩
  | case2 l w attempts waited e l₁ w₁ hopen hallows _ ih =>
      obtain ⟨l₁', w₁', hopen', hopened⟩ := h.openMissing_of_eq hopen
      rw [Link.attempt, hopen']
      have hslept : l₁.Matches (w₁.sleep retry.interval) l₁' (w₁'.sleep retry.interval) :=
        hopened.around rfl rfl rfl rfl
      dsimp only
      rw [dif_pos hallows]
      exact ih hslept
  | case3 l w attempts waited e l₁ w₁ hopen hspent =>
      obtain ⟨l₁', w₁', hopen', hopened⟩ := h.openMissing_of_eq hopen
      rw [Link.attempt, hopen']
      dsimp only
      rw [dif_neg hspent]
      exact ⟨rfl, hopened⟩

end Matches

theorem directory_close (l : Link Simulated.transport) (w : World) :
    (l.close w).2.directory = w.directory := by
  unfold close
  rw [release_simulated]
  split <;> rfl

namespace Matches

theorem inState (h : l.Matches w l' w') (state : LinkState) :
    Matches { l with state } w { l' with state } w' := by
  refine ⟨?_, h.channel, h.simulator, h.directory⟩
  rw [h.link]

theorem emptied (h : l.Matches w l' w') (state : LinkState) :
    Matches { l with command := none, status := none, notices := none, state } w
      { l' with command := none, status := none, notices := none, state } w' := by
  refine ⟨?_, rfl, h.simulator, h.directory⟩
  rw [h.link]

theorem shut (h : l.Matches w l' w') : l.shut.Matches w l'.shut w' := by
  have hstate : l'.state = l.state := by rw [h.link]
  unfold Link.shut
  rw [hstate]
  split
  · exact h
  · exact h.emptied .closed

theorem close (h : l.Matches w l' w') :
    (l.close w).1.Matches (l.close w).2 (l'.close w').1 (l'.close w').2 := by
  rw [(l.close_simulated w).1, (l'.close_simulated w').1]
  exact h.shut.around (l.close_simulated w).2 (l.directory_close w) (l'.close_simulated w').2
    (l'.directory_close w')

/-- **Both connect, or none of them.** -/
theorem connect (h : l.Matches w l' w') : (l'.connect w').1 = (l.connect w).1 ∧
    (l.connect w).2.1.Matches (l.connect w).2.2 (l'.connect w').2.1 (l'.connect w').2.2 := by
  have hconnected : l'.isConnected = l.isConnected := by
    rw [isConnected, isConnected, h.link]
  have hretry : l'.retry = l.retry := by rw [h.link]
  -- the switch for diagnostics is used around the attempts, if at all
  have hsilenced : Matches { l with state := .connecting } (if l.silences then w.silence else w)
      { l' with state := .connecting } (if l'.silences then w'.silence else w') := by
    apply (h.inState .connecting).around <;> split <;> rfl
  have hattempt := hsilenced.attempt l.retry 0 .zero
  unfold Link.connect
  rw [hconnected]
  split
  · exact ⟨rfl, h⟩
  · dsimp only
    rw [hretry] at hattempt ⊢
    generalize Link.attempt { l with state := .connecting } l.retry
      (if l.silences then w.silence else w) 0 .zero = tried at hattempt ⊢
    generalize Link.attempt { l' with retry := l.retry, state := .connecting } l.retry
      (if l'.silences then w'.silence else w') 0 .zero = tried' at hattempt ⊢
    obtain ⟨e?, attempts, l₁, v⟩ := tried
    obtain ⟨e?', attempts', l₁', v'⟩ := tried'
    obtain ⟨hsame, htried⟩ := hattempt
    dsimp only at hsame htried ⊢
    subst hsame
    cases e?' with
    | none =>
        refine ⟨rfl, ?_⟩
        apply (htried.inState .connected).around <;> dsimp only <;> split <;> rfl
    | some e =>
        dsimp only
        rw [release_simulated, release_simulated]
        refine ⟨rfl, ?_⟩
        apply (htried.emptied .disconnected).around <;> dsimp only <;> split <;> rfl

theorem poll (h : l.Matches w l' w') : (l'.poll w').1 = (l.poll w).1 ∧
    (l.poll w).2.1.Matches (l.poll w).2.2 (l'.poll w').2.1 (l'.poll w').2.2 := by
  obtain ⟨htaken, hsimulator⟩ := h.simulator.takeNotice
  have hnotices : l'.notices = l.notices := by rw [h.link]
  unfold Link.poll
  rw [hnotices]
  split
  · exact ⟨rfl, h⟩
  · refine ⟨congrArg Except.ok htaken, ?_, h.channel, hsimulator, h.directory⟩
    show { l' with notices := _ } = _
    rw [h.link]
    rfl

end Matches
end Link

/-! ### Clients

The waits of a command are where the policies differ. During a wait a client only looks, and looking
is sound: what it learns is the controller's own status. That is what holds the twins together
however long each of them waits.
-/

namespace Client

variable {c c₁ c' c₁' : Client Simulated.transport} {w w₁ w' w₁' : World} {last edits : Nat}

/-- **Two clients that send the same**, each with the world around it. What they know of their
controllers may differ as long as they can look. -/
structure Twins (last edits : Nat) (c : Client Simulated.transport) (w : World)
    (c' : Client Simulated.transport) (w' : World) : Prop where
  serial : c'.serial = c.serial
  link : c.link.Matches w c'.link w'
  sound : c.Sound last edits w
  sound' : c'.Sound last edits w'
  dark : c.link.status = none → c.status.Matches c'.status

namespace Twins

theorem dark' (h : Twins last edits c w c' w') (hopen : c.link.status.isSome = false) :
    c.status.Matches c'.status :=
  h.dark (Option.isNone_iff_eq_none.1 (Option.isSome_eq_false_iff.1 hopen))

/-- What happens around the two, to the same files. -/
theorem inWorlds (h : Twins last edits c w c' w') (hsimulator : w₁.simulator = w.simulator)
    (hsimulator' : w₁'.simulator = w'.simulator) (hdirectory : w₁'.directory = w₁.directory) :
    Twins last edits c w₁ c' w₁' :=
  ⟨h.serial, h.link.inWorlds hsimulator hsimulator' hdirectory, h.sound.around hsimulator,
    h.sound'.around hsimulator', h.dark⟩

/-- **However long each of them waits**, they stay twins. -/
theorem waits (h : Twins last edits c w c' w') (hwaits : Waits c w c₁ w₁)
    (hwaits' : Waits c' w' c₁' w₁') : Twins last edits c₁ w₁ c₁' w₁' where
  serial := by rw [hwaits.keeps.serial, hwaits'.keeps.serial, h.serial]
  link :=
    { link := by rw [hwaits'.keeps.link, hwaits.keeps.link, h.link.link]
      channel := by rw [hwaits'.steady.status, hwaits.steady.status, h.link.channel]
      simulator :=
        hwaits.quiet.simulator.symm.trans (h.link.simulator.trans hwaits'.quiet.simulator)
      directory := by rw [hwaits'.quiet.directory, hwaits.quiet.directory, h.link.directory] }
  sound := h.sound.waits hwaits
  sound' := h.sound'.waits hwaits'
  dark hclosed := by
    -- a client without a status channel waits without learning anything
    have hnone : c.link.status = none := by
      have hsteady := hwaits.steady.status
      rw [hclosed] at hsteady
      exact Option.isNone_iff_eq_none.1 (Option.isSome_eq_false_iff.1 hsteady.symm)
    have hnone' : c'.link.status = none := by
      have hchannel := h.link.channel
      rw [hnone] at hchannel
      exact Option.isNone_iff_eq_none.1 (Option.isSome_eq_false_iff.1 hchannel)
    have hstatus : c₁.status = c.status := congrArg Watch.status (hwaits.dark hnone)
    have hstatus' : c₁'.status = c'.status := congrArg Watch.status (hwaits'.dark hnone')
    rw [hstatus, hstatus']
    exact h.dark hnone

/-- **After a look they know the same**, up to how far the echoed command got. -/
theorem refresh (h : Twins last edits c w c' w') :
    (c'.refresh w').1.isOk = (c.refresh w).1.isOk ∧
      Twins last edits (c.refresh w).2.1 (c.refresh w).2.2 (c'.refresh w').2.1 (c'.refresh w').2.2 ∧
      (c.refresh w).2.1.status.Matches (c'.refresh w').2.1.status := by
  have hafter : Twins last edits (c.refresh w).2.1 (c.refresh w).2.2 (c'.refresh w').2.1
      (c'.refresh w').2.2 := h.waits (.look rfl (.done _ _)) (.look rfl (.done _ _))
  refine ⟨?_, hafter, ?_⟩
  · rw [h.sound.refresh_isOk, h.sound'.refresh_isOk, h.link.channel]
  · cases hopen : c.link.status.isSome with
    | false =>
        refine hafter.dark' ?_
        rw [(c.steady_refresh w).status]
        exact hopen
    | true =>
        rw [h.sound.current hopen, h.sound'.current (h.link.channel.trans hopen)]
        exact hafter.link.simulator.status

/-- A message to both. -/
theorem receive (h : Twins last edits c w c' w') (m : Message)
    (hlast : w.simulator.received.length < last) :
    Twins last edits c { w with simulator := w.simulator.receive m } c'
      { w' with simulator := w'.simulator.receive m } where
  serial := h.serial
  link := ⟨h.link.link, h.link.channel, h.link.simulator.receive m, h.link.directory⟩
  sound := h.sound.receive m hlast
  sound' := h.sound'.receive m (by rw [h.link.simulator.received]; exact hlast)
  dark := h.dark

/-- The next serial for both. -/
theorem spend (h : Twins last edits c w c' w') :
    Twins last edits { c with serial := c.serial + 1 } w { c' with serial := c'.serial + 1 }
      w' where
  serial := by rw [h.serial]
  link := h.link
  sound := h.sound.apart (.ofSimulator rfl rfl rfl) h.sound.clear rfl
  sound' := h.sound'.apart (.ofSimulator rfl rfl rfl) h.sound'.clear rfl
  dark := h.dark

end Twins
end Client

/-! ### Attempts

A command passes the same checks at both and is written by both or by none of them. Only then do the
policies differ, in how long each waits for the answer.
-/

/-- What happens to a command before anybody waits for it: whether it passes the checks, and whether
it is written. -/
def Attempt.fate (a : Attempt) : Command × Bool × Bool := (a.command, a.passed, a.written)

namespace Client.Twins

variable {c c₁ c' c₁' : Client Simulated.transport} {w w₁ w' w₁' : World} {last edits : Nat}
  {a a' : Attempt}

/-- **The same attempt by both**, under whichever policies. Its results may differ. -/
theorem attempt (h : Twins last edits c w c' w') {command : Command} {policy policy' : WaitPolicy}
    (hattempt : c.attempt command policy w = some (a, c₁, w₁))
    (hattempt' : c'.attempt command policy' w' = some (a', c₁', w₁'))
    (hlast : w₁.simulator.received.length ≤ last) :
    a'.fate = a.fate ∧ Twins last edits c₁ w₁ c₁' w₁' := by
  have hcan := h.link.canSend
  -- each side is refused, unsent or sent; the checks and the channel are the same for both, so six
  -- of the nine combinations contradict each other
  cases attempted hattempt with
  | refused hfault =>
      cases attempted hattempt' with
      | refused => exact ⟨rfl, h⟩
      | unsent hpassed => rw [hpassed] at hfault; cases hfault
      | sent hpassed => rw [hpassed] at hfault; cases hfault
  | unsent hpassed hcannot =>
      cases attempted hattempt' with
      | refused hfault => rw [hpassed] at hfault; cases hfault
      | unsent => exact ⟨rfl, h.spend⟩
      | sent _ hsends => rw [hcan, hcannot] at hsends; cases hsends
  | sent hpassed hsends hwaits =>
      cases attempted hattempt' with
      | refused hfault => rw [hpassed] at hfault; cases hfault
      | unsent _ hcannot => rw [hcan, hsends] at hcannot; cases hcannot
      | sent _ _ hwaits' => -- the message is among those that the controller has in the end
          have hreceived : w₁.simulator.received.length = w.simulator.received.length + 1 := by
            rw [hwaits.quiet.simulator.received]
            exact List.length_append
          have htold := h.spend.receive { serial := c.serial + 1, command } (by omega)
          rw [h.serial] at htold hwaits'
          exact ⟨rfl, htold.waits hwaits hwaits'⟩

theorem attemptRun (h : Twins last edits c w c' w') {line : Int32}
    (hattempt : c.attemptRun line w = some (a, c₁, w₁))
    (hattempt' : c'.attemptRun line w' = some (a', c₁', w₁'))
    (hlast : w₁.simulator.received.length ≤ last) :
    a'.fate = a.fate ∧ Twins last edits c₁ w₁ c₁' w₁' := by
  obtain ⟨_, hlooked, hknown⟩ := h.refresh
  unfold Client.attemptRun at hattempt hattempt'
  dsimp only at hattempt hattempt'
  rw [hknown.programOpen] at hattempt'
  split at hattempt
  · next hopen =>
      rw [if_pos hopen] at hattempt'
      exact hlooked.attempt hattempt hattempt' hlast
  · next hopen =>
      rw [if_neg hopen] at hattempt'
      cases hattempt
      cases hattempt'
      exact ⟨rfl, hlooked⟩

theorem action (h : Twins last edits c w c' w') {action : Action}
    (hattempt : action.attempt c w = some (a, c₁, w₁))
    (hattempt' : action.attempt c' w' = some (a', c₁', w₁'))
    (hlast : w₁.simulator.received.length ≤ last) :
    a'.fate = a.fate ∧ Twins last edits c₁ w₁ c₁' w₁' := by
  cases action with
  | send command => exact h.attempt hattempt hattempt' hlast
  | startJog axis command => exact h.attempt hattempt hattempt' hlast
  | runProgram => exact h.attemptRun hattempt hattempt' hlast

/-- Both take the oldest notice. -/
theorem poll (h : Twins last edits c w c' w') : (c'.poll w').1 = (c.poll w).1 ∧
    Twins last edits (c.poll w).2.1 (c.poll w).2.2 (c'.poll w').2.1 (c'.poll w').2.2 := by
  obtain ⟨htaken, hlink⟩ := h.link.poll
  have hchannel : (c.poll w).2.1.link.status = c.link.status := by
    show (c.link.poll w).2.1.status = c.link.status
    unfold Link.poll
    split <;> rfl
  refine ⟨htaken, h.serial, hlink, ?_, ?_, fun hclosed => h.dark (hchannel.symm.trans hclosed)⟩
  · exact h.sound.apart (c.apart_poll w) ((c.used_poll w).clear h.sound.clear)
      (c.link.received_poll w)
  · exact h.sound'.apart (c'.apart_poll w') ((c'.used_poll w').clear h.sound'.clear)
      (c'.link.received_poll w')

/-- **Both connect, or none of them.** -/
theorem connect (h : Twins last edits c w c' w') (hknown : c.status.Matches c'.status) :
    (c'.connect w').1 = (c.connect w).1 ∧
      Twins last edits (c.connect w).2.1 (c.connect w).2.2 (c'.connect w').2.1
        (c'.connect w').2.2 := by
  obtain ⟨hresult, hlink⟩ := h.link.connect
  obtain ⟨hreached, _⟩ := c.link.connect_channel w
  obtain ⟨hreached', _⟩ := c'.link.connect_channel w'
  refine ⟨hresult, h.serial, hlink, ?_, ?_, fun _ => hknown⟩
  · exact h.sound.apart (c.apart_connect w) ((c.used_connect w).clear h.sound.clear)
      hreached.received
  · exact h.sound'.apart (c'.apart_connect w') ((c'.used_connect w').clear h.sound'.clear)
      hreached'.received

theorem close (h : Twins last edits c w c' w') (hknown : c.status.Matches c'.status) :
    Twins last edits (c.close w).1 (c.close w).2 (c'.close w').1 (c'.close w').2 := by
  have hsimulator := (c.close_simulated w).2
  have hsimulator' := (c'.close_simulated w').2
  refine ⟨h.serial, h.link.close, ?_, ?_, fun _ => hknown⟩
  · exact h.sound.apart (c.apart_close w) (by rw [hsimulator]; exact h.sound.clear)
      (by rw [hsimulator])
  · exact h.sound'.apart (c'.apart_close w') (by rw [hsimulator']; exact h.sound'.clear)
      (by rw [hsimulator'])

end Client.Twins

/-! ### Cycles

A cycle of both is taken apart into the actions of its scan, the notices and the look at its end.
Between the actions the consoles are compared as well, since the next action is chosen from what
they remember.
-/

namespace CycleState

variable {s s' t t' : CycleState Simulated.transport} {last edits : Nat}

/-- Two cycles that have come equally far. -/
structure Twins (last edits : Nat) (s s' : CycleState Simulated.transport) : Prop where
  console : s.console.Matches s'.console
  client : s.client.Twins last edits s.world s'.client s'.world

theorem directory_after (s : CycleState Simulated.transport) (pin : InputPin) (action : Action)
    (a : Attempt) (client : Client Simulated.transport) (world : World) :
    (s.after pin action a client world).world.directory = world.directory := by
  unfold after
  split <;> rfl

/-- Whatever comes of an attempt, it changes which axis is tracked at most. -/
theorem console_after (s : CycleState Simulated.transport) (pin : InputPin) (action : Action)
    (a : Attempt) (client : Client Simulated.transport) (world : World) :
    s.console.Matches (s.after pin action a client world).console := by
  unfold after
  split <;> exact ⟨rfl, rfl, rfl, rfl⟩

theorem Twins.after {pin : InputPin} {action : Action} {a a' : Attempt}
    {client client' : Client Simulated.transport} {world world' : World} (h : Twins last edits s s')
    (hclient : client.Twins last edits world client' world') :
    Twins last edits (s.after pin action a client world)
      (s'.after pin action a' client' world') where
  console := by
    have hconsole := s.console_after pin action a client world
    have hconsole' := s'.console_after pin action a' client' world'
    exact hconsole.symm.trans (h.console.trans hconsole')
  client := by
    rw [client_after, client_after]
    refine hclient.inWorlds (s.simulator_after ..) (s'.simulator_after ..) ?_
    rw [directory_after, directory_after]
    exact hclient.link.directory

/-- **The same actions by both.** -/
theorem Twins.performs (h : Twins last edits s s') {actions : List (InputPin × Action)}
    {made made' : List (InputPin × Attempt)} (hmade : s.Performs actions made t)
    (hmade' : s'.Performs actions made' t') (hlast : t.world.simulator.received.length ≤ last) :
    made'.map (fun m => (m.1, m.2.fate)) = made.map (fun m => (m.1, m.2.fate)) ∧
      Twins last edits t t' := by
  -- by induction on the actions that the first side performs; the second performs the same list
  induction hmade generalizing s' made' with
  | nil s =>
      cases hmade'
      exact ⟨rfl, h⟩
  | @cons s t pin action a client world actions made hattempt hrest ih =>
      cases hmade' with
      | @cons _ _ _ _ a' client' world' _ _ hattempt' hrest' =>
          have hle := hrest.used.length_le  -- what comes after this attempt takes no message back
          rw [simulator_after] at hle
          obtain ⟨hfate, htwins⟩ :=
            h.client.action hattempt hattempt' (Nat.le_trans hle hlast)
          obtain ⟨hfates, hended⟩ := ih (h.after htwins) hrest' hlast
          refine ⟨?_, hended⟩
          rw [List.map_cons, List.map_cons, hfates, hfate]

theorem Twins.passNotices (h : Twins last edits s s') (n : Nat) :
    Twins last edits (s.passNotices n) (s'.passNotices n) := by
  induction n generalizing s s' with
  | zero => exact h
  | succ n ih =>
      obtain ⟨htaken, hpolled⟩ := h.client.poll
      unfold CycleState.passNotices
      generalize s.client.poll s.world = polled, s'.client.poll s'.world = polled'
        at htaken hpolled ⊢
      obtain ⟨r, client, world⟩ := polled
      obtain ⟨r', client', world'⟩ := polled'
      dsimp only at htaken hpolled
      subst htaken
      -- both polls take the same notice, and only if there was one is there another
      rcases r' with e | _ | notice
      · exact ⟨h.console, hpolled⟩
      · exact ⟨h.console, hpolled⟩
      · exact ih ⟨h.console, hpolled.inWorlds rfl rfl hpolled.link.directory⟩

/-- Refreshing is looking, and else it leaves a line in the journal at most. -/
theorem refresh_frame (s : CycleState Simulated.transport) :
    s.console.Matches s.refresh.console ∧
      s.refresh.world.directory = (s.client.refresh s.world).2.2.directory := by
  unfold refresh
  rcases s.client.refresh s.world with ⟨_ | f, client, world⟩ <;> dsimp only <;>
    exact ⟨⟨rfl, rfl, rfl, rfl⟩, by split <;> rfl⟩

/-- **After the look at the end of a cycle they know the same.** -/
theorem Twins.refresh (h : Twins last edits s s') :
    Twins last edits s.refresh s'.refresh ∧
      s.refresh.client.status.Matches s'.refresh.client.status := by
  obtain ⟨_, hlooked, hknown⟩ := h.client.refresh
  obtain ⟨hconsole, hdirectory⟩ := s.refresh_frame
  obtain ⟨hconsole', hdirectory'⟩ := s'.refresh_frame
  obtain ⟨hclient, hsimulator, _⟩ := refresh_eq (s := s) rfl
  obtain ⟨hclient', hsimulator', _⟩ := refresh_eq (s := s') rfl
  refine ⟨⟨hconsole.symm.trans (h.console.trans hconsole'), ?_⟩, ?_⟩
  · rw [hclient, hclient']
    refine hlooked.inWorlds hsimulator hsimulator' ?_
    rw [hdirectory, hdirectory']
    exact hlooked.link.directory
  · rw [hclient, hclient']
    exact hknown

end CycleState

namespace Console

/-- What a cycle leaves of the files. -/
theorem cycle_files {c c' : Console} {client client' : Client Simulated.transport}
    {bus bus' : PinBus} {w w' : World} {report : CycleReport}
    {s : CycleState Simulated.transport}
    (h : c.cycle client bus w = some (report, c', client', bus', w'))
    (hact : c.act (bus.sample w).1 client (bus.sample w).2.2 = some s) :
    w'.directory
      = ((bus.sample w).2.1.publish (s.console.outputs s.client) s.world).2.2.directory := by
  unfold cycle at h
  generalize bus.sample w = sample at h hact ⊢
  obtain ⟨now, bus₁, w₁⟩ := sample
  dsimp only at h hact ⊢
  rw [hact] at h
  cases h
  -- whether publishing failed makes a difference to the journal alone
  rcases bus₁.publish (s.console.outputs s.client) s.world with ⟨_ | _, bus₂, w₂⟩ <;> rfl

end Console

end OperatorPanel
