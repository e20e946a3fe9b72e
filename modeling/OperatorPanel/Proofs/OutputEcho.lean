import OperatorPanel.Proofs.Overrides
import OperatorPanel.Proofs.Publication

/-!
# Outputs fed back as inputs

A panel may write into its segment what it has read from that of the bridge. None of the names is
that of an input, so the sample is empty and every input inactive. A console that is shown such a
sample starts nothing, but it lets go (`Console.LetsGo`): axes stop of which a jog pin was held, and
an override that stood elsewhere goes to zero.

* `Console.due_empty_iff`: what is due for a pin when a sample is empty.
* `Console.AtRest.cycle`: where nothing is held, an empty sample makes no attempt and nothing is
  held after it.
* `OutputPins.never_input`: the names of outputs, and what becomes of outputs that are fed back.
-/

namespace OperatorPanel

/-! ### Not-a-numbers count as one

Numbers that are none may differ in their bits, and nobody who reads them can tell. So what stands
under the names of outputs is compared both ways, bit by bit and with all of these taken for one.
-/

/-- All that is not a number counts as one. -/
def Number.identified (x : Number) : Number := if x.isNaN then invalid else x

def PinValue.identified : PinValue → PinValue
  | .float x => .float x.identified
  | value => value

def NamedPin.identified (pin : NamedPin) : NamedPin := { pin with value := pin.value.identified }

namespace OutputPins

def identified (out : OutputPins) : OutputPins :=
  { out with
    toolLengthOffset := out.toolLengthOffset.identified
    probeValue := out.probeValue.identified }

/-- The pins of axes are switches, and have nothing to identify. -/
theorem namedJoints_identified (index : Nat) (joints : List JointPins) :
    (namedJoints index joints).map NamedPin.identified = namedJoints index joints := by
  induction joints generalizing index with
  | nil => rfl
  | cons joint joints ih =>
      have hjoint : (joint.named index).map NamedPin.identified = joint.named index := rfl
      rw [namedJoints, List.map_append, hjoint, ih]

/-- To identify what is not a number is the same before and after naming. -/
theorem named_identified (out : OutputPins) :
    out.identified.named = out.named.map NamedPin.identified := by
  have honce : out.identified.namedOnce = out.namedOnce.map NamedPin.identified := by
    simp only [namedOnce, identified, List.map_cons, List.map_nil, NamedPin.identified,
      PinValue.identified]
  rw [named, named, List.map_append, namedJoints_identified, honce]
  rfl

/-- As inputs, outputs are an empty sample, and names that are not known. -/
theorem ofNamed_named (out : OutputPins) :
    InputSample.ofNamed out.named = ⟨.empty, out.named.map (·.name)⟩ := by
  have hunknown : (InputSample.ofNamed out.named).unknown = out.named.map (·.name) := by
    rw [InputSample.unknown_ofNamed, List.filter_eq_self]
    intro name hname
    obtain ⟨pin, hpin, rfl⟩ := List.mem_map.1 hname
    rw [out.parse?_name hpin]
    rfl
  have hsample : (InputSample.ofNamed out.named).sample = .empty :=
    (InputSample.ofNamed_eq_empty_iff _).2 fun pin hpin => out.parse?_name hpin
  rw [← hunknown, ← hsample]

/-- So the sample made of outputs is empty. -/
theorem sample_named (out : OutputPins) : (InputSample.ofNamed out.named).sample = .empty := by
  rw [ofNamed_named]

end OutputPins

/-! ### An empty sample

An empty sample is not silence. A jog pin that was held turns inactive in it, and an override stands
at zero in it, so a console may have something to send. `LetsGo` lists what that can be.
-/

/-- Both overrides stand at zero in an empty sample. -/
theorem Override.value_empty (o : Override) : o.value .empty = 0 := by
  show clamped 0 = 0
  unfold clamped
  split <;> rfl

namespace Console

/-- What the end of a pin's value makes a console send: the stop of an axis that the pin moved, and
zero for an override that stood elsewhere. -/
inductive LetsGo (c : Console) (status : Status) : InputPin → Command → Prop
  | jog {pin : InputPin} {axis : UInt8} {direction : Number} :
      pin.jog? = some (axis, direction) → c.previous.bit pin = true →
      LetsGo c status pin (stopCommand axis status)
  | override (o : Override) : c.settled 0 (c.override o) = false →
      LetsGo c status o.pin (o.command 0)

variable {T : Transport} {c c' : Console} {client client' : Client T} {bus bus' : PinBus}
  {w w' : World} {report : CycleReport} {status : Status} {pin : InputPin} {command : Command}

/-- To let go is due. -/
theorem LetsGo.due (h : c.LetsGo status pin command) :
    c.due c.previous .empty status pin = some command := by
  cases h with
  | jog hjog hheld =>
      apply due_falls hjog
      rw [InputSample.falls, InputSample.bit_empty, hheld]
      rfl
  | override o hmoved =>
      rw [due_override, Override.value_empty, hmoved]
      rfl

/-- An override that is due in an empty sample goes to zero. -/
theorem dueOverride_empty (h : c.dueOverride .empty pin = some command) :
    c.LetsGo status pin command := by
  have moved (o : Override) (hdue : c.due c.previous .empty status o.pin = some command) :
      c.LetsGo status o.pin command := by
    rw [due_override, Override.value_empty] at hdue
    split at hdue
    · cases hdue
    · next hmoved =>
        cases hdue
        exact .override o (Bool.eq_false_iff.2 hmoved)
  unfold dueOverride at h
  split at h
  · exact moved .feed h
  · exact moved .spindle h
  · cases h

/-- **What is due when a sample is empty**: to let go of what was held. -/
theorem due_empty_iff :
    c.due c.previous .empty status pin = some command ↔ c.LetsGo status pin command := by
  constructor
  · intro h
    have hstill : c.previous.rises .empty pin ≠ true := by
      rw [InputSample.rises, InputSample.bit_empty]
      exact fun hrises => by cases hrises
    cases due_cases h with
    | pressed hrises => exact absurd hrises hstill
    | start _ hrises => exact absurd hrises hstill
    | stop hjog hfalls => exact .jog hjog (Bool.and_eq_true_iff.1 hfalls).2
    | override hdue => exact dueOverride_empty hdue
  · intro h
    exact h.due

/-- **A cycle with an empty sample lets go**, and tries nothing else. -/
theorem Cycled.lets_go {acted : CycleState T} (h : c.Cycled client bus w acted c')
    (hempty : (bus.sample w).1 = .empty) :
    (∃ a, (pin, a) ∈ c.attempts client bus w ∧ a.command = command) ↔
      pin ∈ c.setup.registered ∧ c.LetsGo client.status pin command := by
  constructor
  · rintro ⟨a, ha, rfl⟩
    obtain ⟨hpin, hdue⟩ := h.due_of_attempt ha
    rw [hempty] at hdue
    exact ⟨hpin, due_empty_iff.1 hdue⟩
  · rintro ⟨hpin, hlets⟩
    apply h.attempt_of_due hpin
    rw [hempty]
    exact due_empty_iff.2 hlets

/-! ### Where nothing is held

A console that has let go of everything has nothing left to let go of, and an empty sample keeps it
so. This is the invariant of a panel that is shown nothing but outputs.
-/

/-- No pin of the machine was active, and the overrides are at zero. -/
structure AtRest (c : Console) : Prop where
  inactive : ∀ pin ∈ c.setup.registered, c.previous.bit pin = false
  overrides : ∀ o, c.override o = 0

/-- A new console is at rest. -/
theorem AtRest.new {setup : Setup} : AtRest { setup } where
  inactive pin _ := InputSample.bit_empty pin
  overrides o := by cases o <;> rfl

/-- Its overrides are settled at zero, if the least change is not below that. -/
theorem AtRest.settled (h : c.AtRest) (hepsilon : 0 ≤ c.setup.overrideEpsilon) (o : Override) :
    c.settled 0 (c.override o) = true := by
  have hzero : (0 : Number).isNaN = false ∧ (0 : Number).isFinite = true := by decide +kernel
  rw [h.overrides, Console.settled, decide_eq_true_iff]
  exact (Number.abs_sub_self_le hzero.1).2 ⟨hzero.2, hepsilon⟩

/-- **Nothing comes of empty samples where nothing is held.** -/
theorem AtRest.cycle {acted : CycleState T} (hrest : c.AtRest)
    (hepsilon : 0 ≤ c.setup.overrideEpsilon) (h : c.Cycled client bus w acted c')
    (hempty : (bus.sample w).1 = .empty) : c.attempts client bus w = [] ∧ c'.AtRest := by
  constructor
  · -- there is no attempt, since neither way to let go is open
    apply List.eq_nil_iff_forall_not_mem.2
    rintro ⟨pin, a⟩ ha
    obtain ⟨hpin, hlets⟩ := (h.lets_go hempty).1 ⟨a, ha, rfl⟩
    generalize a.command = command at hlets
    cases hlets with
    | jog _ hheld =>
        rw [hrest.inactive pin hpin] at hheld
        cases hheld
    | override o hmoved =>
        rw [hrest.settled hepsilon] at hmoved
        cases hmoved
  · constructor
    · intro pin hpin
      rw [h.setup] at hpin
      rw [h.previous, InputSample.bit_takeOver _ _ hpin, hempty]
      exact InputSample.bit_empty pin
    · intro o
      rw [h.override, hempty, Override.value_empty, hrest.overrides, ite_self]

end Console

namespace Session

/-- What was not held before the next event is not held after it. -/
theorem atRest_next {s s' : Session} {event : Event} {turn : Turn}
    (hrest : s.panel.console.AtRest) (hepsilon : 0 ≤ s.panel.console.setup.overrideEpsilon)
    (h : s.next event = some (turn, s')) (hempty : ∀ now, turn.sample = some now → now = .empty) :
    s'.panel.console.setup = s.panel.console.setup ∧ s'.panel.console.AtRest ∧
      (turn.sample.isSome → turn.attempts = []) := by
  rcases console_next h with ⟨hsample, hconsole⟩ | ⟨report, hcycle, rfl⟩
  · rw [hconsole, hsample]
    refine ⟨rfl, hrest, ?_⟩
    intro hsome
    cases hsome
  · -- only a cycle that takes a sample can change the console
    obtain ⟨w₁, hcycle⟩ := Panel.console_cycle hcycle
    obtain ⟨acted, hcycled⟩ := Console.cycled hcycle
    obtain ⟨hattempts, hrest'⟩ := hrest.cycle hepsilon hcycled (hempty _ rfl)
    refine ⟨hcycled.setup, hrest', ?_⟩
    intro _
    have hnone : s.panel.attempts s.world = [] :=
      (s.panel.attempts_console s.world).trans hattempts
    rw [hnone, List.map_nil]

/-- **A panel that is shown empty samples only never tries anything.** -/
theorem Runs.atRest {s s' : Session} {events : List Event} {turns : List Turn}
    (h : Runs s events turns s') (hrest : s.panel.console.AtRest)
    (hepsilon : 0 ≤ s.panel.console.setup.overrideEpsilon)
    (hempty : ∀ turn ∈ turns, ∀ now, turn.sample = some now → now = .empty) :
    ∀ turn ∈ turns, turn.sample.isSome → turn.attempts = [] := by
  induction h with
  | nil =>
      intro turn hturn
      cases hturn
  | cons hnext _ ih =>
      rw [List.forall_mem_cons] at hempty ⊢
      obtain ⟨hsetup, hrest', hattempts⟩ := atRest_next hrest hepsilon hnext hempty.1
      rw [← hsetup] at hepsilon
      exact ⟨hattempts, ih hrest' hepsilon hempty.2⟩

end Session

/-! ### Outputs fed back

The pins of outputs have names of their own, and a bus that reads them takes them for names it does
not know. With that everything comes down to empty samples.
-/

namespace OutputPins

open Console (LetsGo)

/-- **Outputs are never inputs**: their names are different, and what stands under them determines
the outputs, also where all that is not a number counts as one. No name is that of an input, so
that outputs are read as an empty sample, with all their names unknown, also by a bus to which they
are news. In a cycle with such a sample just that is tried which lets go of what was held; so a
panel that is shown outputs only never tries anything. -/
theorem never_input :
    (∀ out : OutputPins, (out.named.map (·.name)).Nodup ∧
      (∀ pin ∈ out.named, InputPin.parse? pin.name = none) ∧
      InputSample.ofNamed out.named = ⟨.empty, out.named.map (·.name)⟩) ∧
    (∀ a b : OutputPins, (a.named = b.named → a = b) ∧
      (a.named.map NamedPin.identified = b.named.map NamedPin.identified →
        a.identified = b.identified)) ∧
    (∀ (out : OutputPins) (b : SegmentBus) (w : World), b.news w = some out.named →
      (b.sample w).1 = .empty) ∧
    (∀ {T : Transport} {c c' : Console} {client client' : Client T} {bus bus' : PinBus}
      {w w' : World} {report : CycleReport} (out : OutputPins),
      c.cycle client bus w = some (report, c', client', bus', w') →
      (bus.sample w).1 = (InputSample.ofNamed out.named).sample →
      ∀ pin command, (∃ a, (pin, a) ∈ c.attempts client bus w ∧ a.command = command) ↔
        pin ∈ c.setup.registered ∧ c.LetsGo client.status pin command) ∧
    (∀ {settings : Settings} {bus : PinBus} {p : Panel Simulated.transport} {w : World}
      {events : List Event} {turns : List Turn} {s : Session},
      Panel.create Simulated.transport settings bus = .ok p →
      Session.Runs ⟨p, w⟩ events turns s →
      (∀ turn ∈ turns, ∀ now, turn.sample = some now →
        ∃ out : OutputPins, now = (InputSample.ofNamed out.named).sample) →
      ∀ turn ∈ turns, turn.sample.isSome → turn.attempts = []) := by
  refine ⟨?_, ?_, ?_, ?_, ?_⟩
  · intro out
    exact ⟨out.nodup_names, fun pin hpin => out.parse?_name hpin, out.ofNamed_named⟩
  · intro a b
    refine ⟨named_inj, ?_⟩
    intro h
    rw [← named_identified, ← named_identified] at h
    exact named_inj h
  · intro out b w hnews
    rw [SegmentBus.sample_of_news hnews, out.sample_named]
  · intro T c c' client client' bus bus' w w' report out hcycle hsample pin command
    obtain ⟨acted, hcycled⟩ := Console.cycled hcycle
    exact hcycled.lets_go (hsample.trans out.sample_named)
  · intro settings bus p w events turns s hcreate hruns hechoes
    obtain ⟨hvalid, setup, _, hp⟩ := Panel.create_eq_ok hcreate
    have hrest : p.console.AtRest := by
      rw [hp]
      exact .new
    have hepsilon : 0 ≤ p.console.setup.overrideEpsilon := by
      rw [(Panel.setup_of_create hcreate).2.2]
      have hmem : ("override_epsilon", settings.overrideEpsilon) ∈ settings.amounts := by
        simp [Settings.amounts]
      exact (Settings.amount_nonneg hvalid _ hmem).2
    -- the panel begins at rest, and every sample that it takes is empty
    apply hruns.atRest hrest hepsilon
    intro turn hturn now hnow
    obtain ⟨out, rfl⟩ := hechoes turn hturn now hnow
    exact out.sample_named

/-- A bus with the sample of outputs. -/
def showing (out : OutputPins) : PinBus where
  carrier := .memory { inputs := (InputSample.ofNamed out.named).sample }

/-- A bus that shows outputs is a bus without inputs. -/
theorem showing_eq (out : OutputPins) : showing out = { carrier := .memory {} } := by
  rw [showing, sample_named]

/-- A panel asks for half the feed, and then its inputs are outputs. -/
def fedBack (out : OutputPins) : List Event :=
  [.startup, .work (.pins (Console.overriding .feed 0.5)), .work .cycle,
    .work (.pins (showing out))]

/-- The next cycle takes the feed to zero. -/
theorem fedBack_plays (out : OutputPins) :
    ∃ p turns s report p' w',
      Panel.create Simulated.transport {} { carrier := .memory {} } = .ok p ∧
      Session.Runs ⟨p, .echoing 7⟩ (fedBack out) turns s ∧
      s.panel.sampled s.world = (InputSample.ofNamed out.named).sample ∧
      s.panel.cycle s.world = some (report, p', w') ∧
      s.panel.console.settled 0 (s.panel.console.override .feed) = false ∧
      w'.simulator.received = s.world.simulator.received ++ [⟨9, .setFeedScale 0⟩] := by
  have hplays : Panel.Plays (fedBack out) fun _ _ s => decide (
        s.panel.sampled s.world = .empty ∧
        s.panel.console.settled 0 (s.panel.console.override .feed) = false) &&
      (s.panel.cycle s.world).any fun after => decide (after.2.2.simulator.received
        = s.world.simulator.received ++ [⟨9, .setFeedScale 0⟩]) := by
    -- the outputs that are shown vary; only their sample, which is empty, is computed with
    rw [fedBack, showing_eq]
    decide +kernel
  obtain ⟨p, turns, s, hcreate, hruns, hholds⟩ := hplays.runs
  obtain ⟨hbefore, hcycles⟩ := Bool.and_eq_true_iff.1 hholds
  obtain ⟨hsample, hmoved⟩ := of_decide_eq_true hbefore
  obtain ⟨⟨report, p', w'⟩, hcycle, hafter⟩ := (Option.any_eq_true _ _).1 hcycles
  have hreceived := of_decide_eq_true hafter
  exact ⟨p, turns, s, report, p', w', hcreate, hruns, hsample.trans out.sample_named.symm, hcycle,
    hmoved, hreceived⟩

/-- A segment may hold outputs that are news to a bus. -/
theorem news_of_outputs (out : OutputPins) (h : out.joints.length ≤ maxAxes) :
    ∃ (b : SegmentBus) (w : World), b.news w = some out.named := by
  -- a directory in which one process owns the only file
  let d : Directory := { root := "", self := 77, alive := fun _ => true }
  have hlength : (Contents.zeros 8192).bytes.length = 8192 := List.length_replicate
  have hfits : 0 + out.frame.length ≤ (Contents.zeros 8192).bytes.length := by
    have hframe := length_frame_le h
    omega
  have hnew : (d.newFile 8192).Holds d.self (.zeros 8192) := .newFile (by decide)
  have hholds := hnew.write hfits d.now
  -- the file after the write is named, so that its bytes are not unfolded
  generalize hfile : { (d.newFile 8192) with
    header := { (d.newFile 8192).header.advance.advance with lastWrite := d.now }
    data := (d.newFile 8192).data.write 0 out.frame } = file at hholds
  let w : World := { simulator := { status := {} }, directory := { d with files := [file] } }
  let r : SegmentReader := { name := "p_pins_in", number := 0, size := 8192 }
  -- the frame reads back as the outputs it was written for
  have hpins : ((Contents.zeros 8192).write 0 out.frame).pins = some out.named := by
    rw [Contents.pins, Contents.write, List.take_zero, List.nil_append, ((frame_spec h).2 _).2]
    rfl
  have hsize : r.size = ((Contents.zeros 8192).write 0 out.frame).bytes.length := by
    rw [Contents.length_write hfits, hlength]
  have hholds : (w.directory.file r.number).Holds 77 _ := hholds
  have hnews : r.news w.directory = some out.named := by
    rw [r.news_eq hholds hsize rfl (Nat.zero_le _), hpins]
    rfl
  exact ⟨{ inputSegment := "p_pins_in"
           writer := { name := "", file := "", number := 1, size := 16384 }
           reader := some r }, w, hnews⟩

/-- Outputs are fed back: to a bus that reads them in a segment, to a panel at half the feed, which
goes to zero, and to a panel that has shown nothing else, which does nothing. -/
theorem never_input_fed_back :
    (∃ (b : SegmentBus) (w : World), b.news w = some ({} : OutputPins).named ∧
      (b.sample w).1 = .empty) ∧
    (∃ p turns s a, Panel.create Simulated.transport {} { carrier := .memory {} } = .ok p ∧
      Session.Runs ⟨p, .echoing 7⟩ (fedBack {}) turns s ∧
      (Override.feed.pin, a) ∈ s.panel.attempts s.world ∧ a.command = .setFeedScale 0) ∧
    ∃ p turn s, Panel.create Simulated.transport {} (showing {}) = .ok p ∧
      Session.Runs ⟨p, .echoing 7⟩ [.work .cycle] [turn] s ∧ turn.attempts = [] := by
  obtain ⟨-, -, hnone, hlets, hnever⟩ := never_input
  refine ⟨?_, ?_, ?_⟩
  · -- the outputs are on the panel's segment, and no input gets a value
    obtain ⟨b, w, hnews⟩ := news_of_outputs {} (by decide)
    exact ⟨b, w, hnews, hnone _ b w hnews⟩
  · obtain ⟨p, turns, s, report, p', w', hcreate, hruns, hsample, hcycle, hmoved, -⟩ :=
      fedBack_plays {}
    obtain ⟨w₁, hconsole⟩ := Panel.console_cycle hcycle
    -- an override away from its value is due, whatever feeds the sample
    have hpin : Override.feed.pin ∈ s.panel.console.setup.registered :=
      Override.pin_registered _ _ _
    obtain ⟨a, ha, hcommand⟩ :=
      (hlets {} hconsole hsample _ _).2 ⟨hpin, .override .feed hmoved⟩
    exact ⟨p, turns, s, a, hcreate, hruns, ha, hcommand⟩
  · -- a run from the start: all samples come from outputs, so nothing is attempted
    have hplays : Panel.Plays [.work .cycle] fun _ turns _ =>
        decide (turns.map (·.sample) = [some .empty]) := by
      decide +kernel
    obtain ⟨p, turns, s, hcreate, hruns, hholds⟩ := hplays.runs
    rw [← showing_eq {}] at hcreate
    obtain ⟨turn, rest, rfl, hsample, hrest⟩ := List.map_eq_cons_iff.1 (of_decide_eq_true hholds)
    cases List.map_eq_nil_iff.1 hrest
    refine ⟨p, turn, s, hcreate, hruns, ?_⟩
    apply hnever hcreate hruns _ turn (List.mem_singleton_self turn)
    · rw [hsample]
      rfl
    · intro turn' hturn' now hnow
      cases List.mem_singleton.1 hturn'
      rw [hsample] at hnow
      cases hnow
      exact ⟨{}, (sample_named {}).symm⟩

/-- **Outputs that are fed back may end what was held**: the feed was one half, and the cycle that
is shown outputs sets it to zero. -/
theorem fed_back_lets_go :
    ∃ p turns s report p' w',
      Panel.create Simulated.transport {} { carrier := .memory {} } = .ok p ∧
      Session.Runs ⟨p, .echoing 7⟩ (fedBack {}) turns s ∧
      s.panel.sampled s.world = (InputSample.ofNamed ({} : OutputPins).named).sample ∧
      s.panel.cycle s.world = some (report, p', w') ∧
      w'.simulator.received = s.world.simulator.received ++ [⟨9, .setFeedScale 0⟩] := by
  obtain ⟨p, turns, s, report, p', w', hcreate, hruns, hsample, hcycle, -, hreceived⟩ :=
    fedBack_plays {}
  exact ⟨p, turns, s, report, p', w', hcreate, hruns, hsample, hcycle, hreceived⟩

end OutputPins
end OperatorPanel
