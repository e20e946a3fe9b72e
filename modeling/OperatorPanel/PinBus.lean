import OperatorPanel.Channel.Shared
import OperatorPanel.Link
import OperatorPanel.Pin.Output
import OperatorPanel.Pin.Sample

/-!
# Pin buses

Where samples come from and output pins go to: a bus in memory, or two segments that are shared
with panels in other processes. `<channel>_pins_out` is created here. `<channel>_pins_in` is a
panel's; until it is there, and after its writer has exited, every input is inactive.
-/

namespace OperatorPanel

/-! ### In memory -/

/-- A bus within the process. -/
structure MemoryBus where
  inputs : InputSample := .empty
  outputs : OutputPins := {}
  published : Nat := 0

namespace MemoryBus

/-- Give an input pin a value. -/
def set (b : MemoryBus) (pin : InputPin) (value : PinValue) : MemoryBus :=
  { b with inputs := b.inputs.insert pin value }

/-- Publish output pins. -/
def publish (b : MemoryBus) (out : OutputPins) : MemoryBus :=
  { b with outputs := out, published := b.published + 1 }

end MemoryBus

/-! ### In shared memory -/

/-- A bus shared with panels in other processes. -/
structure SegmentBus where
  inputSegment : String
  writer : SegmentWriter
  reader : Option SegmentReader := none
  inputs : InputSample := .empty
  published : Option OutputPins := none
  /-- The names for which a warning was given. -/
  warned : List String := []

namespace SegmentBus

/-- The size of the output segment. -/
def outputSize : Nat := 16384

/-- Create the output segment of a channel. -/
def create (channel : String) (w : World) : Except PanelError SegmentBus × World :=
  let segment := channel ++ "_pins_out"
  match w.createSegment segment outputSize with
  | (.error fault, w) =>
    (.error (.connection ("pin segment " ++ segment ++ ": " ++ fault.text)), w)
  | (.ok writer, w) =>
    (.ok { inputSegment := channel ++ "_pins_in", writer },
      w.note .info .pins "pin bus ready" [("segment", segment), ("root", w.directory.root)])

/-- Attach to the panel's segment, if it is there. -/
def attach (b : SegmentBus) (w : World) : SegmentBus × World :=
  match b.reader with
  | some _ => (b, w)
  | none =>
    match w.attachSegment b.inputSegment with
    | (.ok reader, w) =>
      ({ b with reader := some reader },
        w.note .info .pins "panel inputs attached" [("segment", b.inputSegment)])
    | (.error _, w) => (b, w)  -- no panel yet; the next sample tries again

/-- Give one warning for every unknown name that is met for the first time. -/
def warn (b : SegmentBus) (w : World) : List String → SegmentBus × World
  | [] => (b, w)
  | name :: names =>
    if b.warned.contains name then b.warn w names
    else
      warn { b with warned := name :: b.warned }
        (w.note .warn .pins "ignoring unknown input pin" [("pin", name)]) names

/-- Take over what the panel wrote. -/
def take (b : SegmentBus) (reader : SegmentReader) (w : World) : SegmentBus × World :=
  match reader.read w.directory with
  | .error _ => (b, w)
  | .ok (block, reader) =>
    let b := { b with reader := some reader }
    match Shared.slot Codec.pins .pins block with
    | .value pins =>
      let found := InputSample.ofNamed pins
      let (b, w) := b.warn w found.unknown
      ({ b with inputs := found.sample }, w)
    -- the version is taken over all the same, so a bad frame is not read twice
    | .broken _ | .empty | .foreign _ => (b, w)

/-- Look at the panel's segment. When nothing is new and the panel has exited, its segment is
given up and every input becomes inactive. -/
def look (b : SegmentBus) (w : World) : SegmentBus × World :=
  match b.reader with
  | none => (b, w)
  | some reader => -- what a panel wrote before it exited is still taken over
    if reader.hasChanged w.directory then b.take reader w
    else if reader.writerAlive w.directory then (b, w)
    else
      ({ b with reader := none, inputs := .empty },
        (w.note .warn .pins "panel input writer exited"
          [("segment", b.inputSegment)]).dropReader reader)

/-- The values of the input pins now. -/
def sample (b : SegmentBus) (w : World) : InputSample × SegmentBus × World :=
  let (b, w) := b.attach w
  let (b, w) := b.look w
  (b.inputs, b, w)

/-- Publish output pins; what was published last is not written again. -/
def publish (b : SegmentBus) (out : OutputPins) (w : World) :
    Except PanelError Unit × SegmentBus × World :=
  -- what is not a number is the same as nothing, and so is written again every time
  if b.published.any (·.same out) then (.ok (), b, w)
  else
    match Frame.encode Codec.pins .pins out.named with
    | .error fault => (.error (.protocol ("pin frame: " ++ fault.text)), b, w)
    | .ok bytes =>
      match w.writeSegment b.writer bytes with
      | (.error fault, w) =>
        (.error (.connection ("pin segment write: " ++ fault.text)), b, w)
      | (.ok writer, w) => (.ok (), { b with writer, published := some out }, w)

/-- Give up both segments. -/
def drop (b : SegmentBus) (w : World) : World :=
  let w := w.dropWriter b.writer
  match b.reader with
  | some reader => w.dropReader reader
  | none => w

end SegmentBus

/-! ### Either -/

/-- What carries the pins of a bus. -/
inductive PinCarrier where
  | memory (b : MemoryBus)
  | segment (b : SegmentBus)

namespace PinCarrier

/-- The values of the input pins now. -/
def sample (c : PinCarrier) (w : World) : InputSample × PinCarrier × World :=
  match c with
  | .memory b => (b.inputs, .memory b, w)
  | .segment b =>
    let (s, b, w) := b.sample w
    (s, .segment b, w)

/-- Publish output pins. -/
def publish (c : PinCarrier) (out : OutputPins) (w : World) :
    Except PanelError Unit × PinCarrier × World :=
  match c with
  | .memory b => (.ok (), .memory (b.publish out), w)
  | .segment b =>
    let (r, b, w) := b.publish out w
    (r, .segment b, w)

/-- Give the pins up. -/
def drop (c : PinCarrier) (w : World) : World :=
  match c with
  | .memory _ => w
  | .segment b => b.drop w

end PinCarrier

/-- A bus. -/
structure PinBus where
  carrier : PinCarrier
  /-- Publishing is refused, and nothing is carried out of it. -/
  refuses : Bool := false

namespace PinBus

/-- The values of the input pins now. -/
def sample (b : PinBus) (w : World) : InputSample × PinBus × World :=
  let (s, carrier, w) := b.carrier.sample w
  (s, { b with carrier }, w)

/-- Publish output pins. -/
def publish (b : PinBus) (out : OutputPins) (w : World) :
    Except PanelError Unit × PinBus × World :=
  if b.refuses then (.error (.connection "publish refused"), b, w)
  else
    let (r, carrier, w) := b.carrier.publish out w
    (r, { b with carrier }, w)

/-- Give the bus up. -/
def drop (b : PinBus) (w : World) : World := b.carrier.drop w

end PinBus

/-! ### What samples keep -/

namespace SegmentBus

/-- A relation that every part of a sample keeps. -/
structure Sampling (R : SegmentBus → World → SegmentBus → World → Prop) : Prop where
  refl : ∀ b w, R b w b w
  trans : ∀ {b w b₁ w₁ b' w'}, R b w b₁ w₁ → R b₁ w₁ b' w' → R b w b' w'
  attachSegment : ∀ b w, R b w b (w.attachSegment b.inputSegment).2
  dropReader : ∀ b w reader, R b w b (w.dropReader reader)
  note : ∀ b w level message fields, R b w b (w.note level .pins message fields)
  know : ∀ b w reader inputs warned, R b w { b with reader, inputs, warned } w

namespace Sampling

variable {R : SegmentBus → World → SegmentBus → World → Prop} {b : SegmentBus} {w : World}

theorem attach (h : Sampling R) : R b w (b.attach w).1 (b.attach w).2 := by
  have hattached := h.attachSegment b w
  unfold SegmentBus.attach
  split
  · exact h.refl b w
  · generalize w.attachSegment b.inputSegment = attached at hattached ⊢
    obtain ⟨_ | reader, w'⟩ := attached
    · exact hattached
    · exact h.trans (h.trans hattached (h.note ..)) (h.know b _ (some reader) b.inputs b.warned)

theorem warn (h : Sampling R) (names : List String) :
    R b w (b.warn w names).1 (b.warn w names).2 := by
  induction names generalizing b w with
  | nil => exact h.refl b w
  | cons name names ih =>
      unfold SegmentBus.warn
      split
      · exact ih
      · exact h.trans (h.trans (h.know b w b.reader b.inputs (name :: b.warned)) (h.note ..)) ih

theorem take (h : Sampling R) (reader : SegmentReader) :
    R b w (b.take reader w).1 (b.take reader w).2 := by
  unfold SegmentBus.take
  split
  · exact h.refl b w
  · next reader' _ =>
      have hread := h.know b w (some reader') b.inputs b.warned
      dsimp only
      split
      · exact h.trans (h.trans hread (h.warn _)) (h.know ..)
      all_goals exact hread

theorem look (h : Sampling R) : R b w (b.look w).1 (b.look w).2 := by
  unfold SegmentBus.look
  split
  · exact h.refl b w
  · next reader _ =>
      split
      · exact h.take reader
      · split
        · exact h.refl b w
        · exact h.trans (h.trans (h.note ..) (h.dropReader ..)) (h.know ..)

/-- So the whole sample keeps it. -/
theorem sample (h : Sampling R) (b : SegmentBus) (w : World) :
    R b w (b.sample w).2.1 (b.sample w).2.2 :=
  h.trans h.attach h.look

end Sampling
end SegmentBus

/-! ### The controller stands by -/

namespace SegmentBus

theorem simulator_sample (b : SegmentBus) (w : World) :
    (b.sample w).2.2.simulator = w.simulator := by
  have hstands : Sampling fun _ w _ w' => w'.simulator = w.simulator :=
    { refl := fun _ _ => rfl
      trans := fun h h' => h'.trans h
      attachSegment := fun _ _ => rfl
      dropReader := fun _ _ _ => rfl
      note := fun _ _ _ _ _ => rfl
      know := fun _ _ _ _ _ => rfl }
  exact hstands.sample b w

theorem simulator_publish (b : SegmentBus) (out : OutputPins) (w : World) :
    (b.publish out w).2.2.simulator = w.simulator := by
  unfold publish
  split
  · rfl
  · split
    · rfl
    · next bytes _ =>
        have hwrite := w.simulator_writeSegment b.writer bytes
        split
        · next h => rw [h] at hwrite; exact hwrite
        · next h => rw [h] at hwrite; exact hwrite

theorem simulator_drop (b : SegmentBus) (w : World) : (b.drop w).simulator = w.simulator := by
  unfold drop
  split <;> rfl

end SegmentBus

namespace PinBus

/-- Samples come from panels, and the controller has no part in them. -/
@[simp] theorem simulator_sample (b : PinBus) (w : World) :
    (b.sample w).2.2.simulator = w.simulator := by
  obtain ⟨carrier, refuses⟩ := b
  cases carrier with
  | memory b => rfl
  | segment b => exact b.simulator_sample w

@[simp] theorem simulator_publish (b : PinBus) (out : OutputPins) (w : World) :
    (b.publish out w).2.2.simulator = w.simulator := by
  obtain ⟨carrier, refuses⟩ := b
  unfold publish
  split
  · rfl
  · cases carrier with
    | memory b => rfl
    | segment b => exact b.simulator_publish out w

@[simp] theorem simulator_drop (b : PinBus) (w : World) :
    (b.drop w).simulator = w.simulator := by
  obtain ⟨carrier, refuses⟩ := b
  cases carrier with
  | memory b => rfl
  | segment b => exact b.simulator_drop w

end PinBus
end OperatorPanel
