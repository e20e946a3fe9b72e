import OperatorPanel.Console.Outputs
import OperatorPanel.Proofs.Delivery
import OperatorPanel.Proofs.OutputNames

/-!
# Published outputs

A bus remembers the outputs that it wrote last, and does not write outputs again that are the same.
So what stands in its segment may differ from what was published last, but only where numbers are
equal and have different bits, the two zeros.

* `OutputPins.length_frame_le`: outputs of as many axes as there may be take at most 6148 bytes, so
  every frame fits.
* `SegmentBus.Presents.publish`: what one call of `publish` comes to.
* `SegmentBus.outputs_current`: whatever was published, the segment shows the last outputs, and it
  is written just when they were new.
-/

namespace OperatorPanel

/-! ### The same outputs

Outputs are compared number by number, and a number that is none is not the same as itself. So
sameness is symmetric and transitive and not reflexive, and outputs stand for themselves only
because this is said in addition.
-/

theorem Number.same_comm (x y : Number) : x.same y = y.same x := by
  rw [Bool.eq_iff_iff]
  simp only [same, Bool.and_eq_true, decide_eq_true_eq]
  constructor
  all_goals rintro ⟨⟨hx, hy⟩, hrank⟩; exact ⟨⟨hy, hx⟩, hrank.symm⟩

theorem Number.same_trans {x y z : Number} (h : x.same y = true) (h' : y.same z = true) :
    x.same z = true := by
  simp only [same, Bool.and_eq_true, decide_eq_true_eq] at h h' ⊢
  exact ⟨⟨h.1.1, h'.1.2⟩, h.2.trans h'.2⟩

namespace OutputPins

variable {a b c out : OutputPins}

theorem same_comm (a b : OutputPins) : a.same b = b.same a := by
  unfold same
  rw [a.toolLengthOffset.same_comm, a.probeValue.same_comm]
  congr 2
  exact decide_eq_decide.2 eq_comm

theorem same_trans (h : a.same b = true) (h' : b.same c = true) : a.same c = true := by
  unfold same at h h' ⊢
  rw [Bool.and_eq_true, Bool.and_eq_true, decide_eq_true_iff] at h h' ⊢
  exact ⟨⟨h.1.1.trans h'.1.1, Number.same_trans h.1.2 h'.1.2⟩, Number.same_trans h.2 h'.2⟩

/-- Outputs that stand for others: they are these, or the same as these. -/
def StandsFor (shown out : OutputPins) : Prop := shown = out ∨ shown.same out = true

/-- What is the same as some outputs is the same as what they stand for. -/
theorem StandsFor.same_eq {shown : OutputPins} (h : shown.StandsFor a) (b : OutputPins) :
    shown.same b = a.same b := by
  obtain rfl | hsame := h
  · rfl
  · rw [Bool.eq_iff_iff]
    constructor
    · intro hb
      rw [same_comm] at hsame
      exact same_trans hsame hb
    · exact same_trans hsame

/-! ### How long frames of outputs are

The length of a frame is bounded by the number of pins and the length of their names. Names of
outputs come from a short list and the numbers of axes, so a bound that holds for all of them is
soon found; that it is generous does no harm in a segment of 16384 bytes.
-/

/-- No name of a pin takes more bytes than this. -/
def nameLimit : Nat := 64

theorem name_namedOnce {pin : NamedPin} (h : pin ∈ out.namedOnce) :
    pin.name.utf8ByteSize ≤ nameLimit := by
  have hall : ∀ name ∈ onceNames, name.utf8ByteSize ≤ nameLimit := by decide +kernel
  have hname : pin.name ∈ out.namedOnce.map (·.name) := List.mem_map_of_mem h
  rw [map_name_namedOnce] at hname
  exact hall pin.name hname

theorem name_joint {pin : NamedPin} {joint : JointPins} {index : Nat} (hindex : index < maxAxes)
    (h : pin ∈ joint.named index) : pin.name.utf8ByteSize ≤ nameLimit := by
  have hall : ∀ i < maxAxes, ∀ name ∈ JointPins.signals.map (JointPins.fullName i),
      name.utf8ByteSize ≤ nameLimit := by
    decide +kernel
  have hname : pin.name ∈ (joint.named index).map (·.name) := List.mem_map_of_mem h
  rw [JointPins.map_name_named] at hname
  exact hall index hindex pin.name hname

theorem name_namedJoints {joints : List JointPins} {index : Nat} {pin : NamedPin}
    (hindex : index + joints.length ≤ maxAxes) (h : pin ∈ namedJoints index joints) :
    pin.name.utf8ByteSize ≤ nameLimit := by
  induction joints generalizing index with
  | nil => cases h
  | cons joint joints ih =>
      rw [List.length_cons] at hindex
      rcases List.mem_append.1 h with hfirst | hrest
      · exact name_joint (by omega) hfirst
      · exact ih (by omega) hrest

theorem length_namedJoints (index : Nat) (joints : List JointPins) :
    (namedJoints index joints).length = 6 * joints.length := by
  induction joints generalizing index with
  | nil => rfl
  | cons joint joints ih =>
      rw [namedJoints, List.length_append, ih, List.length_cons, JointPins.named]
      simp only [List.length_cons, List.length_nil]
      omega

end OutputPins

namespace Codec

/-- The number of the kind, and a float at most. -/
theorem atMost_pinValue : pinValue.AtMost 12 := by
  intro value
  cases value with
  | bit b => exact (by decide : 5 ≤ 12)
  | word n => exact (by decide : 6 ≤ 12)
  | float x => exact (by decide : 12 ≤ 12)

/-- A list takes no more than its values. -/
theorem length_list_le {α : Type} (codec : Codec α) {limit : Nat} {xs : List α}
    (h : ∀ x ∈ xs, (codec.write x).length ≤ limit) :
    ((list codec).write xs).length ≤ 8 + xs.length * limit := by
  rw [length_list]
  induction xs with
  | nil => simp
  | cons x xs ih =>
      have hfirst := h x List.mem_cons_self
      have hrest := ih fun y hy => h y (List.mem_cons_of_mem _ hy)
      rw [List.flatMap_cons, List.length_append, List.length_cons, Nat.succ_mul]
      omega

end Codec

namespace OutputPins

variable {out : OutputPins}

theorem length_write_le (h : out.joints.length ≤ maxAxes) :
    (Codec.pins.write out.named).length ≤ 6140 := by
  -- nineteen pins stand once, and six for every joint
  have hlength : out.named.length = 19 + 6 * out.joints.length := by
    rw [named, List.length_append, length_namedJoints]
    rfl
  have hall : (Codec.pins.write out.named).length ≤ 8 + out.named.length * 84 := by
    refine Codec.length_list_le _ fun pin hpin => ?_
    -- no name is longer than the limit, whichever joint it is of
    have hname : pin.name.utf8ByteSize ≤ nameLimit := by
      rcases List.mem_append.1 hpin with honce | hjoint
      · exact name_namedOnce honce
      · exact name_namedJoints (by omega) hjoint
    have hvalue := Codec.atMost_pinValue pin.value
    show (Codec.text.write pin.name ++ Codec.pinValue.write pin.value).length ≤ 84
    rw [List.length_append, Codec.length_text]
    unfold nameLimit at hname
    omega
  have haxes : maxAxes = 9 := rfl
  refine Nat.le_trans hall ?_
  rw [hlength]
  omega

/-- The bytes that stand for outputs in a segment. -/
def frame (out : OutputPins) : List UInt8 := Stage.frameOf out.named

theorem frame_spec (h : out.joints.length ≤ maxAxes) :
    Frame.encode Codec.pins .pins out.named = .ok out.frame ∧
      ∀ behind, Frame.typeOf (out.frame ++ behind) = .pins ∧
        Frame.decode Codec.pins .pins (out.frame ++ behind) = .ok out.named :=
  Frame.spec Codec.readsBack_pins .pins (Nat.lt_of_le_of_lt (length_write_le h) (by decide))

/-- **A frame of outputs takes at most 6148 bytes.** -/
theorem length_frame_le (h : out.joints.length ≤ maxAxes) : out.frame.length ≤ 6148 := by
  have hbody := length_write_le h
  have hheader : Frame.headerLength = 8 := rfl
  rw [Frame.length_encode (frame_spec h).1]
  omega

/-! ### How many axes outputs have

A bridge never shows more axes than there may be, whatever its status says.
-/

theorem length_inactive (axes : Nat) : (inactive axes).joints.length ≤ maxAxes := by
  rw [inactive, List.length_replicate]
  exact Nat.min_le_right axes maxAxes

theorem length_ofStatus (s : Status) (display : Display) (axes : Nat) :
    (ofStatus s display axes).joints.length ≤ maxAxes := by
  rw [ofStatus, List.length_map, List.length_range]
  exact Nat.min_le_right axes maxAxes

end OutputPins

/-! ### What happens around a segment

What others do in the directory while a bus has its segment: they attach and detach, and they have
files of their own. The segment is found again as it was, but for the count of readers.
-/

/-- Nobody but its writer has touched the file of a segment between the two. Readers may have come
and gone, and other files may have changed. -/
structure Directory.Spares (d : Directory) (writer : SegmentWriter) (d' : Directory) : Prop where
  find : d'.find writer.name = d.find writer.name
  files : d.files.length ≤ d'.files.length
  file : ∃ count, d'.file writer.number
    = { d.file writer.number with
        header := { (d.file writer.number).header with readerCount := count } }

namespace Directory.Spares

variable {d d₁ d' : Directory} {writer : SegmentWriter}

theorem refl (d : Directory) (writer : SegmentWriter) : d.Spares writer d :=
  ⟨rfl, Nat.le_refl _, _, rfl⟩

theorem trans (h : d.Spares writer d₁) (h' : d₁.Spares writer d') : d.Spares writer d' := by
  obtain ⟨count, hfile⟩ := h.file
  obtain ⟨count', hfile'⟩ := h'.file
  refine ⟨h'.find.trans h.find, Nat.le_trans h.files h'.files, count', ?_⟩
  rw [hfile', hfile]

/-- Counting readers, of this file or another. -/
theorem recount (d : Directory) (writer : SegmentWriter) (number : Nat)
    {f : SegmentHeader → SegmentHeader} (hf : ∀ h, ∃ count, f h = { h with readerCount := count }) :
    d.Spares writer (d.modifyHeader number f) := by
  refine ⟨rfl, Nat.le_of_eq (length_modify ..).symm, ?_⟩
  obtain ⟨count, hcount⟩ := hf (d.file writer.number).header
  unfold modifyHeader
  rw [file_modify]
  split
  · exact ⟨count, by rw [hcount]⟩
  · exact ⟨_, rfl⟩

theorem addReader (d : Directory) (writer : SegmentWriter) (number : Nat) :
    d.Spares writer (d.modifyHeader number (·.addReader)) :=
  recount d writer number fun _ => ⟨_, rfl⟩

theorem removeReader (d : Directory) (writer : SegmentWriter) (number : Nat) :
    d.Spares writer (d.modifyHeader number (·.removeReader)) :=
  recount d writer number fun _ => ⟨_, rfl⟩

/-- Attaching counts a reader, if it does anything. -/
theorem attachSegment (w : World) (writer : SegmentWriter) (name : String) :
    w.directory.Spares writer (w.attachSegment name).2.directory := by
  have hattached := w.directory_attachSegment name
  generalize w.attachSegment name = attached at hattached ⊢
  obtain ⟨fault | reader, w'⟩ := attached
  · dsimp only at hattached ⊢
    rw [hattached]
    exact .refl _ _
  · dsimp only at hattached ⊢
    rw [hattached]
    exact .addReader _ _ _

end Directory.Spares

namespace SegmentBus

/-- What a bus does apart from publishing: what it has published stays. -/
structure Rests (b : SegmentBus) (w : World) (b' : SegmentBus) (w' : World) : Prop where
  writer : b'.writer = b.writer
  published : b'.published = b.published
  spares : w.directory.Spares b.writer w'.directory

namespace Rests

variable {b b₁ b' : SegmentBus} {w w₁ w' : World}

theorem trans (h : b.Rests w b₁ w₁) (h' : b₁.Rests w₁ b' w') : b.Rests w b' w' where
  writer := h'.writer.trans h.writer
  published := h'.published.trans h.published
  spares := h.spares.trans (h.writer ▸ h'.spares)

/-- A sample leaves alone what was published. -/
theorem sample (b : SegmentBus) (w : World) : b.Rests w (b.sample w).2.1 (b.sample w).2.2 := by
  have hrests : Sampling Rests :=
    { refl := fun _ _ => ⟨rfl, rfl, .refl _ _⟩
      trans := .trans
      attachSegment := fun b w => ⟨rfl, rfl, .attachSegment w b.writer b.inputSegment⟩
      dropReader := fun _ _ _ => ⟨rfl, rfl, .removeReader _ _ _⟩
      note := fun _ _ _ _ _ => ⟨rfl, rfl, .refl _ _⟩
      know := fun _ _ _ _ _ => ⟨rfl, rfl, .refl _ _⟩ }
  exact hrests.sample b w

end Rests

/-! ### What a bus presents

The outputs that a bus remembers are the ones that it wrote last, and those stand for the ones that
it was given last. The segment holds the frame of the ones that it remembers.
-/

/-- After these calls of `publish` the segment of a bus holds these contents. -/
structure Presents (channel : String) (calls : List OutputPins) (c : Contents) (b : SegmentBus)
    (w : World) : Prop where
  name : b.writer.name = channel ++ "_pins_out"
  find : ∃ m, w.directory.find b.writer.name = .ok [m] ∧ m.number = b.writer.number
  inside : b.writer.number < w.directory.files.length
  holds : ∃ pid, (w.directory.file b.writer.number).Holds pid c
  size : b.writer.size = c.bytes.length
  room : c.bytes.length = outputSize
  idle : calls = [] → b.published = none
  current : ∀ last, calls.getLast? = some last →
    ∃ shown, b.published = some shown ∧ shown.StandsFor last
  shows : ∀ shown, b.published = some shown →
    shown.joints.length ≤ maxAxes ∧ ∃ rest, c.bytes = shown.frame ++ rest

namespace Presents

variable {channel : String} {calls : List OutputPins} {c : Contents} {b b' : SegmentBus}
  {w w' : World} {out : OutputPins}

/-- **Nothing changes while nothing is published.** -/
theorem rests (h : Presents channel calls c b w) (hrests : b.Rests w b' w') :
    Presents channel calls c b' w' := by
  obtain ⟨m, hfind, hnumber⟩ := h.find
  obtain ⟨pid, hholds⟩ := h.holds
  obtain ⟨count, hfile⟩ := hrests.spares.file
  -- the file is found again under the same name, and holds what it held up to the count of readers
  refine ⟨?_, ⟨m, ?_, ?_⟩, ?_, ⟨pid, ?_⟩, ?_, h.room, ?_, ?_, ?_⟩
  · rw [hrests.writer]
    exact h.name
  · rw [hrests.writer, hrests.spares.find]
    exact hfind
  · rw [hrests.writer]
    exact hnumber
  · rw [hrests.writer]
    exact Nat.lt_of_lt_of_le h.inside hrests.spares.files
  · rw [hrests.writer, hfile]
    exact hholds.count count
  · rw [hrests.writer]
    exact h.size
  · rw [hrests.published]
    exact h.idle
  · rw [hrests.published]
    exact h.current
  · rw [hrests.published]
    exact h.shows

/-- Whether outputs are written again depends on those that were published last. -/
theorem skips (h : Presents channel calls c b w) (out : OutputPins) :
    b.published.any (·.same out) = calls.getLast?.any (·.same out) := by
  cases hlast : calls.getLast? with
  | none =>
      rw [h.idle (List.getLast?_eq_none_iff.1 hlast)]
  | some last =>
      obtain ⟨shown, hpublished, hstands⟩ := h.current last hlast
      rw [hpublished, Option.any_some, Option.any_some, hstands.same_eq]

/-- **One call of publish.** It succeeds; outputs that are the same as the last ones are not written
again. -/
theorem publish (h : Presents channel calls c b w) (hout : out.joints.length ≤ maxAxes) :
    ∃ b' w', b.publish out w = (.ok (), b', w') ∧ b'.writer.number = b.writer.number ∧
      Presents channel (calls ++ [out])
        (if calls.getLast?.any (·.same out) then c else c.write 0 out.frame) b' w' := by
  have hskips := h.skips out
  unfold SegmentBus.publish
  rw [hskips]
  split
  · -- the same outputs are not written, so what is shown stands for them through those from before
    next hsame =>
      refine ⟨b, w, rfl, rfl, ?_⟩
      refine ⟨h.name, h.find, h.inside, h.holds, h.size, h.room, ?_, ?_, h.shows⟩
      · intro hnil
        simp at hnil
      · rintro last hlast
        rw [List.getLast?_concat] at hlast
        cases hlast
        obtain ⟨before, hbefore, hsame⟩ := (Option.any_eq_true _ _).1 hsame
        obtain ⟨shown, hpublished, hstands⟩ := h.current before hbefore
        refine ⟨shown, hpublished, .inr ?_⟩
        rw [hstands.same_eq]
        exact hsame
  · -- new outputs are written over the old ones, of which an end may stay behind
    obtain ⟨m, hfind, hnumber⟩ := h.find
    obtain ⟨pid, hholds⟩ := h.holds
    have hlength := OutputPins.length_frame_le hout
    have hsize : outputSize = 16384 := rfl
    have hfits : 0 + out.frame.length ≤ c.bytes.length := by
      rw [h.room]
      omega
    obtain ⟨hwrite, hholds'⟩ := SegmentWriter.writeAt_of_fits h.inside h.size hholds hfits
    rw [(OutputPins.frame_spec hout).1]
    dsimp only
    unfold World.writeSegment SegmentWriter.write
    rw [hwrite]
    refine ⟨_, _, rfl, rfl, ?_⟩
    refine ⟨h.name, ⟨m, hfind, hnumber⟩, ?_, ⟨pid, hholds'⟩, ?_, ?_, ?_, ?_, ?_⟩
    · exact Nat.lt_of_lt_of_eq h.inside (Directory.length_modify ..).symm
    · rw [Contents.length_write hfits]
      exact h.size
    · rw [Contents.length_write hfits]
      exact h.room
    · intro hnil
      simp at hnil
    · intro last hlast
      rw [List.getLast?_concat] at hlast
      cases hlast
      exact ⟨out, rfl, .inl rfl⟩
    · intro shown hshown
      cases hshown
      refine ⟨hout, c.bytes.drop (0 + out.frame.length), ?_⟩
      rw [Contents.write, List.take_zero, List.nil_append]

/-- A new bus presents nothing. -/
theorem created {w₁ : World}
    (h : SegmentBus.create channel w = (.ok b, w₁)) :
    Presents channel [] (.zeros outputSize) b w₁ := by
  unfold SegmentBus.create at h
  dsimp only at h
  split at h
  · cases h
  · -- the new segment is empty, and as large as outputs may be
    next writer w' hmade =>
      obtain ⟨hresult, hdirectory⟩ := World.createSegment_eq_ok hmade
      have htells := Segment.Ledger.Tells.created hresult
      rw [← hdirectory] at htells
      cases h
      exact
        { name := congrArg (·.name) (Directory.create_eq_ok hresult).writer
          find := htells.find
          inside := htells.inside
          holds := htells.holds
          size := htells.size
          room := List.length_replicate
          idle := fun _ => rfl
          current := by
            intro last hlast
            rw [List.getLast?_nil] at hlast
            cases hlast
          shows := by
            intro shown hshown
            cases hshown }

/-- Everyone reads the outputs that were written last. -/
theorem read (h : Presents channel calls c b w) {shown : OutputPins}
    (hshown : b.published = some shown) {reader : SegmentReader}
    (hnumber : reader.number = b.writer.number) (hsize : reader.size = b.writer.size) :
    ∃ block reader', reader.read w.directory = .ok (block, reader') ∧
      Frame.typeOf block.toList = .pins ∧
      Frame.decode Codec.pins .pins block.toList = .ok shown.named := by
  obtain ⟨hfew, rest, hbytes⟩ := h.shows shown hshown
  obtain ⟨pid, hholds⟩ := h.holds
  rw [← hnumber] at hholds
  obtain ⟨block, hread, hblock⟩ := SegmentReader.read_eq (hsize.trans h.size) hholds
  obtain ⟨htype, hdecode⟩ := (OutputPins.frame_spec hfew).2 rest
  rw [← hbytes, ← hblock] at htype hdecode
  exact ⟨block, _, hread, htype, hdecode⟩

/-- One can always attach, and is then a reader like any other. -/
theorem attach (h : Presents channel calls c b w) :
    ∃ reader w', w.attachSegment (channel ++ "_pins_out") = (.ok reader, w') ∧
      reader.number = b.writer.number ∧ reader.size = b.writer.size ∧
      Presents channel calls c b w' := by
  obtain ⟨m, hfind, hnumber⟩ := h.find
  obtain ⟨pid, hholds⟩ := h.holds
  rw [← h.name]
  have hrests : b.Rests w b (w.attachSegment b.writer.name).2 :=
    ⟨rfl, rfl, .attachSegment w b.writer b.writer.name⟩
  have hafter := h.rests hrests
  have hattach := Directory.attach_eq hfind (hnumber ▸ hholds)
  unfold World.attachSegment at hafter ⊢
  rw [hattach] at hafter ⊢
  exact ⟨_, _, rfl, hnumber, h.size.symm, hafter⟩

end Presents

/-! ### Histories

Publishing, sampling and what others do come in any order, and of the published outputs only those
that were given to `publish` are counted.
-/

/-- What may happen to a bus: outputs are published, samples are taken, and meanwhile others do
what spares its segment. -/
inductive History (b : SegmentBus) (w : World) : List OutputPins → SegmentBus → World → Prop
  | opened : History b w [] b w
  | published {calls : List OutputPins} {b₁ : SegmentBus} {w₁ : World} (out : OutputPins) :
      History b w calls b₁ w₁ →
      History b w (calls ++ [out]) (b₁.publish out w₁).2.1 (b₁.publish out w₁).2.2
  | sampled {calls : List OutputPins} {b₁ : SegmentBus} {w₁ : World} :
      History b w calls b₁ w₁ → History b w calls (b₁.sample w₁).2.1 (b₁.sample w₁).2.2
  | around {calls : List OutputPins} {b₁ : SegmentBus} {w₁ w₂ : World} :
      History b w calls b₁ w₁ → w₁.directory.Spares b₁.writer w₂.directory →
      History b w calls b₁ w₂

variable {channel : String} {w w₁ w₂ : World} {b b₂ : SegmentBus} {calls : List OutputPins}

/-- At every point of a history the bus presents its calls. -/
theorem History.presents (hcreate : SegmentBus.create channel w = (.ok b, w₁))
    (h : History b w₁ calls b₂ w₂) (hfew : ∀ out ∈ calls, out.joints.length ≤ maxAxes) :
    ∃ c, Presents channel calls c b₂ w₂ := by
  -- by induction on the history; only a publication changes what is shown
  induction h with
  | opened => exact ⟨_, .created hcreate⟩
  | published out _ ih =>
      obtain ⟨c, hpresents⟩ := ih fun out' hout' => hfew out' (List.mem_append_left _ hout')
      have hout := hfew out (List.mem_append_right _ (List.mem_singleton_self out))
      obtain ⟨b', w', hpublish, _, hafter⟩ := hpresents.publish hout
      rw [hpublish]
      exact ⟨_, hafter⟩
  | sampled _ ih =>
      obtain ⟨c, hpresents⟩ := ih hfew
      exact ⟨c, hpresents.rests (.sample ..)⟩
  | around _ hspares ih =>
      obtain ⟨c, hpresents⟩ := ih hfew
      exact ⟨c, hpresents.rests ⟨rfl, rfl, hspares⟩⟩

/-- **Published outputs are current.** Take a bus that was created in any directory, and any history
in which it published outputs of at most as many axes as there may be, which all outputs have that
the bridge shows.

Then the segment holds a frame of pins for everyone who is attached or attaches, and it is decoded
to the outputs that were published last, or to ones that are the same. Publishing again succeeds;
the version of the segment goes up by two if the outputs are not the same as the last ones, or are
the first, and stays if they are. -/
theorem outputs_current (hcreate : SegmentBus.create channel w = (.ok b, w₁))
    (hhistory : History b w₁ calls b₂ w₂) (hfew : ∀ out ∈ calls, out.joints.length ≤ maxAxes) :
    (∀ axes, (OutputPins.inactive axes).joints.length ≤ maxAxes) ∧
    (∀ s display axes, (OutputPins.ofStatus s display axes).joints.length ≤ maxAxes) ∧
    (∀ last, calls.getLast? = some last → ∃ shown : OutputPins, shown.StandsFor last ∧
      (∀ reader : SegmentReader,
        reader.number = b₂.writer.number → reader.size = b₂.writer.size →
        ∃ block reader', reader.read w₂.directory = .ok (block, reader') ∧
          Frame.typeOf block.toList = .pins ∧
          Frame.decode Codec.pins .pins block.toList = .ok shown.named) ∧
      ∃ reader w₃ block reader',
        w₂.attachSegment (channel ++ "_pins_out") = (.ok reader, w₃) ∧
        reader.read w₃.directory = .ok (block, reader') ∧
        Frame.typeOf block.toList = .pins ∧
        Frame.decode Codec.pins .pins block.toList = .ok shown.named) ∧
    ∀ out : OutputPins, out.joints.length ≤ maxAxes → ∃ b₃ w₃,
      b₂.publish out w₂ = (.ok (), b₃, w₃) ∧
      (w₃.directory.file b₂.writer.number).header.version
        = (w₂.directory.file b₂.writer.number).header.version
          + if calls.getLast?.any (·.same out) then 0 else 2 := by
  obtain ⟨c, hpresents⟩ := hhistory.presents hcreate hfew
  refine ⟨OutputPins.length_inactive, OutputPins.length_ofStatus, ?_, ?_⟩
  -- both kinds of reader find the frame of the last outputs: one that has the file already, and one
  -- that attaches now
  · intro last hlast
    obtain ⟨shown, hshown, hstands⟩ := hpresents.current last hlast
    refine ⟨shown, hstands, fun _ => hpresents.read hshown, ?_⟩
    obtain ⟨reader, w₃, hattach, hnumber, hsize, hattached⟩ := hpresents.attach
    obtain ⟨block, reader', hread⟩ := hattached.read hshown hnumber hsize
    exact ⟨reader, w₃, block, reader', hattach, hread⟩
  · intro out hout
    obtain ⟨b₃, w₃, hpublish, hnumber, hafter⟩ := hpresents.publish hout
    refine ⟨b₃, w₃, hpublish, ?_⟩
    obtain ⟨pid, hbefore⟩ := hpresents.holds
    obtain ⟨pid', hholds⟩ := hafter.holds
    -- the version goes with the writes, and a publication writes once or not at all
    rw [← hnumber, hholds.version, hnumber, hbefore.version]
    split
    · exact (UInt64.add_zero _).symm
    · rw [Contents.version_write, UInt64.add_assoc]
      rfl

/-- A directory without files takes the output segment. -/
theorem create_vacant : ∃ b w, SegmentBus.create "p" Stage.vacant.world = (.ok b, w) := by
  have hname : Directory.fileName ("p" ++ "_pins_out") Stage.vacant.world.directory.self
      = "hmi_p_pins_out_77" := by
    decide +kernel
  obtain ⟨writer, hwriter⟩ := Directory.create_of_empty rfl hname rfl rfl (by decide +kernel)
    (by simp) (by decide +kernel) (show Segment.sizeFault? outputSize = none by decide)
  unfold SegmentBus.create World.createSegment
  dsimp only
  rw [hwriter]
  exact ⟨_, _, rfl⟩

/-- The outputs of three axes with this probe value. -/
def probed (value : Number) : OutputPins := { OutputPins.inactive 3 with probeValue := value }

/-- After zero and minus zero were published, the segment shows one of them; zero is not written
again, and what is not a number is. -/
theorem outputs_current_zeros : ∃ b w₁ b₂ w₂,
    SegmentBus.create "p" Stage.vacant.world = (.ok b, w₁) ∧
    History b w₁ [probed 0, probed (-0)] b₂ w₂ ∧
    (∃ reader w₃ block reader' shown, w₂.attachSegment "p_pins_out" = (.ok reader, w₃) ∧
      reader.read w₃.directory = .ok (block, reader') ∧
      Frame.decode Codec.pins .pins block.toList = .ok (OutputPins.named shown) ∧
      shown.StandsFor (probed (-0))) ∧
    (∃ b₃ w₃, b₂.publish (probed 0) w₂ = (.ok (), b₃, w₃) ∧
      (w₃.directory.file b₂.writer.number).header.version
        = (w₂.directory.file b₂.writer.number).header.version) ∧
    ∃ b₃ w₃, b₂.publish (probed ⟨0x7ff8000000000000⟩) w₂ = (.ok (), b₃, w₃) ∧
      (w₃.directory.file b₂.writer.number).header.version
        = (w₂.directory.file b₂.writer.number).header.version + 2 := by
  obtain ⟨b, w₁, hcreate⟩ := create_vacant
  obtain ⟨b₂, w₂, hhistory⟩ : ∃ b₂ w₂, History b w₁ [probed 0, probed (-0)] b₂ w₂ :=
    ⟨_, _, (History.opened.published (probed 0)).published (probed (-0))⟩
  have hfew : ∀ out ∈ [probed 0, probed (-0)], out.joints.length ≤ maxAxes := by decide +kernel
  obtain ⟨-, -, hshows, hpublish⟩ := outputs_current hcreate hhistory hfew
  refine ⟨b, w₁, b₂, w₂, hcreate, hhistory, ?_, ?_, ?_⟩
  · obtain ⟨shown, hstands, -, reader, w₃, block, reader', hattach, hread, -, hdecode⟩ :=
      hshows (probed (-0)) rfl
    exact ⟨reader, w₃, block, reader', shown, hattach, hread, hdecode, hstands⟩
  · -- minus zero is equal to zero, and what is not a number is equal to nothing
    have hskipped : [probed 0, probed (-0)].getLast?.any (·.same (probed 0)) = true := by
      decide +kernel
    obtain ⟨b₃, w₃, hok, hversion⟩ := hpublish (probed 0) (by decide +kernel)
    refine ⟨b₃, w₃, hok, hversion.trans ?_⟩
    rw [if_pos hskipped, UInt64.add_zero]
  · have hwritten : [probed 0, probed (-0)].getLast?.any (·.same (probed ⟨0x7ff8000000000000⟩))
        = false := by
      decide +kernel
    obtain ⟨b₃, w₃, hok, hversion⟩ := hpublish (probed ⟨0x7ff8000000000000⟩) (by decide +kernel)
    refine ⟨b₃, w₃, hok, hversion.trans ?_⟩
    rw [if_neg (by rw [hwritten]; decide)]

end SegmentBus
end OperatorPanel
