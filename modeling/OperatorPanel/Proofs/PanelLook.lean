import OperatorPanel.Proofs.Canonical
import OperatorPanel.Proofs.PanelExit
import OperatorPanel.Proofs.PinNames
import OperatorPanel.Proofs.SegmentStore

/-!
# What a bus makes of a file

A bus looks at the file that it is attached to. When the file holds something new, the bus takes
over the frame of pins that stands in front, and warns of the unknown names in it, of each for the
first time only (`SegmentBus.warnings_warn`). `SegmentBus.look_eq` says what a look comes to, given
the contents of the file and the number of writes that the bus knows of.
-/

namespace OperatorPanel

/-! ### Frames at the front of a block

A block that was read may go on behind the frame that stands at its front. Only the frame is taken
out before it is decoded, and the lemmas show that this is the same as decoding the block: the
header says how far a frame goes, and no decoder looks further.
-/

/-- The first bytes of a block are those of its list. -/
theorem Block.take_eq (b : Block) (n : Nat) : b.take n = b.toList.take n := by
  have hleading := b.leading_le
  simp only [Block.toList, Block.take, Nat.min_self, List.take_append, List.take_take,
    List.take_replicate, List.length_take]
  congr 2
  omega

namespace Frame

variable {α : Type}

/-- The header says the same of fewer bytes. -/
theorem bodyLength_take (bytes : List UInt8) {n : Nat} (h : headerLength ≤ n) :
    bodyLength (bytes.take n) = bodyLength bytes := by
  have hheader : headerLength = 8 := rfl
  rw [bodyLength, List.drop_take, List.take_take, Nat.min_eq_left (by omega)]
  rfl

/-- The type too. -/
theorem typeOf_take (bytes : List UInt8) {n : Nat} (h : 4 ≤ n) :
    typeOf (bytes.take n) = typeOf bytes := by
  rw [typeOf, typeOf, List.take_take, Nat.min_eq_left h]
  by_cases hshort : 4 ≤ bytes.length
  · rw [if_pos hshort, if_pos (List.length_take ▸ Nat.le_min.2 ⟨h, hshort⟩)]
  · rw [if_neg hshort, if_neg (fun hle => hshort (Nat.le_trans hle (List.length_take_le' ..)))]

/-- Bytes after the frame are ignored. -/
theorem decode_take (codec : Codec α) (type : FrameType) (bytes : List UInt8) :
    decode codec type (bytes.take (headerLength + bodyLength bytes)) = decode codec type bytes := by
  have hheader : headerLength = 8 := rfl
  by_cases hwhole : headerLength + bodyLength bytes < bytes.length
  · -- the frame ends before the bytes do: what decoding looks at lies in the part that is kept
    have hbody := bodyLength_take bytes (Nat.le_add_right headerLength (bodyLength bytes))
    generalize hn : headerLength + bodyLength bytes = n at hwhole hbody ⊢
    have hlength : (bytes.take n).length = n := List.length_take_of_le (by omega)
    have htype : typeOf (bytes.take n) = typeOf bytes := typeOf_take bytes (by omega)
    have hread : ((bytes.take n).drop headerLength).take (bodyLength bytes)
        = (bytes.drop headerLength).take (bodyLength bytes) := by
      rw [List.drop_take, List.take_take, Nat.min_eq_left (by omega)]
    unfold decode
    dsimp only
    rw [htype, hbody, hread, hlength, hn, if_neg (show ¬n < headerLength by omega),
      if_neg (show ¬bytes.length < headerLength by omega), if_neg (Nat.lt_irrefl n),
      if_neg (show ¬bytes.length < n by omega)]
  · -- otherwise nothing is cut off
    rw [List.take_of_length_le (Nat.not_lt.1 hwhole)]

end Frame

namespace Shared

variable {α : Type} {codec : Codec α} {type : FrameType}

/-- What is found in the frame at the front of some bytes. -/
def found (codec : Codec α) (expected : FrameType) (bytes : List UInt8) : Slot α :=
  if Frame.typeOf bytes = expected then
    match Frame.decode codec expected bytes with
    | .ok x => .value x
    | .error fault => .broken fault
  else if Frame.typeOf bytes = .empty then .empty
  else .foreign (Frame.typeOf bytes)

/-- Bytes after the frame make no difference. -/
theorem found_take (codec : Codec α) (type : FrameType) (bytes : List UInt8) :
    found codec type (bytes.take (Frame.headerLength + Frame.bodyLength bytes))
      = found codec type bytes := by
  have hheader : Frame.headerLength = 8 := rfl
  unfold found
  rw [Frame.decode_take, Frame.typeOf_take _ (by omega)]

/-- A look into a block finds what its bytes hold. -/
theorem slot_eq (codec : Codec α) (type : FrameType) (b : Block) :
    slot codec type b = found codec type b.toList := by
  have hframe : b.frame
      = b.toList.take (Frame.headerLength + Frame.bodyLength b.toList) := by
    rw [Block.frame, Block.take_eq, Block.take_eq, Frame.bodyLength, List.drop_take, List.take_take]
    rfl
  have hslot : slot codec type b = found codec type b.frame := by
    cases hdecode : Frame.decode codec type b.frame <;> simp only [slot, found, hdecode]
  rw [hslot, hframe, found_take]

/-- A value is found just where it is decoded. -/
theorem found_eq_value_iff {bytes : List UInt8} {x : α} :
    found codec type bytes = .value x ↔ Frame.decode codec type bytes = .ok x := by
  unfold found
  constructor
  · intro h
    split at h
    · split at h
      · next hdecode =>
          cases h
          exact hdecode
      · cases h
    · split at h <;> cases h
  · intro hdecode
    rw [if_pos (Frame.decode_eq_ok_iff.1 hdecode).1.type, hdecode]

/-- A value is found in a block just when all of its bytes are decoded to it. -/
theorem slot_eq_value_iff {b : Block} {x : α} :
    slot codec type b = .value x ↔ Frame.decode codec type b.toList = .ok x := by
  rw [slot_eq, found_eq_value_iff]

end Shared

/-- The pins of the frame that stands in front. -/
def Contents.pins (c : Contents) : Option (List NamedPin) :=
  (Frame.decode Codec.pins .pins c.bytes).toOption

/-- Who reads makes no difference to what a file holds. -/
theorem SegmentFile.Holds.counts {d d' : Directory} {n : Nat} {pid : UInt32} {c : Contents}
    (h : (d.file n).Holds pid c) (hcounts : d.Counts d') : (d'.file n).Holds pid c := by
  obtain ⟨count, hfile⟩ := hcounts.file n
  rw [hfile]
  exact h.count count

/-! ### Warnings

Journals are searched for one text, so that a count of warnings can be compared before and after an
operation. Everything else that is written down has another text, and does not count.
-/

/-- A record that warns of an unknown name. -/
def Record.warnsOf (name : String) (r : Record) : Bool :=
  r.level = .warn && r.source = .pins && r.message = "ignoring unknown input pin"
    && r.fields = [("pin", name)]

/-- How often an unknown name was warned of. -/
def World.warnings (w : World) (name : String) : Nat := w.journal.countP (·.warnsOf name)

/-- A note counts when it is of this kind and about this name. -/
theorem World.warnings_note (w : World) (level : LogLevel) (source : Source) (message : String)
    (fields : List (String × String)) (name : String) :
    (w.note level source message fields).warnings name = w.warnings name
      + if level = .warn ∧ source = .pins ∧ message = "ignoring unknown input pin" ∧
          fields = [("pin", name)] then 1 else 0 := by
  unfold World.warnings World.note
  rw [List.countP_append, List.countP_singleton]
  simp only [Record.warnsOf, Bool.and_eq_true, decide_eq_true_eq, and_assoc]

/-- Other records warn of no name. -/
theorem World.warnings_note_of_ne (w : World) (level : LogLevel) (source : Source)
    {message : String} (fields : List (String × String)) (name : String)
    (h : message ≠ "ignoring unknown input pin") :
    (w.note level source message fields).warnings name = w.warnings name := by
  rw [warnings_note, if_neg (fun hnote => h hnote.2.2.1)]
  rfl

/-- Files that are removed while a name is claimed are noted. -/
theorem World.noteRemoved_eq (w : World) (segment : String) (pids : List UInt32) :
    (w.noteRemoved segment pids).directory = w.directory ∧
      ∀ name, (w.noteRemoved segment pids).warnings name = w.warnings name := by
  unfold noteRemoved
  induction pids generalizing w with
  | nil => exact ⟨rfl, fun _ => rfl⟩
  | cons pid pids ih =>
      obtain ⟨hdirectory, hwarnings⟩ := ih
        (w.note .warn .segmentWriter "removing stale segment"
          [("segment", segment), ("stale_pid", Text.decimal pid.toNat)])
      exact ⟨hdirectory, fun name =>
        (hwarnings name).trans (w.warnings_note_of_ne _ _ _ name (by decide))⟩

/-- Creating a segment is creating it in the directory. -/
theorem World.createSegment_eq_ok {w w' : World} {name : String} {size : Nat}
    {writer : SegmentWriter} (h : w.createSegment name size = (.ok writer, w')) :
    (w.directory.create name size).result = .ok writer ∧
      w'.directory = (w.directory.create name size).directory := by
  unfold createSegment at h
  dsimp only at h
  obtain ⟨hresult, rfl⟩ := Prod.mk.inj h
  exact ⟨hresult, (noteRemoved_eq _ name _).1⟩

namespace SegmentBus

/-- The names that were warned of are those that were before, and the new ones. -/
theorem mem_warned_warn (b : SegmentBus) (w : World) (names : List String) (name : String) :
    name ∈ (b.warn w names).1.warned ↔ name ∈ b.warned ∨ name ∈ names := by
  induction names generalizing b w with
  | nil => simp [warn]
  | cons n names ih =>
      unfold warn
      split
      · next hold =>
          rw [List.contains_iff_mem] at hold
          rw [ih, List.mem_cons]
          by_cases hname : name = n
          · simp [hname, hold]
          · simp [hname]
      · rw [ih, List.mem_cons, List.mem_cons, or_assoc, or_left_comm]

/-- **Every unknown name is warned of once.** -/
theorem warnings_warn (b : SegmentBus) (w : World) (names : List String) (name : String) :
    (b.warn w names).2.warnings name
      = w.warnings name + if name ∈ names ∧ name ∉ b.warned then 1 else 0 := by
  -- by induction on the names; one that was warned of before is passed over
  induction names generalizing b w with
  | nil => simp [warn]
  | cons n names ih =>
      unfold warn
      split
      · next hold =>
          rw [List.contains_iff_mem] at hold
          rw [ih]
          by_cases hname : name = n
          · simp [hname, hold]
          · simp [hname]
      · next hnew =>
          rw [List.contains_iff_mem] at hnew
          rw [ih, World.warnings_note]
          by_cases hname : name = n
          · simp [hname, hnew]
          · have hne : ¬n = name := fun h => hname h.symm
            simp [hname, hne]

/-- What is taken over from a block is the frame that its bytes are decoded to. -/
theorem take_eq {b : SegmentBus} {r r' : SegmentReader} {w : World} {block : Block}
    (hread : r.read w.directory = .ok (block, r')) :
    b.take r w =
      match (Frame.decode Codec.pins .pins block.toList).toOption with
      | some pins =>
        let (b, w) := { b with reader := some r' }.warn w (InputSample.ofNamed pins).unknown
        ({ b with inputs := (InputSample.ofNamed pins).sample }, w)
      | none => ({ b with reader := some r' }, w) := by
  unfold take
  rw [hread]
  dsimp only
  cases hdecode : Frame.decode Codec.pins .pins block.toList with
  | ok pins =>
      rw [Shared.slot_eq_value_iff.2 hdecode]
      rfl
  | error fault =>
      rw [Except.toOption]
      -- what is not decoded is no value, whatever kind of slot it is
      cases hslot : Shared.slot Codec.pins .pins block with
      | value pins =>
          rw [Shared.slot_eq_value_iff, hdecode] at hslot
          cases hslot
      | empty => rfl
      | broken fault => rfl
      | foreign type => rfl

/-- What looking at a file comes to. -/
theorem look_eq {b : SegmentBus} {w : World} {r : SegmentReader} {pid : UInt32} {c : Contents}
    {seen : Nat} (hreader : b.reader = some r) (h : (w.directory.file r.number).Holds pid c)
    (hsize : r.size = c.bytes.length) (hversion : r.version = UInt64.ofNat (2 * seen))
    (hseen : seen ≤ c.writes) :
    b.look w =
      if c.newer seen then
        let b := { b with reader := some { r with version := c.version } }
        match c.pins with
        | some pins =>
          let (b, w) := b.warn w (InputSample.ofNamed pins).unknown
          ({ b with inputs := (InputSample.ofNamed pins).sample }, w)
        | none => (b, w)
      else if w.directory.alive pid then (b, w)
      else
        ({ b with reader := none, inputs := .empty },
          (w.note .warn .pins "panel input writer exited"
            [("segment", b.inputSegment)]).dropReader r) := by
  have hchanged := SegmentReader.hasChanged_eq h hversion hseen
  unfold look
  rw [hreader]
  dsimp only
  rw [hchanged]
  split
  · obtain ⟨block, hread, hblock⟩ := SegmentReader.read_eq hsize h
    rw [take_eq hread, hblock]
    rfl
  · have halive : r.writerAlive w.directory = w.directory.alive pid :=
      congrArg w.directory.alive h.writer
    rw [halive]

end SegmentBus

/-- What is news in a file. -/
theorem SegmentReader.news_eq {r : SegmentReader} {d : Directory} {pid : UInt32} {c : Contents}
    {seen : Nat} (h : (d.file r.number).Holds pid c) (hsize : r.size = c.bytes.length)
    (hversion : r.version = UInt64.ofNat (2 * seen)) (hseen : seen ≤ c.writes) :
    r.news d = if c.newer seen then c.pins else none := by
  unfold news
  rw [hasChanged_eq h hversion hseen]
  split
  · -- what was read is what the file holds
    obtain ⟨block, hread, hblock⟩ := read_eq hsize h
    rw [hread, Contents.pins, ← hblock]
    dsimp only
    cases hslot : Shared.slot Codec.pins .pins block with
    | value pins => rw [Shared.slot_eq_value_iff.1 hslot, Except.toOption]
    | _ =>
        cases hdecode : Frame.decode Codec.pins .pins block.toList with
        | ok pins =>
            rw [Shared.slot_eq_value_iff.2 hdecode] at hslot
            cases hslot
        | error fault => rfl
  · rfl

end OperatorPanel
