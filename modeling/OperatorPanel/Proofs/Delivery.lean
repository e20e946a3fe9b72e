import OperatorPanel.Channel.Shared
import OperatorPanel.Proofs.PanelScene
import OperatorPanel.Proofs.SegmentLedger

/-!
# Messages through shared memory

A message takes at most 279 bytes, header included (`Shared.length_frame_le`), so every one fits
into the command segment. It is written over the one before, of which the end may stay behind it;
readers decode the newest message all the same, whenever they attached (`Shared.commands_arrive`).
-/

namespace OperatorPanel

/-! ### Lengths

Every codec has a bound on what it writes, which is the sum of those of its parts. Texts without a
limit have none, but no message carries one.
-/

namespace Codec

variable {α β : Type} {limit limit' : Nat}

/-- No value takes more bytes than this. -/
def AtMost (codec : Codec α) (limit : Nat) : Prop := ∀ x, (codec.write x).length ≤ limit

theorem atMost_fixed {width : Nat} {toNat : α → Nat} {ofNat : Nat → α} :
    (fixed width toNat ofNat).AtMost width :=
  fun x => Nat.le_of_eq (length_bytesOf width (toNat x))

theorem atMost_oneOf [DecidableEq α] (cases : List α) : (oneOf cases).AtMost 4 :=
  fun x => Nat.le_of_eq (length_bytesOf 4 (cases.idxOf x))

theorem atMost_bool : bool.AtMost 1 := fun _ => Nat.le_refl 1

theorem atMost_bounded (limit : Nat) : (bounded limit).AtMost (8 + limit) := by
  intro s
  show (text.write s.text).length ≤ _
  rw [length_text]
  exact Nat.add_le_add_left s.size_le 8

theorem AtMost.pair {first : Codec α} {second : Codec β} (h : first.AtMost limit)
    (h' : second.AtMost limit') : (first.pair second).AtMost (limit + limit') := by
  intro x
  show (first.write x.1 ++ second.write x.2).length ≤ _
  rw [List.length_append]
  exact Nat.add_le_add (h x.1) (h' x.2)

theorem AtMost.as {codec : Codec α} (h : codec.AtMost limit) (ofCoded : α → β)
    (toCoded : β → α) : (codec.as ofCoded toCoded).AtMost limit :=
  fun y => h (toCoded y)

theorem AtMost.mono {codec : Codec α} (h : codec.AtMost limit) (hle : limit ≤ limit') :
    codec.AtMost limit' :=
  fun x => Nat.le_trans (h x) hle

/-- Nothing that a command carries is longer than a manual line may be. -/
theorem length_writePayload_le (c : Command) : (writePayload c).length ≤ 8 + maxLineBytes := by
  have hu8 : u8.AtMost 1 := atMost_fixed
  have hu16 : u16.AtMost 2 := atMost_fixed
  have hi32 : i32.AtMost 4 := atMost_fixed
  have hf64 : f64.AtMost 8 := atMost_fixed
  have hvector : velocityVector.AtMost 48 :=
    (hf64.pair <| hf64.pair <| hf64.pair <| hf64.pair <| hf64.pair hf64).as _ _
  cases c
  case setTaskState state => exact (atMost_oneOf _).mono (by decide) state
  case setTaskMode mode => exact (atMost_oneOf _).mono (by decide) mode
  case programRun line => exact hi32.mono (by decide) line
  case mdiExecute line => exact atMost_bounded _ line
  case jogContinuous axis velocity => exact (hu8.pair hf64).mono (by decide) (axis, velocity)
  case jogIncrement axis velocity increment =>
    exact (hu8.pair (hf64.pair hf64)).mono (by decide) (axis, velocity, increment)
  case teleopVector velocity => exact hvector.mono (by decide) velocity
  case setTeleopEnable on => exact atMost_bool.mono (by decide) on
  case toolSetOffset tool length diameter =>
    exact (hu16.pair (hf64.pair hf64)).mono (by decide) (tool, length, diameter)
  case probe x y z => exact (hf64.pair (hf64.pair hf64)).mono (by decide) (x, y, z)
  case jogStop axis | home axis | axisEnable axis | axisDisable axis | axisOverrideLimits axis =>
    exact hu8.mono (by decide) axis
  case spindleOn number | setFeedScale number | setSpindleScale number =>
    exact hf64.mono (by decide) number
  all_goals exact Nat.zero_le _  -- the other commands carry nothing

theorem atMost_command : command.AtMost (4 + (8 + maxLineBytes)) := by
  intro c
  show (bytesOf 4 (commandIndex c) ++ writePayload c).length ≤ _
  rw [List.length_append, length_bytesOf]
  exact Nat.add_le_add_left (length_writePayload_le c) 4

theorem atMost_message : message.AtMost 271 := by
  have hi32 : i32.AtMost 4 := atMost_fixed
  exact (hi32.pair atMost_command).as _ _

end Codec

/-- A frame is a header and what the codec writes. -/
theorem Frame.length_encode {α : Type} {codec : Codec α} {type : FrameType} {x : α}
    {frame : List UInt8} (h : encode codec type x = .ok frame) :
    frame.length = headerLength + (codec.write x).length := by
  obtain ⟨-, rfl⟩ := encode_eq_ok_iff.1 h
  rw [List.length_append, List.length_append, length_type, Codec.length_bytesOf]
  rfl

/-- A value that is short enough has a frame, which is read back whatever stands behind it. -/
theorem Frame.spec {α : Type} {codec : Codec α} (h : codec.ReadsBack) (type : FrameType) {x : α}
    (hlength : (codec.write x).length < valuesOf 32) :
    encode codec type x = .ok ((encode codec type x).toOption.getD []) ∧
      ∀ behind, typeOf ((encode codec type x).toOption.getD [] ++ behind) = type ∧
        decode codec type ((encode codec type x).toOption.getD [] ++ behind) = .ok x := by
  obtain ⟨bytes, hencode, -, hdecode⟩ := faithful h type x hlength
  rw [hencode]
  refine ⟨rfl, fun behind => ?_⟩
  obtain ⟨hbehind, -⟩ := hdecode behind
  exact ⟨(decode_eq_ok_iff.1 hbehind).1.type, hbehind⟩

namespace Shared

/-- The bytes that stand for a message in the command segment. -/
def frame (m : Message) : List UInt8 :=
  ((Frame.encode Codec.message .message m).toOption).getD []

theorem frame_spec (m : Message) :
    Frame.encode Codec.message .message m = .ok (frame m) ∧
      ∀ behind, Frame.typeOf (frame m ++ behind) = .message ∧
        Frame.decode Codec.message .message (frame m ++ behind) = .ok m :=
  Frame.spec Codec.readsBack_message .message
    (Nat.lt_of_le_of_lt (Codec.atMost_message m) (by decide))

/-- **A message takes at most 279 bytes.** -/
theorem length_frame_le (m : Message) : (frame m).length ≤ 279 := by
  have hbody := Codec.atMost_message m
  have hheader : Frame.headerLength = 8 := rfl
  rw [Frame.length_encode (frame_spec m).1]
  omega

/-! ### The command segment

The bridge sends, and at the other end readers attach, read and detach, whenever they like. What the
segment held before a message stays behind it where the message is shorter.
-/

/-- The command segment: its writer, and those who ever attached to it, in this order. -/
structure Outbox where
  world : World
  writer : SegmentWriter
  readers : List (Option SegmentReader) := []

/-- What is done with the segment. Readers go by the order in which they attached. -/
inductive Errand where
  | send (m : Message)
  | attach
  | read (reader start length : Nat)
  | detach (reader : Nat)

namespace Outbox

/-- What an errand makes of the segment. -/
def after (channel : String) (o : Outbox) : Errand → Outbox
  | .send m =>
    let (_, writer, world) := Shared.send o.writer m o.world
    { o with world, writer }
  | .attach =>
    match o.world.attachSegment (commandSegment channel) with
    | (.error _, world) => { o with world }
    | (.ok reader, world) => { o with world, readers := o.readers ++ [some reader] }
  | .read i start length =>
    match o.readers.getD i none with
    | none => o
    | some reader =>
      match reader.readRange start length o.world.directory with
      | .error _ => o
      | .ok (_, reader) => { o with readers := o.readers.set i (some reader) }
  | .detach i =>
    match o.readers.getD i none with
    | none => o
    | some reader =>
      { o with world := o.world.dropReader reader, readers := o.readers.set i none }

def run (channel : String) (o : Outbox) (errands : List Errand) : Outbox :=
  errands.foldl (after channel) o

/-- The segment in its directory. -/
def ends (o : Outbox) : Segment.Ends := ⟨o.world.directory, o.writer, o.readers⟩

end Outbox

/-- An errand as a use of the segment. -/
def Errand.use : Errand → Segment.Use
  | .send m => .write 0 (frame m)
  | .attach => .attach
  | .read i start length => .read i start length
  | .detach i => .detach i

/-- The errand sends a message. -/
def Errand.sends : Errand → Bool
  | .send _ => true
  | _ => false

/-! ### The ledger of the command segment

The command segment is a segment like any other, so the ledger of its reads and writes is at hand.
Here each errand is entered as what it does to the segment; a message is entered as a write of its
frame.
-/

/-- What some errands make of a ledger. -/
def entered (l : Segment.Ledger) (errands : List Errand) : Segment.Ledger :=
  errands.foldl (fun l e => (l.use e.use).2) l

/-- The ledger tells how things are with the command segment. -/
structure Keeps (channel : String) (l : Segment.Ledger) (o : Outbox) : Prop where
  tells : l.Tells o.ends
  name : o.writer.name = commandSegment channel
  room : l.contents.bytes.length = commandSize

namespace Keeps

variable {channel : String} {l : Segment.Ledger} {o : Outbox}

/-- There is room for every message. -/
theorem fits (h : Keeps channel l o) (m : Message) :
    0 + (frame m).length ≤ l.contents.bytes.length := by
  have hlength := length_frame_le m
  have hsize : commandSize = 4096 := rfl
  rw [h.room]
  omega

/-- The segment goes on under its name. -/
theorem name_use (o : Outbox) (u : Segment.Use) :
    (o.ends.use u).2.writer.name = o.writer.name := by
  unfold Segment.Ends.use Outbox.ends
  -- only a write can give back another writer, and its name is the same
  cases u with
  | write start bytes =>
      unfold SegmentWriter.writeAt
      dsimp only
      split
      · next hwrite =>
          split at hwrite <;> cases hwrite
          rfl
      · next hwrite =>
          split at hwrite <;> cases hwrite
          rfl
  | attach =>
      dsimp only
      split <;> rfl
  | read i start length =>
      dsimp only
      split
      · rfl
      · split <;> rfl
  | ask i | detach i =>
      dsimp only
      split <;> rfl

/-- **Every message is written.** -/
theorem send_eq (h : Keeps channel l o) (m : Message) :
    Shared.send o.writer m o.world
      = (.ok (), (o.ends.use (.write 0 (frame m))).2.writer,
          { o.world with directory := (o.ends.use (.write 0 (frame m))).2.directory }) := by
  obtain ⟨hdone, -⟩ := h.tells.write_of_fits (h.fits m)
  unfold Shared.send World.writeSegment SegmentWriter.write
  rw [(frame_spec m).1]
  simp only [Segment.Ends.use, Outbox.ends] at hdone ⊢
  generalize o.writer.writeAt 0 (frame m) o.world.directory = written at hdone ⊢
  obtain ⟨fault | writer, directory⟩ := written
  · cases hdone
  · rfl

/-- Errands are the uses of the segment that they are entered as. -/
theorem ends_after (h : Keeps channel l o) (e : Errand) :
    (o.after channel e).ends = (o.ends.use e.use).2 := by
  cases e with
  | send m =>
      -- the frame is one write at the beginning; whether it succeeds, both sides record the same
      simp only [Outbox.after, h.send_eq, Segment.Ends.use, Outbox.ends, Errand.use]
      generalize o.writer.writeAt 0 (frame m) o.world.directory = written
      obtain ⟨fault | writer, directory⟩ := written <;> rfl
  | attach =>
      unfold Outbox.after World.attachSegment
      simp only [Segment.Ends.use, Outbox.ends, Errand.use, h.name]
      generalize o.world.directory.attach (commandSegment channel) = attached
      obtain ⟨fault | reader, directory⟩ := attached <;> rfl
  | read i start length =>
      simp only [Outbox.after, Segment.Ends.use, Outbox.ends, Errand.use]
      cases o.readers.getD i none with
      | none => rfl
      | some reader =>
          dsimp only
          cases reader.readRange start length o.world.directory <;> rfl
  | detach i =>
      simp only [Outbox.after, Segment.Ends.use, Outbox.ends, Errand.use]
      cases o.readers.getD i none <;> rfl

/-- An errand changes what the segment holds just when it sends a message. -/
theorem contents_use (h : Keeps channel l o) (e : Errand) :
    (l.use e.use).2.contents = match e with
      | .send m => l.contents.write 0 (frame m)
      | _ => l.contents := by
  cases e with
  | send m => simp only [Errand.use, Segment.Ledger.use, if_pos (h.fits m)]
  | attach => rfl
  | read i start length =>
      simp only [Errand.use, Segment.Ledger.use]
      cases l.marks.getD i none with
      | none => rfl
      | some seen =>
          dsimp only
          split <;> rfl
  | detach i =>
      simp only [Errand.use, Segment.Ledger.use]
      cases l.marks.getD i none <;> rfl

/-- **The ledger goes on telling how things are.** -/
theorem after (h : Keeps channel l o) (e : Errand) :
    Keeps channel (l.use e.use).2 (o.after channel e) where
  tells := by
    rw [h.ends_after e]
    exact (h.tells.use e.use).2
  name := by
    have hends := congrArg (·.writer.name) (h.ends_after e)
    exact hends.trans ((name_use o e.use).trans h.name)
  room := by
    rw [h.contents_use e]
    cases e with
    | send m => exact (Contents.length_write (h.fits m)).trans h.room
    | attach | read | detach => exact h.room

theorem run (h : Keeps channel l o) (errands : List Errand) :
    Keeps channel (entered l errands) (o.run channel errands) := by
  induction errands generalizing l o with
  | nil => exact h
  | cons e errands ih => exact ih (h.after e)

/-- There are as many writes as there are messages. -/
theorem writes_run (h : Keeps channel l o) (errands : List Errand) :
    (entered l errands).contents.writes = l.contents.writes + errands.countP Errand.sends := by
  induction errands generalizing l o with
  | nil => rfl
  | cons e errands ih =>
      refine (ih (h.after e)).trans ?_
      rw [h.contents_use e, List.countP_cons]
      cases e with
      | send m =>
          show l.contents.writes + 1 + _ = _
          rw [Errand.sends, if_pos rfl]
          omega
      | attach | read | detach => rfl

/-- Without a message the contents stay. -/
theorem contents_run (h : Keeps channel l o) {errands : List Errand}
    (hquiet : ∀ m, .send m ∉ errands) : (entered l errands).contents = l.contents := by
  induction errands generalizing l o with
  | nil => rfl
  | cons e errands ih =>
      have htail : ∀ m, .send m ∉ errands := fun m hm => hquiet m (List.mem_cons_of_mem _ hm)
      refine (ih (h.after e) htail).trans ?_
      rw [h.contents_use e]
      cases e with
      | send m => exact absurd List.mem_cons_self (hquiet m)
      | attach | read | detach => rfl

/-- A new command segment holds zeros. -/
theorem opened {w w' : World} {writer : SegmentWriter}
    (hopen : openCommand channel w = (.ok writer, w')) :
    Keeps channel { contents := .zeros commandSize } { world := w', writer } := by
  unfold openCommand at hopen
  split at hopen
  · next hmade =>
      cases hopen
      obtain ⟨hresult, hdirectory⟩ := World.createSegment_eq_ok hmade
      refine ⟨?_, ?_, List.length_replicate⟩
      · unfold Outbox.ends
        rw [hdirectory]
        exact .created hresult
      · rw [(Directory.create_eq_ok hresult).writer]
  · cases hopen

end Keeps

/-! ### Who has not read the newest message

A reader that has not read the newest message knows of fewer writes than there were. This stays so
until it reads or another message is sent, also for a reader that attaches in between.
-/

/-- Whoever attached as the `i`th knows of fewer writes than there were. -/
def Unread (i : Nat) (l : Segment.Ledger) : Prop :=
  ∀ seen, l.marks.getD i none = some seen → seen < l.contents.writes

theorem getD_set {α : Type} (xs : List α) (i j : Nat) (x d : α) :
    (xs.set j x).getD i d = if j = i ∧ i < xs.length then x else xs.getD i d := by
  simp only [List.getD_eq_getElem?_getD, List.getElem?_set]
  by_cases hij : j = i
  · by_cases hlt : i < xs.length <;> simp [hij, hlt]
  · simp [hij]

/-- Without reading, nobody gets to know of a write. -/
theorem mark_use {l : Segment.Ledger} {e : Errand} {i seen : Nat}
    (hread : ∀ start length, e ≠ .read i start length)
    (h : (l.use e.use).2.marks.getD i none = some seen) :
    l.marks.getD i none = some seen ∨ seen = 0 := by
  cases e with
  | send m =>
      simp only [Errand.use, Segment.Ledger.use] at h
      split at h <;> exact .inl h
  | attach =>
      simp only [Errand.use, Segment.Ledger.use, List.getD_eq_getElem?_getD,
        List.getElem?_append] at h ⊢
      -- either the mark was there before, or it is that of the reader who has just attached
      split at h
      · exact .inl h
      · right
        by_cases hlast : i - l.marks.length = 0
        · rw [hlast] at h
          cases h
          rfl
        · rw [List.getElem?_eq_none (by simp; omega)] at h
          cases h
  | read j start length =>
      have hij : ¬(j = i ∧ i < l.marks.length) := by
        rintro ⟨rfl, -⟩
        exact hread start length rfl
      simp only [Errand.use, Segment.Ledger.use] at h
      split at h
      · exact .inl h
      · split at h
        · rw [getD_set, if_neg hij] at h
          exact .inl h
        · exact .inl h
  | detach j =>
      simp only [Errand.use, Segment.Ledger.use] at h
      split at h
      · exact .inl h
      · rw [getD_set] at h
        split at h
        · cases h
        · exact .inl h

/-- Whoever does not read does not get to know of the newest message. -/
theorem Keeps.unread_run {channel : String} {l : Segment.Ledger} {o : Outbox}
    {errands : List Errand} {i : Nat} (h : Keeps channel l o) (hunread : Unread i l)
    (hpos : 0 < l.contents.writes) (hread : ∀ start length, .read i start length ∉ errands) :
    Unread i (entered l errands) := by
  -- by induction on the errands: none of them reads for this reader, and writes are only added
  induction errands generalizing l o with
  | nil => exact hunread
  | cons e errands ih =>
      have hwrites : l.contents.writes ≤ (l.use e.use).2.contents.writes :=
        (h.writes_run [e]).symm ▸ Nat.le_add_right _ _
      refine ih (h.after e) ?_ (Nat.lt_of_lt_of_le hpos hwrites)
        (fun start length hm => hread start length (List.mem_cons_of_mem _ hm))
      intro seen hseen
      have hother : ∀ start length, e ≠ .read i start length := by
        rintro start length rfl
        exact hread start length List.mem_cons_self
      rcases mark_use hother hseen with hold | rfl
      · exact Nat.lt_of_lt_of_le (hunread seen hold) hwrites
      · exact Nat.lt_of_lt_of_le hpos hwrites

namespace Keeps

variable {channel : String} {l : Segment.Ledger} {o : Outbox} {m : Message}

/-- A message that was just sent is news for everyone. -/
theorem unread_sent (h : Keeps channel l o) (m : Message) (i : Nat) :
    Unread i (l.use (Errand.send m).use).2 := by
  intro seen hseen
  rw [h.contents_use (.send m)]
  show seen < l.contents.writes + 1
  rcases mark_use (by intro start length; exact Errand.noConfusion) hseen with hold | rfl
  · exact Nat.lt_succ_of_le (h.tells.known seen (Segment.Ledger.Tells.mem_of_getD hold))
  · exact Nat.succ_pos _

/-- Who is attached knows of as many writes as the mark says. -/
theorem reader (h : Keeps channel l o) {i seen : Nat} (hmark : l.marks.getD i none = some seen) :
    o.readers.getD i none = some (o.writer.readerAt seen) :=
  h.tells.reader hmark

/-- One can always attach. -/
theorem attaches (h : Keeps channel l o) :
    ∃ reader w, o.world.attachSegment (commandSegment channel) = (.ok reader, w) := by
  obtain ⟨found, hfind, hnumber⟩ := h.tells.find
  obtain ⟨pid, hholds⟩ := h.tells.holds
  have hattach := Directory.attach_eq hfind (hnumber ▸ hholds)
  change o.world.directory.attach o.writer.name = _ at hattach
  rw [h.name] at hattach
  unfold World.attachSegment
  rw [hattach]
  exact ⟨_, _, rfl⟩

/-- Whoever is attached decodes the message that was written last, and has something new if that
was not read. -/
theorem reads (h : Keeps channel l o) {c : Contents} (hcontents : l.contents = c.write 0 (frame m))
    {i : Nat} {reader : SegmentReader} (hreader : o.readers.getD i none = some reader) :
    (∃ block reader', reader.read o.world.directory = .ok (block, reader') ∧
      Frame.typeOf block.toList = .message ∧
      Frame.decode Codec.message .message block.toList = .ok m) ∧
    (Unread i l → l.contents.writes < valuesOf 63 →
      reader.hasChanged o.world.directory = true) := by
  obtain ⟨pid, hholds⟩ := h.tells.holds
  obtain ⟨seen, hmark, rfl⟩ :=
    Option.map_eq_some_iff.1 ((h.tells.getD_readers i).symm.trans hreader)
  constructor
  · obtain ⟨block, hread, hblock⟩ :=
      SegmentReader.read_eq (r := o.writer.readerAt seen) h.tells.size hholds
    refine ⟨block, _, hread, ?_⟩
    rw [hblock, hcontents]
    exact (frame_spec m).2 _
  · intro hunread hfew
    have hknown := h.tells.known seen (Segment.Ledger.Tells.mem_of_getD hmark)
    have hchanged := SegmentReader.hasChanged_eq (r := o.writer.readerAt seen) hholds rfl hknown
    exact hchanged.trans ((Contents.newer_eq hfew).trans (decide_eq_true (hunread seen hmark)))

end Keeps

/-- **Messages arrive.** Whatever was sent before, and whoever attached, read and detached, the next
message is sent. Until another one is sent, everyone who is attached or attaches then reads a frame
of a message and decodes this message, and finds that there is something new as long as this was not
read (with fewer than `2 ^ 63` messages sent). -/
theorem commands_arrive {w w' : World} {channel : String} {writer : SegmentWriter}
    (hopen : openCommand channel w = (.ok writer, w')) (before : List Errand) (m : Message)
    {later : List Errand} (hlast : ∀ m', .send m' ∉ later) :
    let o := Outbox.run channel { world := w', writer } before
    let o' := (o.after channel (.send m)).run channel later
    (Shared.send o.writer m o.world).1 = .ok () ∧
    (∃ reader w, o'.world.attachSegment (commandSegment channel) = (.ok reader, w)) ∧
    ∀ i reader, o'.readers.getD i none = some reader →
      (∃ block reader', reader.read o'.world.directory = .ok (block, reader') ∧
        Frame.typeOf block.toList = .message ∧
        Frame.decode Codec.message .message block.toList = .ok m) ∧
      ((∀ start length, .read i start length ∉ later) →
        before.countP Errand.sends + 1 < valuesOf 63 →
        reader.hasChanged o'.world.directory = true) := by
  intro o o'
  have hopened := Keeps.opened hopen
  have hbefore : Keeps channel (entered _ before) o := hopened.run before
  have hsent := hbefore.after (.send m)
  have hlater : Keeps channel (entered _ later) o' := hsent.run later
  have hcontents := (hsent.contents_run hlast).trans (hbefore.contents_use (.send m))
  have hwrites := hopened.writes_run before
  refine ⟨by rw [hbefore.send_eq m], hlater.attaches, fun i reader hreader => ?_⟩
  -- what was sent is still what the segment holds, since nothing was sent later
  obtain ⟨hread, hchanged⟩ := hlater.reads hcontents hreader
  refine ⟨hread, fun hnotRead hfew => hchanged ?_ ?_⟩
  · refine hsent.unread_run (hbefore.unread_sent m i) ?_ hnotRead
    rw [hbefore.contents_use (.send m)]
    exact Nat.succ_pos _
  · rw [hcontents]
    show (entered _ before).contents.writes + 1 < valuesOf 63
    rw [hwrites]
    change 0 + before.countP Errand.sends + 1 < _
    omega

/-- A directory without files takes a command segment. -/
theorem openCommand_vacant : ∃ writer w, openCommand "p" Stage.vacant.world = (.ok writer, w) := by
  have hname : Directory.fileName (commandSegment "p") Stage.vacant.world.directory.self
      = "hmi_p_cmd_77" := by
    decide +kernel
  obtain ⟨writer, hwriter⟩ := Directory.create_of_empty rfl hname rfl rfl (by decide +kernel)
    (by simp) (by decide +kernel) (show Segment.sizeFault? commandSize = none by decide)
  unfold openCommand World.createSegment
  dsimp only
  rw [hwriter]
  exact ⟨_, _, rfl⟩

/-- A reader has read a manual line, which is longer than what comes after it. -/
def lineRead : List Errand :=
  [.attach, .send { serial := 1, command := .mdiExecute ⟨"G0 X10.5 Y-3", by decide⟩ },
    .read 0 0 commandSize]

/-- What comes after it. -/
def abort : Message := { serial := 2, command := .taskAbort }

/-- The shorter message is news for the reader of the line, and for one who attaches later. -/
theorem commands_arrive_shorter :
    ∃ writer w, openCommand "p" Stage.vacant.world = (.ok writer, w) ∧
      let o := Outbox.run "p" { world := w, writer } lineRead
      let o' := (o.after "p" (.send abort)).run "p" [.attach]
      ∀ i < 2, ∃ reader block reader', o'.readers.getD i none = some reader ∧
        reader.hasChanged o'.world.directory = true ∧
        reader.read o'.world.directory = .ok (block, reader') ∧
        Frame.decode Codec.message .message block.toList = .ok abort := by
  obtain ⟨writer, w, hopen⟩ := openCommand_vacant
  refine ⟨writer, w, hopen, ?_⟩
  have harrives := commands_arrive hopen lineRead abort
    (show ∀ m, Errand.send m ∉ [Errand.attach] by simp)
  have hmarks : (entered ((entered { contents := .zeros commandSize } lineRead).use
      (Errand.send abort).use).2 [.attach]).marks = [some 1, some 0] := by
    decide +kernel
  have hfew : lineRead.countP Errand.sends + 1 < valuesOf 63 := by decide
  -- what was sent before is not to be evaluated again
  generalize lineRead = before at harrives hmarks hfew ⊢
  intro o o' i hi
  have hbefore : Keeps "p" _ o := (Keeps.opened hopen).run before
  have hkept : Keeps "p" _ o' := (hbefore.after (.send abort)).run [.attach]
  have hmark : [some 1, some 0].getD i none = some (1 - i) := by
    match i, hi with
    | 0, _ => rfl
    | 1, _ => rfl
  rw [← hmarks] at hmark
  have hreader := hkept.reader hmark
  obtain ⟨⟨block, reader', hread, -, hdecode⟩, hchanged⟩ := harrives.2.2 i _ hreader
  have hnotRead : ∀ start length, Errand.read i start length ∉ [Errand.attach] := by simp
  exact ⟨_, block, reader', hreader, hchanged hnotRead hfew, hread, hdecode⟩

end Shared
end OperatorPanel
