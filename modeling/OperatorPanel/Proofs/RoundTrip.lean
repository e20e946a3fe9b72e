import OperatorPanel.Frame

/-!
# Frames are read back

What a codec writes it reads back from the front of whatever bytes, and it leaves those that come
after (`Codec.ReadsBack`). Every combinator keeps this law, so the codecs of the four bodies have
it, one command after another. The one condition is that the bytes can be counted: lengths stand
in eight bytes, and a body that goes into a frame is far shorter than they allow.

The main result is `Frame.faithful_bodies`: a frame that was written is read back whatever stands
behind it, and only under the type that it was written with.
-/

namespace OperatorPanel
namespace Codec

variable {α β : Type}

/-! ### Readers

A reader is given all bytes and takes some from the front. The two lemmas run a program of readers
one step at a time: each knows what its first step reads, and goes on behind that.
-/

/-- What is read first leaves the rest to what is read next. -/
theorem bind_eq {r : ByteReader α} {f : α → ByteReader β} {bytes rest : List UInt8} {x : α}
    (h : r bytes = .ok (x, rest)) : (r >>= f) bytes = f x rest := by
  show (r bytes >>= fun p => f p.1 p.2) = f x rest
  rw [h]
  rfl

/-- A value may be read as part of another one. -/
theorem map_eq {r : ByteReader α} (f : α → β) {bytes rest : List UInt8} {x : α}
    (h : r bytes = .ok (x, rest)) : (do return f (← r)) bytes = .ok (f x, rest) :=
  bind_eq h

/-- A number of some width is read from its bytes. -/
theorem readNat_bytesOf {width n : Nat} (hn : n < capacity width) (rest : List UInt8) :
    readNat width (bytesOf width n ++ rest) = .ok (n, rest) := by
  have hlength := length_bytesOf width n
  have hle : width ≤ (bytesOf width n ++ rest).length := by
    rw [List.length_append, hlength]
    exact Nat.le_add_right _ _
  rw [readNat, if_pos hle, List.take_left' hlength, List.drop_left' hlength, natOf_bytesOf,
    Nat.mod_eq_of_lt hn]

/-! ### The law

The law is stated with the rest of the bytes, since a value is read in the middle of others. The
bound on the length is that of a frame, and keeps every count inside within its eight bytes.
-/

/-- **What is written is read back**, and what comes after it is left, if the bytes that were
written fit into a frame. -/
def ReadsBack (codec : Codec α) : Prop :=
  ∀ x rest, (codec.write x).length < valuesOf 32 →
    codec.read (codec.write x ++ rest) = .ok (x, rest)

/-- A length that fits into a frame fits into eight bytes. -/
theorem valuesOf_le_capacity : valuesOf 32 ≤ capacity 8 := by decide

/-! ### Numbers

Numbers stand in so many bytes, least first. A codec for one of them is the codec of a natural
number with a way there and back, so the law needs only that the way back undoes the other.
-/

theorem readsBack_fixed {width : Nat} {toNat : α → Nat} {ofNat : Nat → α}
    (hlt : ∀ x, toNat x < capacity width) (hof : ∀ x, ofNat (toNat x) = x) :
    (fixed width toNat ofNat).ReadsBack := by
  intro x rest _
  have hread := map_eq ofNat (readNat_bytesOf (hlt x) rest)
  rw [hof] at hread
  exact hread

theorem readsBack_u8 : u8.ReadsBack :=
  readsBack_fixed (fun x => x.toNat_lt) fun _ => UInt8.ofNat_toNat

theorem readsBack_u16 : u16.ReadsBack :=
  readsBack_fixed (fun x => x.toNat_lt) fun _ => UInt16.ofNat_toNat

theorem readsBack_i32 : i32.ReadsBack := by
  refine readsBack_fixed (fun x => x.toUInt32.toNat_lt) fun x => ?_
  rw [UInt32.ofNat_toNat, Int32.toInt32_toUInt32]

theorem readsBack_f64 : f64.ReadsBack := by
  refine readsBack_fixed (fun x => x.bits.toNat_lt) fun x => ?_
  rw [UInt64.ofNat_toNat]

theorem readsBack_bool : bool.ReadsBack := by
  intro b rest _
  cases b <;> rfl

/-! ### Texts

A text is its length in bytes and its encoding. The length is read first and compared with what is
left, so the proof has to know that it was not cut to eight bytes when it was written.
-/

/-- A text is read back, with its own length and no byte more. -/
theorem readText_write (s : String) (rest : List UInt8)
    (hlength : (text.write s).length < valuesOf 32) :
    readText (text.write s ++ rest) = .ok (s, rest) := by
  have hsize : (Text.Utf8.encode s).length = s.utf8ByteSize := Text.Utf8.length_encode s
  have hfits : s.utf8ByteSize < capacity 8 := by
    have hwritten : (text.write s).length = 8 + s.utf8ByteSize := by
      show (bytesOf 8 s.utf8ByteSize ++ Text.Utf8.encode s).length = _
      rw [List.length_append, length_bytesOf, hsize]
    have hcapacity := valuesOf_le_capacity
    omega
  show readText ((bytesOf 8 s.utf8ByteSize ++ Text.Utf8.encode s) ++ rest) = _
  rw [List.append_assoc]
  refine (bind_eq (readNat_bytesOf hfits _)).trans ?_  -- the length comes first
  have hle : s.utf8ByteSize ≤ (Text.Utf8.encode s ++ rest).length := by
    rw [List.length_append, hsize]
    exact Nat.le_add_right _ _
  rw [if_pos hle, List.take_left' hsize, List.drop_left' hsize, Text.Utf8.decode_encode]

theorem readsBack_text : text.ReadsBack := readText_write

theorem readsBack_bounded (limit : Nat) : (bounded limit).ReadsBack := by
  intro s rest hlength
  refine (bind_eq (readText_write s.text rest hlength)).trans ?_
  rw [BoundedText.ofString?, dif_pos s.size_le]
  rfl

/-! ### Choices, pairs and lists

The combinators keep the law, and each lemma is about one of them. Pairs read one value behind the
other, choices read a number and look it up, and lists read a count and then so many values.
-/

theorem readsBack_oneOf [DecidableEq α] {cases : List α} (hall : ∀ x, x ∈ cases)
    (hcount : cases.length ≤ capacity 4) : (oneOf cases).ReadsBack := by
  intro x rest _
  have hindex : cases.idxOf x < cases.length := List.idxOf_lt_length_of_mem (hall x)
  refine (bind_eq (readNat_bytesOf (Nat.lt_of_lt_of_le hindex hcount) rest)).trans ?_
  rw [List.getElem?_eq_getElem hindex, List.getElem_idxOf]
  rfl

/-- **A pair** is read back when both of its parts are. -/
theorem ReadsBack.pair {first : Codec α} {second : Codec β} (h : first.ReadsBack)
    (h' : second.ReadsBack) : (first.pair second).ReadsBack := by
  intro x rest hlength
  have hsum : (first.write x.1).length + (second.write x.2).length < valuesOf 32 := by
    rw [← List.length_append]
    exact hlength
  show (first.pair second).read ((first.write x.1 ++ second.write x.2) ++ rest) = _
  rw [List.append_assoc]
  refine (bind_eq (h x.1 _ (by omega))).trans ?_
  exact bind_eq (h' x.2 rest (by omega))

/-- Another view of a codec reads back when the view can be undone. -/
theorem ReadsBack.as {codec : Codec α} (h : codec.ReadsBack) {ofCoded : α → β}
    {toCoded : β → α} (hof : ∀ y, ofCoded (toCoded y) = y) :
    (codec.as ofCoded toCoded).ReadsBack := by
  intro y rest hlength
  have hread := map_eq ofCoded (h (toCoded y) rest hlength)
  rw [hof] at hread
  exact hread

/-- As many values are read as were written, by induction on the list. -/
theorem readMany_write {codec : Codec α} (h : codec.ReadsBack) (xs : List α) (rest : List UInt8)
    (hlength : (xs.flatMap codec.write).length < valuesOf 32) :
    readMany codec xs.length (xs.flatMap codec.write ++ rest) = .ok (xs, rest) := by
  induction xs with
  | nil => rfl
  | cons x xs ih =>
      rw [List.flatMap_cons, List.length_append] at hlength
      rw [List.flatMap_cons, List.append_assoc, List.length_cons, readMany]
      refine (bind_eq (h x _ (by omega))).trans ?_
      exact bind_eq (ih (by omega))

/-- A value that takes no bytes could stand in a list more often than its length can say. -/
theorem length_le_flatMap {codec : Codec α} (hne : ∀ x, codec.write x ≠ []) (xs : List α) :
    xs.length ≤ (xs.flatMap codec.write).length := by
  induction xs with
  | nil => exact Nat.zero_le _
  | cons x xs ih =>
      have hpos := List.length_pos_iff.2 (hne x)
      rw [List.flatMap_cons, List.length_append, List.length_cons]
      omega

/-- A list takes eight bytes more than its values. -/
theorem length_list (codec : Codec α) (xs : List α) :
    ((list codec).write xs).length = 8 + (xs.flatMap codec.write).length := by
  show (bytesOf 8 xs.length ++ xs.flatMap codec.write).length = _
  rw [List.length_append, length_bytesOf]

/-- **A list** is read back when its values are, each of which takes a byte at least. -/
theorem ReadsBack.list {codec : Codec α} (h : codec.ReadsBack)
    (hne : ∀ x, codec.write x ≠ []) : (Codec.list codec).ReadsBack := by
  intro xs rest hlength
  rw [length_list] at hlength
  have hcount : xs.length < capacity 8 := by
    have hle := length_le_flatMap hne xs
    have hcapacity := valuesOf_le_capacity
    omega
  show (Codec.list codec).read ((bytesOf 8 xs.length ++ xs.flatMap codec.write) ++ rest) = _
  rw [List.append_assoc]
  refine (bind_eq (readNat_bytesOf hcount _)).trans ?_
  exact readMany_write h xs rest (by omega)

/-- A list with a limit is read back when its values are. -/
theorem ReadsBack.listUpTo {codec : Codec α} (h : codec.ReadsBack) {limit : Nat}
    (hlimit : limit < capacity 8) : (Codec.listUpTo limit codec).ReadsBack := by
  intro xs rest hlength
  rw [show (Codec.listUpTo limit codec).write xs = (Codec.list codec).write xs.1 from rfl,
    length_list] at hlength
  have hcount : xs.1.length < capacity 8 := Nat.lt_of_le_of_lt xs.2 hlimit
  show (Codec.listUpTo limit codec).read
    ((bytesOf 8 xs.1.length ++ xs.1.flatMap codec.write) ++ rest) = _
  rw [List.append_assoc]
  refine (bind_eq (readNat_bytesOf hcount _)).trans ?_
  -- no value beyond the limit is asked for
  have hmin : min xs.1.length (limit + 1) = xs.1.length :=
    Nat.min_eq_left (Nat.le_succ_of_le xs.2)
  rw [hmin]
  refine (bind_eq (readMany_write h xs.1 rest (by omega))).trans ?_
  rw [dif_pos xs.2]
  rfl

/-! ### Bodies

The four bodies follow, each from the codecs of its fields, in the order in which they are written.
A command is a choice with a payload, so its cases are gone through one by one, and most of them are
a field or two.
-/

theorem readsBack_axisTable : axisTable.ReadsBack :=
  (readsBack_u16.listUpTo (by decide)).as fun _ => rfl

theorem readsBack_taskState : taskState.ReadsBack :=
  readsBack_oneOf (by intro x; cases x <;> decide) (by decide)

theorem readsBack_taskMode : taskMode.ReadsBack :=
  readsBack_oneOf (by intro x; cases x <;> decide) (by decide)

theorem readsBack_status : status.ReadsBack := by
  -- the enumerations: each value has its place in the table, and the table fits a number
  have hexec : execState.ReadsBack := readsBack_oneOf (by intro x; cases x <;> decide) (by decide)
  have hinterp : interpState.ReadsBack :=
    readsBack_oneOf (by intro x; cases x <;> decide) (by decide)
  have hspindle : spindleDirection.ReadsBack :=
    readsBack_oneOf (by intro x; cases x <;> decide) (by decide)
  have htraj : trajMode.ReadsBack := readsBack_oneOf (by intro x; cases x <;> decide) (by decide)
  have hunits : programUnits.ReadsBack :=
    readsBack_oneOf (by intro x; cases x <;> decide) (by decide)
  have hangle : programAngle.ReadsBack :=
    readsBack_oneOf (by intro x; cases x <;> decide) (by decide)
  -- then the fields in the order in which they stand in the frame
  have hfields := readsBack_i32.pair <| hexec.pair <| readsBack_taskState.pair <|
    readsBack_taskMode.pair <| hinterp.pair <| readsBack_text.pair <|
    readsBack_axisTable.pair <| readsBack_u16.pair <| readsBack_f64.pair <|
    readsBack_f64.pair <| readsBack_f64.pair <| readsBack_f64.pair <|
    hspindle.pair <| readsBack_bool.pair <| readsBack_f64.pair <| readsBack_bool.pair <|
    readsBack_bool.pair <| readsBack_bool.pair <| readsBack_bool.pair <| readsBack_f64.pair <|
    htraj.pair <| readsBack_f64.pair <| hunits.pair hangle
  exact hfields.as fun _ => rfl

theorem readsBack_notice : notice.ReadsBack := by
  have hkind : noticeKind.ReadsBack := readsBack_oneOf (by intro x; cases x <;> decide) (by decide)
  exact (hkind.pair (readsBack_bounded _)).as fun _ => rfl

/-- What stands behind the number of a case is read as the case says. -/
theorem readCase_bytesOf {read : Nat → ByteReader α} {index : Nat} (hindex : index < capacity 4)
    (payload rest : List UInt8) :
    (readNat 4 >>= read) ((bytesOf 4 index ++ payload) ++ rest) = read index (payload ++ rest) := by
  rw [List.append_assoc]
  exact bind_eq (readNat_bytesOf hindex _)

/-- What stands behind such a number fits where both do. -/
theorem length_payload_lt {index : Nat} {payload : List UInt8} {bound : Nat}
    (h : (bytesOf 4 index ++ payload).length < bound) : payload.length < bound := by
  rw [List.length_append] at h
  exact Nat.lt_of_le_of_lt (Nat.le_add_left _ _) h

/-- A value of a pin is its kind and then itself. -/
theorem readsBack_pinValue : pinValue.ReadsBack := by
  intro value rest hlength
  cases value with
  | bit b =>
      refine (readCase_bytesOf (by decide) _ rest).trans ?_
      exact map_eq PinValue.bit (readsBack_bool b rest (length_payload_lt hlength))
  | word n =>
      refine (readCase_bytesOf (by decide) _ rest).trans ?_
      exact map_eq PinValue.word (readsBack_u16 n rest (length_payload_lt hlength))
  | float x =>
      refine (readCase_bytesOf (by decide) _ rest).trans ?_
      exact map_eq PinValue.float (readsBack_f64 x rest (length_payload_lt hlength))

theorem readsBack_pins : pins.ReadsBack := by
  unfold pins
  refine ReadsBack.list ((readsBack_text.pair readsBack_pinValue).as fun _ => rfl) ?_
  intro pin hnil
  cases hnil

theorem readsBack_velocityVector : velocityVector.ReadsBack := by
  have hfields := readsBack_f64.pair <| readsBack_f64.pair <| readsBack_f64.pair <|
    readsBack_f64.pair <| readsBack_f64.pair readsBack_f64
  exact hfields.as fun _ => rfl

/-- Every command has a number below the count of commands. -/
theorem commandIndex_lt (c : Command) : commandIndex c < commandCount := by
  cases c <;> simp [commandIndex, commandCount]

/-- **The payload of a command** is read back under its number. -/
theorem readPayload_writePayload (c : Command) (rest : List UInt8)
    (hlength : (writePayload c).length < valuesOf 32) :
    readPayload (commandIndex c) (writePayload c ++ rest) = .ok (c, rest) := by
  cases c
  case setTaskState state => exact map_eq _ (readsBack_taskState state rest hlength)
  case setTaskMode mode => exact map_eq _ (readsBack_taskMode mode rest hlength)
  case programRun line => exact map_eq _ (readsBack_i32 line rest hlength)
  case mdiExecute line => exact map_eq _ (readsBack_bounded _ line rest hlength)
  case jogContinuous axis velocity =>
    exact bind_eq ((readsBack_u8.pair readsBack_f64) (axis, velocity) rest hlength)
  case jogIncrement axis velocity increment =>
    exact bind_eq ((readsBack_u8.pair (readsBack_f64.pair readsBack_f64))
      (axis, velocity, increment) rest hlength)
  case teleopVector velocity => exact map_eq _ (readsBack_velocityVector velocity rest hlength)
  case setTeleopEnable on => exact map_eq _ (readsBack_bool on rest hlength)
  case toolSetOffset tool length diameter =>
    exact bind_eq ((readsBack_u16.pair (readsBack_f64.pair readsBack_f64))
      (tool, length, diameter) rest hlength)
  case probe x y z =>
    exact bind_eq ((readsBack_f64.pair (readsBack_f64.pair readsBack_f64)) (x, y, z) rest hlength)
  case jogStop axis | home axis | axisEnable axis | axisDisable axis | axisOverrideLimits axis =>
    exact map_eq _ (readsBack_u8 axis rest hlength)
  case spindleOn number | setFeedScale number | setSpindleScale number =>
    exact map_eq _ (readsBack_f64 number rest hlength)
  all_goals rfl  -- the other commands carry nothing

theorem readsBack_command : command.ReadsBack := by
  intro c rest hlength
  have hindex : commandIndex c < capacity 4 := Nat.lt_trans (commandIndex_lt c) (by decide)
  refine (readCase_bytesOf hindex _ rest).trans ?_
  exact readPayload_writePayload c rest (length_payload_lt hlength)

theorem readsBack_message : message.ReadsBack :=
  (readsBack_i32.pair readsBack_command).as fun _ => rfl

end Codec

/-! ### Frames

A frame is a header, with a type and a length, and the body behind it. What is read of the header
does not depend on what stands behind, and the body takes exactly the length that the header says.
-/

namespace Frame

variable {α : Type}

/-- A type takes four bytes. -/
theorem length_type (type : FrameType) : (Codec.u32.write type).length = 4 :=
  Codec.length_bytesOf 4 type.toNat

/-- The type stands in front, whatever comes behind it. -/
theorem typeOf_append (type : FrameType) (bytes : List UInt8) :
    typeOf (Codec.u32.write type ++ bytes) = type := by
  have hle : 4 ≤ (Codec.u32.write type ++ bytes).length := by
    rw [List.length_append, length_type]
    exact Nat.le_add_right _ _
  have hnat : Codec.natOf (Codec.u32.write type) = type.toNat := by
    have hlt : type.toNat < Codec.capacity 4 := type.toNat_lt
    show Codec.natOf (Codec.bytesOf 4 type.toNat) = _
    rw [Codec.natOf_bytesOf, Nat.mod_eq_of_lt hlt]
  rw [typeOf, if_pos hle, List.take_left' (length_type type), hnat, UInt32.ofNat_toNat]

/-- Behind it stands the length of the body. -/
theorem bodyLength_append (type : FrameType) {n : Nat} (hn : n < valuesOf 32)
    (bytes : List UInt8) :
    bodyLength (Codec.u32.write type ++ (Codec.bytesOf 4 n ++ bytes)) = n := by
  have hcapacity : n < Codec.capacity 4 := Nat.lt_of_lt_of_le hn (by decide)
  rw [bodyLength, List.drop_left' (length_type type),
    List.take_left' (Codec.length_bytesOf 4 n), Codec.natOf_bytesOf, Nat.mod_eq_of_lt hcapacity]

/-- A header has one length. -/
theorem length_header (type : FrameType) (n : Nat) :
    (Codec.u32.write type ++ Codec.bytesOf 4 n).length = headerLength := by
  rw [List.length_append, length_type, Codec.length_bytesOf]
  rfl

/-- A frame is its header and what stands behind. -/
theorem length_framed (type : FrameType) (n : Nat) (behind : List UInt8) :
    (Codec.u32.write type ++ Codec.bytesOf 4 n ++ behind).length
      = headerLength + behind.length := by
  rw [List.length_append, length_header]

/-- **Decoding behind a header**: the bytes that it speaks of have to be there, and are read. -/
theorem decode_header {codec : Codec α} {type : FrameType} {n : Nat} (hn : n < valuesOf 32)
    (behind : List UInt8) :
    decode codec type (Codec.u32.write type ++ Codec.bytesOf 4 n ++ behind)
      = if behind.length < n then
          .error (.truncated (headerLength + n) (headerLength + behind.length))
        else match codec.read (behind.take n) with
          | .ok (x, _) => .ok x
          | .error fault => .error (.body fault) := by
  have hdrop : (Codec.u32.write type ++ Codec.bytesOf 4 n ++ behind).drop headerLength = behind :=
    List.drop_left' (length_header type n)
  have htype := typeOf_append type (Codec.bytesOf 4 n ++ behind)
  have hbody := bodyLength_append type hn behind
  rw [← List.append_assoc] at htype hbody
  simp only [decode, length_framed, htype, hbody, hdrop, Nat.add_lt_add_iff_left]
  exact (if_neg (Nat.not_lt.2 (Nat.le_add_right _ _))).trans (if_neg (not_not_intro rfl))

/-- Under another type nothing is looked at. -/
theorem decode_header_of_ne {codec : Codec α} {type expected : FrameType} (hne : expected ≠ type)
    (n : Nat) (behind : List UInt8) :
    decode codec expected (Codec.u32.write type ++ Codec.bytesOf 4 n ++ behind)
      = .error (.typeMismatch expected type) := by
  have hlong : ¬(Codec.u32.write type ++ Codec.bytesOf 4 n ++ behind).length < headerLength := by
    rw [length_framed]
    exact Nat.not_lt.2 (Nat.le_add_right _ _)
  have htype := typeOf_append type (Codec.bytesOf 4 n ++ behind)
  rw [← List.append_assoc] at htype
  rw [decode, if_neg hlong, htype, if_pos hne.symm]

/-- A frame that was written has the type that it was written with, and is read back under this
type and no other, whatever stands behind it. -/
def Faithful (codec : Codec α) : Prop :=
  ∀ (type : FrameType) (x : α), (codec.write x).length < valuesOf 32 →
    ∃ frame, encode codec type x = .ok frame ∧ typeOf frame = type ∧
      ∀ behind : List UInt8, decode codec type (frame ++ behind) = .ok x ∧
        ∀ expected, expected ≠ type →
          decode codec expected (frame ++ behind) = .error (.typeMismatch expected type)

/-- A codec that reads back what it writes does so in frames. -/
theorem faithful {codec : Codec α} (h : codec.ReadsBack) : Faithful codec := by
  intro type x hlength
  refine ⟨Codec.u32.write type ++ Codec.bytesOf 4 (codec.write x).length ++ codec.write x,
    if_pos hlength, ?_, fun behind => ⟨?_, fun expected hne => ?_⟩⟩
  · rw [List.append_assoc, typeOf_append]
  · have hwhole : ¬(codec.write x ++ behind).length < (codec.write x).length := by
      rw [List.length_append]
      exact Nat.not_lt.2 (Nat.le_add_right _ _)
    have hread := h x [] hlength
    rw [List.append_nil] at hread
    rw [List.append_assoc, decode_header hlength, if_neg hwhole, List.take_left, hread]
  · rw [List.append_assoc, decode_header_of_ne hne]

/-- **Frames are read back**, for all four things that they carry. -/
theorem faithful_bodies :
    Faithful Codec.message ∧ Faithful Codec.status ∧ Faithful Codec.notice ∧
      Faithful Codec.pins :=
  ⟨faithful Codec.readsBack_message, faithful Codec.readsBack_status,
    faithful Codec.readsBack_notice, faithful Codec.readsBack_pins⟩

end Frame
end OperatorPanel
