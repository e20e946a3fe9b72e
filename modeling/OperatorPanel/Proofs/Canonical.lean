import OperatorPanel.Proofs.RoundTrip

/-!
# Only what is written is read

A codec is exact if it reads a value from no bytes but those that it writes for that value
(`Codec.Exact`): every length, every number of a case, every truth value and every text that a
reader lets pass is one that the writer could have put there. Every combinator keeps this law, as
it keeps that of reading back, so it holds of the codecs of the four bodies.

The main result is `Frame.canonical_bodies`: what is decoded from a frame is what the writer would
have put at the front of its body, no two values can be read from one body, and the limits on
texts and axes are those of the bytes.
-/

namespace OperatorPanel
namespace Codec

variable {α β : Type}

/-! ### Readers

A reader takes bytes from the front and hands on the rest. Two steps of reading are taken apart
here, so that each law below has one fact for each part of the codec.
-/

/-- What is read in two steps is read by one after the other. -/
theorem bind_eq_ok {r : ByteReader α} {f : α → ByteReader β} {bytes rest : List UInt8} {y : β}
    (h : (r >>= f) bytes = .ok (y, rest)) :
    ∃ x between, r bytes = .ok (x, between) ∧ f x between = .ok (y, rest) := by
  change (r bytes >>= fun p => f p.1 p.2) = .ok (y, rest) at h
  cases hr : r bytes with
  | error fault =>
      rw [hr] at h
      cases h
  | ok p =>
      rw [hr] at h
      exact ⟨p.1, p.2, rfl, h⟩

/-- What is read as part of another value is read for itself. -/
theorem map_eq_ok {r : ByteReader α} {f : α → β} {bytes rest : List UInt8} {y : β}
    (h : (do return f (← r)) bytes = .ok (y, rest)) :
    ∃ x, r bytes = .ok (x, rest) ∧ f x = y := by
  obtain ⟨x, between, hx, hy⟩ := bind_eq_ok h
  cases hy
  exact ⟨x, hx, rfl⟩

/-- A number of a given width stands in so many bytes, and no number is as big as its capacity. -/
theorem readNat_eq_ok {width n : Nat} {bytes rest : List UInt8}
    (h : readNat width bytes = .ok (n, rest)) :
    bytes = bytesOf width n ++ rest ∧ n < capacity width := by
  unfold readNat at h
  split at h
  · next hle =>
      cases h
      have htake : (bytes.take width).length = width := List.length_take_of_le hle
      have hback := bytesOf_natOf (bytes.take width)
      rw [htake] at hback
      refine ⟨by rw [hback, List.take_append_drop], ?_⟩
      -- the number is the one that its own bytes give
      have hmod := natOf_bytesOf width (natOf (bytes.take width))
      rw [hback] at hmod
      rw [hmod]
      exact Nat.mod_lt _ (Nat.pow_pos (by decide))
  · cases h

/-! ### The law

The writer's bytes and what is left over are all that was there: nothing was skipped on the way, and
nothing was read that the writer would have put differently.
-/

/-- **Nothing is read but what is written.** -/
def Exact (codec : Codec α) : Prop :=
  ∀ bytes x rest, codec.read bytes = .ok (x, rest) → bytes = codec.write x ++ rest

/-! ### Numbers

A number of a fixed width has one way to be written. A truth value has one as well, since all bytes
but two are refused.
-/

theorem exact_fixed {width : Nat} {toNat : α → Nat} {ofNat : Nat → α}
    (hto : ∀ n < capacity width, toNat (ofNat n) = n) : (fixed width toNat ofNat).Exact := by
  intro bytes x rest h
  obtain ⟨n, hn, rfl⟩ := map_eq_ok h
  obtain ⟨hbytes, hlt⟩ := readNat_eq_ok hn
  show bytes = bytesOf width (toNat (ofNat n)) ++ rest
  rw [hto n hlt]
  exact hbytes

theorem exact_u8 : u8.Exact := exact_fixed fun _ h => UInt8.toNat_ofNat_of_lt' h

theorem exact_u16 : u16.Exact := exact_fixed fun _ h => UInt16.toNat_ofNat_of_lt' h

theorem exact_i32 : i32.Exact := by
  refine exact_fixed fun n h => ?_
  rw [UInt32.toUInt32_toInt32]
  exact UInt32.toNat_ofNat_of_lt' h

theorem exact_f64 : f64.Exact := exact_fixed fun _ h => UInt64.toNat_ofNat_of_lt' h

theorem exact_bool : bool.Exact := by
  intro bytes b rest h
  obtain ⟨n, between, hn, hb⟩ := bind_eq_ok h
  have hbytes := exact_u8 _ _ _ hn
  split at hb
  · cases hb
    exact hbytes
  · cases hb
    exact hbytes
  · cases hb

/-! ### Texts

A text is preceded by the number of its bytes, and these have one decoding, which is checked. A text
with a limit is refused beyond it, and else it is a text like any other.
-/

theorem exact_text : text.Exact := by
  intro bytes s rest h
  obtain ⟨length, between, hlength, hs⟩ := bind_eq_ok h
  obtain ⟨hbytes, -⟩ := readNat_eq_ok hlength
  split at hs
  · next hle =>
      split at hs
      · next hdecode =>
          cases hs
          -- so many bytes decode to the text, and its encoding is these bytes again
          have hencode := Text.Utf8.encode_of_decode hdecode
          have hsize : s.utf8ByteSize = length := by
            rw [← Text.Utf8.length_encode, hencode, List.length_take_of_le hle]
          show bytes = bytesOf 8 s.utf8ByteSize ++ Text.Utf8.encode s ++ between.drop length
          rw [hsize, hencode, List.append_assoc, List.take_append_drop]
          exact hbytes
      · cases hs
  · cases hs

theorem exact_bounded (limit : Nat) : (bounded limit).Exact := by
  intro bytes s rest h
  obtain ⟨text, between, htext, hs⟩ := bind_eq_ok h
  have hbytes := exact_text _ _ _ htext
  -- a text that is too long is read, and then refused
  cases hfits : BoundedText.ofString? limit text with
  | none =>
      rw [hfits] at hs
      cases hs
  | some s' =>
      rw [hfits] at hs
      cases hs
      unfold BoundedText.ofString? at hfits
      split at hfits
      · cases hfits
        exact hbytes
      · cases hfits

/-! ### Choices, pairs and lists

The number of a case is found again from the case because no case is listed twice, and a list has
the length that stands before it.
-/

theorem exact_oneOf [DecidableEq α] {cases : List α} (hnodup : cases.Nodup) :
    (oneOf cases).Exact := by
  intro bytes x rest h
  obtain ⟨index, between, hindex, hx⟩ := bind_eq_ok h
  -- every case stands once in the list, so its number is where it was found
  obtain ⟨hbytes, -⟩ := readNat_eq_ok hindex
  cases hfound : cases[index]? with
  | none =>
      rw [hfound] at hx
      cases hx
  | some found =>
      rw [hfound] at hx
      cases hx
      obtain ⟨hlt, rfl⟩ := List.getElem?_eq_some_iff.1 hfound
      show bytes = bytesOf 4 (cases.idxOf cases[index]) ++ rest
      rw [hnodup.idxOf_getElem index hlt]
      exact hbytes

theorem Exact.pair {first : Codec α} {second : Codec β} (h : first.Exact) (h' : second.Exact) :
    (first.pair second).Exact := by
  intro bytes x rest hread
  obtain ⟨x₁, between, h₁, hread⟩ := bind_eq_ok hread
  obtain ⟨x₂, h₂, rfl⟩ := map_eq_ok hread
  show bytes = first.write x₁ ++ second.write x₂ ++ rest
  rw [List.append_assoc, ← h' _ _ _ h₂]
  exact h _ _ _ h₁

theorem Exact.as {codec : Codec α} (h : codec.Exact) {ofCoded : α → β} {toCoded : β → α}
    (hto : ∀ x, toCoded (ofCoded x) = x) : (codec.as ofCoded toCoded).Exact := by
  intro bytes y rest hread
  obtain ⟨x, hx, rfl⟩ := map_eq_ok hread
  show bytes = codec.write (toCoded (ofCoded x)) ++ rest
  rw [hto]
  exact h _ _ _ hx

/-- By induction on the number of values that are still to be read. -/
theorem readMany_eq_ok {codec : Codec α} (h : codec.Exact) {n : Nat} {bytes rest : List UInt8}
    {xs : List α} (hread : readMany codec n bytes = .ok (xs, rest)) :
    bytes = xs.flatMap codec.write ++ rest ∧ xs.length = n := by
  induction n generalizing bytes xs with
  | zero =>
      cases hread
      exact ⟨rfl, rfl⟩
  | succ n ih =>
      obtain ⟨x, between, hx, hread⟩ := bind_eq_ok hread
      obtain ⟨xs, hxs, rfl⟩ := map_eq_ok hread
      obtain ⟨hbetween, hlength⟩ := ih hxs
      refine ⟨?_, congrArg (· + 1) hlength⟩
      rw [List.flatMap_cons, List.append_assoc, ← hbetween]
      exact h _ _ _ hx

theorem Exact.list {codec : Codec α} (h : codec.Exact) : (Codec.list codec).Exact := by
  intro bytes xs rest hread
  obtain ⟨n, between, hn, hxs⟩ := bind_eq_ok hread
  obtain ⟨hbytes, -⟩ := readNat_eq_ok hn
  obtain ⟨hbetween, hlength⟩ := readMany_eq_ok h hxs
  show bytes = bytesOf 8 xs.length ++ xs.flatMap codec.write ++ rest
  rw [hlength, List.append_assoc, ← hbetween]
  exact hbytes

theorem Exact.listUpTo {codec : Codec α} (h : codec.Exact) (limit : Nat) :
    (Codec.listUpTo limit codec).Exact := by
  intro bytes xs rest hread
  obtain ⟨n, between, hn, hread⟩ := bind_eq_ok hread
  obtain ⟨hbytes, -⟩ := readNat_eq_ok hn
  obtain ⟨values, between', hvalues, hread⟩ := bind_eq_ok hread
  obtain ⟨hbetween, hlength⟩ := readMany_eq_ok h hvalues
  split at hread
  · next hle =>
      cases hread
      -- a list that is not refused has all the values that its length speaks of
      have hn : values.length = n := by omega
      show bytes = bytesOf 8 values.length ++ values.flatMap codec.write ++ rest
      rw [hn, List.append_assoc, ← hbetween]
      exact hbytes
  · cases hread

/-! ### Bodies

The codecs of the bodies are put together from those above, and so are the laws about them. Commands
are the exception: what follows the number depends on it, so they are gone through one by one.
-/

theorem exact_axisTable : axisTable.Exact := (exact_u16.listUpTo maxAxes).as fun _ => rfl

theorem exact_taskState : taskState.Exact := exact_oneOf (by decide)

theorem exact_taskMode : taskMode.Exact := exact_oneOf (by decide)

theorem exact_status : status.Exact := by
  -- the fields are read in the order in which they are written
  have hexec : execState.Exact := exact_oneOf (by decide)
  have hinterp : interpState.Exact := exact_oneOf (by decide)
  have hspindle : spindleDirection.Exact := exact_oneOf (by decide)
  have htraj : trajMode.Exact := exact_oneOf (by decide)
  have hunits : programUnits.Exact := exact_oneOf (by decide)
  have hangle : programAngle.Exact := exact_oneOf (by decide)
  have hfields := exact_i32.pair <| hexec.pair <| exact_taskState.pair <|
    exact_taskMode.pair <| hinterp.pair <| exact_text.pair <|
    exact_axisTable.pair <| exact_u16.pair <| exact_f64.pair <|
    exact_f64.pair <| exact_f64.pair <| exact_f64.pair <|
    hspindle.pair <| exact_bool.pair <| exact_f64.pair <| exact_bool.pair <|
    exact_bool.pair <| exact_bool.pair <| exact_bool.pair <| exact_f64.pair <|
    htraj.pair <| exact_f64.pair <| hunits.pair hangle
  exact hfields.as fun _ => rfl

theorem exact_notice : notice.Exact := by
  have hkind : noticeKind.Exact := exact_oneOf (by decide)
  exact (hkind.pair (exact_bounded _)).as fun _ => rfl

theorem exact_pinValue : pinValue.Exact := by
  intro bytes value rest h
  obtain ⟨index, between, hindex, hvalue⟩ := bind_eq_ok h
  obtain ⟨hbytes, -⟩ := readNat_eq_ok hindex
  rw [hbytes]  -- the number of the case decides which codec reads on
  split at hvalue
  · obtain ⟨b, hb, rfl⟩ := map_eq_ok hvalue
    rw [exact_bool _ _ _ hb, ← List.append_assoc]
    rfl
  · obtain ⟨n, hn, rfl⟩ := map_eq_ok hvalue
    rw [exact_u16 _ _ _ hn, ← List.append_assoc]
    rfl
  · obtain ⟨x, hx, rfl⟩ := map_eq_ok hvalue
    rw [exact_f64 _ _ _ hx, ← List.append_assoc]
    rfl
  · cases hvalue

theorem exact_pins : pins.Exact :=
  ((exact_text.pair exact_pinValue).as fun _ => rfl).list

theorem exact_velocityVector : velocityVector.Exact := by
  have hfields := exact_f64.pair <| exact_f64.pair <| exact_f64.pair <|
    exact_f64.pair <| exact_f64.pair exact_f64
  exact hfields.as fun _ => rfl

/-- The payload that is read is that of a command with this number. -/
theorem readPayload_eq_ok {index : Nat} {bytes rest : List UInt8} {c : Command}
    (h : readPayload index bytes = .ok (c, rest)) :
    commandIndex c = index ∧ bytes = writePayload c ++ rest := by
  unfold readPayload at h
  split at h
  -- what carries a state, a mode, a line of a program or a manual line
  case h_2 =>
    obtain ⟨state, hstate, rfl⟩ := map_eq_ok h
    exact ⟨rfl, exact_taskState _ _ _ hstate⟩
  case h_3 =>
    obtain ⟨mode, hmode, rfl⟩ := map_eq_ok h
    exact ⟨rfl, exact_taskMode _ _ _ hmode⟩
  case h_6 =>
    obtain ⟨line, hline, rfl⟩ := map_eq_ok h
    exact ⟨rfl, exact_i32 _ _ _ hline⟩
  case h_10 =>
    obtain ⟨line, hline, rfl⟩ := map_eq_ok h
    exact ⟨rfl, exact_bounded _ _ _ _ hline⟩
  -- what carries several fields
  case h_11 =>
    obtain ⟨⟨axis, velocity⟩, between, hfields, h⟩ := bind_eq_ok h
    cases h
    exact ⟨rfl, (exact_u8.pair exact_f64) _ _ _ hfields⟩
  case h_12 =>
    obtain ⟨⟨axis, velocity, increment⟩, between, hfields, h⟩ := bind_eq_ok h
    cases h
    exact ⟨rfl, (exact_u8.pair (exact_f64.pair exact_f64)) _ _ _ hfields⟩
  case h_14 =>
    obtain ⟨velocity, hvelocity, rfl⟩ := map_eq_ok h
    exact ⟨rfl, exact_velocityVector _ _ _ hvelocity⟩
  case h_35 =>
    obtain ⟨⟨tool, length, diameter⟩, between, hfields, h⟩ := bind_eq_ok h
    cases h
    exact ⟨rfl, (exact_u16.pair (exact_f64.pair exact_f64)) _ _ _ hfields⟩
  case h_36 =>
    obtain ⟨⟨x, y, z⟩, between, hfields, h⟩ := bind_eq_ok h
    cases h
    exact ⟨rfl, (exact_f64.pair (exact_f64.pair exact_f64)) _ _ _ hfields⟩
  -- what carries a switch, an axis or a number
  case h_15 =>
    obtain ⟨on, hon, rfl⟩ := map_eq_ok h
    exact ⟨rfl, exact_bool _ _ _ hon⟩
  case h_13 | h_16 | h_17 | h_18 | h_19 =>
    obtain ⟨axis, haxis, rfl⟩ := map_eq_ok h
    exact ⟨rfl, exact_u8 _ _ _ haxis⟩
  case h_20 | h_33 | h_34 =>
    obtain ⟨number, hnumber, rfl⟩ := map_eq_ok h
    exact ⟨rfl, exact_f64 _ _ _ hnumber⟩
  case h_38 => cases h  -- no command has a greater number
  -- the other commands carry nothing
  all_goals
    cases h
    exact ⟨rfl, rfl⟩

theorem exact_command : command.Exact := by
  intro bytes c rest h
  obtain ⟨index, between, hindex, hpayload⟩ := bind_eq_ok h
  obtain ⟨hbytes, -⟩ := readNat_eq_ok hindex
  obtain ⟨rfl, hbetween⟩ := readPayload_eq_ok hpayload
  show bytes = bytesOf 4 (commandIndex c) ++ writePayload c ++ rest
  rw [List.append_assoc, ← hbetween]
  exact hbytes

theorem exact_message : message.Exact := (exact_i32.pair exact_command).as fun _ => rfl

/-! ### Places in bytes

Where a text stands in a body is said by the number of bytes before it, without mentioning a codec.
-/

/-- At a place in some bytes stands a text, after the number of its bytes. -/
def TextAt (bytes : List UInt8) (place : Nat) (s : String) : Prop :=
  natOf ((bytes.drop place).take 8) = s.utf8ByteSize ∧
    (bytes.drop (place + 8)).take s.utf8ByteSize = Text.Utf8.encode s

/-- What stands behind so many bytes. -/
theorem take_drop_append {place width : Nat} {front middle back : List UInt8}
    (hfront : front.length = place) (hmiddle : middle.length = width) :
    ((front ++ (middle ++ back)).drop place).take width = middle := by
  rw [List.drop_left' hfront, List.take_left' hmiddle]

theorem length_text (s : String) : (text.write s).length = 8 + s.utf8ByteSize := by
  show (bytesOf 8 s.utf8ByteSize ++ Text.Utf8.encode s).length = _
  rw [List.length_append, length_bytesOf, Text.Utf8.length_encode]

theorem textAt_append {front back : List UInt8} {place : Nat} {s : String}
    (hfront : front.length = place) (hsize : s.utf8ByteSize < capacity 8) :
    TextAt (front ++ (text.write s ++ back)) place s := by
  have hlength := length_bytesOf 8 s.utf8ByteSize
  show TextAt (front ++ (bytesOf 8 s.utf8ByteSize ++ Text.Utf8.encode s ++ back)) place s
  rw [List.append_assoc]
  constructor
  · rw [take_drop_append hfront hlength, natOf_bytesOf, Nat.mod_eq_of_lt hsize]
  · rw [← List.append_assoc]
    refine take_drop_append ?_ (Text.Utf8.length_encode s)
    rw [List.length_append, hfront, hlength]

end Codec

/-! ### Frames

A frame carries the length of its body, so what is behind the body is of no concern to the reader.
What it leaves of the body itself may be anything.
-/

namespace Frame

open Codec

variable {α : Type}

/-- The body of a frame, as far as the header says. -/
def body (bytes : List UInt8) : List UInt8 := (bytes.drop headerLength).take (bodyLength bytes)

/-- Bytes begin with a whole frame of a type. -/
structure Begins (bytes : List UInt8) (type : FrameType) : Prop where
  header : headerLength ≤ bytes.length
  type : typeOf bytes = type
  whole : headerLength + bodyLength bytes ≤ bytes.length

theorem bodyLength_lt (bytes : List UInt8) : bodyLength bytes < valuesOf 32 := by
  unfold bodyLength
  generalize hfour : (bytes.drop 4).take 4 = four
  have hlength : four.length ≤ 4 := by
    rw [← hfour]
    exact List.length_take_le _ _
  -- so few bytes have no greater number than their width allows
  -- a number is its own remainder
  have hmod := natOf_bytesOf four.length (natOf four)
  rw [bytesOf_natOf] at hmod
  rw [hmod]
  exact Nat.lt_of_lt_of_le (Nat.mod_lt _ (Nat.pow_pos (by decide)))
    (Nat.pow_le_pow_right (by decide) hlength)

theorem length_body_lt (bytes : List UInt8) : (body bytes).length < valuesOf 32 :=
  Nat.lt_of_le_of_lt (List.length_take_le _ _) (bodyLength_lt bytes)

/-- What is decoded is read from the body of a whole frame. -/
theorem decode_eq_ok_iff {codec : Codec α} {type : FrameType} {bytes : List UInt8} {x : α} :
    decode codec type bytes = .ok x ↔
      Begins bytes type ∧ ∃ rest, codec.read (body bytes) = .ok (x, rest) := by
  unfold decode
  dsimp only
  constructor  -- the checks before the body are the conditions under which a frame begins
  · intro h
    split at h
    · cases h
    · next hheader =>
        split at h
        · cases h
        · next htype =>
            split at h
            · cases h
            · next hwhole =>
                split at h
                · next y rest hread =>
                    cases h
                    exact ⟨⟨by omega, Decidable.not_not.1 htype, by omega⟩, rest, hread⟩
                · cases h
  · rintro ⟨hbegins, rest, hread⟩
    rw [if_neg (Nat.not_lt.2 hbegins.header), if_neg (not_not_intro hbegins.type),
      if_neg (Nat.not_lt.2 hbegins.whole)]
    change codec.read ((bytes.drop headerLength).take (bodyLength bytes)) = .ok (x, rest) at hread
    rw [hread]

/-- The frame of a value has for its body what the codec writes. -/
theorem encode_eq_ok_iff {codec : Codec α} {type : FrameType} {x : α} {frame : List UInt8} :
    encode codec type x = .ok frame ↔ (codec.write x).length < valuesOf 32 ∧
      frame = u32.write type ++ bytesOf 4 (codec.write x).length ++ codec.write x := by
  unfold encode
  dsimp only
  split
  · next hlt => simp [hlt, eq_comm]
  · next hlt => simp [hlt]

theorem body_of_encode {codec : Codec α} {type : FrameType} {x : α} {frame : List UInt8}
    (h : encode codec type x = .ok frame) : body frame = codec.write x := by
  obtain ⟨hlt, rfl⟩ := encode_eq_ok_iff.1 h
  have hheader : (u32.write type ++ bytesOf 4 (codec.write x).length).length = headerLength := by
    rw [List.length_append, length_type, length_bytesOf]
    rfl
  have hbody := bodyLength_append type hlt (codec.write x)
  rw [← List.append_assoc] at hbody
  rw [body, hbody, List.drop_left' hheader, List.take_length]

/-- **Frames of a codec are canonical**: a value is decoded just from those frames whose body
starts with what the writer puts into the body of its own frame; and no such body starts with that
of another value. -/
structure Canonical (codec : Codec α) : Prop where
  decoded : ∀ (type : FrameType) (bytes : List UInt8) (x : α),
    decode codec type bytes = .ok x ↔
      Begins bytes type ∧ ∃ frame, encode codec type x = .ok frame ∧ body frame <+: body bytes
  apart : ∀ (type type' : FrameType) (x y : α) (frame frame' : List UInt8),
    encode codec type x = .ok frame → encode codec type' y = .ok frame' →
      body frame <+: body frame' → x = y

theorem canonical {codec : Codec α} (hback : codec.ReadsBack) (hexact : codec.Exact) :
    Canonical codec where
  decoded type bytes x := by
    rw [decode_eq_ok_iff]
    refine and_congr_right fun _ => ⟨?_, ?_⟩
    · -- what was read is at the front of the body, and short enough to be the body of a frame
      rintro ⟨rest, hread⟩
      have hbody := hexact _ _ _ hread
      have hlt : (codec.write x).length < valuesOf 32 := by
        have hlength := length_body_lt bytes
        rw [hbody, List.length_append] at hlength
        omega
      obtain ⟨frame, hencode⟩ : ∃ frame, encode codec type x = .ok frame :=
        ⟨_, encode_eq_ok_iff.2 ⟨hlt, rfl⟩⟩
      refine ⟨frame, hencode, rest, ?_⟩
      rw [body_of_encode hencode]
      exact hbody.symm
    · rintro ⟨frame, hencode, rest, hbody⟩
      rw [body_of_encode hencode] at hbody
      rw [← hbody]
      exact ⟨rest, hback x rest (encode_eq_ok_iff.1 hencode).1⟩
  apart type type' x y frame frame' hx hy := by
    rw [body_of_encode hx, body_of_encode hy]
    rintro ⟨rest, hrest⟩
    have hreadx := hback x rest (encode_eq_ok_iff.1 hx).1  -- one body is read in both ways
    have hready := hback y [] (encode_eq_ok_iff.1 hy).1
    rw [List.append_nil, ← hrest, hreadx] at hready
    cases hready
    rfl

/-! ### Limits

Whatever is read has passed the limits of its type. Here they are stated of the bytes from which it
was read, at the place where they stand in the body.
-/

/-- The manual line of a message stands in the body as it was read, and is short enough. -/
def LineFits (body : List UInt8) (m : Message) : Prop :=
  ∀ line, m.command = .mdiExecute line →
    TextAt body 8 line.text ∧ line.text.utf8ByteSize ≤ maxLineBytes

/-- The text of a notice stands in the body as it was read, and is short enough. -/
def NoticeFits (body : List UInt8) (n : Notice) : Prop :=
  TextAt body 4 n.text.text ∧ n.text.text.utf8ByteSize ≤ maxNoticeBytes

/-- The axes of a status are as many as the body says and not too many; their flags are the words
that stand there, bit by bit. -/
def AxesFit (body : List UInt8) (s : Status) : Prop :=
  TextAt body 20 s.programFile ∧
    natOf ((body.drop (28 + s.programFile.utf8ByteSize)).take 8) = s.axes.flags.length ∧
    s.axes.flags.length ≤ maxAxes ∧
    (body.drop (36 + s.programFile.utf8ByteSize)).take (2 * s.axes.flags.length)
      = s.axes.flags.flatMap u16.write

theorem lineFits {bytes rest : List UInt8} {m : Message}
    (hbody : body bytes = message.write m ++ rest) : LineFits (body bytes) m := by
  intro line hline
  refine ⟨?_, line.size_le⟩
  have hcommand : writePayload m.command = text.write line.text := by
    rw [hline]
    rfl
  have hwritten : body bytes = (bytesOf 4 m.serial.toUInt32.toNat
      ++ bytesOf 4 (commandIndex m.command)) ++ (text.write line.text ++ rest) := by
    rw [hbody, ← hcommand]
    show bytesOf 4 _ ++ (bytesOf 4 _ ++ writePayload m.command) ++ rest = _
    simp only [List.append_assoc]
  rw [hwritten]
  refine textAt_append ?_ (Nat.lt_of_le_of_lt line.size_le (by decide))
  rw [List.length_append, length_bytesOf, length_bytesOf]

theorem noticeFits {bytes rest : List UInt8} {n : Notice}
    (hbody : body bytes = notice.write n ++ rest) : NoticeFits (body bytes) n := by
  refine ⟨?_, n.text.size_le⟩
  have hwritten : body bytes = noticeKind.write n.kind ++ (text.write n.text.text ++ rest) := by
    rw [hbody]
    show noticeKind.write n.kind ++ text.write n.text.text ++ rest = _
    rw [List.append_assoc]
  rw [hwritten]
  exact textAt_append (length_bytesOf 4 _) (Nat.lt_of_le_of_lt n.text.size_le (by decide))

theorem length_flags (flags : List AxisFlags) :
    (flags.flatMap u16.write).length = 2 * flags.length := by
  induction flags with
  | nil => rfl
  | cons f flags ih =>
      have hf : (u16.write f).length = 2 := length_bytesOf 2 _
      rw [List.flatMap_cons, List.length_append, hf, ih, List.length_cons]
      omega

/-- The file name and the axes stand behind five numbers. -/
theorem status_write (s : Status) :
    ∃ front back, front.length = 20 ∧
      status.write s = front ++ (text.write s.programFile
        ++ (bytesOf 8 s.axes.flags.length ++ (s.axes.flags.flatMap u16.write ++ back))) := by
  obtain ⟨back, hwrite⟩ : ∃ back, status.write s = i32.write s.echo
      ++ (execState.write s.state ++ (taskState.write s.taskState
      ++ (taskMode.write s.taskMode ++ (interpState.write s.interpState
      ++ (text.write s.programFile ++ ((bytesOf 8 s.axes.flags.length
      ++ s.axes.flags.flatMap u16.write) ++ back)))))) := ⟨_, rfl⟩
  refine ⟨i32.write s.echo ++ (execState.write s.state ++ (taskState.write s.taskState
    ++ (taskMode.write s.taskMode ++ interpState.write s.interpState))), back, rfl, ?_⟩
  rw [hwrite]
  simp only [List.append_assoc]

theorem axesFit {bytes rest : List UInt8} {s : Status}
    (hbody : body bytes = status.write s ++ rest) : AxesFit (body bytes) s := by
  obtain ⟨front, back, hfront, hwritten⟩ := status_write s
  have hfile := length_text s.programFile
  -- a length that was cut off would say less than there is in the body
  have hsize : s.programFile.utf8ByteSize < capacity 8 := by
    have hlength := length_body_lt bytes
    have hcapacity := valuesOf_le_capacity
    rw [hbody, hwritten, List.length_append, List.length_append, List.length_append, hfile]
      at hlength
    omega
  have hcount : s.axes.flags.length < capacity 8 :=
    Nat.lt_of_le_of_lt s.axes.length_le (by decide)
  rw [hwritten] at hbody
  simp only [List.append_assoc] at hbody
  rw [hbody]
  -- the text stands behind the fields of fixed size, and the axes stand behind the text
  refine ⟨textAt_append hfront hsize, ?_, s.axes.length_le, ?_⟩
  · rw [← List.append_assoc, take_drop_append ?_ (length_bytesOf 8 _), natOf_bytesOf,
      Nat.mod_eq_of_lt hcount]
    rw [List.length_append, hfront, hfile]
    omega
  · rw [← List.append_assoc, ← List.append_assoc]
    refine take_drop_append ?_ (length_flags _)
    rw [List.length_append, List.length_append, hfront, hfile, length_bytesOf]
    omega

/-- **Decoding is canonical**, for all four things that frames carry, and the limits on texts and
axes are those of the bytes that were decoded. -/
theorem canonical_bodies :
    Canonical Codec.message ∧ Canonical Codec.status ∧ Canonical Codec.notice ∧
      Canonical Codec.pins ∧
    ∀ (type : FrameType) (bytes : List UInt8),
      (∀ m, decode Codec.message type bytes = .ok m → LineFits (body bytes) m) ∧
      (∀ s, decode Codec.status type bytes = .ok s → AxesFit (body bytes) s) ∧
      (∀ n, decode Codec.notice type bytes = .ok n → NoticeFits (body bytes) n) := by
  refine ⟨canonical readsBack_message exact_message, canonical readsBack_status exact_status,
    canonical readsBack_notice exact_notice, canonical readsBack_pins exact_pins,
    fun type bytes => ⟨fun m hm => ?_, fun s hs => ?_, fun n hn => ?_⟩⟩
  · obtain ⟨-, rest, hread⟩ := decode_eq_ok_iff.1 hm
    exact lineFits (exact_message _ _ _ hread)
  · obtain ⟨-, rest, hread⟩ := decode_eq_ok_iff.1 hs
    exact axesFit (exact_status _ _ _ hread)
  · obtain ⟨-, rest, hread⟩ := decode_eq_ok_iff.1 hn
    exact noticeFits (exact_notice _ _ _ hread)

/-- A message with a manual line; its body is longer than the message needs. -/
def lineFrame : List UInt8 :=
  u32.write FrameType.message ++ bytesOf 4 19
    ++ (bytesOf 4 1 ++ bytesOf 4 9 ++ bytesOf 8 2 ++ [0x47, 0x30] ++ [0xAA])

theorem canonical_bodies_line :
    decode Codec.message .message lineFrame = .ok ⟨1, .mdiExecute ⟨"G0", by decide⟩⟩ ∧
      (∃ frame, encode Codec.message .message ⟨1, .mdiExecute ⟨"G0", by decide⟩⟩ = .ok frame ∧
        body frame <+: body lineFrame) ∧
      LineFits (body lineFrame) ⟨1, .mdiExecute ⟨"G0", by decide⟩⟩ := by
  have hdecode : decode Codec.message .message lineFrame
      = .ok ⟨1, .mdiExecute ⟨"G0", by decide⟩⟩ := by rfl
  obtain ⟨hmessage, -, -, -, hlimits⟩ := canonical_bodies
  exact ⟨hdecode, ((hmessage.decoded _ _ _).1 hdecode).2,
    (hlimits .message lineFrame).1 _ hdecode⟩

end Frame
end OperatorPanel
