import OperatorPanel.Proofs.Canonical

/-!
# What is cut short is noticed

A reader goes forward: what it has made of some bytes before it came to their end, a value or a
fault, it makes of them whatever stands behind them (`Codec.Forward`). So bytes that are missing at
the end of what was written can only be noticed by coming to that end (`Codec.read_cut`): nothing
else can be made of the rest that would not have been made of the whole.

Every reader goes forward because it is put together from readers that do. The main result is
`Frame.truncation_noticed`: no frame that is cut short is decoded, and no body either, not even
where other bytes stand right behind the cut.
-/

namespace OperatorPanel

/-- The bytes came to their end within a value. -/
def BodyFault.AtEnd (fault : BodyFault) : Prop := fault = .endOfBytes ∨ fault = .textBeyondEnd

namespace Codec

variable {α β : Type}

/-! ### Readers that go forward

`Forward` has two halves. A value is read from the bytes that it takes and leaves the others; and a
fault that was found within the bytes is found again with more of them. A fault for coming to the
end says nothing, for there the missing bytes might have helped.
-/

/-- **More bytes change nothing** for a reader that did not come to the end of those it had. -/
structure Forward (r : ByteReader α) : Prop where
  value : ∀ {bytes x rest}, r bytes = .ok (x, rest) →
    ∀ more, r (bytes ++ more) = .ok (x, rest ++ more)
  fault : ∀ {bytes fault}, r bytes = .error fault → ¬fault.AtEnd →
    ∀ more, r (bytes ++ more) = .error fault

/-- A sequence fails in its first step or in its second. -/
theorem bind_eq_error {r : ByteReader α} {f : α → ByteReader β} {bytes : List UInt8}
    {fault : BodyFault} :
    (r >>= f) bytes = .error fault ↔
      r bytes = .error fault ∨ ∃ x between, r bytes = .ok (x, between) ∧
        f x between = .error fault := by
  change (r bytes >>= fun p => f p.1 p.2) = .error fault ↔ _
  cases r bytes with
  | error fault' =>
      show Except.error fault' = Except.error fault ↔ _
      simp
  | ok p =>
      show f p.1 p.2 = .error fault ↔ _
      simp [Prod.ext_iff, and_assoc]

namespace Forward

/-- To read nothing goes forward. -/
theorem pure (x : α) : Forward (pure x : ByteReader α) where
  value h more := by
    cases h
    rfl
  fault h := by cases h

/-- To fail goes forward. -/
theorem throw (fault : BodyFault) : Forward (throw fault : ByteReader α) where
  value h := by cases h
  fault h _ more := by
    cases h
    rfl

/-- **A sequence goes forward** when its steps do. -/
theorem bind {r : ByteReader α} {f : α → ByteReader β} (hr : Forward r)
    (hf : ∀ x, Forward (f x)) : Forward (r >>= f) where
  value h more := by
    obtain ⟨x, between, hx, hy⟩ := bind_eq_ok h
    exact (bind_eq (hr.value hx more)).trans ((hf x).value hy more)
  fault h hinside more := by
    apply bind_eq_error.2
    obtain hfirst | ⟨x, between, hx, hsecond⟩ := bind_eq_error.1 h
    · exact .inl (hr.fault hfirst hinside more)
    · exact .inr ⟨x, _, hr.value hx more, (hf x).fault hsecond hinside more⟩

/-- What is read as part of another value. -/
theorem map {r : ByteReader α} (hr : Forward r) (f : α → β) : Forward (do return f (← r)) :=
  hr.bind fun _ => .pure _

end Forward

/-! ### Numbers and texts

A number comes to the end when there are too few bytes, and is known when there are enough. A text
does so twice, for its length and for itself; its encoding is looked at only when all of it is
there.
-/

/-- A number of some width goes forward. -/
theorem forward_readNat (width : Nat) : Forward (readNat width) where
  value {bytes n rest} h more := by
    obtain ⟨rfl, hn⟩ := readNat_eq_ok h
    rw [List.append_assoc]
    exact readNat_bytesOf hn _
  fault {bytes fault} h hinside := by
    unfold readNat at h
    split at h
    · cases h
    · cases h
      exact absurd (.inl rfl) hinside

theorem forward_fixed {width : Nat} (toNat : α → Nat) (ofNat : Nat → α) :
    Forward (fixed width toNat ofNat).read :=
  (forward_readNat width).map ofNat

theorem forward_bool : Forward bool.read := by
  refine (forward_fixed _ _).bind fun n => ?_
  split
  · exact .pure _
  · exact .pure _
  · exact .throw _

/-- So does a text. -/
theorem forward_readText : Forward readText := by
  refine (forward_readNat 8).bind fun length => ?_
  have hlong {bytes : List UInt8} (hle : length ≤ bytes.length) (more : List UInt8) :
      length ≤ (bytes ++ more).length := by
    rw [List.length_append]
    exact Nat.le_add_right_of_le hle
  constructor
  · intro bytes s rest h more
    split at h
    · next hle =>
        rw [if_pos (hlong hle more), List.take_append_of_le_length hle,
          List.drop_append_of_le_length hle]
        split at h
        · cases h
          rfl
        · cases h
    · cases h
  · -- with the length in hand, only a text that is all there can be badly encoded
    intro bytes fault h hinside more
    split at h
    · next hle =>
        rw [if_pos (hlong hle more), List.take_append_of_le_length hle]
        split at h
        · cases h
        · cases h
          rfl
    · cases h
      exact absurd (.inr rfl) hinside

theorem forward_bounded (limit : Nat) : Forward (bounded limit).read := by
  refine forward_readText.bind fun s => ?_
  split
  · exact .pure _
  · exact .throw _

/-! ### Choices, pairs and lists

As with the law for reading back, there is one lemma for each combinator. None of them asks for more
than that the parts go forward.
-/

theorem forward_oneOf [DecidableEq α] (cases : List α) : Forward (oneOf cases).read := by
  refine (forward_readNat 4).bind fun index => ?_
  split
  · exact .pure _
  · exact .throw _

/-- **A pair goes forward** when both of its parts do. -/
theorem Forward.pair {first : Codec α} {second : Codec β} (h : Forward first.read)
    (h' : Forward second.read) : Forward (first.pair second).read :=
  h.bind fun _ => h'.map _

theorem Forward.as {codec : Codec α} (h : Forward codec.read) (ofCoded : α → β)
    (toCoded : β → α) : Forward (codec.as ofCoded toCoded).read :=
  h.map ofCoded

/-- So do several values, one after another. -/
theorem forward_readMany {codec : Codec α} (h : Forward codec.read) (n : Nat) :
    Forward (readMany codec n) := by
  induction n with
  | zero => exact .pure []
  | succ n ih => exact h.bind fun _ => ih.map _

/-- A list reads its count first. -/
theorem Forward.list {codec : Codec α} (h : Forward codec.read) :
    Forward (Codec.list codec).read :=
  (forward_readNat 8).bind fun n => forward_readMany h n

theorem Forward.listUpTo {codec : Codec α} (h : Forward codec.read) (limit : Nat) :
    Forward (Codec.listUpTo limit codec).read := by
  refine (forward_readNat 8).bind fun n => (forward_readMany h _).bind fun xs => ?_
  split
  · exact .pure _
  · exact .throw _

/-! ### Bodies

What a body reads is decided by numbers that it has read before, such as the kind of a command. So
the cases are those of the readers and not those of the values.
-/

theorem forward_status : Forward status.read := by
  have hfile : Forward text.read := forward_readText
  have haxes : Forward axisTable.read := ((forward_fixed _ _).listUpTo maxAxes).as _ _
  have hnumber : Forward f64.read := forward_fixed _ _
  refine Forward.as ?_ _ _
  exact (forward_fixed _ _).pair <| (forward_oneOf _).pair <| (forward_oneOf _).pair <|
    (forward_oneOf _).pair <| (forward_oneOf _).pair <| hfile.pair <| haxes.pair <|
    (forward_fixed _ _).pair <| hnumber.pair <| hnumber.pair <| hnumber.pair <| hnumber.pair <|
    (forward_oneOf _).pair <| forward_bool.pair <| hnumber.pair <| forward_bool.pair <|
    forward_bool.pair <| forward_bool.pair <| forward_bool.pair <| hnumber.pair <|
    (forward_oneOf _).pair <| hnumber.pair <| (forward_oneOf _).pair (forward_oneOf _)

theorem forward_notice : Forward notice.read :=
  ((forward_oneOf _).pair (forward_bounded _)).as _ _

theorem forward_pinValue : Forward pinValue.read := by
  refine (forward_readNat 4).bind fun index => ?_
  split
  · exact forward_bool.map _
  · exact (forward_fixed _ _).map _
  · exact (forward_fixed _ _).map _
  · exact .throw _

theorem forward_pins : Forward pins.read :=
  Forward.list ((Forward.pair forward_readText forward_pinValue).as _ _)

theorem forward_velocityVector : Forward velocityVector.read := by
  have hnumber : Forward f64.read := forward_fixed _ _
  exact (hnumber.pair <| hnumber.pair <| hnumber.pair <| hnumber.pair <|
    hnumber.pair hnumber).as _ _

/-- Under whatever number, the payload of a command goes forward. -/
theorem forward_readPayload (index : Nat) : Forward (readPayload index) := by
  have hnumber : Forward f64.read := forward_fixed _ _
  have haxis : Forward u8.read := forward_fixed _ _
  have hword : Forward u16.read := forward_fixed _ _
  unfold readPayload
  split
  -- what carries a state, a mode, a line of a program or a manual line
  case h_2 | h_3 => exact (forward_oneOf _).map _
  case h_6 => exact (forward_fixed _ _).map _
  case h_10 => exact (forward_bounded _).map _
  case h_11 => exact (haxis.pair hnumber).bind fun _ => .pure _  -- what carries several fields
  case h_12 => exact (haxis.pair (hnumber.pair hnumber)).bind fun _ => .pure _
  case h_14 => exact forward_velocityVector.map _
  case h_35 => exact (hword.pair (hnumber.pair hnumber)).bind fun _ => .pure _
  case h_36 => exact (hnumber.pair (hnumber.pair hnumber)).bind fun _ => .pure _
  case h_15 => exact forward_bool.map _  -- what carries a switch, an axis or a number
  case h_13 | h_16 | h_17 | h_18 | h_19 => exact haxis.map _
  case h_20 | h_33 | h_34 => exact hnumber.map _
  case h_38 => exact .throw _  -- no command has a greater number
  all_goals exact .pure _  -- the other commands carry nothing

theorem forward_message : Forward message.read := by
  have hcommand : Forward command.read := (forward_readNat 4).bind forward_readPayload
  exact (Forward.pair (forward_fixed _ _) hcommand).as _ _

/-! ### What is missing

Put together with the law for reading back, going forward leaves nothing for a part of a written
value to be read as: with the missing bytes added, both a value and a fault would have to be what
the whole gives.
-/

/-- **Of a part of what was written nothing is read**: the reader comes to the end of the bytes. -/
theorem read_cut {codec : Codec α} (hback : codec.ReadsBack) (hforward : Forward codec.read) {x : α}
    {cut : List UInt8} (hlength : (codec.write x).length < valuesOf 32)
    (hcut : cut <+: codec.write x) (hne : cut ≠ codec.write x) :
    ∃ fault : BodyFault, fault.AtEnd ∧ codec.read cut = .error fault := by
  obtain ⟨missing, hwhole⟩ := hcut
  have hread := hback x [] hlength
  rw [List.append_nil, ← hwhole] at hread
  cases hr : codec.read cut with
  | error fault =>
      refine ⟨fault, ?_, rfl⟩
      by_cases hend : fault.AtEnd
      · exact hend
      · -- the whole would be refused as well
        rw [hforward.fault hr hend missing] at hread
        cases hread
  | ok found => -- the whole would be read with the missing bytes left over
      obtain ⟨y, rest⟩ := found
      rw [hforward.value hr missing] at hread
      have hnone : rest ++ missing = [] := (Prod.mk.inj (Except.ok.inj hread)).2
      obtain ⟨-, rfl⟩ := List.append_eq_nil_iff.1 hnone
      rw [List.append_nil] at hwhole
      exact absurd hwhole hne

end Codec

/-! ### Frames

The header of a frame says how long the body is, so a frame that is cut short is refused by its
length. If the length in the header is that of the part, the reader of the body has to notice.
-/

namespace Frame

open Codec

variable {α : Type}

/-- **Frames of a codec are decoded as a whole or not at all.** A frame that is cut short is refused
for its length: within the header that of the header is asked for, and behind it that of the whole
frame. A body that is cut short is refused by the reader, which comes to its end, even if the header
says that the part is the whole and whatever stands behind the cut. -/
structure WholeOrRefused (codec : Codec α) : Prop where
  frame : ∀ (type : FrameType) (x : α) (frame cut : List UInt8),
    encode codec type x = .ok frame → cut <+: frame → cut ≠ frame →
      decode codec type cut = .error
        (.truncated (if cut.length < headerLength then headerLength else frame.length) cut.length)
  body : ∀ (type : FrameType) (x : α) (frame part tail : List UInt8),
    encode codec type x = .ok frame → part <+: body frame → part ≠ body frame →
      ∃ fault : BodyFault, fault.AtEnd ∧
        decode codec type (u32.write type ++ bytesOf 4 part.length ++ (part ++ tail))
          = .error (.body fault)

/-- A frame that is cut short is refused for its length. -/
theorem decode_cut {codec : Codec α} {type : FrameType} {x : α} {frame cut : List UInt8}
    (hencode : encode codec type x = .ok frame) (hcut : cut <+: frame) (hne : cut ≠ frame) :
    decode codec type cut = .error
      (.truncated (if cut.length < headerLength then headerLength else frame.length)
        cut.length) := by
  obtain ⟨hlt, rfl⟩ := encode_eq_ok_iff.1 hencode
  by_cases hheader : cut.length < headerLength  -- the cut is within the header or behind it
  · rw [decode, if_pos hheader, if_pos hheader]
  · -- behind the header there is a part of the body
    have hle : (u32.write type ++ bytesOf 4 (codec.write x).length).length ≤ cut.length := by
      rw [length_header]
      exact Nat.not_lt.1 hheader
    obtain ⟨part, rfl⟩ := List.prefix_of_prefix_length_le (List.prefix_append _ _) hcut hle
    have hpart := (List.prefix_append_right_inj _).1 hcut
    have hlength : part.length < (codec.write x).length :=
      Nat.lt_of_le_of_ne hpart.length_le fun h => hne (by rw [hpart.eq_of_length h])
    rw [if_neg hheader, decode_header hlt, if_pos hlength, length_framed, length_framed]

/-- **A codec that reads back and goes forward** decodes frames as a whole or not at all. -/
theorem wholeOrRefused {codec : Codec α} (hback : codec.ReadsBack)
    (hforward : Forward codec.read) : WholeOrRefused codec where
  frame _ _ _ _ hencode hcut hne := decode_cut hencode hcut hne
  body type x frame part tail hencode hpart hne := by
    obtain ⟨hlt, -⟩ := encode_eq_ok_iff.1 hencode
    rw [body_of_encode hencode] at hpart hne
    obtain ⟨fault, hend, hread⟩ := read_cut hback hforward hlt hpart hne
    have hlength : part.length < valuesOf 32 := Nat.lt_of_le_of_lt hpart.length_le hlt
    have hthere : ¬(part ++ tail).length < part.length := by
      rw [List.length_append]
      omega
    refine ⟨fault, hend, ?_⟩
    rw [decode_header hlength, if_neg hthere, List.take_left, hread]

/-- **What is cut short is noticed**, in all four things that frames carry. -/
theorem truncation_noticed :
    WholeOrRefused Codec.message ∧ WholeOrRefused Codec.status ∧ WholeOrRefused Codec.notice ∧
      WholeOrRefused Codec.pins :=
  ⟨wholeOrRefused readsBack_message forward_message,
    wholeOrRefused readsBack_status forward_status,
    wholeOrRefused readsBack_notice forward_notice, wholeOrRefused readsBack_pins forward_pins⟩

end Frame
end OperatorPanel
