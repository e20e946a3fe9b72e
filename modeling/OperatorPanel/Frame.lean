import OperatorPanel.Frame.Body

/-!
# Frames

What stands in a channel: the type of the content and the length of its body in four bytes each,
and the body. The type zero marks a slot that holds nothing yet.
-/

namespace OperatorPanel

/-- The type of a frame. -/
abbrev FrameType := UInt32

namespace FrameType

def empty : FrameType := 0
def message : FrameType := 0x434d4401
def status : FrameType := 0x53544101
def notice : FrameType := 0x45525201
def pins : FrameType := 0x50494e01

end FrameType

/-- What is wrong with a frame. -/
inductive FrameFault where
  | truncated (needed available : Nat)
  | typeMismatch (expected found : FrameType)
  | tooLarge (length : Nat)
  | body (fault : BodyFault)
  deriving DecidableEq, Repr

/-- What is said about a fault. -/
def FrameFault.text : FrameFault → String
  | truncated needed available =>
    "frame truncated: need " ++ Text.decimal needed ++ " bytes, have " ++ Text.decimal available
  | typeMismatch expected found =>
    "frame type mismatch: expected " ++ Text.hexadecimal expected.toNat ++ ", found "
      ++ Text.hexadecimal found.toNat
  | tooLarge length =>
    "frame body of " ++ Text.decimal length ++ " bytes exceeds u32 length field"
  | body fault => "bincode: " ++ fault.text

namespace Frame

/-- Bytes before the body. -/
def headerLength : Nat := 8

/-- The frame of a value. -/
def encode {α : Type} (codec : Codec α) (type : FrameType) (x : α) :
    Except FrameFault (List UInt8) :=
  let body := codec.write x
  if body.length < valuesOf 32 then
    .ok (Codec.u32.write type ++ Codec.bytesOf 4 body.length ++ body)
  else .error (.tooLarge body.length)

/-- The type that bytes start with; bytes too short for one hold nothing. -/
def typeOf (bytes : List UInt8) : FrameType :=
  if 4 ≤ bytes.length then UInt32.ofNat (Codec.natOf (bytes.take 4)) else .empty

/-- The length of the body, as the header gives it. -/
def bodyLength (bytes : List UInt8) : Nat := Codec.natOf ((bytes.drop 4).take 4)

/-- The value in a frame of the expected type. Bytes after the frame, and bytes of the body that
the value does not need, are ignored. -/
def decode {α : Type} (codec : Codec α) (expected : FrameType) (bytes : List UInt8) :
    Except FrameFault α :=
  if bytes.length < headerLength then .error (.truncated headerLength bytes.length)
  else if typeOf bytes ≠ expected then .error (.typeMismatch expected (typeOf bytes))
  else
    let finish := headerLength + bodyLength bytes
    if bytes.length < finish then .error (.truncated finish bytes.length)
    else
      match codec.read ((bytes.drop headerLength).take (bodyLength bytes)) with
      | .ok (x, _) => .ok x
      | .error fault => .error (.body fault)

end Frame
end OperatorPanel
