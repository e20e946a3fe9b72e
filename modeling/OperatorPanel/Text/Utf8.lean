import OperatorPanel.Text.Digits

/-!
# UTF-8

Texts as bytes, and the place where bytes stop being UTF-8. `decode_encode` and
`encode_of_decode` say that a text and its bytes determine each other.
-/

namespace OperatorPanel.Text

/-- Where bytes stop being UTF-8. -/
structure Utf8Fault where
  /-- The number of bytes before the fault, all of them whole characters. -/
  index : Nat
  /-- The bytes that begin a character and cannot go on as one; none where the bytes end within
  a character. -/
  length : Option Nat
  deriving DecidableEq, Repr

namespace Utf8

/-- The ranges in which the bytes after a lead byte must lie; none for bytes that lead nothing. -/
def tails? (lead : UInt8) : Option (List (UInt8 × UInt8)) :=
  if lead ≤ 0x7F then some []
  -- continuation bytes, and lead bytes of overlong forms
  else if lead < 0xC2 then none
  else if lead ≤ 0xDF then some [(0x80, 0xBF)]
  -- below these ranges lie overlong forms
  else if lead = 0xE0 then some [(0xA0, 0xBF), (0x80, 0xBF)]
  -- above this one lie the surrogates
  else if lead = 0xED then some [(0x80, 0x9F), (0x80, 0xBF)]
  else if lead ≤ 0xEF then some [(0x80, 0xBF), (0x80, 0xBF)]
  else if lead = 0xF0 then some [(0x90, 0xBF), (0x80, 0xBF), (0x80, 0xBF)]
  else if lead ≤ 0xF3 then some [(0x80, 0xBF), (0x80, 0xBF), (0x80, 0xBF)]
  -- and above this one nothing is encoded
  else if lead = 0xF4 then some [(0x80, 0x8F), (0x80, 0xBF), (0x80, 0xBF)]
  else none

/-- The number of bytes in their ranges, after `seen` bytes of a character: all of them, or the
length of the fault. -/
def follow (seen : Nat) : List (UInt8 × UInt8) → List UInt8 → Except (Option Nat) Nat
  | [], _ => .ok seen
  | _ :: _, [] => .error none
  | (low, high) :: ranges, b :: bytes =>
    if low ≤ b && b ≤ high then follow (seen + 1) ranges bytes else .error (some seen)

/-- The first fault in bytes of which `index` precede. -/
def faultFrom (index : Nat) : List UInt8 → Option Utf8Fault
  | [] => none
  | b :: bytes =>
    match tails? b with
    | none => some ⟨index, some 1⟩
    | some ranges =>
      match follow 1 ranges bytes with
      | .error length => some ⟨index, length⟩
      | .ok n => faultFrom (index + n) (bytes.drop (n - 1))
termination_by bytes => bytes.length
decreasing_by simp only [List.length_cons, List.length_drop]; omega

/-- The bytes of a text. -/
def encode (s : String) : List UInt8 := s.toByteArray.data.toList

/-- The text of some bytes, or where they stop being one. -/
def decode (bytes : List UInt8) : Except Utf8Fault String :=
  if h : ByteArray.IsValidUTF8 ⟨bytes.toArray⟩ then .ok (.ofByteArray ⟨bytes.toArray⟩ h)
  -- bytes that are no text always have a first fault; the default is never used
  else .error ((faultFrom 0 bytes).getD ⟨0, none⟩)

theorem decode_encode (s : String) : decode (encode s) = .ok s := by
  have h : ByteArray.IsValidUTF8 ⟨(encode s).toArray⟩ := s.isValidUTF8
  simp only [decode, h, dite_true]
  rfl

theorem encode_of_decode {bytes : List UInt8} {s : String} (h : decode bytes = .ok s) :
    encode s = bytes := by
  unfold decode at h
  split at h
  · cases h; rfl
  · cases h

theorem length_encode (s : String) : (encode s).length = s.utf8ByteSize := rfl

end Utf8

/-- What is said about a fault. -/
def Utf8Fault.text (fault : Utf8Fault) : String :=
  match fault.length with
  | some n =>
    "invalid utf-8 sequence of " ++ decimal n ++ " bytes from index " ++ decimal fault.index
  | none => "incomplete utf-8 byte sequence from index " ++ decimal fault.index

end OperatorPanel.Text
