import OperatorPanel.Status
import OperatorPanel.Text.Utf8

/-!
# Binary codecs

A `Codec` writes values as bytes and reads them back from the front of longer bytes. Numbers
have a fixed width, the lowest byte first; texts and lists come after their length in eight
bytes; the cases of a choice are numbered in four. Each reader stands beside its writer.
-/

namespace OperatorPanel

/-- What is wrong with bytes that should hold a value. -/
inductive BodyFault where
  /-- The bytes end within a number. -/
  | endOfBytes
  /-- A text is said to be longer than what is left. -/
  | textBeyondEnd
  | notUtf8 (fault : Text.Utf8Fault)
  | notBool (found : UInt8)
  | noSuchCase (index count : Nat)
  | textTooLong (length limit : Nat)
  | listTooLong (length : Nat)
  deriving DecidableEq, Repr

/-- What is said about a fault. -/
def BodyFault.text : BodyFault → String
  | endOfBytes => "io error: unexpected end of file"
  | textBeyondEnd => "io error: "
  | notUtf8 fault => "string is not valid utf8: " ++ fault.text
  | notBool found =>
    "invalid u8 while decoding bool, expected 0 or 1, found " ++ Text.decimal found.toNat
  | noSuchCase index count =>
    "invalid value: integer \x60" ++ Text.decimal index ++ "\x60, expected variant index 0 <= i < "
      ++ Text.decimal count
  | textTooLong length limit =>
    "invalid length " ++ Text.decimal length ++ ", expected a string no more than "
      ++ Text.decimal limit ++ " bytes long"
  | listTooLong length => "invalid length " ++ Text.decimal length ++ ", expected a sequence"

/-- Reading a value from the front of some bytes, with the bytes after it. -/
abbrev ByteReader (α : Type) := StateT (List UInt8) (Except BodyFault) α

/-- A way to write values as bytes, and to read them back. -/
structure Codec (α : Type) where
  write : α → List UInt8
  read : ByteReader α

namespace Codec

/-! ### Numbers -/

/-- The lowest `width` bytes of `n`, the lowest first. -/
def bytesOf : (width n : Nat) → List UInt8
  | 0, _ => []
  | width + 1, n => UInt8.ofNat n :: bytesOf width (n / 256)

/-- The number whose bytes these are, the lowest first. -/
def natOf : List UInt8 → Nat
  | [] => 0
  | b :: bytes => b.toNat + 256 * natOf bytes

/-- How many values so many bytes can have. -/
def capacity (width : Nat) : Nat := Nat.pow 256 width

theorem length_bytesOf (width n : Nat) : (bytesOf width n).length = width := by
  induction width generalizing n with
  | zero => rfl
  | succ width ih => simp [bytesOf, ih]

theorem natOf_bytesOf (width n : Nat) : natOf (bytesOf width n) = n % capacity width := by
  induction width generalizing n with
  | zero => simp [bytesOf, natOf, capacity, Nat.mod_one]
  | succ width ih =>
    have h : capacity (width + 1) = 256 * capacity width := Nat.mul_comm _ _
    simp only [bytesOf, natOf, ih, UInt8.toNat_ofNat', h]
    show n % 256 + 256 * (n / 256 % capacity width) = n % (256 * capacity width)
    rw [Nat.mod_mul]

theorem bytesOf_natOf (bytes : List UInt8) : bytesOf bytes.length (natOf bytes) = bytes := by
  induction bytes with
  | nil => rfl
  | cons b bytes ih =>
    have hb := b.toNat_lt
    have h1 : (b.toNat + 256 * natOf bytes) / 256 = natOf bytes := by omega
    have h2 : UInt8.ofNat (b.toNat + 256 * natOf bytes) = b := by
      apply UInt8.toNat_inj.1
      rw [UInt8.toNat_ofNat']
      omega
    simp only [List.length_cons, natOf, bytesOf, h1, h2, ih]

/-- A number of so many bytes. -/
def readNat (width : Nat) : ByteReader Nat := fun bytes =>
  if width ≤ bytes.length then .ok (natOf (bytes.take width), bytes.drop width)
  else .error .endOfBytes

/-- A number of so many bytes, as a value. -/
def fixed {α : Type} (width : Nat) (toNat : α → Nat) (ofNat : Nat → α) : Codec α where
  write x := bytesOf width (toNat x)
  read := do return ofNat (← readNat width)

def u8 : Codec UInt8 := fixed 1 UInt8.toNat UInt8.ofNat
def u16 : Codec UInt16 := fixed 2 UInt16.toNat UInt16.ofNat
def u32 : Codec UInt32 := fixed 4 UInt32.toNat UInt32.ofNat
def i32 : Codec Int32 := fixed 4 (·.toUInt32.toNat) (UInt32.ofNat · |>.toInt32)
def f64 : Codec Number := fixed 8 (·.bits.toNat) (⟨UInt64.ofNat ·⟩)

/-- A truth value in one byte. -/
def bool : Codec Bool where
  write b := [if b then 1 else 0]
  read := do
    match ← u8.read with
    | 0 => return false
    | 1 => return true
    | found => throw (.notBool found)

/-! ### Texts -/

/-- Some bytes after their number. -/
def readText : ByteReader String := do
  let length ← readNat 8
  fun bytes =>
    if length ≤ bytes.length then
      match Text.Utf8.decode (bytes.take length) with
      | .ok s => .ok (s, bytes.drop length)
      | .error fault => .error (.notUtf8 fault)
    else .error .textBeyondEnd

/-- A text after the number of its bytes. -/
def text : Codec String where
  write s := bytesOf 8 s.utf8ByteSize ++ Text.Utf8.encode s
  read := readText

/-- A text with a limit on the number of its bytes. -/
def bounded (limit : Nat) : Codec (BoundedText limit) where
  write s := text.write s.text
  read := do
    let s ← readText
    match BoundedText.ofString? limit s with
    | some s => return s
    | none => throw (.textTooLong s.utf8ByteSize limit)

/-! ### Choices, pairs and lists -/

/-- One of some constants, by its place among them. -/
def oneOf {α : Type} [DecidableEq α] (cases : List α) : Codec α where
  write x := bytesOf 4 (cases.idxOf x)
  read := do
    let index ← readNat 4
    match cases[index]? with
    | some x => return x
    | none => throw (.noSuchCase index cases.length)

/-- One value after another. -/
def pair {α β : Type} (first : Codec α) (second : Codec β) : Codec (α × β) where
  write x := first.write x.1 ++ second.write x.2
  read := do
    let x ← first.read
    let y ← second.read
    return (x, y)

/-- The same bytes for another type. -/
def as {α β : Type} (codec : Codec α) (ofCoded : α → β) (toCoded : β → α) : Codec β where
  write x := codec.write (toCoded x)
  read := do return ofCoded (← codec.read)

/-- So many values. -/
def readMany {α : Type} (codec : Codec α) : Nat → ByteReader (List α)
  | 0 => return []
  | n + 1 => do
    let x ← codec.read
    let xs ← readMany codec n
    return x :: xs

/-- A list after its length. -/
def list {α : Type} (codec : Codec α) : Codec (List α) where
  write xs := bytesOf 8 xs.length ++ xs.flatMap codec.write
  read := do readMany codec (← readNat 8)

/-- A list of at most `limit` values. The value that is one too many is read before the list is
refused. -/
def listUpTo {α : Type} (limit : Nat) (codec : Codec α) :
    Codec { xs : List α // xs.length ≤ limit } where
  write xs := (list codec).write xs.1
  read := do
    let n ← readNat 8
    let xs ← readMany codec (min n (limit + 1))
    if h : xs.length ≤ limit then return ⟨xs, h⟩ else throw (.listTooLong (limit + 1))

end Codec
end OperatorPanel
