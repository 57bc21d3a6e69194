import Mathlib
import ScreenViewer.Message

/-!
# The contents of input messages

Mouse and keyboard input travels as the object representation of a `MouseEventData` or of a packed
`KeyboardEventData`.  `convertTo` checks the size of a content and nothing else, and reads back what
`serialize` has written (`convertTo_toMessage`).

As with `SizeLayout`, the four bytes of an `int` or `unsigned int` are a parameter (`IntLayout`),
and so is what a byte gives that is read as a `bool` and is none.
-/

namespace ScreenViewer

/-- The object representation of `unsigned int`, which `int` shares: four bytes, and every four
bytes are one value.  That of `bool` is one byte, and two bytes are values. -/
class IntLayout where
  /-- The four bytes of a value. -/
  toBytes : UInt32 → Bytes
  /-- The value of four bytes. -/
  ofBytes : Bytes → UInt32
  /-- A value takes four bytes. -/
  length_toBytes : ∀ n, (toBytes n).length = 4
  /-- The bytes of a value read back as it. -/
  ofBytes_toBytes : ∀ n, ofBytes (toBytes n) = n
  /-- Four bytes are the bytes of the value they read as. -/
  toBytes_ofBytes : ∀ bs, bs.length = 4 → toBytes (ofBytes bs) = bs
  /-- What is read from a byte as a `bool`.  For bytes other than `0` and `1` the language leaves
  this undefined. -/
  toBool : Byte → Bool
  /-- Zero is false. -/
  toBool_zero : toBool 0 = false
  /-- One is true. -/
  toBool_one : toBool 1 = true

attribute [simp] IntLayout.length_toBytes IntLayout.ofBytes_toBytes IntLayout.toBool_zero
  IntLayout.toBool_one

/-- The little-endian layout of `unsigned int`. -/
@[reducible] def littleEndianInt : IntLayout where
  toBytes n := leBytes 4 n.toNat
  ofBytes bs := UInt32.ofNat (leValue bs)
  length_toBytes n := length_leBytes 4 n.toNat
  ofBytes_toBytes n := by
    apply UInt32.toNat_inj.mp
    have hn : n.toNat < 2 ^ 32 := n.toNat_lt
    rw [UInt32.toNat_ofNat', leValue_leBytes]
    omega
  toBytes_ofBytes bs hbs := by
    have hlt : leValue bs < 2 ^ 32 := by
      have := leValue_lt bs
      rwa [hbs] at this
    rw [UInt32.toNat_ofNat', Nat.mod_eq_of_lt hlt, ← hbs]
    exact leBytes_leValue bs
  toBool b := b ≠ 0
  toBool_zero := rfl
  toBool_one := rfl

/-- A structure that is sent as the content of a message. -/
class MessageTypeData (T : Type) where
  /-- `sizeof`. -/
  size : ℕ
  /-- The object representation of a value. -/
  serialize : T → Bytes
  /-- The value that an object with this representation has. -/
  read : Bytes → T
  /-- The object representation has the size of the structure. -/
  length_serialize : ∀ data, (serialize data).length = size
  /-- The object representation of a value is read as it. -/
  read_serialize : ∀ data, read (serialize data) = data

attribute [simp] MessageTypeData.length_serialize MessageTypeData.read_serialize

namespace MessageTypeData

variable {T : Type} [MessageTypeData T]

/-- The message that `send(type, data)` passes to `send`. -/
def toMessage (type : MessageType) (data : T) : Message :=
  { type := type, content := serialize data }

/-- The text of the `MessageTypeException` about a content of the wrong size. -/
def sizeError (T : Type) [MessageTypeData T] (size : ℕ) : String :=
  s!"Message's size ({size}) != ({MessageTypeData.size T}) sizeof(MessageTypeData)"

end MessageTypeData

/-- `convertTo`.  An error is the text of a `MessageTypeException`. -/
def convertTo (T : Type) [MessageTypeData T] (source : Message) : Except String T :=
  if source.content.length ≠ MessageTypeData.size T then
    .error (MessageTypeData.sizeError T source.content.length)
  else
    .ok (MessageTypeData.read source.content)

section ConvertTo

variable {T : Type} [MessageTypeData T]

/-- A content of the right size is read. -/
lemma convertTo_of_eq {source : Message} (h : source.content.length = MessageTypeData.size T) :
    convertTo T source = .ok (MessageTypeData.read source.content) := by
  simp [convertTo, h]

/-- A content of any other size is rejected. -/
lemma convertTo_of_ne {source : Message} (h : source.content.length ≠ MessageTypeData.size T) :
    convertTo T source = .error (MessageTypeData.sizeError T source.content.length) := by
  simp [convertTo, h]

/-- What was sent is read back. -/
lemma convertTo_toMessage (type : MessageType) (data : T) :
    convertTo T (MessageTypeData.toMessage type data) = .ok data := by
  rw [convertTo_of_eq (MessageTypeData.length_serialize data)]
  exact congrArg Except.ok (MessageTypeData.read_serialize data)

end ConvertTo

/-- A key that was pressed or released. -/
structure KeyboardEventData where
  down : Bool
  key : UInt32
  deriving DecidableEq

/-- What happened to the mouse: its buttons as a mask, and its position. -/
structure MouseEventData where
  buttonMask : Int32
  x : Int32
  y : Int32
  deriving DecidableEq

section Layout

variable [IntLayout]

/-- The packed structure is one byte for `down` and an `unsigned int`. -/
instance : MessageTypeData KeyboardEventData where
  size := 1 + 4
  serialize data := (if data.down then 1 else 0) :: IntLayout.toBytes data.key
  read bytes :=
    { down := IntLayout.toBool (bytes.getD 0 0), key := IntLayout.ofBytes (bytes.drop 1) }
  length_serialize data := by simp [Nat.add_comm]
  read_serialize data := by
    obtain ⟨down, key⟩ := data
    cases down <;> simp

/-- The structure is three values of type `int`, without padding. -/
instance : MessageTypeData MouseEventData where
  size := 4 + 4 + 4
  serialize data := IntLayout.toBytes data.buttonMask.toUInt32 ++
    IntLayout.toBytes data.x.toUInt32 ++ IntLayout.toBytes data.y.toUInt32
  read bytes :=
    { buttonMask := (IntLayout.ofBytes (bytes.take 4)).toInt32
      x := (IntLayout.ofBytes ((bytes.drop 4).take 4)).toInt32
      y := (IntLayout.ofBytes (bytes.drop 8)).toInt32 }
  length_serialize data := by simp
  read_serialize data := by
    simp [List.drop_append, List.drop_of_length_le]

end Layout

end ScreenViewer
