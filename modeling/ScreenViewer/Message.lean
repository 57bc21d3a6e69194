import Mathlib

/-!
# Messages and their headers

Every message on the wire is preceded by a packed nine-byte `MessageHeader`: the content's size as a
`std::size_t` and the one-byte message type.  `MessageHeader.serialize` is the object representation
that the senders write and `MessageHeader.deserialize` is the checked parser that the readers share.

The eight bytes of a `std::size_t` are a parameter (`SizeLayout`), since nothing depends on the byte
order beyond both ends using the same one; `littleEndian` is the layout of the platforms the program
is built for.
-/

namespace ScreenViewer

/-- A byte of a message or of a stream. -/
abbrev Byte := UInt8

/-- A byte string. -/
abbrev Bytes := List Byte

namespace Bytes

/-- The bytes of a text that the program formats. -/
def ofString (text : String) : Bytes := text.toUTF8.data.toList

/-- Bytes are copied into a buffer from `offset` on. -/
def overwrite (buffer : Bytes) (offset : ℕ) (bs : Bytes) : Bytes :=
  buffer.take offset ++ bs ++ buffer.drop (offset + bs.length)

/-- Copying into a buffer behind `k` bytes extends the first `k` bytes. -/
lemma take_overwrite {buffer : Bytes} {k : ℕ} (hk : k ≤ buffer.length) (bs : Bytes) :
    (overwrite buffer k bs).take (k + bs.length) = buffer.take k ++ bs := by
  rw [overwrite, List.take_left']
  simp [hk]

/-- What is copied to the start of a buffer is found there. -/
lemma take_overwrite_zero (buffer bs : Bytes) : (overwrite buffer 0 bs).take bs.length = bs := by
  simpa using take_overwrite (Nat.zero_le buffer.length) bs

/-- Copying within a buffer does not change its length. -/
lemma length_overwrite {buffer bs : Bytes} {k : ℕ} (h : k + bs.length ≤ buffer.length) :
    (overwrite buffer k bs).length = buffer.length := by
  simp only [overwrite, List.length_append, List.length_take, List.length_drop]
  omega

end Bytes

/-! ## Message types -/

/-- The kinds of message, in the order of their underlying values. -/
inductive MessageType
  | justAMessage
  | login
  | registerStreamer
  | findStreamer
  | startStream
  | response
  | id
  | ack
  | nack
  | mouseInput
  | keyboardInput
  | screenUpdate
  | disconnect
  deriving DecidableEq, Repr

namespace MessageType

/-- The underlying value of a message type. -/
def toByte : MessageType → Byte
  | justAMessage => 0
  | login => 1
  | registerStreamer => 2
  | findStreamer => 3
  | startStream => 4
  | response => 5
  | id => 6
  | ack => 7
  | nack => 8
  | mouseInput => 9
  | keyboardInput => 10
  | screenUpdate => 11
  | disconnect => 12

/-- The largest enumerator. -/
def maxValue : MessageType := disconnect

/-- All message types, each at the index that is its underlying value. -/
def values : Vector MessageType 13 :=
  #v[justAMessage, login, registerStreamer, findStreamer, startStream, response, id, ack, nack,
    mouseInput, keyboardInput, screenUpdate, disconnect]

/-- The cast of a byte to a message type, defined only for the values of enumerators. -/
def staticCast (value : Byte) (h : value ≤ maxValue.toByte) : MessageType :=
  values.get ⟨value.toNat, Nat.lt_succ_of_le (UInt8.le_iff_toNat_le.mp h)⟩

/-- No message type exceeds the largest enumerator. -/
lemma toByte_le_maxValue (type : MessageType) : type.toByte ≤ maxValue.toByte := by
  cases type <;> decide

/-- Casting the underlying value of a message type gives the type back. -/
@[simp] lemma staticCast_toByte (type : MessageType) :
    staticCast type.toByte type.toByte_le_maxValue = type := by
  cases type <;> rfl

/-- A byte that is cast to a message type is its underlying value. -/
lemma toByte_staticCast (value : Byte) (h : value ≤ maxValue.toByte) :
    (staticCast value h).toByte = value := by
  have hlt : value.toNat < 13 := Nat.lt_succ_of_le (UInt8.le_iff_toNat_le.mp h)
  have key : ∀ n : Fin 13, (values.get n).toByte.toNat = n := by decide
  exact UInt8.toNat_inj.mp (key ⟨value.toNat, hlt⟩)

/-- The name under which a message type is logged and reported. -/
def toStr : MessageType → String
  | justAMessage => "JUST_A_MESSAGE"
  | login => "LOGIN"
  | registerStreamer => "REGISTER_STREAMER"
  | findStreamer => "FIND_STREAMER"
  | startStream => "START_STREAM"
  | response => "RESPONSE"
  | id => "ID"
  | ack => "ACK"
  | nack => "NACK"
  | mouseInput => "MOUSE_INPUT"
  | keyboardInput => "KEYBOARD_INPUT"
  | screenUpdate => "SCREEN_UPDATE"
  | disconnect => "DISCONNECT"

end MessageType

/-- A message, borrowed or owned: its type and its content. -/
structure Message where
  type : MessageType
  content : Bytes
  deriving DecidableEq

/-! ## The layout of `std::size_t` -/

/-- The object representation of `std::size_t`: eight bytes, and every eight bytes are one value. -/
class SizeLayout where
  /-- The eight bytes of a value. -/
  toBytes : UInt64 → Bytes
  /-- The value of eight bytes. -/
  ofBytes : Bytes → UInt64
  /-- A value takes eight bytes. -/
  length_toBytes : ∀ n, (toBytes n).length = 8
  /-- The bytes of a value read back as it. -/
  ofBytes_toBytes : ∀ n, ofBytes (toBytes n) = n
  /-- Eight bytes are the bytes of the value they read as. -/
  toBytes_ofBytes : ∀ bs, bs.length = 8 → toBytes (ofBytes bs) = bs

attribute [simp] SizeLayout.length_toBytes SizeLayout.ofBytes_toBytes

/-- The `k` low bytes of a number, least significant first. -/
def leBytes : ℕ → ℕ → Bytes
  | 0, _ => []
  | k + 1, n => UInt8.ofNat n :: leBytes k (n / 256)

/-- The number spelled by bytes, least significant first. -/
def leValue : Bytes → ℕ
  | [] => 0
  | b :: bs => b.toNat + 256 * leValue bs

@[simp] lemma length_leBytes (k n : ℕ) : (leBytes k n).length = k := by
  induction k generalizing n with
  | zero => rfl
  | succ k ih => simp [leBytes, ih]

/-- The low bytes of a number spell it modulo what they can hold. -/
lemma leValue_leBytes (k n : ℕ) : leValue (leBytes k n) = n % 256 ^ k := by
  induction k generalizing n with
  | zero => simp [leBytes, leValue, Nat.mod_one]
  | succ k ih =>
    rw [leBytes, leValue, ih, pow_succ, Nat.mul_comm (256 ^ k), Nat.mod_mul]
    simp

/-- Bytes spell a number below the corresponding power of `256`. -/
lemma leValue_lt (bs : Bytes) : leValue bs < 256 ^ bs.length := by
  induction bs with
  | nil => simp [leValue]
  | cons b bs ih =>
    have hb : b.toNat < 256 := b.toNat_lt
    rw [leValue, List.length_cons, pow_succ]
    omega

/-- The low bytes of the number that bytes spell are these bytes. -/
lemma leBytes_leValue (bs : Bytes) : leBytes bs.length (leValue bs) = bs := by
  induction bs with
  | nil => rfl
  | cons b bs ih =>
    have hb : b.toNat < 256 := b.toNat_lt
    have hdiv : (b.toNat + 256 * leValue bs) / 256 = leValue bs := by omega
    have hmod : UInt8.ofNat (b.toNat + 256 * leValue bs) = b := by
      apply UInt8.toNat_inj.mp
      rw [UInt8.toNat_ofNat']
      omega
    rw [List.length_cons, leBytes, leValue, hdiv, ih, hmod]

/-- The little-endian layout. -/
@[reducible] def littleEndian : SizeLayout where
  toBytes n := leBytes 8 n.toNat
  ofBytes bs := UInt64.ofNat (leValue bs)
  length_toBytes n := length_leBytes 8 n.toNat
  ofBytes_toBytes n := by
    apply UInt64.toNat_inj.mp
    have hn : n.toNat < 2 ^ 64 := n.toNat_lt
    rw [UInt64.toNat_ofNat', leValue_leBytes]
    omega
  toBytes_ofBytes bs hbs := by
    have hlt : leValue bs < 2 ^ 64 := by
      have := leValue_lt bs
      rwa [hbs] at this
    rw [UInt64.toNat_ofNat', Nat.mod_eq_of_lt hlt, ← hbs]
    exact leBytes_leValue bs

/-! ## Headers -/

/-- The packed header in front of every message. -/
structure MessageHeader where
  messageSize : UInt64
  type : MessageType
  deriving DecidableEq

namespace MessageHeader

variable [SizeLayout]

/-- `sizeof(MessageHeader)`: the header is packed. -/
def size : ℕ := 8 + 1

/-- The object representation of a header. -/
def serialize (header : MessageHeader) : Bytes :=
  SizeLayout.toBytes header.messageSize ++ [header.type.toByte]

@[simp] lemma length_serialize (header : MessageHeader) : header.serialize.length = size := by
  simp [serialize, size]

/-- Parses the header at the front of a buffer, rejecting one that announces more than `maxLength`
bytes or a type that is no enumerator.  An error is the text of a `MessageHeaderException`. -/
def deserialize (buffer : Bytes) (bufferSize maxLength : ℕ) : Except String MessageHeader :=
  if bufferSize < size then
    .error s!"Buffer is too short to deserialize from ({bufferSize} < sizeof(MessageHeader))."
  else
    let length : UInt64 := SizeLayout.ofBytes (buffer.take 8)
    let declaredMsgType : Byte := buffer.getD 8 0
    if maxLength < length.toNat then
      .error s!"Message is too long ({length} > {maxLength})."
    else if h : declaredMsgType ≤ MessageType.maxValue.toByte then
      .ok { messageSize := length, type := MessageType.staticCast declaredMsgType h }
    else
      .error s!"Got unknown message type ({declaredMsgType})."

/-- A written header is parsed back when its size is within the limit. -/
theorem deserialize_serialize {header : MessageHeader} {maxLength : ℕ}
    (h : header.messageSize.toNat ≤ maxLength) :
    deserialize header.serialize size maxLength = .ok header := by
  have htake : header.serialize.take 8 = SizeLayout.toBytes header.messageSize :=
    List.take_left' (SizeLayout.length_toBytes _)
  have hget : header.serialize.getD 8 0 = header.type.toByte := by
    simp [serialize, List.getD]
  unfold deserialize
  simp only [lt_irrefl, if_false, htake, hget, SizeLayout.ofBytes_toBytes, not_lt.mpr h,
    header.type.toByte_le_maxValue, dite_true, MessageType.staticCast_toByte]

/-- A header is accepted only if it announces at most the limit, and then its bytes are the ones it
would be written with. -/
theorem of_deserialize_eq_ok {buffer : Bytes} {maxLength : ℕ} {header : MessageHeader}
    (hlen : buffer.length = size) (h : deserialize buffer size maxLength = .ok header) :
    header.messageSize.toNat ≤ maxLength ∧ buffer = header.serialize := by
  unfold deserialize at h
  simp only [lt_irrefl, if_false] at h
  by_cases hlong : maxLength < (SizeLayout.ofBytes (buffer.take 8)).toNat
  · simp [hlong] at h
  · by_cases htype : buffer.getD 8 0 ≤ MessageType.maxValue.toByte
    · simp only [hlong, if_false, htype, dite_true, Except.ok.injEq] at h
      subst h
      refine ⟨not_lt.mp hlong, ?_⟩
      have hdrop : buffer.drop 8 = [buffer.getD 8 0] := by
        have hlt : 8 < buffer.length := by rw [hlen]; decide
        rw [List.drop_eq_getElem_cons hlt, List.drop_of_length_le (by rw [hlen]; decide)]
        simp [List.getD, List.getElem?_eq_getElem hlt]
      rw [serialize, SizeLayout.toBytes_ofBytes _ (by rw [List.length_take, hlen]; decide),
        MessageType.toByte_staticCast, ← hdrop, List.take_append_drop]
    · simp only [hlong, if_false, htype, dite_false, reduceCtorEq] at h

end MessageHeader

end ScreenViewer
