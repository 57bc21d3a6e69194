import Mathlib
import ScreenViewer.EventData
import ScreenViewer.SocketBase.Receive

/-!
# The encoding of input events

What is sent for an event is received and converted back, for both structures.  The converse would
be that `convertTo` accepts a content only if it is what is sent for the event that it returns.  It
is so for a `MouseEventData`, every byte of which belongs to an `int`; but the first byte of a
`KeyboardEventData` is a `bool`, which has two of the 256 bytes for its values, and `convertTo`
checks nothing but the size.
-/

namespace ScreenViewer

open SocketBase MessageTypeData

/-- What is sent for a value is received as one message, with either reader and whatever follows it,
and converted back. -/
def RoundTrips (T : Type) [MessageTypeData T] [SizeLayout] : Prop :=
  ∀ (type : MessageType) (data : T) (reader : Receiver) (s : Inbound) (t : Bytes),
    s.bytes = send (toMessage type data) ++ t →
      ∃ message s', readFrames [reader] s = .ok ([message], s') ∧ s'.bytes = t ∧
        message.type = type ∧ convertTo T message = .ok data

/-- A message is rejected, or its content is what is sent for the value that it is converted to. -/
def Canonical (T : Type) [MessageTypeData T] (source : Message) : Prop :=
  (∃ what, convertTo T source = .error what) ∨
    ∃ data, convertTo T source = .ok data ∧ (toMessage source.type data).content = source.content

/-- A message whose content is no value of type `bool` and an `unsigned int`, although it has their
size. -/
def IsNoBool (source : Message) : Prop :=
  source.content.length = 5 ∧ source.content.getD 0 0 ≠ 0 ∧ source.content.getD 0 0 ≠ 1

section General

variable {T : Type} [MessageTypeData T] {source : Message}

/-- Values that fit the buffer are received as they were sent. -/
lemma roundTrips_of_size_le [SizeLayout] (h : size T ≤ bufferSize) : RoundTrips T := by
  intro type data reader s t hs
  have hchunks : chunks (toMessage type data) = [toMessage type data] := by
    refine chunks_of_le ?_
    rw [toMessage, length_serialize]
    exact h
  have hlen : [reader].length = ([toMessage type data].flatMap chunks).length := by simp [hchunks]
  have hbytes : s.bytes = [toMessage type data].flatMap send ++ t := by simpa using hs
  obtain ⟨s', hread, hrest⟩ := exists_readFrames_of_send hbytes hlen
  refine ⟨toMessage type data, s', ?_, hrest, rfl, convertTo_toMessage type data⟩
  rw [hread]
  simp [hchunks]

/-- Only contents of the right size matter, and they are to be read back. -/
lemma canonical_of_serialize_read
    (h : source.content.length = size T →
      serialize (MessageTypeData.read source.content : T) = source.content) :
    Canonical T source := by
  by_cases hlen : source.content.length = size T
  · exact Or.inr ⟨_, convertTo_of_eq hlen, h hlen⟩
  · exact Or.inl ⟨_, convertTo_of_ne hlen⟩

/-- A content of the right size that is sent for no value is accepted all the same. -/
lemma not_canonical (hlen : source.content.length = size T)
    (h : ∀ data : T, serialize data ≠ source.content) : ¬ Canonical T source := by
  rintro (⟨what, hwhat⟩ | ⟨data, -, hdata⟩)
  · rw [convertTo_of_eq hlen] at hwhat
    cases hwhat
  · exact h data hdata

end General

section Layout

variable [IntLayout] {source : Message}

/-- Twelve bytes are what is sent for the `MouseEventData` that they are read as. -/
lemma serialize_read_mouse (h : source.content.length = 12) :
    serialize (MessageTypeData.read source.content : MouseEventData) = source.content := by
  have hfirst : (source.content.take 4).length = 4 := by simp [h]
  have hsecond : ((source.content.drop 4).take 4).length = 4 := by simp [h]
  have hthird : (source.content.drop 8).length = 4 := by simp [h]
  have hsplit : source.content =
      source.content.take 4 ++ (source.content.drop 4).take 4 ++ source.content.drop 8 := by
    have hdrop : source.content.drop 8 = (source.content.drop 4).drop 4 := by rw [List.drop_drop]
    rw [hdrop, List.append_assoc, List.take_append_drop, List.take_append_drop]
  change IntLayout.toBytes (IntLayout.ofBytes (source.content.take 4)).toInt32.toUInt32 ++
    IntLayout.toBytes (IntLayout.ofBytes ((source.content.drop 4).take 4)).toInt32.toUInt32 ++
      IntLayout.toBytes (IntLayout.ofBytes (source.content.drop 8)).toInt32.toUInt32 = _
  rw [UInt32.toUInt32_toInt32, UInt32.toUInt32_toInt32, UInt32.toUInt32_toInt32,
    IntLayout.toBytes_ofBytes _ hfirst, IntLayout.toBytes_ofBytes _ hsecond,
    IntLayout.toBytes_ofBytes _ hthird, ← hsplit]

/-- Five bytes that begin with a `bool` are what is sent for the `KeyboardEventData` that they are
read as. -/
lemma serialize_read_keyboard (h : source.content.length = 5)
    (hbool : source.content.getD 0 0 = 0 ∨ source.content.getD 0 0 = 1) :
    serialize (MessageTypeData.read source.content : KeyboardEventData) = source.content := by
  obtain ⟨b, bs, hcontent⟩ := List.exists_cons_of_length_eq_add_one h
  rw [hcontent] at h hbool ⊢
  have hrest : bs.length = 4 := by simpa using h
  change (if IntLayout.toBool b then 1 else 0) :: IntLayout.toBytes (IntLayout.ofBytes bs) = b :: bs
  rw [IntLayout.toBytes_ofBytes _ hrest]
  rcases hbool with hzero | hone
  · obtain rfl : b = 0 := hzero
    rw [IntLayout.toBool_zero]
    rfl
  · obtain rfl : b = 1 := hone
    rw [IntLayout.toBool_one]
    rfl

/-- What is sent for a `KeyboardEventData` begins with a `bool`. -/
lemma getD_serialize_keyboard (data : KeyboardEventData) :
    (serialize data).getD 0 0 = 0 ∨ (serialize data).getD 0 0 = 1 := by
  obtain ⟨down, key⟩ := data
  cases down
  · exact Or.inl rfl
  · exact Or.inr rfl

/-- Both structures are received as they were sent, and every content that is accepted as a
`MouseEventData` is what is sent for it; for a `KeyboardEventData` this is so exactly if the content
does not have its size and a first byte that is no `bool`. -/
theorem canonical_iff [SizeLayout] :
    RoundTrips KeyboardEventData ∧ RoundTrips MouseEventData ∧
      (∀ source, Canonical MouseEventData source) ∧
      ∀ source, Canonical KeyboardEventData source ↔ ¬ IsNoBool source := by
  have hkeyboard : size KeyboardEventData ≤ bufferSize := (by decide : 1 + 4 ≤ bufferSize)
  have hmouse : size MouseEventData ≤ bufferSize := (by decide : 4 + 4 + 4 ≤ bufferSize)
  refine ⟨roundTrips_of_size_le hkeyboard, roundTrips_of_size_le hmouse,
    fun source => canonical_of_serialize_read serialize_read_mouse, fun source => ⟨?_, fun h => ?_⟩⟩
  · rintro hcanonical ⟨hlen, hzero, hone⟩
    refine not_canonical hlen (fun data hdata => ?_) hcanonical
    have hbool := getD_serialize_keyboard data
    rw [hdata] at hbool
    exact hbool.elim hzero hone
  · refine canonical_of_serialize_read fun hlen => serialize_read_keyboard hlen ?_
    by_contra hbool
    push Not at hbool
    exact h ⟨hlen, hbool.1, hbool.2⟩

end Layout

/-- Five bytes of which the first is `2` are accepted as a `KeyboardEventData`, although they are
sent for none. -/
theorem not_canonical_two :
    letI := littleEndianInt
    ¬ Canonical KeyboardEventData { type := .keyboardInput, content := [2, 0, 0, 0, 0] } := by
  let := littleEndianInt
  refine not_canonical rfl fun data hdata => ?_
  have hbool := getD_serialize_keyboard data
  rw [hdata] at hbool
  exact absurd hbool (by decide)

end ScreenViewer
