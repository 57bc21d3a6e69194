import Mathlib
import ScreenViewer.Lib.Runs
import ScreenViewer.SocketBase.Receive

/-!
# The asynchronous reader of `SocketBase`

A chain of `asyncReadMessage` calls, re-armed by a handler that does not throw, as a transition
system: segments arrive, the outstanding `async_read` takes over any non-empty run of the bytes that
have arrived, and a read that has all its bytes completes and runs its handler.  The header is
parsed out of `data_buffer`, which the body then overwrites, and a rejected header leads to a
disconnect instead of an exception.

`AsyncReader.Inv` ties the bytes that have arrived to the messages delivered, the part of a frame
that is in `data_buffer` and the bytes not yet taken.  It gives `readers_agree`: whatever the
segmentation, this reader and the two blocking ones deliver the longest list of leading complete
frames and stop at the same place for the same reason.
-/

namespace ScreenViewer

namespace SocketBase

/-- The outstanding `async_read` of a reader, with the number of bytes it has transferred. -/
inductive AsyncRead
  | header (transferred : ℕ)
  | body (header : MessageHeader) (transferred : ℕ)
  deriving DecidableEq

namespace AsyncRead

/-- The number of bytes transferred so far. -/
def transferred : AsyncRead → ℕ
  | header n => n
  | body _ n => n

/-- The number of bytes the operation was started for (`transfer_exactly`). -/
def requested : AsyncRead → ℕ
  | header _ => MessageHeader.size
  | body h _ => h.messageSize.toNat

/-- The operation after `n` more bytes. -/
def advance : AsyncRead → ℕ → AsyncRead
  | header k, n => header (k + n)
  | body h k, n => body h (k + n)

@[simp] lemma transferred_advance (op : AsyncRead) (n : ℕ) :
    (op.advance n).transferred = op.transferred + n := by
  cases op <;> rfl

@[simp] lemma requested_advance (op : AsyncRead) (n : ℕ) :
    (op.advance n).requested = op.requested := by
  cases op <;> rfl

end AsyncRead

/-- A socket that reads asynchronously. -/
structure AsyncReader where
  /-- Bytes that have arrived and that no read has taken yet. -/
  unread : Bytes
  /-- The member `data_buffer`. -/
  dataBuffer : Bytes
  /-- The outstanding read, if any. -/
  pending : Option AsyncRead
  /-- The messages that the handler was called with, oldest first. -/
  delivered : List Message
  /-- The text of the exception that made the reader disconnect. -/
  disconnected : Option String

namespace AsyncReader

/-- A socket with nothing to read and no read armed. -/
def idle (dataBuffer : Bytes) : AsyncReader :=
  { unread := [], dataBuffer := dataBuffer, pending := none, delivered := [], disconnected := none }

/-- `asyncReadMessage`: arms the read of a header, or throws a `SocketException` if the limit is
above the buffer's size. -/
def asyncReadMessage (s : AsyncReader) (maxMessageSize : ℕ) : Except String AsyncReader :=
  if bufferSize < maxMessageSize then
    .error s!"Tried to schedule receiving message with max size of {maxMessageSize} bytes, where buffer size is {bufferSize}."
  else
    .ok { s with pending := some (.header 0) }

/-- What can happen to the reader. -/
inductive Event
  | arrive (segment : Bytes)
  | transfer (n : ℕ)
  | complete

/-- The bytes that a list of events makes arrive. -/
def arrivals (events : List Event) : Bytes :=
  events.flatMap fun
    | .arrive segment => segment
    | _ => []

@[simp] lemma arrivals_nil : arrivals [] = [] := rfl

@[simp] lemma arrivals_append (es fs : List Event) :
    arrivals (es ++ fs) = arrivals es ++ arrivals fs :=
  List.flatMap_append

section Reading

variable [SizeLayout]

/-- The completion handler of a read.  A header that is accepted arms the read of its body, one that
is rejected disconnects; a body is handed to the message handler, which arms the next read. -/
def complete (maxMessageSize : ℕ) (s : AsyncReader) : AsyncRead → AsyncReader
  | .header transferred =>
    match MessageHeader.deserialize s.dataBuffer transferred maxMessageSize with
    | .ok header => { s with pending := some (.body header 0) }
    | .error what => { s with pending := none, disconnected := some what }
  | .body header transferred =>
    let message : Message := { type := header.type, content := s.dataBuffer.take transferred }
    let s := { s with pending := none, delivered := s.delivered ++ [message] }
    match s.asyncReadMessage maxMessageSize with
    | .ok s => s
    | .error what => { s with disconnected := some what }

/-- The steps of a reader whose messages are limited to `maxMessageSize` bytes. -/
inductive Step (maxMessageSize : ℕ) : AsyncReader → Event → AsyncReader → Prop
  /-- The transport delivers a segment. -/
  | arrive (s : AsyncReader) (segment : Bytes) :
      Step maxMessageSize s (.arrive segment) { s with unread := s.unread ++ segment }
  /-- The outstanding read takes `n` of the bytes that have arrived. -/
  | transfer (s : AsyncReader) (op : AsyncRead) (n : ℕ) (hop : s.pending = some op) (hpos : 0 < n)
      (hn : n ≤ s.unread.length) (hroom : op.transferred + n ≤ op.requested) :
      Step maxMessageSize s (.transfer n)
        { s with
          unread := s.unread.drop n
          dataBuffer := Bytes.overwrite s.dataBuffer op.transferred (s.unread.take n)
          pending := some (op.advance n) }
  /-- The outstanding read has all its bytes, and its handler runs. -/
  | complete (s : AsyncReader) (op : AsyncRead) (hop : s.pending = some op)
      (hdone : op.transferred = op.requested) :
      Step maxMessageSize s .complete (s.complete maxMessageSize op)

/-- No transfer and no completion is possible: the reader waits for bytes, or for ever. -/
def Quiescent (maxMessageSize : ℕ) (s : AsyncReader) : Prop :=
  ∀ n t, ¬ Step maxMessageSize s (.transfer n) t ∧ ¬ Step maxMessageSize s .complete t

/-- Where a quiescent reader has stopped: it has rejected a header, or bytes are missing. -/
def stop (s : AsyncReader) : ReadError :=
  match s.disconnected with
  | some what => .messageHeaderException what
  | none => .endOfStream

/-! ## The invariant -/

/-- The bytes of the current frame that the reader has taken. -/
def partialFrame (s : AsyncReader) : Bytes :=
  match s.pending with
  | some (.header n) => s.dataBuffer.take n
  | some (.body header n) => header.serialize ++ s.dataBuffer.take n
  | none => s.dataBuffer.take MessageHeader.size

/-- The outstanding read stays within what was requested, a body within the limit, and a reader
without one has disconnected because of the header in its buffer. -/
def PendingOk (maxMessageSize : ℕ) (s : AsyncReader) : Prop :=
  match s.pending with
  | some op => op.transferred ≤ op.requested ∧ s.disconnected = none ∧
      ∀ header n, op = .body header n → header.messageSize.toNat ≤ maxMessageSize
  | none => ∃ what, s.disconnected = some what ∧
      MessageHeader.deserialize (s.dataBuffer.take MessageHeader.size) MessageHeader.size
        maxMessageSize = .error what

/-- What holds of a reader after `total` has arrived. -/
structure Inv (maxMessageSize : ℕ) (total : Bytes) (s : AsyncReader) : Prop where
  /-- The buffer never grows: nothing is written behind its end. -/
  length_dataBuffer : s.dataBuffer.length = bufferSize
  /-- Every message delivered was within the limit. -/
  accepts : ∀ message ∈ s.delivered, (frameCodec maxMessageSize).Accepts message
  /-- What has arrived is the frames delivered, the part of a frame taken, and what is unread. -/
  bytes_eq : total =
    (frameCodec maxMessageSize).encodeAll s.delivered ++ (s.partialFrame ++ s.unread)
  /-- The outstanding read is in order. -/
  pendingOk : s.PendingOk maxMessageSize

/-- The header parser looks at the first nine bytes of the buffer only. -/
lemma deserialize_take (buffer : Bytes) (maxLength : ℕ) :
    MessageHeader.deserialize (buffer.take MessageHeader.size) MessageHeader.size maxLength =
      MessageHeader.deserialize buffer MessageHeader.size maxLength := by
  have htake : (buffer.take MessageHeader.size).take 8 = buffer.take 8 := by
    rw [List.take_take]
    rfl
  have hget : (buffer.take MessageHeader.size).getD 8 0 = buffer.getD 8 0 := by
    simp [List.getD, MessageHeader.size]
  unfold MessageHeader.deserialize
  simp only [htake, hget]

/-- A freshly armed reader satisfies the invariant. -/
lemma inv_armed {maxMessageSize : ℕ} {dataBuffer : Bytes} {s : AsyncReader}
    (hlen : dataBuffer.length = bufferSize)
    (h : (idle dataBuffer).asyncReadMessage maxMessageSize = .ok s) :
    Inv maxMessageSize [] s := by
  unfold asyncReadMessage at h
  split at h
  · cases h
  · cases h
    refine ⟨hlen, by simp [idle], by simp [idle, partialFrame], ?_⟩
    simp [PendingOk, idle, AsyncRead.transferred]

/-- A transfer moves bytes from the unread ones to the frame being read. -/
lemma partialFrame_transfer {s : AsyncReader} {op : AsyncRead} {n : ℕ} (hop : s.pending = some op)
    (hn : n ≤ s.unread.length) (hk : op.transferred ≤ s.dataBuffer.length) :
    ({ s with
        unread := s.unread.drop n
        dataBuffer := Bytes.overwrite s.dataBuffer op.transferred (s.unread.take n)
        pending := some (op.advance n) } : AsyncReader).partialFrame =
      s.partialFrame ++ s.unread.take n := by
  have htake := Bytes.take_overwrite hk (s.unread.take n)
  rw [List.length_take_of_le hn] at htake
  cases op with
  | header k => simpa [partialFrame, hop, AsyncRead.advance, AsyncRead.transferred] using htake
  | body header k =>
    simp only [AsyncRead.transferred] at htake
    simp [partialFrame, hop, AsyncRead.advance, AsyncRead.transferred, htake]

/-- Every step keeps the invariant, for the bytes that have arrived by then. -/
theorem Inv.step {maxMessageSize : ℕ} (hmax : maxMessageSize ≤ bufferSize) {total : Bytes}
    {s t : AsyncReader} {e : Event} (h : Inv maxMessageSize total s)
    (hs : Step maxMessageSize s e t) : Inv maxMessageSize (total ++ arrivals [e]) t := by
  obtain ⟨hlen, haccepts, hbytes, hpending⟩ := h
  cases hs with
  | arrive segment =>
    refine ⟨hlen, haccepts, ?_, hpending⟩
    rw [hbytes]
    simp [arrivals, partialFrame]
  | transfer op n hop hpos hn hroom =>
    simp only [PendingOk, hop] at hpending
    obtain ⟨hle, hdisc, hbody⟩ := hpending
    have hreq : op.requested ≤ bufferSize := by
      cases op with
      | header k => exact (by decide : MessageHeader.size ≤ bufferSize)
      | body header k => exact (hbody header k rfl).trans hmax
    have hlenTake : (s.unread.take n).length = n := List.length_take_of_le hn
    refine ⟨?_, haccepts, ?_, ?_⟩
    · rw [Bytes.length_overwrite (by omega), hlen]
    · rw [partialFrame_transfer hop hn (by omega), List.append_assoc, List.take_append_drop, hbytes]
      simp [arrivals]
    · refine ⟨by simpa using hroom, hdisc, fun header k hadv => ?_⟩
      cases op with
      | header _ => cases hadv
      | body header' k' =>
        cases hadv
        exact hbody _ k' rfl
  | complete op hop hdone =>
    simp only [PendingOk, hop] at hpending
    obtain ⟨-, hdisc, hbody⟩ := hpending
    simp only [arrivals, List.flatMap_cons, List.flatMap_nil, List.append_nil]
    cases op with
    | header k =>
      obtain rfl : k = MessageHeader.size := hdone
      have hbuf : (s.dataBuffer.take MessageHeader.size).length = MessageHeader.size :=
        List.length_take_of_le (hlen ▸ (by decide : MessageHeader.size ≤ bufferSize))
      simp only [complete]
      cases hdes : MessageHeader.deserialize s.dataBuffer MessageHeader.size maxMessageSize with
      | ok header =>
        rw [← deserialize_take] at hdes
        obtain ⟨hsize, hser⟩ := MessageHeader.of_deserialize_eq_ok hbuf hdes
        refine ⟨hlen, haccepts, ?_, ?_⟩
        · rw [hbytes]
          simp [partialFrame, hop, ← hser]
        · refine ⟨Nat.zero_le _, hdisc, fun header' k' heq => ?_⟩
          cases heq
          exact hsize
      | error what =>
        refine ⟨hlen, haccepts, ?_, ?_⟩
        · rw [hbytes]
          simp [partialFrame, hop]
        · exact ⟨what, rfl, (deserialize_take _ _).trans hdes⟩
    | body header k =>
      obtain rfl : k = header.messageSize.toNat := hdone
      have hsize := hbody header _ rfl
      have hcontent : (s.dataBuffer.take header.messageSize.toNat).length =
          header.messageSize.toNat := List.length_take_of_le (by omega)
      have hframe : sendChunk ⟨header.type, s.dataBuffer.take header.messageSize.toNat⟩ =
          header.serialize ++ s.dataBuffer.take header.messageSize.toNat := by
        simp [sendChunk, headerOf, hcontent]
      simp only [complete, asyncReadMessage, if_neg (not_lt.mpr hmax)]
      refine ⟨hlen, ?_, ?_, ?_⟩
      · intro message hm
        rcases List.mem_append.mp hm with hm | hm
        · exact haccepts message hm
        · rw [List.mem_singleton.mp hm]
          exact ⟨hcontent.trans_le hsize, hcontent.trans_lt header.messageSize.toNat_lt⟩
      · rw [hbytes]
        simp [partialFrame, hop, hframe]
      · simp [PendingOk, hdisc, AsyncRead.transferred]

/-- The invariant holds along every run. -/
theorem inv_of_run {maxMessageSize : ℕ} (hmax : maxMessageSize ≤ bufferSize) {dataBuffer : Bytes}
    (hlen : dataBuffer.length = bufferSize) {s t : AsyncReader} {es : List Event}
    (h₀ : (idle dataBuffer).asyncReadMessage maxMessageSize = .ok s)
    (hrun : Transition.Run (Step maxMessageSize) s es t) :
    Inv maxMessageSize (arrivals es) t := by
  refine hrun.invariant_with_history (I := fun es t => Inv maxMessageSize (arrivals es) t)
    (inv_armed hlen h₀) fun es t e t' _ hI hs => ?_
  rw [arrivals_append]
  exact hI.step hmax hs

/-! ## Where the reader stops -/

/-- What a quiescent reader has not delivered begins with no frame, and it has stopped for the
reason the bytes give. -/
lemma Inv.decodeFrame_of_quiescent {maxMessageSize : ℕ} {total : Bytes} {s : AsyncReader}
    (h : Inv maxMessageSize total s) (hq : s.Quiescent maxMessageSize) :
    decodeFrame maxMessageSize (s.partialFrame ++ s.unread) = none ∧
      stopAt maxMessageSize (s.partialFrame ++ s.unread) = s.stop := by
  obtain ⟨hlen, -, -, hpending⟩ := h
  have hshort : ∀ op, s.pending = some op → op.transferred ≤ op.requested →
      op.transferred < op.requested ∧ s.unread = [] := by
    intro op hop hle
    have hlt : op.transferred < op.requested :=
      lt_of_le_of_ne hle fun hdone => (hq 0 _).2 (Step.complete s op hop hdone)
    refine ⟨hlt, List.eq_nil_iff_length_eq_zero.mpr ?_⟩
    by_contra hne
    exact (hq 1 _).1 (Step.transfer s op 1 hop one_pos (Nat.one_le_iff_ne_zero.mpr hne) hlt)
  cases hop : s.pending with
  | none =>
    simp only [PendingOk, hop] at hpending
    obtain ⟨what, hdisc, hdes⟩ := hpending
    have hbuf : (s.dataBuffer.take MessageHeader.size).length = MessageHeader.size :=
      List.length_take_of_le (hlen ▸ (by decide : MessageHeader.size ≤ bufferSize))
    simp only [partialFrame, hop, stop, hdisc]
    exact decodeFrame_of_rejected hbuf hdes _
  | some op =>
    simp only [PendingOk, hop] at hpending
    obtain ⟨hle, hdisc, hbody⟩ := hpending
    obtain ⟨hlt, hunread⟩ := hshort op hop hle
    simp only [stop, hdisc, hunread, List.append_nil, partialFrame, hop]
    cases op with
    | header k =>
      refine decodeFrame_of_short_header _ (lt_of_le_of_lt ?_ hlt)
      exact List.length_take_le k _
    | body header k =>
      refine decodeFrame_of_short_body (MessageHeader.length_serialize header)
        (MessageHeader.deserialize_serialize (hbody header k rfl)) (lt_of_le_of_lt ?_ hlt)
      exact List.length_take_le k _

/-- Every reader step makes this smaller: bytes move from the unread ones to the outstanding read
and from there to the handler. -/
def remaining (s : AsyncReader) : ℕ :=
  3 * s.unread.length +
    match s.pending with
    | some (.header n) => 2 * n + 1
    | some (.body _ n) => 2 * n + 2
    | none => 0

/-- From every state the reader comes to rest if nothing more arrives. -/
theorem exists_run_to_quiescent {maxMessageSize : ℕ} (hmax : maxMessageSize ≤ bufferSize)
    (s : AsyncReader) :
    ∃ es t, Transition.Run (Step maxMessageSize) s es t ∧ arrivals es = [] ∧
      t.Quiescent maxMessageSize := by
  -- Arrivals are the environment's: only the reader's own steps make `remaining` smaller.
  let own : AsyncReader → Event → AsyncReader → Prop := fun s e t =>
    Step maxMessageSize s e t ∧ arrivals [e] = [] ∧ ∀ segment, e ≠ .arrive segment
  have hdecr : ∀ s e t, own s e t → remaining t < remaining s := by
    rintro s e t ⟨hs, -, hown⟩
    cases hs with
    | arrive segment => exact absurd rfl (hown segment)
    | transfer op n hop hpos hn hroom =>
      cases op <;> simp only [remaining, hop, AsyncRead.advance, List.length_drop] <;> omega
    | complete op hop hdone =>
      cases op with
      | header k =>
        obtain rfl : k = MessageHeader.size := hdone
        simp only [complete]
        split <;> simp only [remaining, hop, MessageHeader.size] <;> omega
      | body header k =>
        simp only [complete, asyncReadMessage, if_neg (not_lt.mpr hmax), remaining, hop]
        omega
  obtain ⟨es, t, hrun, hstuck⟩ := Transition.exists_run_to_stuck own remaining hdecr s
  refine ⟨es, t, hrun.mono fun _ _ _ h => h.1, ?_, fun n r => ⟨fun hs => ?_, fun hs => ?_⟩⟩
  · exact hrun.invariant_with_history (I := fun es _ => arrivals es = []) rfl
      fun es t e t' _ hI hs => by rw [arrivals_append, hI, hs.2.1]; rfl
  · exact hstuck _ _ ⟨hs, rfl, fun _ h => by cases h⟩
  · exact hstuck _ _ ⟨hs, rfl, fun _ h => by cases h⟩

end Reading

end AsyncReader

/-! ## All readers implement the same parser -/

section Parser

variable [SizeLayout]

/-- `raw` is a complete frame for the message: eight bytes that declare the content's length, which
is within the limit, the message's type byte, which is that of an enumerator, and the content. -/
def IsFrame (maxLength : ℕ) (raw : Bytes) (message : Message) : Prop :=
  ∃ (sizeBytes : Bytes) (typeByte : Byte) (h : typeByte ≤ MessageType.maxValue.toByte),
    raw = sizeBytes ++ typeByte :: message.content ∧ sizeBytes.length = 8 ∧
      (SizeLayout.ofBytes sizeBytes).toNat = message.content.length ∧
      message.content.length ≤ maxLength ∧ message.type = MessageType.staticCast typeByte h

/-- A complete frame is what `sendChunk` writes for its message. -/
lemma isFrame_iff {maxLength : ℕ} {raw : Bytes} {message : Message} :
    IsFrame maxLength raw message ↔
      raw = sendChunk message ∧ (frameCodec maxLength).Accepts message := by
  constructor
  · rintro ⟨sizeBytes, typeByte, h, rfl, hlen, hsize, hle, htype⟩
    refine ⟨?_, hle, hsize ▸ (SizeLayout.ofBytes sizeBytes).toNat_lt⟩
    rw [sendChunk, MessageHeader.serialize, headerOf, ← hsize, UInt64.ofNat_toNat,
      SizeLayout.toBytes_ofBytes _ hlen, htype, MessageType.toByte_staticCast]
    simp
  · rintro ⟨rfl, hle, hlt⟩
    refine ⟨SizeLayout.toBytes (headerOf message).messageSize, message.type.toByte,
      message.type.toByte_le_maxValue, ?_, SizeLayout.length_toBytes _, ?_, hle,
      (MessageType.staticCast_toByte _).symm⟩
    · simp [sendChunk, MessageHeader.serialize, headerOf]
    · rw [SizeLayout.ofBytes_toBytes]
      exact toNat_messageSize_headerOf hlt

/-- The bytes of complete frames are what `sendChunk` writes for their messages. -/
lemma forall₂_isFrame_iff {maxLength : ℕ} {raws : List Bytes} {messages : List Message} :
    List.Forall₂ (IsFrame maxLength) raws messages ↔
      raws = messages.map sendChunk ∧
        ∀ message ∈ messages, (frameCodec maxLength).Accepts message := by
  induction messages generalizing raws with
  | nil => simp
  | cons message messages ih =>
    rw [List.forall₂_cons_right_iff]
    constructor
    · rintro ⟨raw, raws, hraw, hraws, rfl⟩
      obtain ⟨rfl, haccepts⟩ := ih.mp hraws
      obtain ⟨rfl, hmessage⟩ := isFrame_iff.mp hraw
      exact ⟨rfl, List.forall_mem_cons.mpr ⟨hmessage, haccepts⟩⟩
    · rintro ⟨rfl, haccepts⟩
      obtain ⟨hmessage, haccepts⟩ := List.forall_mem_cons.mp haccepts
      exact ⟨sendChunk message, messages.map sendChunk, isFrame_iff.mpr ⟨rfl, hmessage⟩,
        ih.mpr ⟨rfl, haccepts⟩, rfl⟩

/-- `messages` is the longest list of complete frames at the front of `s`, and `rest` follows it. -/
structure IsLongestParse (maxLength : ℕ) (s : Bytes) (messages : List Message) (rest : Bytes) :
    Prop where
  /-- The stream begins with complete frames for the messages. -/
  frames : ∃ raws, List.Forall₂ (IsFrame maxLength) raws messages ∧ s = raws.flatten ++ rest
  /-- Every list of complete frames at the front of the stream is a part of it. -/
  longest : ∀ raws messages', List.Forall₂ (IsFrame maxLength) raws messages' →
    raws.flatten <+: s → messages' <+: messages

/-- The messages at the front of a stream, and the rest of it. -/
def leadingFrames (maxLength : ℕ) (s : Bytes) : List Message × Bytes :=
  (frameCodec maxLength).decodeAll s

/-- Decoding as long as possible yields the longest list of leading complete frames. -/
theorem isLongestParse_leadingFrames (maxLength : ℕ) (s : Bytes) :
    IsLongestParse maxLength s (leadingFrames maxLength s).1 (leadingFrames maxLength s).2 where
  frames := by
    refine ⟨_, forall₂_isFrame_iff.mpr
      ⟨rfl, fun message h => (frameCodec maxLength).accepts_of_mem_decodeAll h⟩, ?_⟩
    rw [← List.flatMap_def]
    exact ((frameCodec maxLength).encodeAll_decodeAll s).symm
  longest := by
    intro raws messages' hframes hpre
    obtain ⟨rfl, haccepts⟩ := forall₂_isFrame_iff.mp hframes
    rw [← List.flatMap_def] at hpre
    exact (frameCodec maxLength).prefix_decodeAll haccepts hpre

/-- Once the asynchronous reader is at rest, it has delivered the leading frames of what has
arrived, and it has stopped where and why they end. -/
lemma AsyncReader.Inv.leadingFrames_of_quiescent {maxMessageSize : ℕ} {total : Bytes}
    {s : AsyncReader} (h : s.Inv maxMessageSize total) (hq : s.Quiescent maxMessageSize) :
    leadingFrames maxMessageSize total = (s.delivered, s.partialFrame ++ s.unread) ∧
      stopAt maxMessageSize (s.partialFrame ++ s.unread) = s.stop := by
  obtain ⟨hnone, hstop⟩ := h.decodeFrame_of_quiescent hq
  refine ⟨?_, hstop⟩
  rw [leadingFrames, h.bytes_eq, (frameCodec maxMessageSize).decodeAll_encodeAll_append h.accepts,
    (frameCodec maxMessageSize).decodeAll_of_none hnone, List.append_nil]

/-- What the three readers make of a stream `s` with the limit `maxMessageSize`. -/
structure ReadersAgree (maxMessageSize : ℕ) (s : Bytes) : Prop where
  /-- The messages in question are the longest list of leading complete frames. -/
  longest : IsLongestParse maxMessageSize s (leadingFrames maxMessageSize s).1
    (leadingFrames maxMessageSize s).2
  /-- Written again, the messages are the bytes of their frames. -/
  rewritten : (leadingFrames maxMessageSize s).1.flatMap sendChunk ++
    (leadingFrames maxMessageSize s).2 = s
  /-- The asynchronous reader can be armed with this limit. -/
  arms : ∀ dataBuffer, ∃ reader,
    (AsyncReader.idle dataBuffer).asyncReadMessage maxMessageSize = .ok reader
  /-- However `s` arrives and is taken, the asynchronous reader has delivered a part of these
  messages, requests no body above the limit and stays within its buffer. -/
  async : ∀ dataBuffer reader es t, dataBuffer.length = bufferSize →
    (AsyncReader.idle dataBuffer).asyncReadMessage maxMessageSize = .ok reader →
    Transition.Run (AsyncReader.Step maxMessageSize) reader es t → AsyncReader.arrivals es = s →
    t.delivered <+: (leadingFrames maxMessageSize s).1 ∧
      (∀ header n, t.pending = some (.body header n) →
        header.messageSize.toNat ≤ maxMessageSize) ∧
      t.dataBuffer.length = bufferSize
  /-- Once it is at rest, it has delivered all of them and has stopped where they end. -/
  asyncStop : ∀ dataBuffer reader es t, dataBuffer.length = bufferSize →
    (AsyncReader.idle dataBuffer).asyncReadMessage maxMessageSize = .ok reader →
    Transition.Run (AsyncReader.Step maxMessageSize) reader es t → AsyncReader.arrivals es = s →
    t.Quiescent maxMessageSize →
    t.delivered = (leadingFrames maxMessageSize s).1 ∧
      t.partialFrame ++ t.unread = (leadingFrames maxMessageSize s).2 ∧
      t.stop = stopAt maxMessageSize (leadingFrames maxMessageSize s).2
  /-- It always comes to rest. -/
  asyncRests : ∀ t, ∃ es t', Transition.Run (AsyncReader.Step maxMessageSize) t es t' ∧
    AsyncReader.arrivals es = [] ∧ t'.Quiescent maxMessageSize
  /-- With the default limit each blocking reader, called again and again, delivers the same
  messages and stops at the same place for the same reason. -/
  blocking : maxMessageSize = bufferSize → ∀ (r : Receiver) (inbound : Inbound),
    inbound.bytes = s →
    (r.reader.readAll inbound).1 = (leadingFrames maxMessageSize s).1 ∧
      (r.reader.readAll inbound).2.2.bytes = (leadingFrames maxMessageSize s).2 ∧
      (r.reader.readAll inbound).2.1 = stopAt maxMessageSize (leadingFrames maxMessageSize s).2
  /-- `receive` requests no body above the buffer's size. -/
  blockingRequests : ∀ inbound header inbound', readHeader inbound = .ok (header, inbound') →
    header.messageSize.toNat ≤ bufferSize
  /-- Neither does `receiveToBuffer`, behind the header that it reads itself. -/
  bufferRequests : ∀ (inbound : Inbound) buffer segments header,
    Segments.readExactly MessageHeader.size inbound.segments = some (buffer, segments) →
    MessageHeader.deserialize buffer MessageHeader.size bufferSize = .ok header →
    header.messageSize.toNat ≤ bufferSize
  /-- The body fills the front of `data_buffer`, which keeps its size, and is what is returned. -/
  bufferBody : ∀ inbound message inbound', inbound.dataBuffer.length = bufferSize →
    receiveToBuffer inbound = .ok (message, inbound') →
    message.content.length ≤ bufferSize ∧ inbound'.dataBuffer.length = bufferSize ∧
      inbound'.dataBuffer.take message.content.length = message.content

/-- An accepted header announces a body that fits the buffer. -/
lemma le_of_readExactly {segments segments' : List Bytes} {buffer : Bytes} {header : MessageHeader}
    (hread : Segments.readExactly MessageHeader.size segments = some (buffer, segments'))
    (hdes : MessageHeader.deserialize buffer MessageHeader.size bufferSize = .ok header) :
    header.messageSize.toNat ≤ bufferSize :=
  (MessageHeader.of_deserialize_eq_ok (Segments.readExactly_eq_some hread).2 hdes).1

/-- So does a header that `readHeader` returns. -/
lemma le_of_readHeader {inbound inbound' : Inbound} {header : MessageHeader}
    (h : readHeader inbound = .ok (header, inbound')) :
    header.messageSize.toNat ≤ bufferSize := by
  unfold readHeader at h
  cases hread : Segments.readExactly MessageHeader.size inbound.segments with
  | none => simp [hread] at h
  | some r =>
    cases hdes : MessageHeader.deserialize r.1 MessageHeader.size bufferSize with
    | error what => simp [hread, hdes] at h
    | ok header' =>
      simp only [hread, hdes, Except.ok.injEq, Prod.mk.injEq] at h
      rw [← h.1]
      exact le_of_readExactly hread hdes

/-- `receiveToBuffer` stays within `data_buffer`. -/
lemma dataBuffer_of_receiveToBuffer {inbound inbound' : Inbound} {message : Message}
    (hlen : inbound.dataBuffer.length = bufferSize)
    (h : receiveToBuffer inbound = .ok (message, inbound')) :
    message.content.length ≤ bufferSize ∧ inbound'.dataBuffer.length = bufferSize ∧
      inbound'.dataBuffer.take message.content.length = message.content := by
  unfold receiveToBuffer at h
  cases hread : Segments.readExactly MessageHeader.size inbound.segments with
  | none => simp [hread] at h
  | some r =>
    cases hdes : MessageHeader.deserialize r.1 MessageHeader.size bufferSize with
    | error what => simp [hread, hdes] at h
    | ok header =>
      cases hbody : Segments.readExactly header.messageSize.toNat r.2 with
      | none => simp [hread, hdes, hbody] at h
      | some q =>
        have hmax := le_of_readExactly hread hdes
        obtain ⟨-, hsize⟩ := Segments.readExactly_eq_some hbody
        have hbuffer : (Bytes.overwrite inbound.dataBuffer 0 q.1).length = bufferSize := by
          rw [Bytes.length_overwrite (by omega), hlen]
        simp only [hread, hdes, hbody, Except.ok.injEq, Prod.mk.injEq] at h
        obtain ⟨rfl, rfl⟩ := h
        have htake : ((Bytes.overwrite inbound.dataBuffer 0 q.1).take
            header.messageSize.toNat).length = header.messageSize.toNat :=
          List.length_take_of_le (hmax.trans_eq hbuffer.symm)
        exact ⟨htake.trans_le hmax, hbuffer, congrArg (List.take · _) htake⟩

/-- All readers implement the same parser. -/
theorem readers_agree {maxMessageSize : ℕ} (hmax : maxMessageSize ≤ bufferSize) (s : Bytes) :
    ReadersAgree maxMessageSize s where
  longest := isLongestParse_leadingFrames maxMessageSize s
  rewritten := (frameCodec maxMessageSize).encodeAll_decodeAll s
  arms dataBuffer := by
    refine ⟨{ AsyncReader.idle dataBuffer with pending := some (.header 0) }, ?_⟩
    rw [AsyncReader.asyncReadMessage, if_neg (not_lt.mpr hmax)]
  async := by
    intro dataBuffer reader es t hlen harmed hrun hs
    have hinv := AsyncReader.inv_of_run hmax hlen harmed hrun
    rw [hs] at hinv
    refine ⟨?_, fun header n hop => ?_, hinv.length_dataBuffer⟩
    · refine (frameCodec maxMessageSize).prefix_decodeAll hinv.accepts ⟨_, hinv.bytes_eq.symm⟩
    · have hpending := hinv.pendingOk
      simp only [AsyncReader.PendingOk, hop] at hpending
      exact hpending.2.2 header n rfl
  asyncStop := by
    intro dataBuffer reader es t hlen harmed hrun hs hq
    have hinv := AsyncReader.inv_of_run hmax hlen harmed hrun
    rw [hs] at hinv
    obtain ⟨hall, hstop⟩ := hinv.leadingFrames_of_quiescent hq
    rw [hall]
    exact ⟨rfl, rfl, hstop.symm⟩
  asyncRests t := AsyncReader.exists_run_to_quiescent hmax t
  blocking := by
    rintro rfl r inbound hs
    obtain ⟨hmessages, hstop, hrest⟩ := r.reader.readAll_eq inbound
    rw [r.reader_bytes, hs] at hmessages hstop hrest
    exact ⟨hmessages, hrest, hstop⟩
  blockingRequests _ _ _ := le_of_readHeader
  bufferRequests _ _ _ _ := le_of_readExactly
  bufferBody _ _ _ := dataBuffer_of_receiveToBuffer

end Parser

/-- The readers agree, with the limit of the first message, on a stream of one frame and garbage. -/
theorem readers_agree_first_message :
    letI := littleEndian
    ReadersAgree 1000 [1, 0, 0, 0, 0, 0, 0, 0, 5, 65, 255, 255, 255, 255, 255, 255, 255, 255, 0] :=
  let := littleEndian
  readers_agree (by decide) _

end SocketBase

end ScreenViewer
