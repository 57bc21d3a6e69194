import Mathlib
import ScreenViewer.SocketBase.AsyncRead

/-!
# The asynchronous sender of `SocketBase`

`asyncSendMessage` writes every message as one frame, however long it is, while `send` splits a
message that is longer than the buffer and the readers reject a frame that is.  So the two senders
agree exactly on messages that fit the buffer (`sentLikeSend_iff`).
-/

namespace ScreenViewer

namespace SocketBase

section AsyncSend

variable [SizeLayout]

/-- `asyncSendMessage`: the bytes on the wire when the write has completed. -/
def asyncSendMessage (message : Message) : Bytes :=
  let header : MessageHeader :=
    { messageSize := UInt64.ofNat message.content.length, type := message.type }
  let serializedHeader := header.serialize
  serializedHeader ++ message.content

/-- What is sent asynchronously is read as `send` would have sent it, and no reader rejects it. -/
structure SentLikeSend (message : Message) : Prop where
  /-- A blocking reader reads the chunks of the message and then waits for more. -/
  blocking : ∀ (r : Receiver) (inbound : Inbound), inbound.bytes = asyncSendMessage message →
    (r.reader.readAll inbound).1 = chunks message ∧
      (r.reader.readAll inbound).2.1 = .endOfStream
  /-- So does the asynchronous reader with the default limit. -/
  async : ∀ dataBuffer reader es t, dataBuffer.length = bufferSize →
    (AsyncReader.idle dataBuffer).asyncReadMessage bufferSize = .ok reader →
    Transition.Run (AsyncReader.Step bufferSize) reader es t →
    AsyncReader.arrivals es = asyncSendMessage message → t.Quiescent bufferSize →
    t.delivered = chunks message ∧ t.stop = .endOfStream

/-- A message that fits the buffer is one frame. -/
lemma leadingFrames_asyncSendMessage {message : Message}
    (h : message.content.length ≤ bufferSize) :
    leadingFrames bufferSize (asyncSendMessage message) = (chunks message, []) := by
  have haccepts : (frameCodec bufferSize).Accepts message := ⟨h, h.trans_lt bufferSize_lt⟩
  have hdecode : (frameCodec bufferSize).decode (asyncSendMessage message) =
      some (message, []) := by
    have hframe := (frameCodec bufferSize).decode_encode message haccepts []
    rwa [List.append_nil] at hframe
  have hnil : (frameCodec bufferSize).decode [] = none := by
    simp [decodeFrame, MessageHeader.size]
  rw [leadingFrames, (frameCodec bufferSize).decodeAll_of_some hdecode,
    (frameCodec bufferSize).decodeAll_of_none hnil, chunks_of_le h]

/-- Every chunk of a message needs a header of its own. -/
lemma length_encodeAll (cs : List Message) :
    ((frameCodec bufferSize).encodeAll cs).length =
      MessageHeader.size * cs.length + (cs.flatMap Message.content).length := by
  induction cs with
  | nil => rfl
  | cons c cs ih =>
    rw [Framing.Codec.encodeAll_cons, List.length_append, ih, frameCodec_encode, length_sendChunk,
      List.flatMap_cons, List.length_append, List.length_cons]
    ring

/-- What is read as several frames was not sent as one. -/
lemma SentLikeSend.length_le {message : Message} (h : SentLikeSend message) :
    message.content.length ≤ bufferSize := by
  have hbytes : (⟨[asyncSendMessage message], []⟩ : Inbound).bytes = asyncSendMessage message := by
    simp [Inbound.bytes]
  have hread := (h.blocking .receive ⟨[asyncSendMessage message], []⟩ hbytes).1
  rw [(Receiver.receive.reader.readAll_eq _).1, Receiver.reader_bytes, hbytes] at hread
  have hall := congrArg List.length
    ((frameCodec bufferSize).encodeAll_decodeAll (asyncSendMessage message))
  have hchunking := isChunking_chunks message
  rw [hread, List.length_append, length_encodeAll, hchunking.flatMap_content, asyncSendMessage,
    List.length_append, MessageHeader.length_serialize] at hall
  -- One header is all there is room for, so there is one chunk, and it is the whole message.
  have hone : (chunks message).length ≤ 1 := by
    have hsize : MessageHeader.size = 9 := rfl
    rw [hsize] at hall
    omega
  match hchunks : chunks message with
  | [] =>
    rw [← hchunking.flatMap_content, hchunks]
    exact Nat.zero_le _
  | [c] =>
    rw [← hchunking.flatMap_content, hchunks, List.flatMap_singleton]
    exact hchunking.length_le c (hchunks ▸ List.mem_singleton_self c)
  | c :: d :: cs =>
    rw [hchunks, List.length_cons, List.length_cons] at hone
    omega

/-- The two senders agree exactly on the messages that fit the buffer. -/
theorem sentLikeSend_iff (message : Message) :
    SentLikeSend message ↔ message.content.length ≤ bufferSize := by
  refine ⟨SentLikeSend.length_le, fun h => ?_⟩
  have hframes := leadingFrames_asyncSendMessage h
  refine ⟨fun r inbound hs => ?_, fun dataBuffer reader es t hlen harmed hrun hs hq => ?_⟩
  · obtain ⟨hmessages, hstop, -⟩ := r.reader.readAll_eq inbound
    rw [r.reader_bytes, hs, ← leadingFrames, hframes] at hmessages hstop
    exact ⟨hmessages, hstop.trans (by simp [stopAt, MessageHeader.size])⟩
  · have hinv := AsyncReader.inv_of_run le_rfl hlen harmed hrun
    rw [hs] at hinv
    obtain ⟨hall, hstop⟩ := hinv.leadingFrames_of_quiescent hq
    rw [hframes, Prod.mk.injEq] at hall
    rw [← hall.2] at hstop
    exact ⟨hall.1.symm, hstop.symm.trans (by simp [stopAt, MessageHeader.size])⟩

end AsyncSend

/-- A packet that is one byte longer than the buffer is not sent as `send` would send it. -/
theorem not_sentLikeSend_long :
    letI := littleEndian
    ¬ SentLikeSend ⟨.screenUpdate, List.replicate (bufferSize + 1) 0⟩ := by
  let := littleEndian
  intro h
  have hle := h.length_le
  rw [List.length_replicate] at hle
  omega

end SocketBase

end ScreenViewer
