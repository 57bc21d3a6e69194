import Mathlib
import ScreenViewer.Lib.Framing
import ScreenViewer.Message

/-!
# The synchronous send path of `SocketBase`

`send` cuts a content into pieces of at most `bufferSize` bytes and writes each with `sendChunk`,
header first.  `chunks` is the list of messages that the loop hands to `sendChunk`; the theorems
about it say that a message and its chunks carry the same bytes and how many chunks there are.

`frameCodec` packages the wire format of one chunk as a self-delimiting code for a size limit, with
the checked header parser as its decoder.
-/

namespace ScreenViewer

namespace SocketBase

/-- `BUFFER_SIZE`: 5 MiB. -/
def bufferSize : ℕ := 1024 * 1024 * 5

lemma bufferSize_pos : 0 < bufferSize := by decide

lemma bufferSize_lt : bufferSize < UInt64.size := by decide

/-! ## Splitting a message -/

/-- The loop of `send`: the messages passed to `sendChunk`, with `messageLength` bytes left from
`ptrCursor` on. -/
def chunksFrom (message : Message) (messageLength ptrCursor : ℕ) : List Message :=
  if bufferSize < messageLength then
    { type := message.type, content := (message.content.drop ptrCursor).take bufferSize } ::
      chunksFrom message (messageLength - bufferSize) (ptrCursor + bufferSize)
  else
    [{ type := message.type, content := (message.content.drop ptrCursor).take messageLength }]
termination_by messageLength
decreasing_by
  have := bufferSize_pos
  omega

/-- The messages that `send` passes to `sendChunk`, in order. -/
def chunks (message : Message) : List Message :=
  chunksFrom message message.content.length 0

/-- Every chunk has the message's type. -/
lemma type_of_mem_chunksFrom {message c : Message} {n k : ℕ} (h : c ∈ chunksFrom message n k) :
    c.type = message.type := by
  induction n, k using chunksFrom.induct with
  | case1 n k hlt ih =>
    rw [chunksFrom, if_pos hlt] at h
    rcases List.mem_cons.mp h with rfl | h
    · rfl
    · exact ih h
  | case2 n k hle =>
    rw [chunksFrom, if_neg hle] at h
    rw [List.mem_singleton.mp h]

/-- No chunk is longer than the buffer. -/
lemma length_le_of_mem_chunksFrom {message c : Message} {n k : ℕ}
    (h : c ∈ chunksFrom message n k) : c.content.length ≤ bufferSize := by
  induction n, k using chunksFrom.induct with
  | case1 n k hlt ih =>
    rw [chunksFrom, if_pos hlt] at h
    rcases List.mem_cons.mp h with rfl | h
    · exact List.length_take_le _ _
    · exact ih h
  | case2 n k hle =>
    rw [chunksFrom, if_neg hle] at h
    rw [List.mem_singleton.mp h]
    exact (List.length_take_le _ _).trans (not_lt.mp hle)

/-- While the loop runs over bytes that exist, a chunk is empty only if nothing is left to send. -/
lemma eq_zero_of_nil_mem_chunksFrom {message c : Message} {n k : ℕ}
    (hn : k + n = message.content.length) (h : c ∈ chunksFrom message n k) (hc : c.content = []) :
    n = 0 := by
  induction n, k using chunksFrom.induct with
  | case1 n k hlt ih =>
    have hpos := bufferSize_pos
    rw [chunksFrom, if_pos hlt] at h
    rcases List.mem_cons.mp h with rfl | h
    · have hlen := congrArg List.length hc
      simp only [List.length_take, List.length_drop, List.length_nil] at hlen
      omega
    · have := ih (by omega) h
      omega
  | case2 n k hle =>
    rw [chunksFrom, if_neg hle] at h
    rw [List.mem_singleton.mp h] at hc
    have hlen := congrArg List.length hc
    simp only [List.length_take, List.length_drop, List.length_nil] at hlen
    omega

/-- The chunk contents, concatenated, are what the loop has left to send. -/
lemma flatMap_content_chunksFrom (message : Message) (n k : ℕ) :
    (chunksFrom message n k).flatMap Message.content = (message.content.drop k).take n := by
  induction n, k using chunksFrom.induct with
  | case1 n k hlt ih =>
    have hn : n = bufferSize + (n - bufferSize) := by omega
    rw [chunksFrom, if_pos hlt, List.flatMap_cons, ih]
    conv_rhs => rw [hn, List.take_add, List.drop_drop]
  | case2 n k hle =>
    rw [chunksFrom, if_neg hle]
    simp

/-- The number of chunks the loop sends. -/
lemma length_chunksFrom (message : Message) (n k : ℕ) :
    (chunksFrom message n k).length = max 1 (n ⌈/⌉ bufferSize) := by
  have hpos := bufferSize_pos
  induction n, k using chunksFrom.induct with
  | case1 n k hlt ih =>
    have hstep : n ⌈/⌉ bufferSize = (n - bufferSize) ⌈/⌉ bufferSize + 1 := by
      rw [Nat.ceilDiv_eq_add_pred_div, Nat.ceilDiv_eq_add_pred_div,
        ← Nat.add_div_right _ hpos]
      congr 1
      omega
    have hone : 1 ≤ (n - bufferSize) ⌈/⌉ bufferSize := by
      rw [Nat.ceilDiv_eq_add_pred_div, Nat.one_le_div_iff hpos]
      omega
    rw [chunksFrom, if_pos hlt, List.length_cons, ih, hstep]
    omega
  | case2 n k hle =>
    have hle' : n ⌈/⌉ bufferSize ≤ 1 := by
      rw [Nat.ceilDiv_eq_add_pred_div]
      exact Nat.le_of_lt_succ ((Nat.div_lt_iff_lt_mul hpos).mpr (by omega))
    rw [chunksFrom, if_neg hle, List.length_singleton]
    omega

/-- A message that fits the buffer is sent as one chunk. -/
lemma chunks_of_le {message : Message} (h : message.content.length ≤ bufferSize) :
    chunks message = [message] := by
  rw [chunks, chunksFrom, if_neg (not_lt.mpr h), List.drop_zero, List.take_length]

/-- What `send` makes of a message: as many chunks as its length needs and at least one, each of its
type and fitting the buffer, none empty unless the message is, together its content. -/
structure IsChunking (message : Message) (cs : List Message) : Prop where
  /-- One chunk for each started `bufferSize` bytes, and one for an empty message. -/
  length_eq : cs.length = max 1 (message.content.length ⌈/⌉ bufferSize)
  /-- Every chunk has the type of the message. -/
  type_eq : ∀ c ∈ cs, c.type = message.type
  /-- Every chunk fits the buffer. -/
  length_le : ∀ c ∈ cs, c.content.length ≤ bufferSize
  /-- Only an empty message has an empty chunk. -/
  eq_nil : ∀ c ∈ cs, c.content = [] → message.content = []
  /-- The chunks concatenated are the message. -/
  flatMap_content : cs.flatMap Message.content = message.content

/-- The loop of `send` chunks every message. -/
theorem isChunking_chunks (message : Message) : IsChunking message (chunks message) where
  length_eq := length_chunksFrom message _ 0
  type_eq _ hc := type_of_mem_chunksFrom hc
  length_le _ hc := length_le_of_mem_chunksFrom hc
  eq_nil _ hc hnil :=
    List.length_eq_zero_iff.mp (eq_zero_of_nil_mem_chunksFrom (by omega) hc hnil)
  flatMap_content := by
    rw [chunks, flatMap_content_chunksFrom, List.drop_zero, List.take_length]

/-! ## The bytes on the wire -/

/-- The header that `sendChunk` puts in front of a message. -/
def headerOf (message : Message) : MessageHeader :=
  { messageSize := UInt64.ofNat message.content.length, type := message.type }

/-- The header of a content below `2^64` bytes announces its length. -/
lemma toNat_messageSize_headerOf {message : Message} (h : message.content.length < UInt64.size) :
    (headerOf message).messageSize.toNat = message.content.length :=
  UInt64.toNat_ofNat_of_lt' h

section Wire

variable [SizeLayout]

/-- The bytes that `sendChunk` writes: the header and the content in one gathered write. -/
def sendChunk (message : Message) : Bytes :=
  (headerOf message).serialize ++ message.content

/-- The bytes that `send` writes. -/
def send (message : Message) : Bytes :=
  (chunks message).flatMap sendChunk

@[simp] lemma length_sendChunk (message : Message) :
    (sendChunk message).length = MessageHeader.size + message.content.length := by
  simp [sendChunk]

/-- Reads one complete frame with at most `maxLength` content bytes from the front of a stream. -/
def decodeFrame (maxLength : ℕ) (s : Bytes) : Option (Message × Bytes) :=
  if s.length < MessageHeader.size then none
  else
    match MessageHeader.deserialize (s.take MessageHeader.size) MessageHeader.size maxLength with
    | .error _ => none
    | .ok header =>
      let body := s.drop MessageHeader.size
      if body.length < header.messageSize.toNat then none
      else
        some ({ type := header.type, content := body.take header.messageSize.toNat },
          body.drop header.messageSize.toNat)

/-- The wire format of one chunk, for readers that accept at most `maxLength` content bytes. -/
def frameCodec (maxLength : ℕ) : Framing.Codec Byte Message where
  Accepts message := message.content.length ≤ maxLength ∧ message.content.length < UInt64.size
  encode := sendChunk
  decode := decodeFrame maxLength
  encode_ne_nil message := by
    rw [← List.length_pos_iff, length_sendChunk]
    exact Nat.add_pos_left (by decide) _
  decode_encode message := by
    rintro ⟨hle, hlt⟩ t
    have htoNat := toNat_messageSize_headerOf hlt
    have hlen : ¬ (sendChunk message ++ t).length < MessageHeader.size := by
      simp only [List.length_append, length_sendChunk]
      omega
    have htake : (sendChunk message ++ t).take MessageHeader.size =
        (headerOf message).serialize := by
      rw [sendChunk, List.append_assoc]
      exact List.take_left' (MessageHeader.length_serialize _)
    have hdrop : (sendChunk message ++ t).drop MessageHeader.size = message.content ++ t := by
      rw [sendChunk, List.append_assoc]
      exact List.drop_left' (MessageHeader.length_serialize _)
    have hsize : (headerOf message).messageSize.toNat ≤ maxLength := htoNat ▸ hle
    have hdes := MessageHeader.deserialize_serialize hsize
    simp only [decodeFrame, if_neg hlen, htake, hdes, hdrop, htoNat]
    rw [if_neg (by simp), List.take_left, List.drop_left]
    rfl
  of_decode s message t h := by
    unfold decodeFrame at h
    split at h
    · cases h
    · rename_i hlen
      have htake : (s.take MessageHeader.size).length = MessageHeader.size :=
        List.length_take_of_le (not_lt.mp hlen)
      split at h
      · cases h
      · rename_i header hdes
        obtain ⟨hle, hser⟩ := MessageHeader.of_deserialize_eq_ok htake hdes
        simp only at h
        split at h
        · cases h
        · rename_i hbody
          simp only [Option.some.injEq, Prod.mk.injEq] at h
          obtain ⟨rfl, rfl⟩ := h
          have hcontent : ((s.drop MessageHeader.size).take header.messageSize.toNat).length =
              header.messageSize.toNat := List.length_take_of_le (not_lt.mp hbody)
          refine ⟨⟨hcontent.trans_le hle, hcontent.trans_lt header.messageSize.toNat_lt⟩, ?_⟩
          have hheader : headerOf ⟨header.type,
              (s.drop MessageHeader.size).take header.messageSize.toNat⟩ = header := by
            simp only [headerOf, hcontent, UInt64.ofNat_toNat]
          rw [sendChunk, hheader, ← hser, List.append_assoc, List.take_append_drop,
            List.take_append_drop]

@[simp] lemma frameCodec_encode (maxLength : ℕ) (message : Message) :
    (frameCodec maxLength).encode message = sendChunk message := rfl

@[simp] lemma frameCodec_decode (maxLength : ℕ) (s : Bytes) :
    (frameCodec maxLength).decode s = decodeFrame maxLength s := rfl

/-- The bytes of a list of messages sent one after another are the frames of all their chunks. -/
lemma flatMap_send (messages : List Message) (maxLength : ℕ) :
    messages.flatMap send = (frameCodec maxLength).encodeAll (messages.flatMap chunks) := by
  simp only [Framing.Codec.encodeAll, List.flatMap_assoc]
  rfl

/-- A reader with the default limit accepts every chunk. -/
lemma accepts_of_mem_chunks {messages : List Message} {c : Message}
    (h : c ∈ messages.flatMap chunks) : (frameCodec bufferSize).Accepts c := by
  obtain ⟨message, -, hc⟩ := List.mem_flatMap.mp h
  have hle := (isChunking_chunks message).length_le c hc
  exact ⟨hle, hle.trans_lt bufferSize_lt⟩

end Wire

end SocketBase

end ScreenViewer
