import Mathlib
import ScreenViewer.Lib.Framing
import ScreenViewer.Lib.Segments
import ScreenViewer.SocketBase.Send

/-!
# The blocking readers of `SocketBase`

`receive` and `receiveToBuffer` read one frame each from the segments that the transport delivers.
Both are written out as in the source (the second one does not call `readHeader` and reads the body
into `data_buffer`), and both are shown to be `Framing.Reader`s of the same frame format.  From this
the library gives that a stream written by `send` is read back chunk by chunk, whichever of the two
is called for each frame (`receive_send_roundTrip`).
-/

namespace ScreenViewer

namespace SocketBase

/-- What a blocking read fails with: the text of a `MessageHeaderException`, or the system error of
a stream that ends too early. -/
inductive ReadError
  | messageHeaderException (what : String)
  | endOfStream
  deriving DecidableEq

/-- What the blocking readers of a socket work on: the segments that the peer's stream arrives in
and the member `data_buffer`. -/
structure Inbound where
  segments : List Bytes
  dataBuffer : Bytes

/-- The bytes in front of the readers. -/
def Inbound.bytes (s : Inbound) : Bytes := s.segments.flatten

section Readers

variable [SizeLayout]

/-- `readHeader`: reads and checks the header of the next frame. -/
def readHeader (s : Inbound) : Except ReadError (MessageHeader × Inbound) :=
  match Segments.readExactly MessageHeader.size s.segments with
  | none => .error .endOfStream
  | some (buffer, segments) =>
    match MessageHeader.deserialize buffer MessageHeader.size bufferSize with
    | .error what => .error (.messageHeaderException what)
    | .ok header => .ok (header, { s with segments := segments })

/-- `receive`: reads the next frame into a string of its own. -/
def receive (s : Inbound) : Except ReadError (Message × Inbound) :=
  match readHeader s with
  | .error e => .error e
  | .ok (header, s) =>
    match Segments.readExactly header.messageSize.toNat s.segments with
    | none => .error .endOfStream
    | some (message, segments) =>
      .ok ({ type := header.type, content := message }, { s with segments := segments })

/-- `receiveToBuffer`: reads the next frame into `data_buffer` and returns a view of it. -/
def receiveToBuffer (s : Inbound) : Except ReadError (Message × Inbound) :=
  match Segments.readExactly MessageHeader.size s.segments with
  | none => .error .endOfStream
  | some (buffer, segments) =>
    match MessageHeader.deserialize buffer MessageHeader.size bufferSize with
    | .error what => .error (.messageHeaderException what)
    | .ok header =>
      match Segments.readExactly header.messageSize.toNat segments with
      | none => .error .endOfStream
      | some (body, segments) =>
        let dataBuffer := Bytes.overwrite s.dataBuffer 0 body
        .ok ({ type := header.type, content := dataBuffer.take header.messageSize.toNat },
          { segments := segments, dataBuffer := dataBuffer })

/-- Why no frame with at most `maxLength` content bytes can be read at the front of a stream: its
header is rejected, or the stream ends before the frame does. -/
def stopAt (maxLength : ℕ) (s : Bytes) : ReadError :=
  if s.length < MessageHeader.size then .endOfStream
  else
    match MessageHeader.deserialize (s.take MessageHeader.size) MessageHeader.size maxLength with
    | .error what => .messageHeaderException what
    | .ok _ => .endOfStream

/-! ### The stages of reading one frame -/

/-- A stream too short for a header holds no frame. -/
lemma decodeFrame_of_short_header (maxLength : ℕ) {s : Bytes}
    (h : s.length < MessageHeader.size) :
    decodeFrame maxLength s = none ∧ stopAt maxLength s = .endOfStream := by
  simp [decodeFrame, stopAt, h]

/-- A stream whose header is rejected holds no frame. -/
lemma decodeFrame_of_rejected {maxLength : ℕ} {buffer : Bytes} {what : String}
    (hlen : buffer.length = MessageHeader.size)
    (h : MessageHeader.deserialize buffer MessageHeader.size maxLength = .error what)
    (rest : Bytes) :
    decodeFrame maxLength (buffer ++ rest) = none ∧
      stopAt maxLength (buffer ++ rest) = .messageHeaderException what := by
  have hshort : ¬ (buffer ++ rest).length < MessageHeader.size := by
    simp only [List.length_append]
    omega
  simp only [decodeFrame, stopAt, if_neg hshort, List.take_left' hlen, h, and_self]

/-- A stream too short for the announced body holds no frame. -/
lemma decodeFrame_of_short_body {maxLength : ℕ} {buffer rest : Bytes} {header : MessageHeader}
    (hlen : buffer.length = MessageHeader.size)
    (h : MessageHeader.deserialize buffer MessageHeader.size maxLength = .ok header)
    (hbody : rest.length < header.messageSize.toNat) :
    decodeFrame maxLength (buffer ++ rest) = none ∧
      stopAt maxLength (buffer ++ rest) = .endOfStream := by
  have hshort : ¬ (buffer ++ rest).length < MessageHeader.size := by
    simp only [List.length_append]
    omega
  simp only [decodeFrame, stopAt, if_neg hshort, List.take_left' hlen, h, List.drop_left' hlen,
    if_pos hbody, and_self]

/-- An accepted header and the announced number of bytes are a frame. -/
lemma decodeFrame_of_body {maxLength : ℕ} {buffer body rest : Bytes} {header : MessageHeader}
    (hlen : buffer.length = MessageHeader.size)
    (h : MessageHeader.deserialize buffer MessageHeader.size maxLength = .ok header)
    (hbody : body.length = header.messageSize.toNat) :
    decodeFrame maxLength (buffer ++ (body ++ rest)) =
      some ({ type := header.type, content := body }, rest) := by
  have hshort : ¬ (buffer ++ (body ++ rest)).length < MessageHeader.size := by
    simp only [List.length_append]
    omega
  have henough : ¬ (body ++ rest).length < header.messageSize.toNat := by
    simp only [List.length_append]
    omega
  simp only [decodeFrame, if_neg hshort, List.take_left' hlen, h, List.drop_left' hlen,
    if_neg henough, List.take_left' hbody, List.drop_left' hbody]

/-! ### Both readers read the frame format -/

/-- `receive` reads exactly the frames of the wire format. -/
def receiveReader : Framing.Reader (frameCodec bufferSize) (stopAt bufferSize) Inbound where
  bytes := Inbound.bytes
  read := receive
  of_ok := by
    intro s message s' h
    unfold receive readHeader at h
    cases hhead : Segments.readExactly MessageHeader.size s.segments with
    | none => simp [hhead] at h
    | some r =>
      obtain ⟨hs, hlen⟩ := Segments.readExactly_eq_some hhead
      cases hdes : MessageHeader.deserialize r.1 MessageHeader.size bufferSize with
      | error what => simp [hhead, hdes] at h
      | ok header =>
        cases hbody : Segments.readExactly header.messageSize.toNat r.2 with
        | none => simp [hhead, hdes, hbody] at h
        | some q =>
          obtain ⟨hr, hsize⟩ := Segments.readExactly_eq_some hbody
          simp only [hhead, hdes, hbody, Except.ok.injEq, Prod.mk.injEq] at h
          obtain ⟨rfl, rfl⟩ := h
          simp only [Inbound.bytes, hs, hr, frameCodec_decode]
          exact decodeFrame_of_body hlen hdes hsize
  of_error := by
    intro s e h
    unfold receive readHeader at h
    cases hhead : Segments.readExactly MessageHeader.size s.segments with
    | none =>
      simp only [hhead, Except.error.injEq] at h
      subst h
      obtain ⟨hnone, hstop⟩ :=
        decodeFrame_of_short_header bufferSize (Segments.readExactly_eq_none_iff.mp hhead)
      exact ⟨hnone, hstop.symm⟩
    | some r =>
      obtain ⟨hs, hlen⟩ := Segments.readExactly_eq_some hhead
      simp only [Inbound.bytes, hs, frameCodec_decode]
      cases hdes : MessageHeader.deserialize r.1 MessageHeader.size bufferSize with
      | error what =>
        simp only [hhead, hdes, Except.error.injEq] at h
        subst h
        obtain ⟨hnone, hstop⟩ := decodeFrame_of_rejected hlen hdes r.2.flatten
        exact ⟨hnone, hstop.symm⟩
      | ok header =>
        cases hbody : Segments.readExactly header.messageSize.toNat r.2 with
        | some q => simp [hhead, hdes, hbody] at h
        | none =>
          simp only [hhead, hdes, hbody, Except.error.injEq] at h
          subst h
          obtain ⟨hnone, hstop⟩ :=
            decodeFrame_of_short_body hlen hdes (Segments.readExactly_eq_none_iff.mp hbody)
          exact ⟨hnone, hstop.symm⟩

/-- Although it is written separately and reads through `data_buffer`, `receiveToBuffer` returns
what `receive` returns and leaves the same bytes unread. -/
theorem receiveToBuffer_eq_receive (s : Inbound) :
    (receiveToBuffer s).map (fun r => (r.1, r.2.segments)) =
      (receive s).map (fun r => (r.1, r.2.segments)) := by
  unfold receiveToBuffer receive readHeader
  cases Segments.readExactly MessageHeader.size s.segments with
  | none => rfl
  | some r =>
    cases hdes : MessageHeader.deserialize r.1 MessageHeader.size bufferSize with
    | error what => simp [hdes]
    | ok header =>
      cases hbody : Segments.readExactly header.messageSize.toNat r.2 with
      | none => simp [hdes, hbody]
      | some q =>
        obtain ⟨-, hsize⟩ := Segments.readExactly_eq_some hbody
        have hview := Bytes.take_overwrite_zero s.dataBuffer q.1
        rw [hsize] at hview
        simp [hdes, hbody, Except.map, hview]

/-- `receiveToBuffer` reads exactly the frames of the wire format. -/
def receiveToBufferReader : Framing.Reader (frameCodec bufferSize) (stopAt bufferSize) Inbound where
  bytes := Inbound.bytes
  read := receiveToBuffer
  of_ok := by
    intro s message s' h
    have heq := receiveToBuffer_eq_receive s
    rw [h] at heq
    cases hr : receive s with
    | error e => simp [hr, Except.map] at heq
    | ok r =>
      simp only [hr, Except.map, Except.ok.injEq, Prod.mk.injEq] at heq
      have hdec := receiveReader.of_ok hr
      simp only [receiveReader, Inbound.bytes] at hdec ⊢
      rw [heq.1, heq.2, hdec]
  of_error := by
    intro s e h
    have heq := receiveToBuffer_eq_receive s
    rw [h] at heq
    cases hr : receive s with
    | error e' =>
      simp only [hr, Except.map, Except.error.injEq] at heq
      rw [heq]
      exact receiveReader.of_error hr
    | ok r => simp [hr, Except.map] at heq

/-- The two blocking readers. -/
inductive Receiver
  | receive
  | receiveToBuffer

/-- A blocking reader as a reader of the frame format. -/
def Receiver.reader : Receiver → Framing.Reader (frameCodec bufferSize) (stopAt bufferSize) Inbound
  | .receive => receiveReader
  | .receiveToBuffer => receiveToBufferReader

/-- Both readers have the unread segments in front of them. -/
@[simp] lemma Receiver.reader_bytes (r : Receiver) : r.reader.bytes = Inbound.bytes := by
  cases r <;> rfl

/-- Reads one frame with each of a list of blocking readers in turn. -/
def readFrames (readers : List Receiver) (s : Inbound) :
    Except ReadError (List Message × Inbound) :=
  Framing.readEach (readers.map Receiver.reader) s

/-- What `send` has written for some messages is read back frame by frame. -/
lemma exists_readFrames_of_send {messages : List Message} {t : Bytes} {readers : List Receiver}
    {s : Inbound} (hs : s.bytes = messages.flatMap send ++ t)
    (hlen : readers.length = (messages.flatMap chunks).length) :
    ∃ s', readFrames readers s = .ok (messages.flatMap chunks, s') ∧ s'.bytes = t := by
  rw [flatMap_send messages bufferSize] at hs
  refine Framing.readEach_encodeAll (fun c hc => accepts_of_mem_chunks hc)
    (by simpa using hlen) ?_ hs
  intro R hR
  obtain ⟨r, -, rfl⟩ := List.mem_map.mp hR
  exact r.reader_bytes

/-- The framing round trip: whatever messages `send` writes one after another, however the transport
cuts their bytes and whatever follows them, reading one frame per chunk with either blocking reader
delivers the chunks of the messages in order and stops at the first byte behind them; and the chunks
of each message are a chunking of it. -/
theorem receive_send_roundTrip (messages : List Message) (t : Bytes) (readers : List Receiver)
    (s : Inbound) (hs : s.bytes = messages.flatMap send ++ t)
    (hlen : readers.length = (messages.flatMap chunks).length) :
    (∃ s', readFrames readers s = .ok (messages.flatMap chunks, s') ∧ s'.bytes = t) ∧
      ∀ message ∈ messages, IsChunking message (chunks message) := by
  refine ⟨exists_readFrames_of_send hs hlen, ?_⟩
  intro message _
  exact isChunking_chunks message

end Readers

/-- An empty message and a one-byte message, read back with one reader each from a stream cut in the
middle of both frames. -/
theorem receive_send_roundTrip_pair :
    letI := littleEndian
    let messages : List Message := [⟨.ack, []⟩, ⟨.response, [65]⟩]
    let s : Inbound :=
      ⟨[[0, 0, 0], [0, 0, 0, 0, 0, 7, 1, 0, 0, 0], [0, 0, 0, 0, 5, 65, 9]], []⟩
    ∃ s', readFrames [.receive, .receiveToBuffer] s = .ok (messages, s') ∧ s'.bytes = [9] := by
  let := littleEndian
  intro messages s
  have hack : chunks ⟨.ack, []⟩ = [⟨.ack, []⟩] := chunks_of_le (by decide)
  have hresponse : chunks ⟨.response, [65]⟩ = [⟨.response, [65]⟩] := chunks_of_le (by decide)
  have hchunks : messages.flatMap chunks = messages := by
    simp [messages, hack, hresponse]
  have hbytes : s.bytes = messages.flatMap send ++ [9] := by
    simp only [messages, List.flatMap_cons, List.flatMap_nil, send, hack, hresponse]
    decide
  have h := (receive_send_roundTrip messages [9] [.receive, .receiveToBuffer] s hbytes
    (by rw [hchunks]; rfl)).1
  rwa [hchunks] at h

end SocketBase

end ScreenViewer
