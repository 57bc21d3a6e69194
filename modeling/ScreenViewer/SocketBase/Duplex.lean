import Mathlib
import ScreenViewer.SocketBase.AsyncRead
import ScreenViewer.SocketBase.AsyncSend

/-!
# A socket that is read and written asynchronously

On the streamer's socket an `asyncSendMessage` loop and an `asyncReadMessage` loop run on the same
`io_context`.  The composed `async_write` puts its frame on the wire in parts, and completions of
reads are handled in between.  One of them may reject a header, and `safeDisconnect` then writes a
`DISCONNECT` frame synchronously, wherever the outstanding write has got to.

`Duplex` puts the reader of `AsyncReader` and such a writer together.  As long as every `DISCONNECT`
is written before or after a frame and not inside one, what is on the wire is the beginning of whole
frames (`intact_of_run`).
-/

namespace ScreenViewer

namespace SocketBase

/-- A socket with a reader and a writer. -/
structure Duplex where
  reader : AsyncReader
  /-- The message that is being sent asynchronously and the number of bytes written of its frame. -/
  outgoing : Option (Message × ℕ)
  /-- Bytes can still be put on the wire. -/
  connected : Bool
  /-- The bytes on the wire. -/
  wire : Bytes
  /-- The messages whose frames were begun or about to be. -/
  sent : List Message

namespace Duplex

/-- The two loops are about to start. -/
def started (reader : AsyncReader) : Duplex :=
  { reader := reader, outgoing := none, connected := true, wire := [], sent := [] }

/-- The message that `safeDisconnect` sends because of an exception. -/
def disconnectMessage (what : String) : Message :=
  { type := .disconnect, content := Bytes.ofString what }

/-- What happens in a step. -/
inductive Label
  /-- The reader makes progress, or its read fails. -/
  | read
  /-- `asyncSendMessage` is called. -/
  | asyncSendMessage (message : Message)
  /-- A part of the outgoing frame is written. -/
  | written (n : ℕ)
  /-- The outstanding write completes, successfully or not. -/
  | completed
  /-- `safeDisconnect` writes the first `n` bytes of a `DISCONNECT` while `outgoing` is under
  way. -/
  | disconnect (outgoing : Option (Message × ℕ)) (n : ℕ)
  /-- The connection is lost. -/
  | lost

variable [SizeLayout]

/-- The steps of the socket.  A `DISCONNECT` that cannot be written as a whole is the sign of a lost
connection, and one that can is followed by the closing of the socket. -/
inductive Step (maxMessageSize : ℕ) (s : Duplex) : Label → Duplex → Prop
  | read (e : AsyncReader.Event) (reader : AsyncReader)
      (hread : AsyncReader.Step maxMessageSize s.reader e reader)
      (haccepted : reader.disconnected = s.reader.disconnected) :
      Step maxMessageSize s .read { s with reader := reader }
  | readFailed : Step maxMessageSize s .read { s with reader := { s.reader with pending := none } }
  | rejected (reader : AsyncReader) (what : String) (n : ℕ)
      (hread : AsyncReader.Step maxMessageSize s.reader .complete reader)
      (hrejected : s.reader.disconnected = none ∧ reader.disconnected = some what)
      (hlost : s.connected = false → n = 0) :
      Step maxMessageSize s (.disconnect s.outgoing n)
        { s with
          reader := reader
          connected := false
          wire := s.wire ++ (send (disconnectMessage what)).take n
          sent := s.sent ++ chunks (disconnectMessage what) }
  | asyncSendMessage (message : Message) (hidle : s.outgoing = none)
      (hsize : message.content.length < UInt64.size) :
      Step maxMessageSize s (.asyncSendMessage message)
        { s with outgoing := some (message, 0), sent := s.sent ++ [message] }
  | written (message : Message) (k n : ℕ) (houtgoing : s.outgoing = some (message, k))
      (hconnected : s.connected = true)
      (hn : k + n ≤ (SocketBase.asyncSendMessage message).length) :
      Step maxMessageSize s (.written n)
        { s with
          outgoing := some (message, k + n)
          wire := s.wire ++ ((SocketBase.asyncSendMessage message).drop k).take n }
  | completed (message : Message) (k : ℕ) (houtgoing : s.outgoing = some (message, k))
      (hdone : k = (SocketBase.asyncSendMessage message).length ∨ s.connected = false) :
      Step maxMessageSize s .completed { s with outgoing := none }
  | lost : Step maxMessageSize s .lost { s with connected := false }

/-- The wire carries the beginning of a sequence of whole frames, each a header and the content that
it announces, of messages that were sent. -/
def Intact (s : Duplex) : Prop :=
  ∃ frames : List Message,
    (∀ message ∈ frames, message ∈ s.sent ∧
      (headerOf message).messageSize.toNat = message.content.length) ∧
    s.wire <+: frames.flatMap sendChunk

/-- A `DISCONNECT` is written while no other frame has been begun and not finished. -/
def Label.BetweenFrames : Label → Prop
  | .disconnect outgoing n =>
    n = 0 ∨ ∀ message k, outgoing = some (message, k) →
      k = 0 ∨ k = (SocketBase.asyncSendMessage message).length
  | _ => True

/-! ## The invariant -/

/-- The bytes written of the outgoing frame. -/
def begun (s : Duplex) : Bytes :=
  match s.outgoing with
  | some (message, k) => (sendChunk message).take k
  | none => []

/-- What holds of a socket on which frames have not been mixed. -/
structure Inv (s : Duplex) : Prop where
  /-- Contents fit the header's field for their size. -/
  size_lt : ∀ message ∈ s.sent, message.content.length < UInt64.size
  /-- The outgoing frame is one that was begun. -/
  outgoing_mem : ∀ message k, s.outgoing = some (message, k) → message ∈ s.sent
  /-- While bytes can be written, the wire carries whole frames and what was begun of another. -/
  wire_eq : s.connected = true → ∃ frames : List Message, (∀ message ∈ frames, message ∈ s.sent) ∧
    s.wire = frames.flatMap sendChunk ++ s.begun
  /-- Afterwards it carries the beginning of whole frames. -/
  prefix_wire : ∃ frames : List Message, (∀ message ∈ frames, message ∈ s.sent) ∧
    s.wire <+: frames.flatMap sendChunk

/-- Nothing has been written when the loops start. -/
lemma inv_started (reader : AsyncReader) : Inv (started reader) where
  size_lt := by simp [started]
  outgoing_mem := by simp [started]
  wire_eq _ := ⟨[], by simp, rfl⟩
  prefix_wire := ⟨[], by simp, List.prefix_rfl⟩

/-- Frames that are not mixed are intact. -/
lemma Inv.intact {s : Duplex} (h : Inv s) : Intact s := by
  obtain ⟨frames, hframes, hpre⟩ := h.prefix_wire
  refine ⟨frames, fun message hmessage => ⟨hframes message hmessage, ?_⟩, hpre⟩
  exact toNat_messageSize_headerOf (h.size_lt message (hframes message hmessage))

/-- More of the outgoing frame is the beginning of whole frames, too. -/
lemma prefix_of_begun {s : Duplex} {frames : List Message} {message : Message} (n : ℕ)
    (hframes : ∀ m ∈ frames, m ∈ s.sent) (hmessage : message ∈ s.sent) :
    ∃ frames' : List Message, (∀ m ∈ frames', m ∈ s.sent) ∧
      frames.flatMap sendChunk ++ (sendChunk message).take n <+: frames'.flatMap sendChunk := by
  refine ⟨frames ++ [message], ?_, ?_⟩
  · intro m hm
    rcases List.mem_append.mp hm with hm | hm
    · exact hframes m hm
    · rw [List.mem_singleton.mp hm]
      exact hmessage
  · rw [List.flatMap_append, List.flatMap_singleton, List.prefix_append_right_inj]
    exact List.take_prefix _ _

/-- Outside a frame the wire carries whole frames. -/
lemma Inv.exists_whole {s : Duplex} (h : Inv s) (hconnected : s.connected = true)
    (hbetween : ∀ message k, s.outgoing = some (message, k) →
      k = 0 ∨ k = (SocketBase.asyncSendMessage message).length) :
    ∃ frames : List Message, (∀ message ∈ frames, message ∈ s.sent) ∧
      s.wire = frames.flatMap sendChunk := by
  obtain ⟨frames, hframes, hwire⟩ := h.wire_eq hconnected
  cases houtgoing : s.outgoing with
  | none => exact ⟨frames, hframes, by simpa [begun, houtgoing] using hwire⟩
  | some outgoing =>
    obtain ⟨message, k⟩ := outgoing
    rcases hbetween message k houtgoing with rfl | rfl
    · exact ⟨frames, hframes, by simpa [begun, houtgoing] using hwire⟩
    · refine ⟨frames ++ [message], ?_, ?_⟩
      · intro m hm
        rcases List.mem_append.mp hm with hm | hm
        · exact hframes m hm
        · rw [List.mem_singleton.mp hm]
          exact h.outgoing_mem message _ houtgoing
      · rw [List.flatMap_append, List.flatMap_singleton, hwire, begun, houtgoing]
        exact congrArg _ (List.take_length ..)

omit [SizeLayout] in
/-- Frames of messages sent earlier are frames of messages sent. -/
lemma mem_sent_append {sent sent' frames : List Message} (h : ∀ message ∈ frames, message ∈ sent) :
    ∀ message ∈ frames, message ∈ sent ++ sent' :=
  fun message hmessage => List.mem_append_left _ (h message hmessage)

/-- A step that writes no `DISCONNECT` inside a frame mixes no frames. -/
theorem Inv.step {maxMessageSize : ℕ} {s t : Duplex} {l : Label} (hl : l.BetweenFrames) (h : Inv s)
    (hs : Step maxMessageSize s l t) : Inv t := by
  cases hs with
  | read e reader hread haccepted => exact ⟨h.size_lt, h.outgoing_mem, h.wire_eq, h.prefix_wire⟩
  | readFailed => exact ⟨h.size_lt, h.outgoing_mem, h.wire_eq, h.prefix_wire⟩
  | rejected reader what n hread hrejected hlost =>
    refine ⟨?_, fun m k hm => List.mem_append_left _ (h.outgoing_mem m k hm), by simp, ?_⟩
    · intro m hm
      rcases List.mem_append.mp hm with hm | hm
      · exact h.size_lt m hm
      · exact ((isChunking_chunks _).length_le m hm).trans_lt bufferSize_lt
    · by_cases hn : n = 0
      · obtain ⟨frames, hframes, hpre⟩ := h.prefix_wire
        exact ⟨frames, mem_sent_append hframes, by simpa [hn] using hpre⟩
      · have hconnected : s.connected = true := by
          by_contra hne
          exact hn (hlost (by simpa using hne))
        obtain ⟨frames, hframes, hwire⟩ := h.exists_whole hconnected (hl.resolve_left hn)
        refine ⟨frames ++ chunks (disconnectMessage what), ?_, ?_⟩
        · intro m hm
          rcases List.mem_append.mp hm with hm | hm
          · exact mem_sent_append hframes m hm
          · exact List.mem_append_right _ hm
        · rw [hwire, List.flatMap_append, List.prefix_append_right_inj]
          exact List.take_prefix _ _
  | asyncSendMessage message hidle hlen =>
    refine ⟨?_, ?_, fun hconnected => ?_, ?_⟩
    · intro m hm
      rcases List.mem_append.mp hm with hm | hm
      · exact h.size_lt m hm
      · rw [List.mem_singleton.mp hm]
        exact hlen
    · rintro m k heq
      cases heq
      exact List.mem_append_right _ (List.mem_singleton_self _)
    · obtain ⟨frames, hframes, hwire⟩ := h.wire_eq hconnected
      exact ⟨frames, mem_sent_append hframes, by simpa [begun, hidle] using hwire⟩
    · obtain ⟨frames, hframes, hpre⟩ := h.prefix_wire
      exact ⟨frames, mem_sent_append hframes, hpre⟩
  | written message k n houtgoing hconnected hn =>
    obtain ⟨frames, hframes, hwire⟩ := h.wire_eq hconnected
    have hmessage := h.outgoing_mem message k houtgoing
    have hwire' : s.wire ++ ((SocketBase.asyncSendMessage message).drop k).take n =
        frames.flatMap sendChunk ++ (sendChunk message).take (k + n) := by
      rw [hwire, begun, houtgoing, List.append_assoc]
      exact congrArg _ List.take_add.symm
    refine ⟨h.size_lt, ?_, fun _ => ⟨frames, hframes, hwire'⟩, ?_⟩
    · rintro m k' heq
      cases heq
      exact hmessage
    · rw [hwire']
      exact prefix_of_begun (k + n) hframes hmessage
  | completed message k houtgoing hdone =>
    refine ⟨h.size_lt, by simp, fun hconnected => ?_, h.prefix_wire⟩
    have hdone' := hdone.resolve_right (by simpa using hconnected)
    obtain ⟨frames, hframes, hwire⟩ := h.exists_whole hconnected fun m k' heq => by
      rw [houtgoing] at heq
      cases heq
      exact Or.inr hdone'
    exact ⟨frames, hframes, by simpa [begun] using hwire⟩
  | lost => exact ⟨h.size_lt, h.outgoing_mem, by simp, h.prefix_wire⟩

/-- In every run in which no `DISCONNECT` is written inside another frame, frames are intact. -/
theorem intact_of_run {maxMessageSize : ℕ} {reader : AsyncReader} {t : Duplex} {ls : List Label}
    (hrun : Transition.Run (Step maxMessageSize) (started reader) ls t)
    (hls : ∀ l ∈ ls, l.BetweenFrames) : Intact t :=
  (hrun.invariant_of_labels hls (inv_started reader) fun _ _ _ hl h hs => h.step hl hs).intact

/-! ## A frame that is torn -/

/-- The reader of the streamer's socket when `run` has armed it. -/
def armed : AsyncReader :=
  { AsyncReader.idle (List.replicate bufferSize 0) with pending := some (.header 0) }

/-- A header whose type is no message type. -/
def badHeader : Bytes := [0, 0, 0, 0, 0, 0, 0, 0, 255]

/-- Whatever the writer has done, a header can arrive that is rejected. -/
lemma exists_run_rejected (s : Duplex) (hreader : s.reader = armed)
    (hconnected : s.connected = true)
    {what : String}
    (hbad : MessageHeader.deserialize badHeader MessageHeader.size bufferSize = .error what) :
    ∃ n t, Transition.Run (Step bufferSize) s [.read, .read, .disconnect s.outgoing n] t ∧
      t.wire = s.wire ++ send (disconnectMessage what) ∧
      t.sent = s.sent ++ chunks (disconnectMessage what) := by
  obtain ⟨reader, outgoing, connected, wire, sent⟩ := s
  obtain rfl : reader = armed := hreader
  obtain rfl : connected = true := hconnected
  let arrived : AsyncReader := { armed with unread := badHeader }
  let taken : AsyncReader :=
    { arrived with
      unread := []
      dataBuffer := Bytes.overwrite arrived.dataBuffer 0 badHeader
      pending := some (.header MessageHeader.size) }
  have htaken : taken.complete bufferSize (.header MessageHeader.size) =
      { taken with pending := none, disconnected := some what } := by
    have htake : taken.dataBuffer.take MessageHeader.size = badHeader :=
      Bytes.take_overwrite_zero _ badHeader
    rw [← htake, AsyncReader.deserialize_take] at hbad
    simp only [AsyncReader.complete, hbad]
  have harrive : AsyncReader.Step bufferSize armed (.arrive badHeader) arrived := .arrive _ _
  have htransfer : AsyncReader.Step bufferSize arrived (.transfer MessageHeader.size) taken :=
    .transfer _ (.header 0) _ rfl (by decide) (by decide) (by decide)
  have hcomplete : AsyncReader.Step bufferSize taken .complete
      (taken.complete bufferSize (.header MessageHeader.size)) := .complete _ _ rfl rfl
  rw [htaken] at hcomplete
  refine ⟨(send (disconnectMessage what)).length, _,
    .cons (.read _ arrived harrive rfl) <| .cons (.read _ taken htransfer rfl) <|
      .single (.rejected _ what _ hcomplete ⟨rfl, rfl⟩ (by simp)), ?_, rfl⟩
  simp

omit [SizeLayout] in
/-- A bad header that arrives when a screenshot has been written is answered behind its frame. -/
theorem intact_of_run_written :
    letI := littleEndian
    ∃ ls t, Transition.Run (Step bufferSize) (started armed) ls t ∧ t.sent.length = 2 ∧
      Intact t := by
  let := littleEndian
  let screenshot : Message := { type := .screenUpdate, content := [1, 2, 3] }
  have hbad : MessageHeader.deserialize badHeader MessageHeader.size bufferSize =
      .error "Got unknown message type (255)." := rfl
  let finished : Duplex :=
    { started armed with
      outgoing := some (screenshot, 12)
      wire := (SocketBase.asyncSendMessage screenshot).take 12
      sent := [screenshot] }
  have hfinished : Transition.Run (Step bufferSize) (started armed)
      [.asyncSendMessage screenshot, .written 12] finished :=
    .cons (.asyncSendMessage screenshot rfl (by decide)) <|
      .single (.written screenshot 0 12 rfl rfl (by decide))
  obtain ⟨n, t, hrun, -, hsent⟩ := exists_run_rejected finished rfl rfl hbad
  rw [chunks_of_le (by decide +kernel)] at hsent
  refine ⟨_, t, hfinished.append hrun, by simp [hsent, finished],
    intact_of_run (hfinished.append hrun) ?_⟩
  intro l hl
  simp only [List.cons_append, List.nil_append, List.mem_cons, List.not_mem_nil, or_false] at hl
  rcases hl with rfl | rfl | rfl | rfl | rfl
  · trivial
  · trivial
  · trivial
  · trivial
  · refine Or.inr fun message k heq => Or.inr ?_
    obtain ⟨rfl, rfl⟩ : screenshot = message ∧ 12 = k := by simpa [finished] using heq
    decide

omit [SizeLayout] in
/-- A bad header that arrives while a screenshot has been written in part tears its frame. -/
theorem not_intact_rejected :
    letI := littleEndian
    ∃ ls t, Transition.Run (Step bufferSize) (started armed) ls t ∧ ¬ Intact t := by
  let := littleEndian
  let screenshot : Message := { type := .screenUpdate, content := [1, 2, 3] }
  have hbad : MessageHeader.deserialize badHeader MessageHeader.size bufferSize =
      .error "Got unknown message type (255)." := rfl
  let begun : Duplex :=
    { started armed with
      outgoing := some (screenshot, 10)
      wire := (SocketBase.asyncSendMessage screenshot).take 10
      sent := [screenshot] }
  have hbegun : Transition.Run (Step bufferSize) (started armed)
      [.asyncSendMessage screenshot, .written 10] begun :=
    .cons (.asyncSendMessage screenshot rfl (by decide)) <|
      .single (.written screenshot 0 10 rfl rfl (by decide))
  obtain ⟨n, t, hrun, hwire, hsent⟩ := exists_run_rejected begun rfl rfl hbad
  refine ⟨_, t, hbegun.append hrun, ?_⟩
  rintro ⟨frames, hframes, hpre⟩
  rw [chunks_of_le (by decide +kernel)] at hsent
  have hmem : ∀ message ∈ frames, message = screenshot ∨
      message = disconnectMessage "Got unknown message type (255)." := by
    intro message hmessage
    have hmessage' := (hframes message hmessage).1
    rw [hsent] at hmessage'
    simpa [begun] using hmessage'
  rw [hwire, send, chunks_of_le (by decide +kernel), List.flatMap_singleton] at hpre
  -- The first byte is the screenshot's, and the eleventh should be its second one.
  cases frames with
  | nil => exact absurd (List.prefix_nil.mp hpre) (by decide +kernel)
  | cons message frames =>
    rw [List.flatMap_cons] at hpre
    have hbyte : ∀ i (hi : i < 11), (sendChunk message ++ frames.flatMap sendChunk)[i]? =
        (begun.wire ++ sendChunk (disconnectMessage "Got unknown message type (255)."))[i]? := by
      intro i hi
      obtain ⟨rest, hrest⟩ := hpre
      rw [← hrest, List.getElem?_append_left]
      exact hi.trans_le (by decide +kernel)
    rcases hmem message List.mem_cons_self with rfl | rfl
    · have hten := hbyte 10 (by decide)
      rw [List.getElem?_append_left (by decide +kernel)] at hten
      exact absurd hten (by decide +kernel)
    · have hzero := hbyte 0 (by decide)
      rw [List.getElem?_append_left (by decide +kernel)] at hzero
      exact absurd hzero (by decide +kernel)

end Duplex

end SocketBase

end ScreenViewer
