import Mathlib
import ScreenViewer.ScreenViewerStreamer
import ScreenViewer.SocketBase.AsyncRead

/-!
# The streamer's reads

The socket of a streamer is an `AsyncReader` whose message handler is the one of
`scheduleAsyncPollIOEvents`.  A `Reading` puts the two side by side: segments arrive and are taken
over in the reader alone, a read that completes does so in both at once, and everything else happens
in the streamer alone.

The two stay together (`Paired`): what the streamer has received is what the reader has delivered,
and so the messages at the front of the bytes that have arrived (`Reads.isPrefix`).  No completion
of a read is left out (`Paired.completes`).
-/

namespace ScreenViewer

open SocketBase

namespace SocketBase.AsyncReader

variable [SizeLayout] {s t : AsyncReader}

/-- In a completion that does not hand over a message, the reader delivers none. -/
lemma Step.delivered_eq_of_complete (h : Step bufferSize s .complete t)
    (hpending : t.pending ≠ some (.header 0)) : t.delivered = s.delivered := by
  cases h with
  | complete op hop hdone =>
    cases op with
    | header transferred =>
      simp only [AsyncReader.complete]
      split <;> rfl
    | body header transferred =>
      refine absurd ?_ hpending
      simp [AsyncReader.complete, asyncReadMessage]

/-- The outstanding read takes over bytes for which it has room. -/
lemma Step.transfer_append {op : AsyncRead} {bs rest : Bytes} (hop : s.pending = some op)
    (hunread : s.unread = bs ++ rest) (hne : bs ≠ [])
    (hroom : op.transferred + bs.length ≤ op.requested) :
    Step bufferSize s (.transfer bs.length)
      { s with
        unread := rest
        dataBuffer := Bytes.overwrite s.dataBuffer op.transferred bs
        pending := some (op.advance bs.length) } := by
  have hlen : bs.length ≤ s.unread.length := by simp [hunread]
  have hstep : Step bufferSize s (.transfer bs.length) _ :=
    .transfer s op bs.length hop (List.length_pos_of_ne_nil hne) hlen hroom
  rwa [hunread, List.take_left, List.drop_left] at hstep

/-- A header that has arrived can be read, and the read of its body is armed. -/
lemma exists_steps_header {header : MessageHeader} {rest : Bytes}
    (hop : s.pending = some (.header 0)) (hunread : s.unread = header.serialize ++ rest)
    (hsize : header.messageSize.toNat ≤ bufferSize) :
    ∃ t u, Step bufferSize s (.transfer MessageHeader.size) t ∧ Step bufferSize t .complete u ∧
      u.pending = some (.body header 0) ∧ u.unread = rest := by
  have hserialize := MessageHeader.length_serialize header
  have hne : header.serialize ≠ [] :=
    List.ne_nil_of_length_pos (hserialize ▸ (by decide : 0 < MessageHeader.size))
  have htransfer := Step.transfer_append hop hunread hne
    (by simp [AsyncRead.transferred, AsyncRead.requested])
  have htake := Bytes.take_overwrite (Nat.zero_le s.dataBuffer.length) header.serialize
  rw [hserialize] at htransfer
  rw [Nat.zero_add, hserialize] at htake
  refine ⟨_, _, htransfer, .complete _ _ rfl rfl, ?_⟩
  have hdes : MessageHeader.deserialize (Bytes.overwrite s.dataBuffer 0 header.serialize)
      MessageHeader.size bufferSize = .ok header := by
    rw [← deserialize_take, htake]
    exact MessageHeader.deserialize_serialize hsize
  simp only [AsyncRead.advance, AsyncReader.complete, AsyncRead.transferred, Nat.zero_add, hdes,
    and_self]

/-- A body that has arrived can be read, and its message is delivered. -/
lemma exists_steps_body {header : MessageHeader} {content rest : Bytes}
    (hop : s.pending = some (.body header 0)) (hunread : s.unread = content ++ rest)
    (hne : content ≠ []) (hlen : content.length = header.messageSize.toNat) :
    ∃ t u, Step bufferSize s (.transfer content.length) t ∧ Step bufferSize t .complete u ∧
      u.delivered = t.delivered ++ [{ type := header.type, content }] := by
  have htransfer := Step.transfer_append hop hunread hne
    (by simp [AsyncRead.transferred, AsyncRead.requested, hlen])
  have htake := Bytes.take_overwrite (Nat.zero_le s.dataBuffer.length) content
  refine ⟨_, _, htransfer, .complete _ _ rfl ?_, ?_⟩
  · simp [AsyncRead.advance, AsyncRead.transferred, AsyncRead.requested, hlen]
  · rw [Nat.zero_add] at htake
    simp [AsyncRead.advance, AsyncReader.complete, AsyncRead.transferred, asyncReadMessage, htake]

end SocketBase.AsyncReader

namespace ScreenViewerStreamer

/-- A streamer and the reader of its socket. -/
structure Reading where
  streamer : ScreenViewerStreamer
  reader : AsyncReader

namespace Reading

/-- What happens to them in a step. -/
inductive Moment
  /-- Something happens to the reader alone. -/
  | reader (e : AsyncReader.Event)
  /-- Something happens to the streamer alone. -/
  | streamer (l : Label)
  /-- A read completes. -/
  | completes (l : Label)

/-- What the streamer takes the outstanding read of the reader for. -/
def pendingRead : AsyncRead → PendingRead
  | .header _ => .header
  | .body header _ => .body header

/-- What happens to the reader. -/
def Moment.event : Moment → Option AsyncReader.Event
  | reader e => some e
  | streamer _ => none
  | completes _ => some .complete

/-- What happens to the streamer. -/
def Moment.label : Moment → Option Label
  | reader _ => none
  | streamer l => some l
  | completes l => some l

section Steps

variable [IntLayout] [SizeLayout]

/-- The steps of a streamer and its reader. -/
inductive Step (s : Reading) : Moment → Reading → Prop
  | arrives (segment : Bytes) (reader : AsyncReader)
      (hreader : AsyncReader.Step bufferSize s.reader (.arrive segment) reader) :
      Step s (.reader (.arrive segment)) { s with reader }
  /-- A read takes over bytes.  The reader arms the next read as it delivers a message, the streamer
  at the end of its handler; no byte is taken over in between. -/
  | transfers (n : ℕ) (reader : AsyncReader) (harmed : s.streamer.pending ≠ none)
      (hreader : AsyncReader.Step bufferSize s.reader (.transfer n) reader) :
      Step s (.reader (.transfer n)) { s with reader }
  /-- The read of a header completes, and that of its body is armed. -/
  | headerRead (header : MessageHeader) (streamer : ScreenViewerStreamer) (reader : AsyncReader)
      (hstreamer : ScreenViewerStreamer.Step s.streamer (.headerRead header) streamer)
      (hreader : AsyncReader.Step bufferSize s.reader .complete reader)
      (hbody : reader.pending = some (.body header 0)) :
      Step s (.completes (.headerRead header)) { streamer, reader }
  /-- The read of a header completes, and no other read is armed. -/
  | headerRejected (streamer : ScreenViewerStreamer) (reader : AsyncReader)
      (hstreamer : ScreenViewerStreamer.Step s.streamer .headerRejected streamer)
      (hreader : AsyncReader.Step bufferSize s.reader .complete reader)
      (hnone : reader.pending = none) :
      Step s (.completes .headerRejected) { streamer, reader }
  /-- The read of a body completes, and the handler is called with the message. -/
  | messageRead (message : Message) (streamer : ScreenViewerStreamer) (reader : AsyncReader)
      (hstreamer : ScreenViewerStreamer.Step s.streamer (.messageRead message) streamer)
      (hreader : AsyncReader.Step bufferSize s.reader .complete reader)
      (hdelivered : reader.delivered = s.reader.delivered ++ [message]) :
      Step s (.completes (.messageRead message)) { streamer, reader }
  /-- No read completes. -/
  | moves (l : Label) (streamer : ScreenViewerStreamer)
      (hheader : ∀ header, l ≠ .headerRead header) (hrejected : l ≠ .headerRejected)
      (hmessage : ∀ message, l ≠ .messageRead message)
      (hstreamer : ScreenViewerStreamer.Step s.streamer l streamer) :
      Step s (.streamer l) { s with streamer }

variable {s t : Reading} {ms : List Moment}

/-- The streamer makes steps of its own. -/
lemma run_streamer (h : Transition.Run Step s ms t) :
    Transition.Run ScreenViewerStreamer.Step s.streamer (ms.filterMap Moment.label) t.streamer := by
  refine h.project (f := streamer) (fun s m t l hs hl => ?_) fun s m t hs hl => ?_
  · cases hs <;> cases hl <;> assumption
  · cases hs <;> cases hl <;> rfl

/-- So does the reader. -/
lemma run_reader (h : Transition.Run Step s ms t) :
    Transition.Run (AsyncReader.Step bufferSize) s.reader (ms.filterMap Moment.event) t.reader := by
  refine h.project (f := reader) (fun s m t e hs he => ?_) fun s m t hs he => ?_
  · cases hs <;> cases he <;> assumption
  · cases hs <;> cases he
    rfl

omit [SizeLayout] in
/-- A step of the streamer in which no body is read receives nothing. -/
lemma received_eq_of_step {s t : ScreenViewerStreamer} {l : Label}
    (h : ScreenViewerStreamer.Step s l t) (hmessage : ∀ message, l ≠ .messageRead message) :
    t.received = s.received := by
  cases h with
  | messageRead header content => exact absurd rfl (hmessage _)
  | _ => rfl

/-- The two go together. -/
structure Paired (s : Reading) : Prop where
  inv : Inv s.streamer
  /-- What the streamer has received was delivered to it. -/
  received : s.streamer.received = s.reader.delivered
  /-- The read that the streamer has armed is the outstanding one. -/
  pending : ∀ read, s.streamer.pending = some read →
    s.reader.pending.map pendingRead = some read
  /-- While a message is handled, the next header has not been touched. -/
  rearmed : s.streamer.socketPoint = .scheduleAsyncPollIOEvents ∨
    (∃ message, s.streamer.socketPoint = .push message) → s.reader.pending = some (.header 0)

omit [IntLayout] [SizeLayout] in
/-- A streamer that is about to enter its loop goes with a reader that was just armed. -/
lemma paired_started {dataBuffer : Bytes} {armed : AsyncReader}
    (h : (AsyncReader.idle dataBuffer).asyncReadMessage bufferSize = .ok armed) :
    Paired ⟨started, armed⟩ := by
  cases h
  refine ⟨inv_started, rfl, fun read hread => ?_, by simp [started]⟩
  cases hread
  rfl

omit [SizeLayout] in
/-- A step of the streamer alone keeps the two together. -/
lemma Paired.moves {l : Label} {streamer : ScreenViewerStreamer} (h : Paired s)
    (hheader : ∀ header, l ≠ .headerRead header) (hrejected : l ≠ .headerRejected)
    (hmessage : ∀ message, l ≠ .messageRead message)
    (hstreamer : ScreenViewerStreamer.Step s.streamer l streamer) :
    Paired { s with streamer } := by
  have hinv := h.inv.step hstreamer
  have hreceived := (received_eq_of_step hstreamer hmessage).trans h.received
  cases hstreamer with
  | headerRead header => exact absurd rfl (hheader header)
  | headerRejected => exact absurd rfl hrejected
  | messageRead header content => exact absurd rfl (hmessage _)
  | readFailed => exact ⟨hinv, hreceived, by simp, h.rearmed⟩
  | pushed message hpoint =>
    exact ⟨hinv, hreceived, h.pending, fun _ => h.rearmed (Or.inr ⟨message, hpoint⟩)⟩
  | scheduled hpoint =>
    refine ⟨hinv, hreceived, fun read hread => ?_, by simp⟩
    cases hread
    rw [h.rearmed (Or.inl hpoint)]
    rfl
  | pushThrew | scheduleThrew | sent | shutDown | closed | disconnectThrew =>
    exact ⟨hinv, hreceived, h.pending, by simp⟩
  | _ => exact ⟨hinv, hreceived, h.pending, h.rearmed⟩

/-- Every step keeps the two together. -/
lemma Paired.step {m : Moment} (h : Paired s) (hs : Step s m t) : Paired t := by
  cases hs with
  | arrives segment reader hreader =>
    cases hreader
    exact ⟨h.inv, h.received, h.pending, h.rearmed⟩
  | transfers n reader harmed hreader =>
    cases hreader with
    | transfer op n hop hpos hn hroom =>
      refine ⟨h.inv, h.received, fun read hread => ?_, fun hhandles => absurd ?_ harmed⟩
      · rw [← h.pending read hread, hop]
        cases op <;> rfl
      · refine h.inv.pending_of_ne_idle fun hidle => ?_
        simp [hidle] at hhandles
  | headerRead header streamer reader hstreamer hreader hbody =>
    have hdelivered := hreader.delivered_eq_of_complete (by simp [hbody])
    refine ⟨h.inv.step hstreamer,
      (received_eq_of_step hstreamer (by simp)).trans (h.received.trans hdelivered.symm), ?_, ?_⟩
    · cases hstreamer
      simp [hbody, pendingRead]
    · cases hstreamer with
      | headerRead header hpoint hpending hsize => simp [hpoint]
  | headerRejected streamer reader hstreamer hreader hnone =>
    have hdelivered := hreader.delivered_eq_of_complete (by simp [hnone])
    refine ⟨h.inv.step hstreamer,
      (received_eq_of_step hstreamer (by simp)).trans (h.received.trans hdelivered.symm), ?_, ?_⟩
    all_goals
      cases hstreamer
      simp
  | messageRead message streamer reader hstreamer hreader hdelivered =>
    have hpending : reader.pending = some (.header 0) := by
      by_contra hne
      rw [hreader.delivered_eq_of_complete hne] at hdelivered
      simp at hdelivered
    refine ⟨h.inv.step hstreamer, ?_, ?_, fun _ => hpending⟩
    · cases hstreamer with
      | messageRead header content => exact (congrArg (· ++ _) h.received).trans hdelivered.symm
    · cases hstreamer
      simp
  | moves l streamer hheader hrejected hmessage hstreamer =>
    exact h.moves hheader hrejected hmessage hstreamer

/-- In every run, the two stay together. -/
lemma Paired.of_run (h : Paired s) (hrun : Transition.Run Step s ms t) : Paired t :=
  hrun.invariant h fun _ _ _ h hs => h.step hs

/-- Nothing of the reader is left out: when an armed read has all its bytes and the socket's thread
is between two handlers, it completes in both. -/
theorem Paired.completes {total : Bytes} {reader : AsyncReader} (h : Paired s)
    (hi : s.reader.Inv bufferSize total) (hidle : s.streamer.socketPoint = .idle)
    (harmed : s.streamer.pending ≠ none)
    (hreader : AsyncReader.Step bufferSize s.reader .complete reader) :
    ∃ l streamer, Step s (.completes l) { streamer, reader } := by
  obtain ⟨read, hread⟩ := Option.ne_none_iff_exists'.mp harmed
  have hsame := h.pending read hread
  have hi' := hi.step le_rfl hreader
  have hreader' := hreader
  cases hreader with
  | complete op hop hdone =>
    rw [hop] at hsame
    cases op with
    | header transferred =>
      obtain rfl : .header = read := Option.some.inj hsame
      simp only [AsyncReader.complete] at hreader' hi' ⊢
      cases hdes : MessageHeader.deserialize s.reader.dataBuffer transferred bufferSize with
      | ok header =>
        rw [hdes] at hreader' hi'
        have hsize := hi'.pendingOk.2.2 header 0 rfl
        exact ⟨_, _, .headerRead header _ _ (.headerRead header hidle hread hsize) hreader' rfl⟩
      | error what =>
        rw [hdes] at hreader'
        exact ⟨_, _, .headerRejected _ _ (.headerRejected hidle hread) hreader' rfl⟩
    | body header transferred =>
      obtain rfl : .body header = read := Option.some.inj hsame
      obtain rfl : transferred = header.messageSize.toNat := hdone
      have hmax : header.messageSize.toNat ≤ bufferSize := by
        have hok := hi.pendingOk
        rw [AsyncReader.PendingOk, hop] at hok
        exact hok.2.2 header _ rfl
      have hcontent : (s.reader.dataBuffer.take header.messageSize.toNat).length =
          header.messageSize.toNat :=
        List.length_take_of_le (hmax.trans_eq hi.length_dataBuffer.symm)
      exact ⟨_, _, .messageRead _ _ _ (.messageRead header _ hidle hread hcontent) hreader'
        (by simp [AsyncReader.complete, AsyncReader.asyncReadMessage])⟩

/-- A frame that has arrived can be read. -/
lemma exists_run_frame {message : Message} {rest : Bytes}
    (haccepts : (frameCodec bufferSize).Accepts message) (hne : message.content ≠ [])
    (hidle : s.streamer.socketPoint = .idle) (hstreamer : s.streamer.pending = some .header)
    (hreader : s.reader.pending = some (.header 0))
    (hunread : s.reader.unread = sendChunk message ++ rest) :
    ∃ reader, Transition.Run Step s
      [.reader (.transfer MessageHeader.size), .completes (.headerRead (headerOf message)),
        .reader (.transfer message.content.length), .completes (.messageRead message)]
      { streamer :=
          { s.streamer with
            pending := none
            socketPoint := .push message
            received := s.streamer.received ++ [message] }
        reader } := by
  obtain ⟨hle, hlt⟩ := haccepts
  have hsize := toNat_messageSize_headerOf hlt
  obtain ⟨filled, armed, htransfer, hcomplete, hbody, hrest⟩ :=
    AsyncReader.exists_steps_header hreader (hunread.trans (List.append_assoc _ _ _))
      (hsize.trans_le hle)
  obtain ⟨filled', reader, htransfer', hcomplete', hdelivered⟩ :=
    AsyncReader.exists_steps_body hbody hrest hne hsize.symm
  have hheaderRead := ScreenViewerStreamer.Step.headerRead (headerOf message) hidle hstreamer
    (hsize.trans_le hle)
  have hmessageRead := ScreenViewerStreamer.Step.messageRead
    (s := { s.streamer with pending := some (.body (headerOf message)) })
    (headerOf message) message.content hidle rfl hsize.symm
  exact ⟨reader, .cons (.transfers _ filled (by simp [hstreamer]) htransfer) <|
    .cons (.headerRead _ _ armed hheaderRead hcomplete hbody) <|
    .cons (.transfers _ filled' (by simp) htransfer') <|
    .single (.messageRead _ _ reader hmessageRead hcomplete' hdelivered)⟩

end Steps

end Reading

section Reads

variable [IntLayout] [SizeLayout] {bytes : Bytes} {t : ScreenViewerStreamer}

/-- A streamer has come to `t` since its start, while its socket has read some of `bytes` and its
message handler has thrown nothing. -/
def Reads (bytes : Bytes) (t : ScreenViewerStreamer) : Prop :=
  ∃ dataBuffer armed ms reader, dataBuffer.length = bufferSize ∧
    (AsyncReader.idle dataBuffer).asyncReadMessage bufferSize = .ok armed ∧
      Transition.Run Reading.Step ⟨started, armed⟩ ms ⟨t, reader⟩ ∧
        AsyncReader.arrivals (ms.filterMap Reading.Moment.event) <+: bytes ∧
          .handlerThrew ∉ ms.filterMap Reading.Moment.label

/-- The streamer has run. -/
lemma Reads.run (h : Reads bytes t) :
    ∃ ls, Transition.Run Step started ls t ∧ .handlerThrew ∉ ls := by
  obtain ⟨dataBuffer, armed, ms, reader, -, -, hrun, -, hthrew⟩ := h
  exact ⟨_, Reading.run_streamer hrun, hthrew⟩

/-- The messages received are at the front of the bytes, each in one frame that the buffer holds. -/
theorem Reads.isPrefix (h : Reads bytes t) :
    (frameCodec bufferSize).encodeAll t.received <+: bytes ∧
      ∀ message ∈ t.received, (frameCodec bufferSize).Accepts message := by
  obtain ⟨dataBuffer, armed, ms, reader, hlen, harmed, hrun, harrived, -⟩ := h
  have hinv := AsyncReader.inv_of_run le_rfl hlen harmed (Reading.run_reader hrun)
  have hreceived : t.received = reader.delivered :=
    ((Reading.paired_started harmed).of_run hrun).received
  rw [hreceived]
  refine ⟨List.IsPrefix.trans ?_ harrived, hinv.accepts⟩
  exact ⟨_, hinv.bytes_eq.symm⟩

end Reads

end ScreenViewerStreamer

end ScreenViewer
