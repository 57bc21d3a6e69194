import Mathlib
import ScreenViewer.RemoteControl
import ScreenViewer.ScreenViewerClient.RunLoop
import ScreenViewer.ScreenViewerStreamer.Input
import ScreenViewer.ScreenViewerStreamer.Reading
import ScreenViewer.SocketBase.AsyncSend
import ScreenViewer.Server.Programs

/-!
# From one end to the other

The viewer's program, the server, and the streamer's program together.  `Streams` is a streamer at
the end of one connection, `Views` a viewer at the end of another one, and the server between them
is any proxy none of whose network operations has failed, whoever else it serves.

What the viewer does arrives: the streamer handles the viewer's input messages in order, from the
first one on, and none of them ends its program (`input_arrives`).  What the streamer shows arrives:
the pictures that the viewer shows are those of the updates sent, in order, from the first one on
(`pictures_arrive`).  When the server is at rest, all that both have written has been handed over
(`all_handed_over`).
-/

namespace ScreenViewer

open SocketBase Server

/-! ## The messages at the ends -/

/-- What the viewer sends has the size of an event, and fits the buffer. -/
lemma ScreenViewerClient.RunLoop.IsInput.fits [IntLayout] {message : Message}
    (h : ScreenViewerClient.RunLoop.IsInput message) :
    ScreenViewerStreamer.HasEventSize message ∧ message.content.length ≤ bufferSize := by
  cases h with
  | mouse eventData =>
    refine ⟨⟨by simp [MessageTypeData.toMessage],
      fun _ => MessageTypeData.length_serialize eventData⟩, ?_⟩
    have hsize : MessageTypeData.size MouseEventData = 12 := rfl
    rw [MessageTypeData.toMessage, MessageTypeData.length_serialize, hsize]
    decide
  | keyboard eventData =>
    refine ⟨⟨fun _ => MessageTypeData.length_serialize eventData,
      by simp [MessageTypeData.toMessage]⟩, ?_⟩
    have hsize : MessageTypeData.size KeyboardEventData = 5 := rfl
    rw [MessageTypeData.toMessage, MessageTypeData.length_serialize, hsize]
    decide

/-! ## The two ends of a pair of connections -/

namespace Server

section EndToEnd

variable [SizeLayout] [JsonLibrary] [IntLayout]

/-- A streamer at the end of the connection `c`: its program has returned, its socket reads what is
left, and what it has written after its program are updates. -/
structure Streams (s : Server) (c : ConnId) (t : ScreenViewerStreamer) (updates : List Message) :
    Prop where
  program : ∃ email password start now id client,
    s.Plays c (Apps.streamerProgram email password start now) (.ok id client) ∧
      ScreenViewerStreamer.Reads client.inbound.bytes t ∧
      (s.conn c).socket.sent <+: client.written ++ updates.flatMap asyncSendMessage
  updates : ∀ message ∈ updates,
    message.type = .screenUpdate ∧ message.content.length ≤ bufferSize

/-- A viewer at the end of the connection `d`: its program has returned true, it reads what is left,
and what it has written after its program are its messages. -/
structure Views [LibAV] [ShiftOverflow] [KeysMapping] (s : Server) (d : ConnId)
    (v : ScreenViewerClient.RunLoop) : Prop where
  program : ∃ email password id client ls,
    s.Plays d (Apps.clientProgram email password id) (.ok true client) ∧
      Transition.Run ScreenViewerClient.RunLoop.Step
        (ScreenViewerClient.RunLoop.started client.inbound) ls v ∧
      (s.conn d).socket.sent <+: client.written ++ v.polling.sent.flatMap send

variable {s : Server} {c d : ConnId}

omit [JsonLibrary] [IntLayout] in
/-- What is left to read for one end of a pair of connections is what the other end has written
after its program. -/
lemma Linked.inbound_prefix {client client' : ClientSocket.Client} (h : s.Linked c d client)
    (h' : s.Linked d c client') {w : Bytes} (hw : (s.conn d).socket.sent <+: client'.written ++ w) :
    client.inbound.bytes <+: w := by
  have hdrop := hw.drop client'.written.length
  rw [List.drop_left, ← h'.written] at hdrop
  exact h.inbound.trans hdrop

variable [LibAV] [ShiftOverflow] [KeysMapping] {t : ScreenViewerStreamer} {updates : List Message}
  {v : ScreenViewerClient.RunLoop} {ls : List Label}

/-- The two ends of a pair of connections are linked to each other, and read what the other end has
written after its program. -/
structure Coupled (s : Server) (c d : ConnId) (t : ScreenViewerStreamer) (updates : List Message)
    (v : ScreenViewerClient.RunLoop) : Prop where
  input : (frameCodec bufferSize).encodeAll t.received <+: v.polling.sent.flatMap send
  screen : ∃ inbound ls, Transition.Run ScreenViewerClient.RunLoop.Step
    (ScreenViewerClient.RunLoop.started inbound) ls v ∧
      inbound.bytes <+: updates.flatMap asyncSendMessage

/-- The two ends of a pair of connections, and the clients that their programs have left. -/
structure Ends (s : Server) (c d : ConnId) (t : ScreenViewerStreamer) (updates : List Message)
    (v : ScreenViewerClient.RunLoop) (client client' : ClientSocket.Client) : Prop where
  claimed : .claimed d ∈ (s.conn c).socket.log
  found : ∃ code, .found code c ∈ (s.conn d).socket.log
  linked : s.Linked c d client
  linked' : s.Linked d c client'
  reads : ScreenViewerStreamer.Reads client.inbound.bytes t
  sent : (s.conn c).socket.sent <+: client.written ++ updates.flatMap asyncSendMessage
  run : ∃ ls, Transition.Run ScreenViewerClient.RunLoop.Step
    (ScreenViewerClient.RunLoop.started client'.inbound) ls v
  sent' : (s.conn d).socket.sent <+: client'.written ++ v.polling.sent.flatMap send

/-- Partners are the two ends of a pair of connections. -/
lemma exists_ends (hrun : Transition.Run (Step .proxySession) init ls s)
    (hok : ∀ l ∈ ls, IsFailure l = false) (hpartners : s.Partners c d)
    (hc : s.Streams c t updates) (hd : s.Views d v) :
    ∃ client client', s.Ends c d t updates v client client' := by
  have hi := proxyInv_of_run hrun hok
  obtain ⟨email, password, start, now, id, client, hplays, hreads, hsent⟩ := hc.program
  obtain ⟨email', password', id', client', ls', hplays', hviews, hsent'⟩ := hd.program
  obtain ⟨-, -, d', hclaimed, hlinked⟩ := hi.streamerOutcome hplays
  obtain ⟨c', hfound, -, hlinked'⟩ := hi.clientOutcome hplays'
  obtain rfl := partner_unique hrun hpartners hlinked.partners
  obtain rfl := partner_unique hrun hpartners.symm hlinked'.partners
  exact ⟨client, client', hclaimed, ⟨id', hfound⟩, hlinked, hlinked', hreads, hsent,
    ⟨ls', hviews⟩, hsent'⟩

/-- Partners are coupled. -/
lemma coupled_of_run (hrun : Transition.Run (Step .proxySession) init ls s)
    (hok : ∀ l ∈ ls, IsFailure l = false) (hpartners : s.Partners c d)
    (hc : s.Streams c t updates) (hd : s.Views d v) : s.Coupled c d t updates v := by
  obtain ⟨client, client', h⟩ := exists_ends hrun hok hpartners hc hd
  obtain ⟨ls', hviews⟩ := h.run
  exact ⟨h.reads.isPrefix.1.trans (h.linked.inbound_prefix h.linked' h.sent'), client'.inbound, ls',
    hviews, h.linked'.inbound_prefix h.linked h.sent⟩

/-- What the viewer sends is cut into one frame for each message. -/
lemma Views.flatMap_send (hd : s.Views d v) :
    v.polling.sent.flatMap send = (frameCodec bufferSize).encodeAll v.polling.sent := by
  obtain ⟨-, -, -, client, ls, -, hviews, -⟩ := hd.program
  have hchunks : v.polling.sent.flatMap chunks = v.polling.sent := by
    rw [List.flatMap_congr fun message hmem => chunks_of_le
      ((ScreenViewerClient.RunLoop.inv_of_run hviews).input message hmem).fits.2,
      List.flatMap_singleton']
  rw [SocketBase.flatMap_send _ bufferSize, hchunks]

/-- What the viewer does arrives: the streamer receives and handles the viewer's messages in order,
from the first one on, no one of them ends its program, and what they request of the X server is
requested in the order of the viewer's events. -/
theorem input_arrives (hrun : Transition.Run (Step .proxySession) init ls s)
    (hok : ∀ l ∈ ls, IsFailure l = false) (hpartners : s.Partners c d)
    (hc : s.Streams c t updates) (hd : s.Views d v) :
    t.received <+: v.polling.sent ∧ t.Unharmed ∧
      ∀ controller, RemoteControl.injected controller t.handled <+:
        RemoteControl.injected controller v.polling.sent := by
  obtain ⟨hinput, inbound, ls', hviews, -⟩ := coupled_of_run hrun hok hpartners hc hd
  obtain ⟨-, -, -, -, -, client, -, hreads, -⟩ := hc.program
  obtain ⟨ls'', hstreams, hthrew⟩ := hreads.run
  have hfits : ∀ message ∈ v.polling.sent, ScreenViewerStreamer.HasEventSize message ∧
      message.content.length ≤ bufferSize :=
    fun message hmem =>
      ((ScreenViewerClient.RunLoop.inv_of_run hviews).input message hmem).fits
  have hreceived : t.received <+: v.polling.sent := by
    rw [hd.flatMap_send] at hinput
    refine (frameCodec bufferSize).isPrefix_of_encodeAll hreads.isPrefix.2
      (fun message hmem => ?_) hinput
    have hle := (hfits message hmem).2
    exact ⟨hle, hle.trans_lt bufferSize_lt⟩
  have hunharmed := ScreenViewerStreamer.keepsRunning_of_hasEventSize
    (fun message hmem => (hfits message hmem).1) ls'' t hstreams hthrew hreceived
  refine ⟨hreceived, hunharmed, fun controller => ?_⟩
  obtain ⟨rest, hrest⟩ := hunharmed.prefix_handled.trans hreceived
  rw [← hrest, RemoteControl.injected_append]
  exact List.prefix_append _ _

/-- What the streamer shows arrives: the viewer receives the updates in order, from the first one
on, and shows their pictures in this order. -/
theorem pictures_arrive (hrun : Transition.Run (Step .proxySession) init ls s)
    (hok : ∀ l ∈ ls, IsFailure l = false) (hpartners : s.Partners c d)
    (hc : s.Streams c t updates) (hd : s.Views d v) :
    v.received <+: updates ∧ v.presented.map ScreenViewerClient.Update.image <+:
      ScreenViewerClient.RunLoop.pictures updates := by
  obtain ⟨-, inbound, ls', hviews, hscreen⟩ := coupled_of_run hrun hok hpartners hc hd
  have hinv := ScreenViewerClient.RunLoop.inv_of_run hviews
  have hreceived : v.received <+: updates := by
    have hwritten : (frameCodec bufferSize).encodeAll v.received <+:
        (frameCodec bufferSize).encodeAll updates := by
      rw [hinv.received] at hscreen
      exact (List.prefix_append _ _).trans hscreen
    refine (frameCodec bufferSize).isPrefix_of_encodeAll (fun message hmem => ?_)
      (fun message hmem => ?_) hwritten
    · exact hinv.accepts message hmem
    · have hle := (hc.updates message hmem).2
      exact ⟨hle, hle.trans_lt bufferSize_lt⟩
  exact ⟨hreceived, hinv.isPrefix.trans (ScreenViewerClient.RunLoop.pictures_prefix hreceived)⟩

omit [JsonLibrary] [IntLayout] [LibAV] [ShiftOverflow] [KeysMapping] in
/-- When all that an end writes after its program has arrived, it is what follows the
conversation. -/
lemma Linked.drop_eq {client : ClientSocket.Client} (h : s.Linked d c client) {w : Bytes}
    (hw : (s.conn d).socket.sent <+: client.written ++ w)
    (harrived : w <+: (s.conn d).socket.sent.drop (consumed (s.conn d).socket.log).length) :
    (s.conn d).socket.sent.drop (consumed (s.conn d).socket.log).length = w := by
  have hdrop := hw.drop client.written.length
  rw [List.drop_left, ← h.written] at hdrop
  exact hdrop.eq_of_length_le harrived.length_le

/-- Everything is handed over: when all that the two ends have written has arrived, and the proxy is
at rest, it has written the viewer's messages to the streamer and the updates to the viewer, behind
its answers, each in one frame and in this order, and nothing else. -/
theorem all_handed_over (hrun : Transition.Run (Step .proxySession) init ls s)
    (hclean : ∀ l ∈ ls, l.IsClean) (hrest : s.Resting) (hpartners : s.Partners c d)
    (hc : s.Streams c t updates) (hd : s.Views d v)
    (hinput : v.polling.sent.flatMap send <+:
      (s.conn d).socket.sent.drop (consumed (s.conn d).socket.log).length)
    (hscreen : updates.flatMap asyncSendMessage <+:
      (s.conn c).socket.sent.drop (consumed (s.conn c).socket.log).length) :
    relayedBytes (s.conn c).socket.log = (frameCodec bufferSize).encodeAll v.polling.sent ∧
      relayedBytes (s.conn d).socket.log = (frameCodec bufferSize).encodeAll updates := by
  have hok := fun l hl => (hclean l hl).isFailure
  obtain ⟨client, client', h⟩ := exists_ends hrun hok hpartners hc hd
  constructor
  · rw [relayedBytes_eq_of_rest hrun hclean hrest (Or.inl h.claimed),
      h.linked'.drop_eq h.sent' hinput, hd.flatMap_send]
  · rw [relayedBytes_eq_of_rest hrun hclean hrest (Or.inr h.found),
      h.linked.drop_eq h.sent hscreen]
    rfl

end EndToEnd

/-! ## A key and a picture -/

/-- A streamer whose socket reads the frame of a key handles this key. -/
lemma reads_keyMessage :
    letI := littleEndian
    letI := littleEndianInt
    ∃ t, ScreenViewerStreamer.Reads (sendChunk keyMessage) t ∧ t.handled = [keyMessage] := by
  let := littleEndian
  let := littleEndianInt
  obtain ⟨dataBuffer, hlen⟩ : ∃ dataBuffer : Bytes, dataBuffer.length = bufferSize :=
    ⟨_, List.length_replicate (a := 0)⟩
  have haccepts : (frameCodec bufferSize).Accepts keyMessage := ⟨by decide, by decide⟩
  obtain ⟨reader, hrun⟩ := ScreenViewerStreamer.Reading.exists_run_frame
    (s := ⟨ScreenViewerStreamer.started,
      { AsyncReader.idle dataBuffer with
        unread := sendChunk keyMessage, pending := some (.header 0) }⟩)
    haccepts (by decide) rfl rfl rfl (List.append_nil _).symm
  refine ⟨_, ⟨dataBuffer, _, _, _, hlen, if_neg (lt_irrefl _),
    .cons (.arrives (sendChunk keyMessage) _ (.arrive _ _)) <| hrun.append <|
    .cons (.moves _ _ (by simp) (by simp) (by simp) (.pushed _ rfl)) <|
    .cons (.moves _ _ (by simp) (by simp) (by simp) (.testOpen rfl)) <|
    .cons (.moves _ _ (by simp) (by simp) (by simp) (.popped _ _ rfl rfl)) <|
    .single (.moves _ _ (by simp) (by simp) (by simp)
      (.handled keyMessage (ScreenViewerStreamer.inputOf keyMessage) rfl rfl)),
    ?_, ?_⟩, rfl⟩
  · exact ⟨[], rfl⟩
  · decide

/-- The streamer of an exchange handles the viewer's key. -/
lemma Exchange.streams :
    letI := littleEndian
    letI := littleEndianInt
    letI := Json.stringObjects
    ∀ s : Server, s.Exchange → ∃ t, s.Streams 0 t [updateMessage] ∧ t.handled = [keyMessage] := by
  let := littleEndian
  let := littleEndianInt
  let := Json.stringObjects
  intro s h
  obtain ⟨client, hplays, hwritten, hunread⟩ := Exchange.streamer s h
  obtain ⟨t, hreads, hhandled⟩ := reads_keyMessage
  refine ⟨t, ⟨⟨_, _, _, _, _, client, hplays, ?_, ?_⟩, ?_⟩, hhandled⟩
  · rw [hunread]
    exact hreads
  · rw [hwritten, h.fromStreamer]
    exact ⟨[], rfl⟩
  · intro message hmem
    rw [List.mem_singleton.mp hmem]
    exact ⟨rfl, by decide⟩

/-- The viewer of an exchange shows the streamer's update. -/
lemma Exchange.views :
    letI := littleEndian
    letI := littleEndianInt
    letI := Json.stringObjects
    letI := ScreenViewerClient.pixels
    letI : ShiftOverflow := ⟨fun _ => 0⟩
    letI : KeysMapping := ⟨fun _ => none⟩
    ∀ s : Server, s.Exchange → ∃ v, s.Views 1 v ∧ v.polling.sent = [keyMessage] ∧
      v.presented.map (fun u => u.image.data) = [updateMessage.content] := by
  let := littleEndian
  let := littleEndianInt
  let := Json.stringObjects
  let := ScreenViewerClient.pixels
  let : ShiftOverflow := ⟨fun _ => 0⟩
  let : KeysMapping := ⟨fun _ => none⟩
  intro s h
  obtain ⟨client, hplays, hwritten, hunread⟩ := Exchange.viewer s h
  have hdecode : (frameCodec bufferSize).decode (receiveToBufferReader.bytes client.inbound) =
      some (updateMessage, []) := by
    have hframe := (frameCodec bufferSize).decode_encode updateMessage ⟨by decide, by decide⟩ []
    rw [List.append_nil] at hframe
    rw [← hframe]
    exact congrArg _ hunread
  obtain ⟨inbound, hread, -⟩ := receiveToBufferReader.read_of_decode hdecode
  have hrun : ∃ ls v, Transition.Run ScreenViewerClient.RunLoop.Step
      (ScreenViewerClient.RunLoop.started client.inbound) ls v ∧
      v.polling.sent = [MessageTypeData.toMessage .keyboardInput (KeyboardEventData.mk true 97)] ∧
      v.presented.map (fun u => u.image.data) = [updateMessage.content] :=
    ⟨_, _, .cons (.receives true updateMessage inbound rfl hread) <|
      .cons (.queues (.key true 97) _ (.queues _)) <| .cons (.calls 0 _ rfl (.calls 0 rfl)) <|
      .cons (.handles .polls _ rfl trivial (.polled 0 _ _ rfl rfl)) <|
      .cons (.handles (.tests 0) _ rfl trivial (.inTime 0 0 _ rfl (by decide))) <|
      .single (.handles .dispatches _ rfl trivial
        (.dispatched 0 _ (Stream'.const 0) _ rfl rfl)), rfl, rfl⟩
  obtain ⟨ls, v, hrun, hsent, hpresented⟩ := hrun
  have hkey : MessageTypeData.toMessage .keyboardInput (KeyboardEventData.mk true 97) =
      keyMessage := by decide
  rw [hkey] at hsent
  refine ⟨v, ⟨⟨_, _, _, client, ls, hplays, hrun, ?_⟩⟩, hsent, hpresented⟩
  rw [hwritten, hsent, h.fromViewer, List.flatMap_singleton, SocketBase.send,
    chunks_of_le (by decide), List.flatMap_singleton]

/-- The streamer handles the key that the viewer has pressed. -/
theorem input_arrives_key :
    letI := littleEndian
    letI := littleEndianInt
    letI := Json.stringObjects
    letI := ScreenViewerClient.pixels
    letI : ShiftOverflow := ⟨fun _ => 0⟩
    letI : KeysMapping := ⟨fun _ => none⟩
    ∃ (t : ScreenViewerStreamer) (v : ScreenViewerClient.RunLoop),
      (t.received <+: v.polling.sent ∧ t.Unharmed ∧
        ∀ controller, RemoteControl.injected controller t.handled <+:
          RemoteControl.injected controller v.polling.sent) ∧ t.handled = [keyMessage] := by
  let := littleEndian
  let := littleEndianInt
  let := Json.stringObjects
  let := ScreenViewerClient.pixels
  let : ShiftOverflow := ⟨fun _ => 0⟩
  let : KeysMapping := ⟨fun _ => none⟩
  obtain ⟨ls, s, hrun, hclean, -, hs, -⟩ := exists_exchange
  obtain ⟨t, ht, hhandled⟩ := Exchange.streams s hs
  obtain ⟨v, hv, -⟩ := Exchange.views s hs
  have hok := fun l hl => (hclean l hl).isFailure
  exact ⟨t, v, input_arrives hrun hok ⟨_, Or.inr hs.partners⟩ ht hv, hhandled⟩

/-- The viewer shows the picture that the streamer has sent. -/
theorem pictures_arrive_update :
    letI := littleEndian
    letI := littleEndianInt
    letI := Json.stringObjects
    letI := ScreenViewerClient.pixels
    letI : ShiftOverflow := ⟨fun _ => 0⟩
    letI : KeysMapping := ⟨fun _ => none⟩
    ∃ v : ScreenViewerClient.RunLoop,
      (v.received <+: [updateMessage] ∧ v.presented.map ScreenViewerClient.Update.image <+:
        ScreenViewerClient.RunLoop.pictures [updateMessage]) ∧
      v.presented.map (fun u => u.image.data) = [updateMessage.content] := by
  let := littleEndian
  let := littleEndianInt
  let := Json.stringObjects
  let := ScreenViewerClient.pixels
  let : ShiftOverflow := ⟨fun _ => 0⟩
  let : KeysMapping := ⟨fun _ => none⟩
  obtain ⟨ls, s, hrun, hclean, -, hs, -⟩ := exists_exchange
  obtain ⟨t, ht, -⟩ := Exchange.streams s hs
  obtain ⟨v, hv, -, hpresented⟩ := Exchange.views s hs
  have hok := fun l hl => (hclean l hl).isFailure
  exact ⟨v, pictures_arrive hrun hok ⟨_, Or.inr hs.partners⟩ ht hv, hpresented⟩

/-- The key and the picture are handed over. -/
theorem all_handed_over_exchange :
    letI := littleEndian
    letI := littleEndianInt
    letI := Json.stringObjects
    letI := ScreenViewerClient.pixels
    letI : ShiftOverflow := ⟨fun _ => 0⟩
    letI : KeysMapping := ⟨fun _ => none⟩
    ∃ (s : Server) (v : ScreenViewerClient.RunLoop), v.polling.sent = [keyMessage] ∧
      relayedBytes (s.conn 0).socket.log = (frameCodec bufferSize).encodeAll v.polling.sent ∧
        relayedBytes (s.conn 1).socket.log =
          (frameCodec bufferSize).encodeAll [updateMessage] := by
  let := littleEndian
  let := littleEndianInt
  let := Json.stringObjects
  let := ScreenViewerClient.pixels
  let : ShiftOverflow := ⟨fun _ => 0⟩
  let : KeysMapping := ⟨fun _ => none⟩
  obtain ⟨ls, s, hrun, hclean, hrest, hs, hupdate, hkey⟩ := exists_exchange
  obtain ⟨t, ht, -⟩ := Exchange.streams s hs
  obtain ⟨v, hv, hsent, -⟩ := Exchange.views s hs
  refine ⟨s, v, hsent, all_handed_over hrun hclean hrest ⟨_, Or.inr hs.partners⟩ ht hv ?_ ?_⟩
  · rw [hv.flatMap_send, hsent, hkey, Framing.Codec.encodeAll_cons, Framing.Codec.encodeAll_nil,
      List.append_nil, frameCodec_encode]
  · rw [hupdate, List.flatMap_singleton]
    exact List.prefix_rfl

end Server

end ScreenViewer
