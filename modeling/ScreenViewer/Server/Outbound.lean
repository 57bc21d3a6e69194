import Mathlib
import ScreenViewer.Server.Isolation

/-!
# What a peer has written, and what it is sent

The messages of a conversation are what its peer has written, and the frames of its log, with what
a bridge relays behind them, are all that the peer is sent.  A peer that writes one message after
another therefore has a conversation that goes through these messages, in this order and up to the
one that the server has come to (`Server.Says.firstRequest`).
-/

namespace ScreenViewer

open SocketBase AuthenticatedSession ServerSessionsManager

/-! ## What the server sends -/

section Outbound

variable [SizeLayout]

/-- The bytes that were written to a peer. -/
def outbound (log : List Entry) : Bytes :=
  log.flatMap fun
    | .frame message => sendChunk message
    | .torn message written => (sendChunk message).take written
    | .relayed bytes => bytes
    | _ => []

/-- Only what was written counts. -/
lemma outbound_received (log : List Entry) : outbound (received log) = outbound log := by
  induction log with
  | nil => rfl
  | cons e log ih =>
    cases hwritten : e.isWritten with
    | true =>
      rw [received, List.filter_cons_of_pos hwritten, outbound, List.flatMap_cons]
      exact congrArg _ ih
    | false =>
      have hnone : outbound (e :: log) = outbound log := by
        cases e <;> first | rfl | cases hwritten
      rw [received, List.filter_cons_of_neg (by simp [hwritten]), hnone]
      exact ih

/-- When frames come before what a bridge relays, so do their bytes. -/
lemma outbound_eq {log : List Entry}
    (h : received log = (frames log).map .frame ++ (blocks log).map .relayed) :
    outbound log = (frameCodec bufferSize).encodeAll (frames log) ++ relayedBytes log := by
  rw [← outbound_received, h, outbound, List.flatMap_append, List.flatMap_map, List.flatMap_map,
    ← flatten_blocks, ← List.flatMap_id']
  rfl

end Outbound

/-! ## What the peer has said -/

namespace Conversation

/-- The messages of a conversation. -/
def said (k : Conversation) : List Message :=
  k.login :: (k.requests.map Prod.fst ++
    match k.ending with
    | .registered request _ _ | .found request _ => [request]
    | _ => [])

end Conversation

section Said

variable [SizeLayout] [JsonLibrary] {s : Server} {c : ConnId} {k : Conversation}

namespace Server

/-- The messages of a conversation and a rejected header are its bytes. -/
lemma Says.encodeAll_prefix (h : s.Says c k) :
    (frameCodec bufferSize).encodeAll k.said <+: (s.conn c).socket.sent := by
  refine List.IsPrefix.trans ?_ h.sent
  obtain ⟨login, email, password, requests, ending⟩ := k
  have hrequests : (frameCodec bufferSize).encodeAll (requests.map Prod.fst) =
      requests.flatMap fun r => sendChunk r.1 := by
    simp [Framing.Codec.encodeAll, List.flatMap_map]
  simp only [Conversation.said, Conversation.bytes, Framing.Codec.encodeAll_cons,
    Framing.Codec.encodeAll_append, frameCodec_encode, hrequests]
  refine (List.prefix_append_right_inj _).mpr ((List.prefix_append_right_inj _).mpr ?_)
  cases ending <;> simp [Framing.Codec.encodeAll, Ending.bytes]

/-- The messages of a conversation can be read. -/
lemma Says.accepts_said (h : s.Says c k) (hm : Measured (s.view c)) :
    ∀ message ∈ k.said, (frameCodec bufferSize).Accepts message := by
  have haccepts : ∀ {message : Message}, message.content.length ≤ bufferSize →
      (frameCodec bufferSize).Accepts message :=
    fun hle => ⟨hle, hle.trans_lt bufferSize_lt⟩
  have hlog : ∀ e ∈ k.entries, e ∈ (s.view c).log := by
    intro e he
    rw [← h.talk] at he
    exact List.mem_of_mem_filter he
  intro message hmem
  rcases List.mem_cons.mp hmem with rfl | hmem
  · have hfirst := hm.first k.login (hlog _ (by simp [Conversation.entries]))
    exact haccepts (hfirst.trans (by decide))
  · obtain ⟨isRegistered, hentry⟩ :
        ∃ isRegistered, .handleRead message isRegistered ∈ k.entries := by
      rcases List.mem_append.mp hmem with hmem | hmem
      · obtain ⟨r, hr, rfl⟩ := List.mem_map.mp hmem
        exact ⟨r.2, by simp [Conversation.entries, hr]⟩
      · cases hend : k.ending with
        | unfinished => simp [hend] at hmem
        | rejected header => simp [hend] at hmem
        | registered request isRegistered receiver =>
          obtain rfl : message = request := by simpa [hend] using hmem
          exact ⟨isRegistered, by simp [Conversation.entries, hend, Ending.entries]⟩
        | found request streamer =>
          obtain rfl : message = request := by simpa [hend] using hmem
          exact ⟨true, by simp [Conversation.entries, hend, Ending.entries]⟩
    exact haccepts (hm.later message isRegistered (hlog _ hentry))

/-- The bytes `w` are what the peer has written so far, or the other way round. -/
def Fits (s : Server) (c : ConnId) (w : Bytes) : Prop :=
  (s.conn c).socket.sent <+: w ∨ w <+: (s.conn c).socket.sent

/-- A conversation follows what its peer has written. -/
lemma Says.said_prefix (h : s.Says c k) (hm : Measured (s.view c)) {program : List Message}
    (hprogram : ∀ message ∈ program, (frameCodec bufferSize).Accepts message)
    (hw : s.Fits c ((frameCodec bufferSize).encodeAll program)) :
    k.said <+: program ∨ program <+: k.said := by
  have hsaid := h.accepts_said hm
  rcases hw with hw | hw
  · exact Or.inl ((frameCodec bufferSize).isPrefix_of_encodeAll hsaid hprogram
      (h.encodeAll_prefix.trans hw))
  · rcases List.prefix_or_prefix_of_prefix h.encodeAll_prefix hw with hle | hle
    · exact Or.inl ((frameCodec bufferSize).isPrefix_of_encodeAll hsaid hprogram hle)
    · exact Or.inr ((frameCodec bufferSize).isPrefix_of_encodeAll hprogram hsaid hle)

/-- Who has a conversation has logged in. -/
lemma Says.loggedIn (h : s.Says c k) : LoggedIn (s.conn c).socket.log := by
  refine ⟨k.email, k.password, List.mem_of_mem_filter (p := Entry.isTalk) ?_⟩
  change _ ∈ ScreenViewer.talk (s.conn c).socket.log
  rw [h.talk]
  simp [Conversation.entries]

/-- No header of a message that is sent is rejected. -/
lemma Says.not_rejected (h : s.Says c k) (hm : Measured (s.view c)) {login request : Message}
    {rest : List Message} (haccepts : (frameCodec bufferSize).Accepts request)
    (hw : s.Fits c ((frameCodec bufferSize).encodeAll (login :: request :: rest)))
    (hlogin : k.login = login) (hrequests : k.requests = []) {header : Bytes}
    (hend : k.ending = .rejected header) : False := by
  have hmem : .rejectedHeader header ∈ (s.view c).log := by
    refine List.mem_of_mem_filter (p := Entry.isTalk) ?_
    change _ ∈ ScreenViewer.talk (s.conn c).socket.log
    rw [h.talk]
    simp [Conversation.entries, hend, Ending.entries]
  obtain ⟨hlen, what, hheader⟩ := hm.rejected header hmem h.loggedIn
  obtain ⟨t, ht⟩ : sendChunk login ++ header <+: (s.conn c).socket.sent := by
    have hsent := h.sent
    rwa [Conversation.bytes, hlogin, hrequests, hend] at hsent
  rw [List.append_assoc] at ht
  simp only [Fits, ← ht, Framing.Codec.encodeAll_cons, frameCodec_encode,
    List.prefix_append_right_inj] at hw
  have htake : (header ++ t).take MessageHeader.size =
      (sendChunk request ++ (frameCodec bufferSize).encodeAll rest).take MessageHeader.size := by
    have hlong : MessageHeader.size ≤
        (sendChunk request ++ (frameCodec bufferSize).encodeAll rest).length := by
      rw [List.length_append, length_sendChunk]
      omega
    have hlong' : MessageHeader.size ≤ (header ++ t).length := by
      rw [List.length_append, hlen]
      exact Nat.le_add_right _ _
    rcases hw with ⟨u, hu⟩ | ⟨u, hu⟩
    · rw [← hu, List.take_append_of_le_length hlong']
    · rw [← hu, List.take_append_of_le_length hlong]
  rw [List.take_left' hlen, sendChunk, List.append_assoc,
    List.take_left' (MessageHeader.length_serialize _)] at htake
  have hsize : (headerOf request).messageSize.toNat ≤ bufferSize :=
    (toNat_messageSize_headerOf haccepts.2).trans_le haccepts.1
  rw [htake, MessageHeader.deserialize_serialize hsize] at hheader
  cases hheader

/-- What has become of the first request of a program that has logged in. -/
inductive FirstRequest (k : Conversation) (request : Message) : Prop
  /-- It has not been handled. -/
  | unfinished (hrequests : k.requests = []) (hend : k.ending = .unfinished)
  /-- It was answered. -/
  | answered (isRegistered : Bool) (requests : List (Message × Bool))
      (h : k.requests = (request, isRegistered) :: requests)
  /-- It was a registration. -/
  | registered (isRegistered : Bool) (receiver : Option ConnId) (hrequests : k.requests = [])
      (hend : k.ending = .registered request isRegistered receiver)
  /-- It has found a streamer. -/
  | found (streamer : ConnId) (hrequests : k.requests = [])
      (hend : k.ending = .found request streamer)

/-- The conversation of a program begins with its login and its first request. -/
lemma Says.firstRequest (h : s.Says c k) (hm : Measured (s.view c)) {login request : Message}
    {rest : List Message}
    (hprogram : ∀ message ∈ login :: request :: rest, (frameCodec bufferSize).Accepts message)
    (hw : s.Fits c ((frameCodec bufferSize).encodeAll (login :: request :: rest))) :
    k.login = login ∧ FirstRequest k request := by
  have hle := h.said_prefix hm hprogram hw
  have hlogin : k.login = login := by
    rcases hle with hle | hle
    · exact (List.cons_prefix_cons.mp hle).1
    · exact (List.cons_prefix_cons.mp hle).1.symm
  have hsecond : ∀ {m : Message} {ms : List Message}, k.said = k.login :: m :: ms →
      m = request := by
    intro m ms hsaid
    rw [hsaid] at hle
    rcases hle with hle | hle
    · exact (List.cons_prefix_cons.mp (List.cons_prefix_cons.mp hle).2).1
    · exact (List.cons_prefix_cons.mp (List.cons_prefix_cons.mp hle).2).1.symm
  refine ⟨hlogin, ?_⟩
  cases hrequests : k.requests with
  | cons r requests =>
    have hr : r.1 = request := hsecond (by rw [Conversation.said, hrequests]; rfl)
    exact FirstRequest.answered r.2 requests (by rw [hrequests, ← hr])
  | nil =>
    cases hend : k.ending with
    | unfinished => exact FirstRequest.unfinished hrequests hend
    | rejected header =>
      exact (h.not_rejected hm (hprogram request (by simp)) hw hlogin hrequests hend).elim
    | registered request' isRegistered receiver =>
      obtain rfl : request' = request :=
        hsecond (by rw [Conversation.said, hrequests, hend]; rfl)
      exact FirstRequest.registered isRegistered receiver hrequests hend
    | found request' streamer =>
      obtain rfl : request' = request :=
        hsecond (by rw [Conversation.said, hrequests, hend]; rfl)
      exact FirstRequest.found streamer hrequests hend

/-! ## What a peer is sent -/

/-- A session that has logged in, and what its peer is sent. -/
structure Serves (s : Server) (c : ConnId) (k : Conversation) : Prop where
  conversation : s.Says c k
  talk : Talk .proxySession c (ScreenViewer.talk (s.view c).log) k.ending.stage
  /-- The peer is sent the frames of its conversation, and what a bridge relays behind them. -/
  outbound : outbound (s.conn c).socket.log <+:
    (frameCodec bufferSize).encodeAll k.frames ++ relayedBytes (s.conn c).socket.log
  /-- Only partners get bytes from a bridge. -/
  relayed : relayedBytes (s.conn c).socket.log ≠ [] →
    ∃ d, k.ending.stage = .claimed d ∨ k.ending.stage = .found d

/-- Without owners of the kind that a bridge is, nothing is relayed. -/
lemma relayedBytes_eq_nil (hi : Inv .proxySession s) (hjoins : (s.view c).joins = []) :
    relayedBytes (s.conn c).socket.log = [] := by
  refine List.flatMap_eq_nil_iff.mpr fun e he => ?_
  cases e with
  | relayed bytes => exact absurd he ((hi.session c).relayed hjoins bytes)
  | _ => rfl

/-- Who has logged in is served. -/
lemma PairingInv.exists_serves (hi : PairingInv s) (hin : LoggedIn (s.conn c).socket.log) :
    ∃ k, s.Serves c k := by
  obtain ⟨stage, htalk, hstage⟩ := (hi.inv.session c).inStage
  obtain ⟨k, hk, rfl⟩ := hi.exists_says htalk (hin.not_outside htalk)
  have hscript : frames (s.view c).log ++ queued (s.view c).todo = k.frames :=
    ((hi.script c).script hin).trans hk.script_eq
  refine ⟨k, hk, htalk, ?_, fun hne => ?_⟩
  · change outbound (s.view c).log <+: _ ++ relayedBytes (s.view c).log
    rw [outbound_eq (hi.script c).received, ← hscript, Framing.Codec.encodeAll_append]
    by_cases hjoins : (s.view c).joins = []
    · have hnil : relayedBytes (s.view c).log = [] := relayedBytes_eq_nil hi.inv hjoins
      rw [hnil, List.append_nil, List.append_assoc]
      exact List.prefix_append _ _
    · rw [(hi.script c).joined hjoins, queued, List.filterMap_nil, Framing.Codec.encodeAll_nil,
        List.append_nil]
  · obtain ⟨j, hmem⟩ := List.exists_mem_of_ne_nil _ fun h => hne (relayedBytes_eq_nil hi.inv h)
    rcases (hstage.joins j hmem).2 with ⟨-, h⟩ | ⟨-, h⟩
    · exact ⟨_, Or.inl h⟩
    · exact ⟨_, Or.inr h⟩

omit [JsonLibrary] in
/-- Headers with the same bytes are the same. -/
lemma serialize_injective {h h' : MessageHeader} (heq : h.serialize = h'.serialize) : h = h' := by
  have hheader : MessageHeader.deserialize h.serialize MessageHeader.size UInt64.size = .ok h :=
    MessageHeader.deserialize_serialize h.messageSize.toNat_lt.le
  rw [heq, MessageHeader.deserialize_serialize h'.messageSize.toNat_lt.le] at hheader
  exact (Except.ok.inj hheader).symm

/-- Who has not logged in is not sent an `ACK`. -/
lemma PairingInv.type_ne_ack (hi : PairingInv s) (hin : ¬ LoggedIn (s.conn c).socket.log)
    {message : Message} {rest : Bytes}
    (h : sendChunk message ++ rest <+: outbound (s.conn c).socket.log) : message.type ≠ .ack := by
  obtain ⟨stage, htalk, hstage⟩ := (hi.inv.session c).inStage
  have houtside : stage.Outside := by
    by_contra hinside
    obtain ⟨k, hk, -⟩ := hi.exists_says htalk hinside
    exact hin hk.loggedIn
  have hjoins : (s.view c).joins = [] := by
    refine hstage.joins_eq_nil fun sender receiver hjoin => ?_
    rcases hjoin.2 with ⟨-, rfl⟩ | ⟨-, rfl⟩ <;> exact houtside
  have hnil : relayedBytes (s.view c).log = [] := relayedBytes_eq_nil hi.inv hjoins
  change _ <+: outbound (s.view c).log at h
  rw [outbound_eq (hi.script c).received, hnil, List.append_nil] at h
  cases hframes : frames (s.view c).log with
  | nil =>
    rw [hframes, Framing.Codec.encodeAll_nil, List.prefix_nil] at h
    have hlen := congrArg List.length h
    rw [List.length_append, length_sendChunk, List.length_nil] at hlen
    simp [MessageHeader.size] at hlen
  | cons m ms =>
    obtain ⟨e, hmem, he⟩ := List.mem_filterMap.mp (hframes ▸ List.mem_cons_self :
      m ∈ frames (s.view c).log)
    obtain rfl : e = .frame m := by
      cases e <;> cases he
      rfl
    have hparting : Parting m := hstage.log _ hmem houtside
    rw [hframes, Framing.Codec.encodeAll_cons, frameCodec_encode, sendChunk, sendChunk] at h
    obtain ⟨t, ht⟩ := h
    have hheaders := congrArg (List.take MessageHeader.size) ht
    rw [List.append_assoc, List.append_assoc, List.append_assoc,
      List.take_left' (MessageHeader.length_serialize _),
      List.take_left' (MessageHeader.length_serialize _)] at hheaders
    have htype : message.type = m.type :=
      congrArg MessageHeader.type (serialize_injective hheaders)
    rw [htype]
    rcases hparting with h | h <;> rw [h] <;> decide

end Server

end Said

end ScreenViewer
