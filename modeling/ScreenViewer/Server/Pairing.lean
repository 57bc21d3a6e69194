import Mathlib
import ScreenViewer.Server.Bridges
import ScreenViewer.Server.Measured

/-!
# The traces of a pairing

What an endpoint that has logged in receives from a proxy is decided by what it has said and by what
its counterpart writes.  A `Conversation` is what an endpoint has said: its login, the requests that
were answered, and how they ended.  Its frames are stated with their types and texts, apart from the
handlers.  `pairing_traces` puts together the script of the conversation and the bridges: as long as
no network operation of the server fails, the endpoint receives a prefix of these frames, and only
after all of them the bytes that its counterpart has written behind the request with which it got
paired.
-/

namespace ScreenViewer

open SocketBase AuthenticatedSession ServerSessionsManager

/-! ## What is expected -/

section Expected

/-- The names of the message types, in the order of their underlying values. -/
def typeNames : List String :=
  ["JUST_A_MESSAGE", "LOGIN", "REGISTER_STREAMER", "FIND_STREAMER", "START_STREAM", "RESPONSE",
    "ID", "ACK", "NACK", "MOUSE_INPUT", "KEYBOARD_INPUT", "SCREEN_UPDATE", "DISCONNECT"]

/-- The frame that is expected for a request that is neither a registration nor finds its
streamer. -/
def expectedReply (request : Message) : Message :=
  if request.type = .findStreamer then { type := .nack, content := [] }
  else
    { type := .response
      content := Bytes.ofString
        ("Did not expect " ++ typeNames.getD request.type.toByte.toNat "" ++ " message.") }

/-- Such a request is answered as expected. -/
lemma answer_eq_expectedReply (request : Message) :
    answer .proxySession request = expectedReply request := by
  have hname : request.type.toStr = typeNames.getD request.type.toByte.toNat "" := by
    cases request.type <;> rfl
  unfold answer expectedReply ProxySession.response
  rw [← hname]
  rfl

/-- It is one frame. -/
lemma chunks_expectedReply (request : Message) :
    chunks (expectedReply request) = [expectedReply request] := by
  rw [← answer_eq_expectedReply, chunks_answer]

variable [SizeLayout] {header : Bytes}

/-- A header that announces more bytes than a buffer holds, or a type that is none. -/
def IsRejected (header : Bytes) : Prop :=
  header.length = 9 ∧
    (bufferSize < (SizeLayout.ofBytes (header.take 8)).toNat ∨ 12 < (header.getD 8 0).toNat)

/-- The text about such a header. -/
def expectedRejection (header : Bytes) : Bytes :=
  let announced := SizeLayout.ofBytes (header.take 8)
  Bytes.ofString
    (if bufferSize < announced.toNat then s!"Message is too long ({announced} > {bufferSize})."
    else s!"Got unknown message type ({header.getD 8 0}).")

/-- A header that `deserialize` refuses is one of these. -/
lemma isRejected_of_error (hlen : header.length = MessageHeader.size) {what : String}
    (h : MessageHeader.deserialize header MessageHeader.size bufferSize = .error what) :
    IsRejected header := by
  refine ⟨hlen, ?_⟩
  unfold MessageHeader.deserialize at h
  simp only [lt_irrefl, if_false] at h
  split at h
  next hlong => exact Or.inl hlong
  next =>
    split at h
    next => cases h
    next htype => exact Or.inr (not_le.mp fun hle => htype (UInt8.le_iff_toNat_le.mpr hle))

/-- It is refused with this text. -/
lemma rejection_eq (h : IsRejected header) : rejection header = expectedRejection header := by
  unfold rejection expectedRejection MessageHeader.deserialize
  simp only [lt_irrefl, if_false]
  by_cases hlong : bufferSize < (SizeLayout.ofBytes (header.take 8)).toNat
  · simp only [hlong, if_true]
  · have htype : ¬ header.getD 8 0 ≤ MessageType.maxValue.toByte := fun hle =>
      absurd (UInt8.le_iff_toNat_le.mp hle) (not_le.mpr (h.2.resolve_left hlong))
    simp only [hlong, if_false, htype, dite_false]

end Expected

/-! ## Conversations -/

/-- How the requests of an endpoint ended. -/
inductive Ending
  /-- They have not ended yet. -/
  | unfinished
  /-- A header was rejected. -/
  | rejected (header : Bytes)
  /-- The session has registered, and a receiver may have found it. -/
  | registered (request : Message) (isRegistered : Bool) (receiver : Option ConnId)
  /-- The session has found a streamer. -/
  | found (request : Message) (streamer : ConnId)

/-- What an endpoint that has logged in has said; with each request it is noted whether its content
was a registered code then. -/
structure Conversation where
  login : Message
  email : Bytes
  password : Bytes
  requests : List (Message × Bool)
  ending : Ending

namespace Ending

/-- The entries of a conversation for its ending. -/
def entries : Ending → List Entry
  | .unfinished => []
  | .rejected header => [.rejectedHeader header]
  | .registered request isRegistered receiver =>
    [.handleRead request isRegistered, .registered sessionId] ++ receiver.toList.map .claimed
  | .found request streamer => [.handleRead request true, .found request.content streamer]

/-- The stage of a conversation with this ending. -/
def stage : Ending → Stage
  | .unfinished => .serving
  | .rejected _ => .rejected
  | .registered _ _ none => .registered
  | .registered _ _ (some receiver) => .claimed receiver
  | .found _ streamer => .found streamer

/-- An ending is what it is called. -/
def Fits [SizeLayout] : Ending → Prop
  | .rejected header => IsRejected header
  | .registered request _ _ => request.type = .registerStreamer
  | .found request _ => request.type = .findStreamer
  | .unfinished => True

/-- The endings of two connections that are paired with each other: one of them has found the other
one. -/
def Pairs (c d : ConnId) : Ending → Ending → Prop
  | .registered _ _ receiver, .found _ streamer => receiver = some d ∧ streamer = c
  | .found _ streamer, .registered _ _ receiver => streamer = d ∧ receiver = some c
  | _, _ => False

/-- While a session is served, its requests have not ended. -/
lemma eq_unfinished {e : Ending} (h : e.stage = .serving) : e = .unfinished := by
  cases e with
  | unfinished => rfl
  | registered request isRegistered receiver => cases receiver <;> cases h
  | _ => cases h

/-- The ending of a session that is registered. -/
lemma exists_registered {e : Ending} (h : e.stage = .registered) :
    ∃ request isRegistered, e = .registered request isRegistered none := by
  cases e with
  | registered request isRegistered receiver =>
    cases receiver with
    | none => exact ⟨request, isRegistered, rfl⟩
    | some receiver => cases h
  | _ => cases h

/-- The ending of a session that a receiver has found. -/
lemma exists_claimed {e : Ending} {receiver : ConnId} (h : e.stage = .claimed receiver) :
    ∃ request isRegistered, e = .registered request isRegistered (some receiver) := by
  cases e with
  | registered request isRegistered receiver' =>
    cases receiver' with
    | none => cases h
    | some receiver' =>
      cases h
      exact ⟨request, isRegistered, rfl⟩
  | _ => cases h

/-- The ending of a session that has found a streamer. -/
lemma exists_found {e : Ending} {streamer : ConnId} (h : e.stage = .found streamer) :
    ∃ request, e = .found request streamer := by
  cases e with
  | found request streamer' =>
    cases h
    exact ⟨request, rfl⟩
  | registered request isRegistered receiver => cases receiver <;> cases h
  | _ => cases h

section Bytes

variable [SizeLayout]

/-- The frames that are sent because of the ending. -/
def frames : Ending → List Message
  | .unfinished => []
  | .rejected header => [{ type := .disconnect, content := expectedRejection header }]
  | .registered _ _ none => [{ type := .id, content := Bytes.ofString "test" }]
  | .registered _ _ (some _) =>
    [{ type := .id, content := Bytes.ofString "test" }, { type := .startStream, content := [] }]
  | .found _ _ => [{ type := .ack, content := [] }]

/-- A registration is answered, and its streamer is told to start when it is found. -/
lemma frames_registered (request : Message) (isRegistered : Bool) (receiver : Option ConnId) :
    (registered request isRegistered receiver).frames =
      { type := .id, content := sessionId } :: receiver.toList.map fun _ => startStreamMessage := by
  cases receiver <;> rfl

/-- What the endpoint wrote to end its requests. -/
def bytes : Ending → Bytes
  | .unfinished => []
  | .rejected header => header
  | .registered request _ _ => sendChunk request
  | .found request _ => sendChunk request

end Bytes

end Ending

namespace Conversation

/-- The entries of a conversation. -/
def entries (k : Conversation) : List Entry :=
  .authenticateCallback k.login :: .credentialCheck k.email k.password (.ok true) ::
    (k.requests.map (fun r => .handleRead r.1 r.2) ++ k.ending.entries)

/-- A conversation of a proxy session: a login, then requests that are neither registrations nor
requests for a registered code, then the ending. -/
structure Fits [SizeLayout] [JsonLibrary] (k : Conversation) : Prop where
  login : IsLogin k.login k.email k.password
  requests : ∀ r ∈ k.requests,
    r.1.type ≠ .registerStreamer ∧ (r.1.type = .findStreamer → r.2 = false)
  ending : k.ending.Fits

section Bytes

variable [SizeLayout]

/-- What the endpoint wrote for this conversation. -/
def bytes (k : Conversation) : Bytes :=
  sendChunk k.login ++ (k.requests.flatMap (fun r => sendChunk r.1) ++ k.ending.bytes)

/-- What the endpoint is sent because of this conversation: the `ACK` of its login, one reply for
each request, in order, and what the ending calls for. -/
def frames (k : Conversation) : List Message :=
  { type := .ack, content := [] } ::
    (k.requests.map (fun r => expectedReply r.1) ++ k.ending.frames)

/-- The bytes of a conversation are those of its entries. -/
lemma consumed_entries (k : Conversation) : consumed k.entries = k.bytes := by
  have hrequests : ∀ l : List (Message × Bool),
      consumed (l.map fun r => .handleRead r.1 r.2) = l.flatMap fun r => sendChunk r.1 := by
    intro l
    simp [consumed, List.flatMap_map]
  have hending : ∀ e : Ending, consumed e.entries = e.bytes := by
    intro e
    cases e with
    | registered request isRegistered receiver =>
      cases receiver <;> simp [consumed, Ending.entries, Ending.bytes]
    | _ => simp [consumed, Ending.entries, Ending.bytes]
  have happend : consumed k.entries = sendChunk k.login ++
      consumed (k.requests.map (fun r => .handleRead r.1 r.2) ++ k.ending.entries) := rfl
  rw [happend, consumed_append, hrequests, hending]
  rfl

/-- The frames of a conversation are its script. -/
lemma script_entries [JsonLibrary] {k : Conversation} (hk : k.Fits) :
    script k.entries = k.frames := by
  have hrequests : script (k.requests.map fun r => .handleRead r.1 r.2) =
      k.requests.map fun r => expectedReply r.1 := by
    rw [script, List.flatMap_map, List.map_eq_flatMap]
    refine List.flatMap_congr fun r hr => ?_
    rw [← answer_eq_expectedReply]
    obtain ⟨hregister, hfind⟩ := hk.requests r hr
    refine if_neg ?_
    rintro (htype | ⟨htype, hregistered⟩)
    · exact hregister htype
    · rw [hfind htype] at hregistered
      cases hregistered
  have hending : script k.ending.entries = k.ending.frames := by
    have hfits := hk.ending
    cases hk : k.ending with
    | unfinished => rfl
    | rejected header =>
      rw [hk] at hfits
      simp [script, Ending.entries, Ending.frames, Entry.calls, rejection_eq hfits]
    | registered request isRegistered receiver =>
      rw [hk] at hfits
      cases receiver <;>
        simp [script, Ending.entries, Ending.frames, Entry.calls, replies, show _ = _ from hfits,
          sessionId, startStreamMessage]
    | found request streamer =>
      rw [hk] at hfits
      simp [script, Ending.entries, Ending.frames, Entry.calls, replies, show _ = _ from hfits,
        ackMessage]
  have happend : script k.entries = ackMessage ::
      script (k.requests.map (fun r => .handleRead r.1 r.2) ++ k.ending.entries) := rfl
  rw [happend, script_append, hrequests, hending]
  rfl

end Bytes

end Conversation

/-- Every conversation past the login is one of these. -/
lemma Talk.exists_conversation [SizeLayout] [JsonLibrary] {c : ConnId} {l : List Entry}
    {stage : Stage} (h : Talk .proxySession c l stage)
    (hrejected : ∀ header, .rejectedHeader header ∈ l → IsRejected header)
    (hstage : ¬ stage.Outside) :
    ∃ k : Conversation, k.Fits ∧ l = k.entries ∧ k.ending.stage = stage := by
  induction h with
  | greeting => exact absurd trivial hstage
  | rejectedFirst header => exact absurd trivial hstage
  | refused message checks h => exact absurd trivial hstage
  | login message email password h hlen =>
    exact ⟨⟨message, email, password, [], .unfinished⟩, ⟨h, by simp, trivial⟩, rfl, rfl⟩
  | answered message isRegistered hl h ih =>
    obtain ⟨⟨login, email, password, requests, ending⟩, hfits, rfl, hend⟩ :=
      ih (fun header hmem => hrejected header (List.mem_append_left _ hmem)) id
    obtain rfl : ending = .unfinished := Ending.eq_unfinished hend
    obtain ⟨hregister, hfind⟩ := h.resolve_left nofun
    refine ⟨⟨login, email, password, requests ++ [(message, isRegistered)], .unfinished⟩,
      ⟨hfits.login, fun r hr => ?_, trivial⟩, by simp [Conversation.entries, Ending.entries], rfl⟩
    rcases List.mem_append.mp hr with hr | hr
    · exact hfits.requests r hr
    · rw [List.mem_singleton.mp hr]
      exact ⟨hregister, hfind⟩
  | rejected header hl ih =>
    obtain ⟨⟨login, email, password, requests, ending⟩, hfits, rfl, hend⟩ :=
      ih (fun header hmem => hrejected header (List.mem_append_left _ hmem)) id
    obtain rfl : ending = .unfinished := Ending.eq_unfinished hend
    exact ⟨⟨login, email, password, requests, .rejected header⟩,
      ⟨hfits.login, hfits.requests, hrejected header (by simp)⟩,
      by simp [Conversation.entries, Ending.entries], rfl⟩
  | registered message isRegistered hl hclass h ih =>
    obtain ⟨⟨login, email, password, requests, ending⟩, hfits, rfl, hend⟩ :=
      ih (fun header hmem => hrejected header (List.mem_append_left _ hmem)) id
    obtain rfl : ending = .unfinished := Ending.eq_unfinished hend
    exact ⟨⟨login, email, password, requests, .registered message isRegistered none⟩,
      ⟨hfits.login, hfits.requests, h⟩, by simp [Conversation.entries, Ending.entries], rfl⟩
  | claimed receiver hl hne ih =>
    obtain ⟨⟨login, email, password, requests, ending⟩, hfits, rfl, hend⟩ :=
      ih (fun header hmem => hrejected header (List.mem_append_left _ hmem)) id
    obtain ⟨request, isRegistered, rfl⟩ := Ending.exists_registered hend
    exact ⟨⟨login, email, password, requests, .registered request isRegistered (some receiver)⟩,
      ⟨hfits.login, hfits.requests, hfits.ending⟩,
      by simp [Conversation.entries, Ending.entries], rfl⟩
  | found message streamer hl hclass h hne ih =>
    obtain ⟨⟨login, email, password, requests, ending⟩, hfits, rfl, hend⟩ :=
      ih (fun header hmem => hrejected header (List.mem_append_left _ hmem)) id
    obtain rfl : ending = .unfinished := Ending.eq_unfinished hend
    exact ⟨⟨login, email, password, requests, .found message streamer⟩,
      ⟨hfits.login, hfits.requests, h⟩, by simp [Conversation.entries, Ending.entries], rfl⟩

/-! ## The end of a rejected connection -/

section Rejected

variable [SizeLayout] [JsonLibrary] {sessionClass : SessionClass} {c : ConnId} {v v' : View}

omit [SizeLayout] in
/-- A conversation in which a header was rejected ends with that. -/
lemma Talk.stage_of_rejected {l : List Entry} {stage : Stage} (h : Talk sessionClass c l stage)
    {header : Bytes} (hmem : .rejectedHeader header ∈ l) :
    stage = .refused ∨ stage = .rejected := by
  induction h with
  | greeting => simp at hmem
  | rejectedFirst header => exact Or.inl rfl
  | refused message checks h => exact Or.inl rfl
  | login message email password h hlen => simp at hmem
  | answered message isRegistered hl h ih => rcases ih (by simpa using hmem) with h | h <;> cases h
  | rejected header hl ih => exact Or.inr rfl
  | registered message isRegistered hl hclass h ih =>
    rcases ih (by simpa using hmem) with h | h <;> cases h
  | claimed receiver hl hne ih => rcases ih (by simpa using hmem) with h | h <;> cases h
  | found message streamer hl hclass h hne ih =>
    rcases ih (by simpa using hmem) with h | h <;> cases h

/-- When a header is rejected, the socket is going to be closed. -/
lemma View.Move.close_mem {failed : Bool} (h : View.Move sessionClass c failed v v')
    {header : Bytes}
    (hmem : .rejectedHeader header ∈ v'.log) :
    .rejectedHeader header ∈ v.log ∨ .close c ∈ v'.todo := by
  cases h with
  | headerRejected _ messageHandler maxMessageSize what hidle hread hlen hheader =>
    exact Or.inr (List.mem_append_right _ (by simp))
  | refused _ header' message checks todo hidle hread hlen hmessage hchecks htodo =>
    rcases hchecks with rfl | ⟨email, password, result, -, rfl⟩ <;>
      exact Or.inl (by simpa using hmem)
  | _ => exact Or.inl (by simpa using hmem)

/-- On a connection with a rejected header nobody reads, and no bridge is. -/
lemma SessionInv.of_rejected (hi : SessionInv sessionClass c v) {header : Bytes}
    (hmem : .rejectedHeader header ∈ v.log) : v.reads = [] ∧ v.joins = [] := by
  obtain ⟨stage, htalk, hin⟩ := hi.inStage
  have hstage := htalk.stage_of_rejected (List.mem_filter.mpr ⟨hmem, rfl⟩)
  constructor
  · refine hin.reads_eq_nil fun read => ?_
    rcases hstage with rfl | rfl <;> cases read <;> exact id
  · refine hin.joins_eq_nil fun sender receiver hjoin => ?_
    rcases hstage with rfl | rfl <;> rcases hjoin.2 with ⟨-, h⟩ | ⟨-, h⟩ <;> cases h

end Rejected

namespace Server

section Closing

variable [SizeLayout] [JsonLibrary] {sessionClass : SessionClass} {s t : Server}

/-- A connection with a rejected header is closed, or about to be. -/
def ClosingInv (s : Server) : Prop :=
  ∀ c header, .rejectedHeader header ∈ (s.conn c).socket.log →
    .close c ∈ s.plan ∨ (s.conn c).socket.connectivity = .closed

/-- A plan to close a socket is kept or carried out, unless an operation throws. -/
lemma close_of_move {l : Label} (h : Move sessionClass s l t) (hl : IsFailure l = false)
    {c : ConnId}
    (hmem : .close c ∈ s.plan) :
    .close c ∈ t.plan ∨ (t.conn c).socket.connectivity = .closed := by
  have hbusy : s.plan ≠ [] := List.ne_nil_of_mem hmem
  cases h with
  | performs a rest hplan hcan =>
    rw [hplan] at hmem
    rcases List.mem_cons.mp hmem with rfl | hmem
    · exact Or.inr (by simp [perform, updateSocket, updateConn, Socket.close])
    · exact Or.inl hmem
  | throws => cases hl
  | peerWrites | peerEnds | peerDisconnects | terminateTimeoutClients | reset | destroys =>
    exact Or.inl hmem
  | _ => exact absurd ‹s.plan = []› hbusy

/-- Every step without a failure keeps rejected connections closing. -/
lemma ClosingInv.step (hi : s.ClosingInv) (hs : Inv sessionClass s) {l : Label}
    (h : Step sessionClass s l t) (hl : IsFailure l = false) : t.ClosingInv := by
  intro c header hmem
  rcases (view_move hs.tidy h.2 c).close_mem hmem with hold | hclose
  · rcases hi c header hold with hclose | hclosed
    · exact close_of_move h.2 hl hclose
    · refine Or.inr ?_
      by_cases hrelaying : IsRelaying c l
      · have hjoins := ((hs.session c).of_rejected hold).2
        rcases bridges_of_move h.2 with ⟨hnone, -⟩ | ⟨hnone, -⟩ |
          ⟨pre, j, post, bl, b, -, hj, -, -, rfl, -⟩
        · exact absurd hrelaying (hnone c)
        · exact absurd hrelaying (hnone c)
        · have hmem' : j ∈ s.bridges := by simp [hj]
          rcases hrelaying with rfl | rfl
          · exact absurd hjoins (List.ne_nil_of_mem (mem_joins hmem' .one))
          · exact absurd hjoins (List.ne_nil_of_mem (mem_joins hmem' .two))
      · obtain ⟨bytes, n, extra, hmoved⟩ := moved_of_move h.2 hrelaying
        exact hmoved.closed hclosed
  · exact Or.inl (List.mem_of_mem_filter hclose)

end Closing

/-! ## What the endpoints receive -/

section Traces

variable [SizeLayout] [JsonLibrary] {s t : Server} {c : ConnId} {k : Conversation}

/-- The endpoint of the connection `c` has had the conversation `k` so far. -/
structure Says (s : Server) (c : ConnId) (k : Conversation) : Prop where
  fits : k.Fits
  /-- It is what the session has handled, in this order. -/
  talk : talk (s.conn c).socket.log = k.entries
  /-- Its frames are what the endpoint wrote first, in this order. -/
  sent : k.bytes <+: (s.conn c).socket.sent

/-- What the endpoint of the connection `c` receives when it has had the conversation `k`. -/
structure Receives (s : Server) (c : ConnId) (k : Conversation) : Prop where
  /-- Whole frames, and behind them what a bridge relays. -/
  received : received (s.conn c).socket.log =
    (frames (s.conn c).socket.log).map .frame ++ (blocks (s.conn c).socket.log).map .relayed
  /-- The frames are those of the conversation, in this order. -/
  frames : frames (s.conn c).socket.log <+: k.frames
  /-- Nothing is relayed but between connections that are paired with each other, when all frames
  have been sent, and it is what the counterpart wrote behind its own conversation. -/
  relayed : blocks (s.conn c).socket.log ≠ [] →
    ScreenViewer.frames (s.conn c).socket.log = k.frames ∧
      ∃ d k', s.Says d k' ∧ k.ending.Pairs c d k'.ending ∧
        (blocks (s.conn c).socket.log).flatten <+: (s.conn d).socket.sent.drop k'.bytes.length
  /-- A rejected header ends the connection. -/
  rejected : ∀ header, k.ending = .rejected header → s.plan = [] →
    ScreenViewer.frames (s.conn c).socket.log = k.frames ∧ (s.conn c).reads = [] ∧
      (s.conn c).socket.connectivity = .closed

/-- What holds of a proxy none of whose network operations has failed. -/
structure PairingInv (s : Server) : Prop where
  inv : Inv .proxySession s
  script : ∀ c, ScriptInv (s.view c)
  bridges : ∀ j ∈ s.bridges, BridgeInv s j
  closing : ClosingInv s
  measured : ∀ c, Measured (s.view c)

/-- The invariant of a server that has just been started. -/
lemma pairingInv_init : PairingInv init := by
  refine ⟨inv_init, fun c => ⟨fun _ => ⟨rfl, rfl⟩, fun _ => rfl, ?_, fun _ => rfl, rfl⟩,
    by simp [init], ?_, fun c => measured_init c⟩
  · intro before sender receiver rest h
    have hnil : (init.view c).todo = [] := rfl
    rw [hnil] at h
    simp at h
  · intro c header hmem
    cases hmem

/-- Every step without a failure keeps the invariant. -/
lemma PairingInv.step (hi : PairingInv s) {l : Label} (h : Step .proxySession s l t)
    (hl : IsFailure l = false) : PairingInv t where
  inv := hi.inv.step h
  script c := (hi.script c).move (hi.inv.session c) (hl ▸ view_move hi.inv.tidy h.2 c)
  bridges := bridgeInv_step hi.bridges hi.inv h
  closing := hi.closing.step hi.inv h hl
  measured c := (hi.measured c).move (hi.inv.session c) (view_move hi.inv.tidy h.2 c)

/-- The invariant of a run without failures. -/
lemma pairingInv_of_run {ls : List Label} (hrun : Transition.Run (Step .proxySession) init ls s)
    (hok : ∀ l ∈ ls, IsFailure l = false) : PairingInv s :=
  hrun.invariant_of_labels hok pairingInv_init fun _ _ _ hl hi hs => hi.step hs hl

/-- Past the login, a connection has a conversation. -/
lemma PairingInv.exists_says (hi : PairingInv s) {stage : Stage}
    (htalk : Talk .proxySession c (talk (s.view c).log) stage) (hstage : ¬ stage.Outside) :
    ∃ k, s.Says c k ∧ k.ending.stage = stage := by
  have hrejected : ∀ header, .rejectedHeader header ∈ talk (s.view c).log → IsRejected header := by
    intro header hmem
    obtain ⟨message, email, password, rest, -, -, htalk⟩ := htalk.login_of_not_outside hstage
    have hlogin : LoggedIn (s.view c).log :=
      ⟨email, password, List.mem_of_mem_filter (htalk ▸ by simp : _ ∈ talk (s.view c).log)⟩
    obtain ⟨hlen, what, hwhat⟩ :=
      (hi.measured c).rejected header (List.mem_of_mem_filter hmem) hlogin
    exact isRejected_of_error hlen hwhat
  obtain ⟨k, hfits, hentries, hend⟩ := htalk.exists_conversation hrejected hstage
  refine ⟨k, ⟨hfits, hentries, ?_⟩, hend⟩
  have hpre := (hi.inv.session c).prefix_consumed
  rw [← consumed_talk, hentries, k.consumed_entries] at hpre
  exact hpre

/-- The bytes of a conversation are those that have been consumed. -/
lemma Says.consumed_eq (h : s.Says c k) : consumed (s.conn c).socket.log = k.bytes := by
  rw [← consumed_talk, h.talk, k.consumed_entries]

/-- The frames of a conversation are its script. -/
lemma Says.script_eq (h : s.Says c k) : script (s.conn c).socket.log = k.frames := by
  rw [← script_talk, h.talk, Conversation.script_entries h.fits]

omit [JsonLibrary] in
/-- What a bridge has written is all that was relayed. -/
lemma BridgeInv.written_eq {j : Joined} (hi : BridgeInv s j) (g : ReadHandler) :
    (s.bridgeState j).written g =
      relayedBytes ((s.bridgeState j).peer (Bridge.destination g)).log := by
  change List.drop (relayedBytes (j.bridge.handover _).log).length _ = _
  rw [(hi.handed _).relayed]
  rfl

omit [JsonLibrary] in
/-- The stream that a bridge relays is what the source has written behind the frames of its
conversation. -/
lemma BridgeInv.stream_eq {j : Joined} (hi : BridgeInv s j) (g : ReadHandler) :
    (s.bridgeState j).stream g =
      ((s.bridgeState j).peer (Bridge.source g)).sent.drop
        (consumed ((s.bridgeState j).peer (Bridge.source g)).log).length := by
  obtain ⟨later, hlater⟩ := (hi.handed (Bridge.source g)).sent_le
  change (j.bridge.handover _).unread ++ List.drop (j.bridge.handover _).sent.length _ = _
  rw [← hlater, List.drop_left, (hi.handed _).sent, List.append_assoc, List.drop_left]

omit [JsonLibrary] in
/-- A bridge relays what the source has written behind the frames of its conversation. -/
lemma BridgeInv.relayed {j : Joined} (hi : BridgeInv s j) (g : ReadHandler) :
    relayedBytes ((s.bridgeState j).peer (Bridge.destination g)).log <+:
      ((s.bridgeState j).peer (Bridge.source g)).sent.drop
        (consumed ((s.bridgeState j).peer (Bridge.source g)).log).length := by
  rw [← hi.written_eq, ← hi.stream_eq]
  exact (hi.bridge.direction g).prefix_written

omit [SizeLayout] [JsonLibrary] in
/-- A connection that is joined is an end of a bridge. -/
lemma exists_bridge_of_joins (hjoins : (s.view c).joins ≠ []) :
    ∃ j ∈ s.bridges, c = j.sender ∨ c = j.receiver := by
  obtain ⟨⟨sender, receiver⟩, hmem⟩ := List.exists_mem_of_ne_nil _ hjoins
  obtain ⟨j, hj, rfl, rfl⟩ := exists_of_mem_joins hmem
  have hends : j.sender = c ∨ j.receiver = c := by simpa using (List.mem_filter.mp hmem).2
  exact ⟨j, hj, hends.imp Eq.symm Eq.symm⟩

/-- A connection that a bridge relays to is paired with the connection that it relays from. -/
lemma PairingInv.exists_partner (hi : PairingInv s) {j : Joined} (hj : j ∈ s.bridges)
    {stage : Stage} (hin : (s.view c).InStage c stage) (hend : k.ending.stage = stage)
    (hc : c = j.sender ∨ c = j.receiver) :
    ∃ g k', j.connOf (Bridge.destination g) = c ∧ s.Says (j.connOf (Bridge.source g)) k' ∧
      k.ending.Pairs c (j.connOf (Bridge.source g)) k'.ending := by
  rcases hc with rfl | rfl
  · obtain ⟨hapart, hstage⟩ := hin.joins _ (mem_joins hj .one)
    obtain rfl := (hstage.resolve_right fun h => hapart h.1).2
    obtain ⟨stage', htalk', hin'⟩ := (hi.inv.session j.receiver).inStage
    obtain ⟨-, hstage'⟩ := hin'.joins _ (mem_joins hj .two)
    obtain rfl := (hstage'.resolve_left fun h => hapart h.1.symm).2
    obtain ⟨k', hk', hend'⟩ := hi.exists_says htalk' id
    refine ⟨.handleUpstreamRead, k', rfl, hk', ?_⟩
    obtain ⟨request, isRegistered, heq⟩ := Ending.exists_claimed hend
    obtain ⟨request', heq'⟩ := Ending.exists_found hend'
    rw [heq, heq']
    exact ⟨rfl, rfl⟩
  · obtain ⟨hapart, hstage⟩ := hin.joins _ (mem_joins hj .two)
    obtain rfl := (hstage.resolve_left fun h => hapart h.1.symm).2
    obtain ⟨stage', htalk', hin'⟩ := (hi.inv.session j.sender).inStage
    obtain ⟨-, hstage'⟩ := hin'.joins _ (mem_joins hj .one)
    obtain rfl := (hstage'.resolve_right fun h => hapart h.1).2
    obtain ⟨k', hk', hend'⟩ := hi.exists_says htalk' id
    refine ⟨.handleDownstreamRead, k', rfl, hk', ?_⟩
    obtain ⟨request, heq⟩ := Ending.exists_found hend
    obtain ⟨request', isRegistered, heq'⟩ := Ending.exists_claimed hend'
    rw [heq, heq']
    exact ⟨rfl, rfl⟩

/-- What a bridge relays to a connection comes from the one that it is paired with. -/
lemma PairingInv.relayed (hi : PairingInv s) {j : Joined} (hj : j ∈ s.bridges) {stage : Stage}
    (hin : (s.view c).InStage c stage) (hend : k.ending.stage = stage)
    (hc : c = j.sender ∨ c = j.receiver) :
    ∃ d k', s.Says d k' ∧ k.ending.Pairs c d k'.ending ∧
      (blocks (s.conn c).socket.log).flatten <+: (s.conn d).socket.sent.drop k'.bytes.length := by
  obtain ⟨g, k', rfl, hk', hpairs⟩ := hi.exists_partner hj hin hend hc
  refine ⟨_, k', hk', hpairs, ?_⟩
  rw [flatten_blocks, ← hk'.consumed_eq, ← bridgeState_peer, ← bridgeState_peer]
  exact (hi.bridges j hj).relayed g

/-- In every run in which no network operation of the server fails, what an endpoint that logs in
receives follows its conversation and the bytes of its counterpart. -/
theorem pairing_traces {ls : List Label} (hrun : Transition.Run (Step .proxySession) init ls s)
    (hok : ∀ l ∈ ls, IsFailure l = false) (c : ConnId)
    (hlogin : LoggedIn (s.conn c).socket.log) : ∃ k, s.Says c k ∧ s.Receives c k := by
  have hi := pairingInv_of_run hrun hok
  obtain ⟨stage, htalk, hin⟩ := (hi.inv.session c).inStage
  have hstage : ¬ stage.Outside := hlogin.not_outside htalk
  obtain ⟨k, hk, hend⟩ := hi.exists_says htalk hstage
  have hscript : frames (s.view c).log ++ queued (s.view c).todo = k.frames :=
    ((hi.script c).script hlogin).trans hk.script_eq
  have hall : (s.view c).todo = [] → frames (s.view c).log = k.frames := by
    intro htodo
    simpa [htodo, queued] using hscript
  refine ⟨k, hk, (hi.script c).received, ⟨_, hscript⟩, fun hne => ?_,
    fun header hrejected hidle => ?_⟩
  · have hjoins : (s.view c).joins ≠ [] := by
      intro hnil
      refine hne (List.filterMap_eq_nil_iff.mpr fun e he => ?_)
      cases e with
      | relayed bytes => exact absurd he ((hi.inv.session c).relayed hnil bytes)
      | _ => rfl
    obtain ⟨j, hj, hc⟩ := exists_bridge_of_joins hjoins
    exact ⟨hall ((hi.script c).joined hjoins), hi.relayed hj hin hend hc⟩
  · have hmem : .rejectedHeader header ∈ (s.view c).log := by
      refine List.mem_of_mem_filter (p := Entry.isTalk) ?_
      change _ ∈ talk (s.conn c).socket.log
      rw [hk.talk, Conversation.entries, hrejected]
      simp [Ending.entries]
    refine ⟨hall ?_, ((hi.inv.session c).of_rejected hmem).1, ?_⟩
    · rw [view, hidle]
      rfl
    · refine (hi.closing c header hmem).resolve_left ?_
      simp [hidle]

end Traces

/-- The events of a receiver's conversation: it presses a key, asks for a code that is not
registered and then for one that is, and the streamer has written something by then. -/
def converses [SizeLayout] : List Event :=
  logsIn 0 ++ logsIn 1 ++
    writes 0 none 0 { type := .registerStreamer, content := [] } ++ [.performs] ++
    writes 1 none 0 { type := .keyboardInput, content := [] } ++ [.performs, .performs] ++
    writes 1 none 0 { type := .findStreamer, content := [63] } ++ [.performs, .performs] ++
    writes 1 none 0 { type := .findStreamer, content := Bytes.ofString "test" } ++
    [.performs, .peerWrites 0 [72, 105], .performs, .performs,
      .bridge 0 (.readCompletes Bridge.readPeerOne 2),
      .bridge 0 (.handle Bridge.readPeerOne (.ok 2) .ok)]

/-- The receiver gets a reply to each of its requests, and then what the streamer has written behind
its registration. -/
theorem pairing_traces_relayed :
    letI := littleEndian
    letI := Json.stringObjects
    ∃ ls s, Transition.Run (Step .proxySession) init ls s ∧ (∃ k, s.Says 1 k ∧ s.Receives 1 k) ∧
      received (s.conn 1).socket.log =
        [.frame { type := .ack, content := [] },
          .frame { type := .response
                   content := Bytes.ofString "Did not expect KEYBOARD_INPUT message." },
          .frame { type := .nack, content := [] }, .frame { type := .ack, content := [] },
          .relayed [72, 105]] := by
  let := littleEndian
  let := Json.stringObjects
  obtain ⟨ls, s, hrun, hs⟩ := exists_run_of_replay .proxySession (s := init) converses
    (fun ls s => (∀ l ∈ ls, IsFailure l = false) ∧
      .credentialCheck [97] [98] (.ok true) ∈ (s.conn 1).socket.log ∧
      received (s.conn 1).socket.log =
        [.frame { type := .ack, content := [] },
          .frame { type := .response
                   content := Bytes.ofString "Did not expect KEYBOARD_INPUT message." },
          .frame { type := .nack, content := [] }, .frame { type := .ack, content := [] },
          .relayed [72, 105]])
    (by decide +kernel)
  obtain ⟨hok, hlogin, hreceived⟩ := of_decide_eq_true hs
  exact ⟨ls, s, hrun, pairing_traces hrun hok 1 ⟨_, _, hlogin⟩, hreceived⟩

end Server

end ScreenViewer
