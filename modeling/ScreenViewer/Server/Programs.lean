import Mathlib
import ScreenViewer.Apps
import ScreenViewer.Server.Delivery

/-!
# The programs of the clients on a server

What becomes of the streamer's and of the viewer's program when a proxy is at the other end of the
connection.  A program `Plays` on a connection when what it has read is what the server has sent so
far, however cut, and what it has written is what its peer has sent.  As long as no network
operation of the server fails, a program whose user is let in never gets an answer that it does not
expect: it returns what it should, linked to a partner whose bytes are the next that it reads, or it
is still waiting (`streamerProgram_outcome`, `clientProgram_outcome`).  So do the `main` functions
for their users (`streamerMain_outcome`, `clientMain_outcome`).
-/

namespace ScreenViewer

open SocketBase AuthenticatedSession ServerSessionsManager ClientSocket ClientSocket.Call

namespace Server

section Programs

variable [SizeLayout] {α : Type} {s : Server} {c : ConnId}

/-- The peer of a connection runs a program with the result `r`. -/
structure Plays (s : Server) (c : ConnId) (program : Call α)
    (r : EStateM.Result CallError Client α) : Prop where
  /-- It has read some of what the server has sent. -/
  reads : ∃ inbound : Inbound, inbound.bytes <+: outbound (s.conn c).socket.log ∧
    program.run ⟨inbound, []⟩ = r
  /-- What it has written has arrived, or some of it has, or more is written behind it. -/
  writes : s.Fits c (finish r).written

/-- Why a program of a user does not return: it waits, it cannot write its credentials, or the user
is not let in. -/
def Stopped [JsonLibrary] (s : Server) (c : ConnId) (email password : Bytes) (e : CallError) :
    Prop :=
  e = .client (.read .endOfStream) ∨
    (∃ what, content email password = .error what ∧ e = .client (.json what)) ∨
    ¬ LoggedIn (s.conn c).socket.log

/-- The peer of `c`, whose program has ended like this, goes on with what the peer of `d` has
written behind its own conversation. -/
structure Linked (s : Server) (c d : ConnId) (k : Client) : Prop where
  partners : s.Partners c d
  /-- Its own conversation is what its program has written. -/
  written : consumed (s.conn c).socket.log = k.written
  inbound : k.inbound.bytes <+:
    (s.conn d).socket.sent.drop (consumed (s.conn d).socket.log).length

/-- A program returns `a`, has written `w` and leaves `t` unread. -/
def Returns (r : EStateM.Result CallError Client α) (a : α) (w t : Bytes) : Prop :=
  match r with
  | .ok b client => b = a ∧ client.written = w ∧ client.inbound.bytes = t
  | .error .. => False

instance [DecidableEq α] (r : EStateM.Result CallError Client α) (a : α) (w t : Bytes) :
    Decidable (Returns r a w t) := by
  unfold Returns
  cases r <;> infer_instance

/-! ## The frames of a conversation are read -/

omit [SizeLayout] in
/-- The first chunk of a message. -/
lemma exists_chunks_eq (message : Message) :
    ∃ rest, chunks message = ⟨message.type, message.content.take bufferSize⟩ :: rest := by
  rcases le_or_gt message.content.length bufferSize with hle | hlt
  · exact ⟨[], by rw [chunks_of_le hle, List.take_of_length_le hle]⟩
  · exact ⟨_, by rw [chunks, chunksFrom, if_pos hlt, List.drop_zero]⟩

/-- What is sent in one chunk can be read. -/
lemma accepts_of_chunks {message : Message} (h : chunks message = [message]) :
    (frameCodec bufferSize).Accepts message := by
  have hmem : message ∈ [message].flatMap chunks := by simp [h]
  exact accepts_of_mem_chunks hmem

variable [JsonLibrary] {k : Conversation}

/-- What follows the first frames of a conversation is what is read behind them. -/
lemma Serves.prefix_of_frames (h : s.Serves c k) {message : Message} {messages : List Message}
    (hframes : k.frames = message :: messages) {t : Bytes}
    (ht : t <+: ScreenViewer.outbound (s.conn c).socket.log) :
    t <+: (frameCodec bufferSize).encode message ++
      ((frameCodec bufferSize).encodeAll messages ++ relayedBytes (s.conn c).socket.log) := by
  have hprefix := ht.trans h.outbound
  rwa [hframes, Framing.Codec.encodeAll_cons, List.append_assoc] at hprefix

/-- Between the frames of a conversation that goes on, nothing is relayed. -/
lemma Serves.relayedBytes_eq_nil (h : s.Serves c k)
    (hstage : ∀ d, k.ending.stage ≠ .claimed d ∧ k.ending.stage ≠ .found d) :
    relayedBytes (s.conn c).socket.log = [] := by
  by_contra hne
  obtain ⟨d, hd | hd⟩ := h.relayed hne
  · exact (hstage d).1 hd
  · exact (hstage d).2 hd

/-- What holds of a proxy none of whose network operations has failed, as far as its peers see. -/
structure ProxyInv (s : Server) : Prop where
  pairing : PairingInv s
  measured : ∀ c, Measured (s.view c)
  claimed : ∀ {c d}, Talk .proxySession c (talk (s.view c).log) (.claimed d) → s.Partners c d
  registered : ∀ {code streamer c}, .found code streamer ∈ (s.conn c).socket.log →
    .registered code ∈ (s.conn streamer).socket.log
  relayed : ∀ {c d}, s.Partners c d → relayedBytes (s.conn c).socket.log <+:
    (s.conn d).socket.sent.drop (consumed (s.conn d).socket.log).length

/-- It holds in every run without failures. -/
lemma proxyInv_of_run {ls : List Label} (hrun : Transition.Run (Step .proxySession) init ls s)
    (hok : ∀ l ∈ ls, IsFailure l = false) : ProxyInv s where
  pairing := pairingInv_of_run hrun hok
  measured := measured_of_run hrun
  claimed := partners_of_claimed hrun
  registered := registered_of_found hrun
  relayed := by
    intro c d hd
    by_cases hne : relayedBytes (s.conn c).socket.log = []
    · rw [hne]
      exact List.nil_prefix
    · obtain ⟨d', hd', hrelayed⟩ := exists_partner_of_relayed hrun hne
      rwa [partner_unique hrun hd hd']

/-- When the login of a program returns, its user has logged in. -/
lemma loggedIn_of_login (hi : PairingInv s) {email password : Bytes} {inbound : Inbound}
    {client : Client} (hread : inbound.bytes <+: outbound (s.conn c).socket.log)
    (h : (login email password).run ⟨inbound, []⟩ = .ok () client) :
    LoggedIn (s.conn c).socket.log := by
  by_contra hin
  cases hcontent : content email password with
  | error what =>
    rw [run_login_error hcontent] at h
    cases h
  | ok text =>
    rw [run_login hcontent] at h
    obtain ⟨message, hack, harrived⟩ := exists_arrived_of_receiveACK h
    have hbytes : inbound.bytes = sendChunk message ++ client.inbound.bytes := harrived
    rw [hbytes] at hread
    exact hi.type_ne_ack hin hread hack

/-- A program that logs in and writes a request stops in its login, or its conversation begins with
this request and it goes on behind the `ACK`. -/
lemma login_cases (hi : PairingInv s) (hm : Measured (s.view c)) {email password : Bytes}
    {f : Unit → Call α} {request : Message} (hf : (f ()).Writes (SocketBase.send request))
    {r : EStateM.Result CallError Client α} (h : s.Plays c (login email password >>= f) r) :
    (∃ e client, r = .error e client ∧ s.Stopped c email password e) ∨
      ∃ k client, s.Serves c k ∧
        FirstRequest k ⟨request.type, request.content.take bufferSize⟩ ∧
        client.written = sendChunk k.login ∧
        client.inbound.bytes <+: (frameCodec bufferSize).encodeAll
          (k.requests.map (fun r => expectedReply r.1) ++ k.ending.frames) ++
            relayedBytes (s.conn c).socket.log ∧
        (f ()).run client = r := by
  obtain ⟨inbound, hread, hprogram⟩ := h.reads
  by_cases hin : LoggedIn (s.conn c).socket.log
  swap
  · cases hlogin : (login email password).run ⟨inbound, []⟩ with
    | error e client =>
      rw [run_bind_error hlogin] at hprogram
      exact Or.inl ⟨e, client, hprogram.symm, Or.inr (Or.inr hin)⟩
    | ok u client => exact absurd (loggedIn_of_login hi hread hlogin) hin
  obtain ⟨k, hk⟩ := hi.exists_serves hin
  cases hcontent : content email password with
  | error what =>
    rw [run_bind_error (run_login_error hcontent _)] at hprogram
    exact Or.inl ⟨_, _, hprogram.symm, Or.inr (Or.inl ⟨what, hcontent, rfl⟩)⟩
  | ok text =>
    rcases login_of_prefix hcontent (accepts_of_chunks chunks_ack) (k := ⟨inbound, []⟩)
      (hk.prefix_of_frames rfl hread) with ⟨-, inbound', hlogin, harrived⟩ | ⟨hack, -⟩ | hblocked
    · rw [run_bind_ok hlogin] at hprogram
      have hgoesOn := harrived.goesOn (hk.prefix_of_frames rfl hread)
      have hw := h.writes
      rw [← hprogram, hf] at hw
      change s.Fits c (([] ++ SocketBase.send _) ++ SocketBase.send request) at hw
      obtain ⟨rest, hrest⟩ := exists_chunks_eq request
      obtain ⟨rest', hrest'⟩ := exists_chunks_eq { type := .login, content := text }
      have haccepts : ∀ message ∈ chunks { type := .login, content := text } ++ chunks request,
          (frameCodec bufferSize).Accepts message := by
        intro message hmem
        have hmem' : message ∈ [{ type := .login, content := text }, request].flatMap chunks := by
          simpa using hmem
        exact accepts_of_mem_chunks hmem'
      have hw' : s.Fits c ((frameCodec bufferSize).encodeAll
          (chunks { type := .login, content := text } ++ chunks request)) := by
        rw [Framing.Codec.encodeAll_append]
        exact hw
      have hlogin' : k.login = ⟨.login, text.take bufferSize⟩ := by
        have hle := hk.conversation.said_prefix hm haccepts hw'
        rw [hrest', List.cons_append] at hle
        rcases hle with hle | hle
        · exact (List.cons_prefix_cons.mp hle).1
        · exact (List.cons_prefix_cons.mp hle).1.symm
      have hshort : text.length ≤ bufferSize := by
        have hmem : .authenticateCallback k.login ∈ (s.view c).log := by
          refine List.mem_of_mem_filter (p := Entry.isTalk) ?_
          change _ ∈ ScreenViewer.talk (s.conn c).socket.log
          rw [hk.conversation.talk]
          simp [Conversation.entries]
        have hfirst := hm.first _ hmem
        rw [hlogin', List.length_take] at hfirst
        have hmax : firstMessageMaxSize < bufferSize := by decide
        omega
      rw [chunks_of_le hshort, hrest] at haccepts hw'
      refine Or.inr ⟨k, _, hk, (hk.conversation.firstRequest hm haccepts hw').2, ?_, hgoesOn,
        hprogram⟩
      rw [hlogin', List.take_of_length_le hshort]
      change [] ++ SocketBase.send { type := .login, content := text } = _
      rw [List.nil_append, SocketBase.send, chunks_of_le hshort, List.flatMap_singleton]
    · exact absurd rfl hack
    · rw [run_bind_error hblocked] at hprogram
      exact Or.inl ⟨_, _, hprogram.symm, Or.inl rfl⟩

/-! ## The two programs -/

/-- What the streamer's program comes to: it returns the code under which its user is registered,
linked to the receiver that has asked for this code, or it stops. -/
def StreamerOutcome (s : Server) (c : ConnId) (email password : Bytes) :
    EStateM.Result CallError Client Bytes → Prop
  | .ok id client => id = sessionId ∧ .registered id ∈ (s.conn c).socket.log ∧
      ∃ receiver, .claimed receiver ∈ (s.conn c).socket.log ∧ s.Linked c receiver client
  | .error e _ => s.Stopped c email password e

/-- What the viewer's program comes to for a code: it returns true, linked to the streamer that has
registered the code, it returns false after the server has looked for the code in vain, or it
stops. -/
def ClientOutcome (s : Server) (c : ConnId) (email password id : Bytes) :
    EStateM.Result CallError Client Bool → Prop
  | .ok true client => ∃ streamer, .found id streamer ∈ (s.conn c).socket.log ∧
      .registered id ∈ (s.conn streamer).socket.log ∧ s.Linked c streamer client
  | .ok false _ =>
    .handleRead ⟨.findStreamer, id.take bufferSize⟩ false ∈ (s.conn c).socket.log
  | .error e _ => s.Stopped c email password e

omit [JsonLibrary] in
/-- Nothing has arrived in an empty stream. -/
lemma not_arrived {client : Client} {message : Message} {inbound : Inbound}
    (h : client.inbound.bytes <+: []) : ¬ Arrived client message inbound := by
  intro harrived
  rw [Arrived, List.prefix_nil.mp h] at harrived
  exact (frameCodec bufferSize).encode_ne_nil message (List.append_eq_nil_iff.mp harrived.symm).1

/-- The entries of a conversation are in the log. -/
lemma Serves.mem_log (h : s.Serves c k) {e : Entry} (he : e ∈ k.entries) :
    e ∈ (s.conn c).socket.log := by
  rw [← h.conversation.talk] at he
  exact List.mem_of_mem_filter he

/-- The streamer's program on such a proxy. -/
lemma ProxyInv.streamerOutcome (hi : ProxyInv s) {email password : Bytes} {start : Int64}
    {now : ℕ → Int64} {r : EStateM.Result CallError Client Bytes}
    (h : s.Plays c (Apps.streamerProgram email password start now) r) :
    s.StreamerOutcome c email password r := by
  have hwrites : (do
      let id ← requestStreamerID
      let _ ← Call.waitForStartStreamMessage start now
      return id : Call Bytes).Writes
        (SocketBase.send { type := .registerStreamer, content := [] }) := by
    refine Writes.requestStreamerID.bind_quiet fun id => ?_
    exact (Writes.reading _).bind_quiet fun _ _ => (List.append_nil _).symm
  have haccepts : ∀ content : Bytes, content.length ≤ bufferSize →
      (frameCodec bufferSize).Accepts ⟨.id, content⟩ :=
    fun content hle => accepts_of_chunks (chunks_of_le hle)
  rcases login_cases (f := fun _ => _) hi.pairing (hi.measured c) hwrites h with
    ⟨e, client, rfl, hstopped⟩ | ⟨k, client, hk, hfirst, hlogin, hclient, rfl⟩
  · exact hstopped
  cases hfirst with
  | unfinished hrequests hend =>
    have hnil := hk.relayedBytes_eq_nil (by simp [hend, Ending.stage])
    rw [hrequests, hend, hnil] at hclient
    rcases requestStreamerID_of_prefix (t := []) (haccepts [] (Nat.zero_le _)) rfl
      (hclient.trans List.nil_prefix) with ⟨inbound, -, harrived⟩ | hblocked
    · exact absurd harrived (not_arrived hclient)
    · rw [run_bind_error hblocked]
      exact Or.inl rfl
  | answered isRegistered requests hrequests =>
    have hne := hk.conversation.fits.requests _ (hrequests ▸ List.mem_cons_self)
    exact absurd rfl hne.1
  | found streamer hrequests hend =>
    have hfits := hk.conversation.fits.ending
    rw [hend] at hfits
    cases hfits
  | registered isRegistered receiver hrequests hend =>
    rw [hrequests, hend, List.map_nil, List.nil_append, Ending.frames_registered,
      Framing.Codec.encodeAll_cons, List.append_assoc] at hclient
    rcases requestStreamerID_of_prefix (haccepts sessionId (by decide)) rfl hclient
      with ⟨inbound, hread, harrived⟩ | hblocked
    swap
    · rw [run_bind_error hblocked]
      exact Or.inl rfl
    rw [run_bind_ok hread]
    have hinbound := harrived.goesOn hclient
    have haccepts' : (frameCodec bufferSize).Accepts startStreamMessage :=
      accepts_of_chunks chunks_startStream
    cases receiver with
    | none =>
      rw [hk.relayedBytes_eq_nil (by simp [hend, Ending.stage])] at hinbound
      rcases waitForStartStreamMessage_of_prefix (k := ⟨inbound, _⟩) (t := []) start now
        haccepts' rfl (hinbound.trans List.nil_prefix) with ⟨inbound', -, harrived'⟩ | hblocked
      · exact absurd harrived' (not_arrived hinbound)
      · rw [run_bind_error hblocked]
        exact Or.inl rfl
    | some receiver =>
      rw [Option.toList_some, List.map_singleton, Framing.Codec.encodeAll_cons,
        List.append_assoc] at hinbound
      rcases waitForStartStreamMessage_of_prefix (k := ⟨inbound, _⟩) start now haccepts' rfl
        hinbound with ⟨inbound', hwait, harrived'⟩ | hblocked
      · rw [run_bind_ok hwait]
        have htalk := hk.talk
        rw [hend] at htalk
        refine ⟨rfl, hk.mem_log ?_, receiver, hk.mem_log ?_, ?_⟩
        · simp [Conversation.entries, hend, Ending.entries]
        · simp [Conversation.entries, hend, Ending.entries]
        · refine ⟨hi.claimed htalk, ?_,
            (harrived'.goesOn hinbound).trans (hi.relayed (hi.claimed htalk))⟩
          rw [hk.conversation.consumed_eq, Conversation.bytes, hrequests, hend]
          change _ = client.written ++ SocketBase.send ⟨.registerStreamer, []⟩
          rw [hlogin, SocketBase.send, chunks_of_le (Nat.zero_le _)]
          simp [Ending.bytes]
      · rw [run_bind_error hblocked]
        exact Or.inl rfl

/-- The viewer's program on such a proxy. -/
lemma ProxyInv.clientOutcome (hi : ProxyInv s) {email password id : Bytes}
    {r : EStateM.Result CallError Client Bool}
    (h : s.Plays c (Apps.clientProgram email password id) r) :
    s.ClientOutcome c email password id r := by
  rcases login_cases (f := fun _ => _) hi.pairing (hi.measured c)
    (Writes.findOtherClient id) h
    with ⟨e, client, rfl, hstopped⟩ | ⟨k, client, hk, hfirst, hlogin, hclient, rfl⟩
  · exact hstopped
  cases hfirst with
  | unfinished hrequests hend =>
    have hnil := hk.relayedBytes_eq_nil (by simp [hend, Ending.stage])
    rw [hrequests, hend, hnil] at hclient
    rcases findOtherClient_of_prefix (t := []) id (accepts_of_chunks chunks_ack)
      (hclient.trans List.nil_prefix) with ⟨inbound, -, harrived⟩ | hblocked
    · exact absurd harrived (not_arrived hclient)
    · rw [hblocked]
      exact Or.inl rfl
  | answered isRegistered requests hrequests =>
    obtain rfl : isRegistered = false :=
      (hk.conversation.fits.requests _ (hrequests ▸ List.mem_cons_self)).2 rfl
    rw [hrequests, List.map_cons, List.cons_append, Framing.Codec.encodeAll_cons,
      List.append_assoc] at hclient
    rcases findOtherClient_of_prefix id (accepts_of_chunks (chunks_expectedReply _)) hclient
      with ⟨inbound, hread, -⟩ | hblocked
    · rw [hread]
      refine hk.mem_log ?_
      simp [Conversation.entries, hrequests]
    · rw [hblocked]
      exact Or.inl rfl
  | registered isRegistered receiver hrequests hend =>
    have hfits := hk.conversation.fits.ending
    rw [hend] at hfits
    cases hfits
  | found streamer hrequests hend =>
    rw [hrequests, hend, List.map_nil, List.nil_append, Ending.frames,
      Framing.Codec.encodeAll_cons, List.append_assoc] at hclient
    rcases findOtherClient_of_prefix id (accepts_of_chunks chunks_ack) hclient
      with ⟨inbound, hread, harrived⟩ | hblocked
    · rw [hread]
      have hfound : .found (id.take bufferSize) streamer ∈ (s.conn c).socket.log :=
        hk.mem_log (by simp [Conversation.entries, hend, Ending.entries])
      have hregistered := hi.registered hfound
      have hshort : id.take bufferSize = id := by
        obtain ⟨stage, htalk, -⟩ := (hi.pairing.inv.session streamer).inStage
        have hcode := htalk.eq_sessionId (List.mem_filter.mpr ⟨hregistered, rfl⟩)
        have hlen := congrArg List.length hcode
        rw [List.length_take] at hlen
        have hcodeLength : sessionId.length < bufferSize := by decide
        exact List.take_of_length_le (by omega)
      rw [hshort] at hfound hregistered
      have hpartners : s.Partners c streamer := ⟨id, Or.inl hfound⟩
      refine ⟨streamer, hfound, hregistered, hpartners, ?_,
        (harrived.goesOn hclient).trans (hi.relayed hpartners)⟩
      have hle : id.length ≤ bufferSize := (List.take_eq_self_iff id).mp hshort
      rw [hk.conversation.consumed_eq, Conversation.bytes, hrequests, hend]
      change _ = client.written ++ SocketBase.send ⟨.findStreamer, id⟩
      rw [hlogin, SocketBase.send, chunks_of_le hle]
      simp [Ending.bytes, hshort]
    · rw [hblocked]
      exact Or.inl rfl

/-- As long as no network operation of the proxy fails, the streamer's program comes to what it
should. -/
theorem streamerProgram_outcome {ls : List Label}
    (hrun : Transition.Run (Step .proxySession) init ls s) (hok : ∀ l ∈ ls, IsFailure l = false)
    (email password : Bytes) (start : Int64) (now : ℕ → Int64)
    (r : EStateM.Result CallError Client Bytes)
    (h : s.Plays c (Apps.streamerProgram email password start now) r) :
    s.StreamerOutcome c email password r :=
  (proxyInv_of_run hrun hok).streamerOutcome h

/-- As long as no network operation of the proxy fails, the viewer's program comes to what it
should. -/
theorem clientProgram_outcome {ls : List Label}
    (hrun : Transition.Run (Step .proxySession) init ls s) (hok : ∀ l ∈ ls, IsFailure l = false)
    (email password id : Bytes) (r : EStateM.Result CallError Client Bool)
    (h : s.Plays c (Apps.clientProgram email password id) r) :
    s.ClientOutcome c email password id r :=
  (proxyInv_of_run hrun hok).clientOutcome h

/-- `main` of the streamer's program comes to what the program comes to for its user. -/
theorem streamerMain_outcome {ls : List Label}
    (hrun : Transition.Run (Step .proxySession) init ls s) (hok : ∀ l ∈ ls, IsFailure l = false)
    (start : Int64) (now : ℕ → Int64) (r : EStateM.Result CallError Client Bytes)
    (h : s.Plays c (Apps.streamerMain start now) r) :
    s.StreamerOutcome c (Bytes.ofString "some_other_user@gmail.com")
      (Bytes.ofString "superStrongPassword") r :=
  (proxyInv_of_run hrun hok).streamerOutcome h

/-- What `main` of the viewer's program comes to: without a code it exits with status 1 and has
written nothing, and otherwise it comes to what the program comes to for its user and the code. -/
def ClientMainOutcome (s : Server) (c : ConnId) (argv : List Bytes) :
    EStateM.Result CallError Client (ℕ ⊕ Bool) → Prop
  | .ok (.inl status) client => argv.length < 2 ∧ status = 1 ∧ client.written = []
  | .ok (.inr isFound) client => ∃ id, argv[1]? = some id ∧
      s.ClientOutcome c (Bytes.ofString "some_user@gmail.com")
        (Bytes.ofString "superStrongPassword") id (.ok isFound client)
  | .error e _ => s.Stopped c (Bytes.ofString "some_user@gmail.com")
      (Bytes.ofString "superStrongPassword") e

/-- `main` of the viewer's program comes to what it should. -/
theorem clientMain_outcome {ls : List Label}
    (hrun : Transition.Run (Step .proxySession) init ls s) (hok : ∀ l ∈ ls, IsFailure l = false)
    (argv : List Bytes) (r : EStateM.Result CallError Client (ℕ ⊕ Bool))
    (h : s.Plays c (Apps.clientMain argv) r) : s.ClientMainOutcome c argv r := by
  obtain ⟨⟨inbound, hread, hprogram⟩, hwrites⟩ := h
  cases argv with
  | nil =>
    subst hprogram
    exact ⟨by simp, rfl, rfl⟩
  | cons name args =>
    cases args with
    | nil =>
      subst hprogram
      exact ⟨by simp, rfl, rfl⟩
    | cons id args =>
      have hi := proxyInv_of_run hrun hok
      rw [Apps.clientMain] at hprogram
      cases hresult : (Apps.clientProgram (Bytes.ofString "some_user@gmail.com")
          (Bytes.ofString "superStrongPassword") id).run ⟨inbound, []⟩ with
      | ok isFound client =>
        rw [run_bind_ok hresult] at hprogram
        subst hprogram
        exact ⟨id, rfl, hi.clientOutcome ⟨⟨inbound, hread, hresult⟩, hwrites⟩⟩
      | error e client =>
        rw [run_bind_error hresult] at hprogram
        subst hprogram
        exact hi.clientOutcome ⟨⟨inbound, hread, hresult⟩, hwrites⟩

end Programs

/-! ## A streamer and a viewer -/

/-- What a program has written that logs in and makes a request. -/
def requestBytes [SizeLayout] (request : Message) : Bytes :=
  sendChunk ⟨.login, Bytes.ofString "\x7b\"email\":\"a\",\"password\":\"b\"\x7d"⟩ ++
    sendChunk request

/-- A key is pressed. -/
def keyMessage : Message := ⟨.keyboardInput, [1, 97, 0, 0, 0]⟩

/-- The screen has changed. -/
def updateMessage : Message := ⟨.screenUpdate, [1, 2, 3]⟩

/-- A streamer and a viewer on one proxy: what they have written, and what they have been sent. -/
structure Exchange [SizeLayout] (s : Server) : Prop where
  toStreamer : outbound (s.conn 0).socket.log = sendChunk ackMessage ++
    sendChunk ⟨.id, sessionId⟩ ++ sendChunk startStreamMessage ++ sendChunk keyMessage
  fromStreamer : (s.conn 0).socket.sent =
    requestBytes ⟨.registerStreamer, []⟩ ++ sendChunk updateMessage
  toViewer : outbound (s.conn 1).socket.log = sendChunk ackMessage ++ sendChunk ackMessage ++
    sendChunk updateMessage
  fromViewer : (s.conn 1).socket.sent =
    requestBytes ⟨.findStreamer, sessionId⟩ ++ sendChunk keyMessage
  partners : .found sessionId 0 ∈ (s.conn 1).socket.log

/-- There is a run to such a state, which is a rest. -/
lemma exists_exchange :
    letI := littleEndian
    letI := Json.stringObjects
    ∃ ls s, Transition.Run (Step .proxySession) init ls s ∧ (∀ l ∈ ls, l.IsClean) ∧ s.Resting ∧
      s.Exchange ∧
      (s.conn 0).socket.sent.drop (consumed (s.conn 0).socket.log).length =
        sendChunk updateMessage ∧
      (s.conn 1).socket.sent.drop (consumed (s.conn 1).socket.log).length =
        sendChunk keyMessage := by
  let := littleEndian
  let := Json.stringObjects
  obtain ⟨ls, s, hrun, hs⟩ := exists_run_of_replay .proxySession (s := init)
    (acknowledges ++ [.peerWrites 1 (sendChunk keyMessage), .peerWrites 0 (sendChunk updateMessage),
      .performs, .performs,
      .bridge 0 (.readCompletes Bridge.readPeerTwo 14),
      .bridge 0 (.handle Bridge.readPeerTwo (.ok 14) .ok),
      .bridge 0 (.readCompletes Bridge.readPeerOne 12),
      .bridge 0 (.handle Bridge.readPeerOne (.ok 12) .ok)])
    (fun ls s => (∀ l ∈ ls, l.IsClean) ∧ s.plan = [] ∧
      (∀ c ∈ ls.filterMap Label.accepts, (s.conn c).reads = []) ∧
      (∀ j ∈ s.bridges, j.bridge.ready = [] ∧ ∀ op ∈ j.bridge.reads,
        ((s.bridgeState j).peer op.peer).Live ∧ ((s.bridgeState j).peer op.peer).unread = []) ∧
      outbound (s.conn 0).socket.log = sendChunk ackMessage ++ sendChunk ⟨.id, sessionId⟩ ++
        sendChunk startStreamMessage ++ sendChunk keyMessage ∧
      (s.conn 0).socket.sent = requestBytes ⟨.registerStreamer, []⟩ ++ sendChunk updateMessage ∧
      outbound (s.conn 1).socket.log = sendChunk ackMessage ++ sendChunk ackMessage ++
        sendChunk updateMessage ∧
      (s.conn 1).socket.sent =
        requestBytes ⟨.findStreamer, sessionId⟩ ++ sendChunk keyMessage ∧
      .found sessionId 0 ∈ (s.conn 1).socket.log ∧
      (s.conn 0).socket.sent.drop (consumed (s.conn 0).socket.log).length =
        sendChunk updateMessage ∧
      (s.conn 1).socket.sent.drop (consumed (s.conn 1).socket.log).length =
        sendChunk keyMessage)
    (by decide +kernel)
  obtain ⟨hclean, hplan, hreads, hbridges, h₁, h₂, h₃, h₄, h₅, hupdate, hkey⟩ :=
    of_decide_eq_true hs
  exact ⟨ls, s, hrun, hclean, resting_of_reads hrun hplan hreads hbridges,
    ⟨h₁, h₂, h₃, h₄, h₅⟩, hupdate, hkey⟩

/-- What a program returns that has read all that it was sent. -/
lemma plays_of_returns [SizeLayout] {α : Type} {s : Server} {c : ConnId} {program : Call α} {a : α}
    {w t : Bytes} (hreturns : Returns
      (program.run ⟨⟨[outbound (s.conn c).socket.log], []⟩, []⟩) a w t)
    (hw : w <+: (s.conn c).socket.sent) :
    ∃ client, s.Plays c program (.ok a client) ∧ client.written = w ∧
      client.inbound.bytes = t := by
  cases hresult : program.run ⟨⟨[outbound (s.conn c).socket.log], []⟩, []⟩ with
  | error e client => simp [Returns, hresult] at hreturns
  | ok b client =>
    obtain ⟨rfl, hwritten, hunread⟩ : b = a ∧ client.written = w ∧ client.inbound.bytes = t := by
      simpa [Returns, hresult] using hreturns
    refine ⟨client, ⟨⟨_, ?_, hresult⟩, Or.inr ?_⟩, hwritten, hunread⟩
    · simp [Inbound.bytes]
    · rwa [finish, hwritten]

/-- The streamer of an exchange. -/
lemma Exchange.streamer :
    letI := littleEndian
    letI := Json.stringObjects
    ∀ s : Server, s.Exchange → ∃ client,
      s.Plays 0 (Apps.streamerProgram [97] [98] 0 fun _ => 0) (.ok sessionId client) ∧
        client.written = requestBytes ⟨.registerStreamer, []⟩ ∧
        client.inbound.bytes = sendChunk keyMessage := by
  let := littleEndian
  let := Json.stringObjects
  intro s h
  refine plays_of_returns ?_ (h.fromStreamer ▸ List.prefix_append _ _)
  rw [h.toStreamer]
  decide +kernel

/-- The viewer of an exchange. -/
lemma Exchange.viewer :
    letI := littleEndian
    letI := Json.stringObjects
    ∀ s : Server, s.Exchange → ∃ client,
      s.Plays 1 (Apps.clientProgram [97] [98] sessionId) (.ok true client) ∧
        client.written = requestBytes ⟨.findStreamer, sessionId⟩ ∧
        client.inbound.bytes = sendChunk updateMessage := by
  let := littleEndian
  let := Json.stringObjects
  intro s h
  refine plays_of_returns ?_ (h.fromViewer ▸ List.prefix_append _ _)
  rw [h.toViewer]
  decide +kernel

/-- The streamer goes on with what the viewer writes behind its request. -/
theorem streamerProgram_outcome_linked :
    letI := littleEndian
    letI := Json.stringObjects
    ∃ (s : Server) (client : Client),
      s.StreamerOutcome 0 [97] [98] (.ok sessionId client) ∧
        client.inbound.bytes = sendChunk keyMessage := by
  let := littleEndian
  let := Json.stringObjects
  obtain ⟨ls, s, hrun, hclean, -, hs, -⟩ := exists_exchange
  obtain ⟨client, hplays, -, hunread⟩ := Exchange.streamer s hs
  have hok := fun l hl => (hclean l hl).isFailure
  exact ⟨s, client, streamerProgram_outcome hrun hok _ _ _ _ _ hplays, hunread⟩

/-- The viewer goes on with what its streamer writes behind the registration. -/
theorem clientProgram_outcome_linked :
    letI := littleEndian
    letI := Json.stringObjects
    ∃ (s : Server) (client : Client),
      s.ClientOutcome 1 [97] [98] sessionId (.ok true client) ∧
        client.inbound.bytes = sendChunk updateMessage := by
  let := littleEndian
  let := Json.stringObjects
  obtain ⟨ls, s, hrun, hclean, -, hs, -⟩ := exists_exchange
  obtain ⟨client, hplays, -, hunread⟩ := Exchange.viewer s hs
  have hok := fun l hl => (hclean l hl).isFailure
  exact ⟨s, client, clientProgram_outcome hrun hok _ _ _ _ hplays, hunread⟩

end Server

end ScreenViewer
