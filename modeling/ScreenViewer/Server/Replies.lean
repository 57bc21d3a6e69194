import Mathlib
import ScreenViewer.Server.Bridges
import ScreenViewer.Server.Execution
import ScreenViewer.Server.Script
import ScreenViewer.SocketBase.Receive

/-!
# The replies of a sessions server

A session of the class `AuthenticatedSession` answers every request with a reply that is twenty
bytes longer than the request, while the reader of the request and the splitting of the reply share
one limit.  So a request of at most `bufferSize - 20` bytes is answered with one frame, and a longer
one with two.

`answers_of_run` says this of every run, together with what it means for a client that calls
`receiveToBuffer` once for each of its requests: it stays in step exactly if all its requests are
answered with one frame.  Conversely `run_of_requests` lets the session answer any requests that
its reader accepts.
-/

namespace ScreenViewer

open SocketBase AuthenticatedSession ServerSessionsManager

/-! ## Requests and their replies -/

/-- The requests that were passed to `handleRead`, oldest first. -/
def requests (log : List Entry) : List Message :=
  log.filterMap fun
    | .handleRead message _ => some message
    | _ => none

/-- The frames with which headers were rejected. -/
def rejections [SizeLayout] (log : List Entry) : List Message :=
  log.filterMap fun
    | .rejectedHeader header => some { type := .disconnect, content := rejection header }
    | _ => none

section Reply

variable (message : Message)

/-- A reply is twenty bytes longer than its request. -/
lemma length_reply : (reply message).content.length = message.content.length + 20 := by
  have hfront : (Bytes.ofString "Got your message! '").length = 19 := by decide +kernel
  have hquote : (Bytes.ofString "'").length = 1 := by decide +kernel
  simp only [reply, List.length_append, hfront, hquote]
  omega

/-- The two frames of a reply that exceeds the buffer. -/
def halves : List Message :=
  [{ type := .justAMessage, content := (reply message).content.take bufferSize },
    { type := .justAMessage, content := (reply message).content.drop bufferSize }]

variable {message}

/-- The reply to a request that the reader accepts is one frame or two. -/
lemma chunks_reply (h : message.content.length ≤ bufferSize) :
    chunks (reply message) =
      if message.content.length ≤ bufferSize - 20 then [reply message] else halves message := by
  have hlength := length_reply message
  have hsize : bufferSize = 5242880 := by decide
  split
  · exact chunks_of_le (by omega)
  · rw [chunks, chunksFrom, if_pos (by omega), chunksFrom, if_neg (by omega)]
    have hrest : (((reply message).content.drop bufferSize).take
        ((reply message).content.length - bufferSize)) =
          (reply message).content.drop bufferSize :=
      List.take_of_length_le (by simp)
    rw [Nat.zero_add, List.drop_zero, hrest]
    rfl

/-- The first frame of a reply is the reply only if it is the only one. -/
lemma chunks_reply_cases (h : message.content.length ≤ bufferSize) :
    chunks (reply message) = [reply message] ∧ message.content.length ≤ bufferSize - 20 ∨
      ∃ first second, chunks (reply message) = [first, second] ∧ first ≠ reply message ∧
        ¬ message.content.length ≤ bufferSize - 20 := by
  rw [chunks_reply h]
  split
  · exact Or.inl ⟨rfl, ‹_›⟩
  · refine Or.inr ⟨_, _, rfl, fun heq => ?_, ‹_›⟩
    have hlength := congrArg (fun m : Message => m.content.length) heq
    simp only [List.length_take, length_reply] at hlength
    have hsize : bufferSize = 5242880 := by decide
    omega

end Reply

/-! ## A client that receives one frame for each request -/

/-- Taking one element for each part of a concatenation gives the heads exactly if every part is
its head alone. -/
lemma take_flatMap_eq_map_iff {α β : Type*} {f : α → List β} {g : α → β} {l : List α}
    (h : ∀ x ∈ l, f x = [g x] ∨ ∃ first rest, f x = first :: rest ∧ first ≠ g x) (t : List β) :
    (l.flatMap f ++ t).take l.length = l.map g ↔ ∀ x ∈ l, f x = [g x] := by
  induction l with
  | nil => simp
  | cons x l ih =>
    have ih := ih fun y hy => h y (List.mem_cons_of_mem x hy)
    rw [List.flatMap_cons, List.append_assoc, List.length_cons, List.map_cons, List.forall_mem_cons,
      ← ih]
    rcases h x List.mem_cons_self with hone | ⟨first, rest, hmore, hne⟩
    · simp [hone]
    · simp [hmore, hne]

section Client

variable [SizeLayout]

/-- One `receiveToBuffer` for each of the first frames of a stream receives these frames. -/
lemma readFrames_replicate {fs : List Message} (hfs : ∀ f ∈ fs, f.content.length ≤ bufferSize)
    {k : ℕ} (hk : k ≤ fs.length) {r : Inbound} (hr : r.bytes = fs.flatMap sendChunk) :
    ∃ r', readFrames (List.replicate k .receiveToBuffer) r = .ok (fs.take k, r') := by
  have hsplit : r.bytes = (frameCodec bufferSize).encodeAll (fs.take k) ++
      (frameCodec bufferSize).encodeAll (fs.drop k) := by
    rw [← Framing.Codec.encodeAll_append, List.take_append_drop]
    exact hr
  have haccepts : ∀ f ∈ fs.take k, (frameCodec bufferSize).Accepts f := by
    intro f hf
    have hle := hfs f (List.mem_of_mem_take hf)
    exact ⟨hle, hle.trans_lt bufferSize_lt⟩
  have hlen : ((List.replicate k Receiver.receiveToBuffer).map Receiver.reader).length =
      (fs.take k).length := by simp [hk]
  obtain ⟨r', hread, -⟩ := Framing.readEach_encodeAll haccepts hlen
    (fun R hR => by
      obtain ⟨receiver, -, rfl⟩ := List.mem_map.mp hR
      exact receiver.reader_bytes) hsplit
  exact ⟨r', hread⟩

end Client

/-! ## Conversations of sessions that are no proxies -/

section Talk

@[simp] lemma requests_append (l m : List Entry) : requests (l ++ m) = requests l ++ requests m :=
  List.filterMap_append

/-- Only the conversation in a log has requests. -/
lemma requests_talk (log : List Entry) : requests (talk log) = requests log := by
  unfold requests talk
  rw [List.filterMap_filter]
  exact List.filterMap_congr fun e _ => by cases e <;> rfl

variable [SizeLayout]

@[simp] lemma rejections_append (l m : List Entry) :
    rejections (l ++ m) = rejections l ++ rejections m :=
  List.filterMap_append

/-- Only the conversation in a log has rejections. -/
lemma rejections_talk (log : List Entry) : rejections (talk log) = rejections log := by
  unfold rejections talk
  rw [List.filterMap_filter]
  exact List.filterMap_congr fun e _ => by cases e <;> rfl

/-- The frames that a log calls for in a session that is no proxy and has logged in. -/
def repliesTo (log : List Entry) : List Message :=
  ackMessage :: ((requests log).flatMap (fun message => chunks (reply message)) ++ rejections log)

/-- A session that is no proxy logs in, then handles requests, until a header is rejected. -/
lemma Talk.exists_login [JsonLibrary] {c : ConnId} {l : List Entry} {stage : Stage}
    (h : Talk .authenticatedSession c l stage) (hstage : ¬ stage.Outside) :
    ∃ (login : Message) (headers : List Bytes), login.type = .login ∧
      consumed l = sendChunk login ++ ((requests l).flatMap sendChunk ++ headers.flatten) ∧
      l.flatMap (Entry.callsOf .authenticatedSession) = repliesTo l ∧
      (stage = .serving ∧ headers = [] ∧ rejections l = [] ∨ stage = .rejected) := by
  induction h with
  | greeting => exact absurd trivial hstage
  | rejectedFirst header => exact absurd trivial hstage
  | refused message checks h => exact absurd trivial hstage
  | login message email password h hlen =>
    refine ⟨message, [], h.1, ?_, rfl, Or.inl ⟨rfl, rfl, rfl⟩⟩
    simp [consumed, requests]
  | answered message isRegistered hl h ih =>
    obtain ⟨login, headers, htype, hconsumed, hcalls, ⟨-, rfl, hnone⟩ | hserving⟩ := ih id
    · refine ⟨login, [], htype, ?_, ?_, Or.inl ⟨rfl, rfl, ?_⟩⟩
      · rw [consumed_append, hconsumed]
        simp [consumed, requests]
      · have hrequest : requests [.handleRead message isRegistered] = [message] := rfl
        have hrejections : rejections [.handleRead message isRegistered] = [] := rfl
        rw [List.flatMap_append, hcalls]
        simp [repliesTo, requests_append, rejections_append, hnone, hrequest, hrejections,
          Entry.callsOf]
      · rw [rejections_append, hnone]
        rfl
    · cases hserving
  | rejected header hl ih =>
    obtain ⟨login, headers, htype, hconsumed, hcalls, ⟨-, rfl, hnone⟩ | hserving⟩ := ih id
    · refine ⟨login, [header], htype, ?_, ?_, Or.inr rfl⟩
      · rw [consumed_append, hconsumed]
        simp [consumed, requests]
      · have hrequest : requests [.rejectedHeader header] = [] := rfl
        have hrejections : rejections [.rejectedHeader header] =
            [{ type := .disconnect, content := rejection header }] := rfl
        rw [List.flatMap_append, hcalls]
        simp [repliesTo, requests_append, rejections_append, hnone, hrequest, hrejections,
          Entry.callsOf, Entry.calls]
    · cases hserving
  | registered message isRegistered hl hclass h ih => cases hclass
  | claimed receiver hl hne ih =>
    obtain ⟨login, headers, -, -, -, ⟨hstage, -⟩ | hstage⟩ := ih id <;> cases hstage
  | found message streamer hl hclass h hne ih => cases hclass

end Talk

/-! ## One connection -/

section Views

variable [SizeLayout] [JsonLibrary] {c : ConnId} {v v' : View}

/-- A session that is no proxy waits in no registry, and no bridge takes over its socket. -/
lemma SessionInv.alone (hi : SessionInv .authenticatedSession c v) :
    v.waiting = 0 ∧ v.joins = [] := by
  obtain ⟨stage, htalk, hin⟩ := hi.inStage
  have hstage : stage.Outside ∨ stage = .serving ∨ stage = .rejected := by
    by_cases hout : stage.Outside
    · exact Or.inl hout
    · obtain ⟨-, -, -, -, -, ⟨h, -⟩ | h⟩ := htalk.exists_login hout
      · exact Or.inr (Or.inl h)
      · exact Or.inr (Or.inr h)
  constructor
  · refine hin.waiting_eq_zero ?_
    rintro rfl
    rcases hstage with h | h | h <;> cases h
  · refine hin.joins_eq_nil ?_
    rintro sender receiver ⟨-, ⟨-, rfl⟩ | ⟨-, rfl⟩⟩ <;> rcases hstage with h | h | h <;> cases h

/-- What is added to the log of a session that is no proxy, as long as nothing fails: no request is
longer than the limit, and nothing is written but whole frames. -/
lemma View.Move.exists_entries (hi : SessionInv .authenticatedSession c v)
    (h : v.Move .authenticatedSession c false v') :
    ∃ entries, v'.log = v.log ++ entries ∧
      (∀ message ∈ requests entries, message.content.length ≤ bufferSize) ∧
      ∀ e ∈ entries, e.isWritten = true → ∃ message, e = .frame message := by
  cases h with
  | answered _ header message isRegistered hidle hread hlen hmessage hcontinues =>
    refine ⟨_, rfl, ?_, by simp [Entry.isWritten]⟩
    obtain ⟨hhandler, -⟩ | ⟨-, hle, -⟩ := hi.stage_of_body hread
    · cases hhandler
    · subst hmessage
      simpa [requests] using Or.inl hle
  | relays _ n bs hjoins => exact absurd hi.alone.2 hjoins
  | registered _ _ _ _ _ _ _ _ hclass => cases hclass
  | found _ _ _ _ _ _ _ _ hclass => cases hclass
  | refused _ header message checks todo hidle hread hlen hmessage hchecks htodo =>
    refine ⟨_, rfl, ?_⟩
    rcases hchecks with rfl | ⟨email, password, result, -, rfl⟩ <;> simp [requests, Entry.isWritten]
  | headerRejected | login | claimed | dropped | sends =>
    exact ⟨_, rfl, by simp [requests], by simp [Entry.isWritten]⟩
  | _ => exact ⟨[], (List.append_nil _).symm, by simp [requests], by simp⟩

/-- How a session that is no proxy answers, as long as nothing fails. -/
structure ReplyingInv (v : View) : Prop where
  follows : Follows .authenticatedSession v
  length_le : ∀ message ∈ requests v.log, message.content.length ≤ bufferSize
  whole : ∀ e ∈ v.log, e.isWritten = true → ∃ message, e = .frame message

/-- Every move without a failure keeps the session answering. -/
lemma ReplyingInv.move (h : ReplyingInv v) (hi : SessionInv .authenticatedSession c v)
    (hmove : v.Move .authenticatedSession c false v') : ReplyingInv v' := by
  obtain ⟨entries, hlog, hrequests, hentries⟩ := hmove.exists_entries hi
  refine ⟨h.follows.move hi hmove, fun message hmem => ?_, fun e he => ?_⟩
  · rw [hlog, requests_append] at hmem
    exact (List.mem_append.mp hmem).elim (h.length_le message) (hrequests message)
  · rw [hlog] at he
    exact (List.mem_append.mp he).elim (h.whole e) (hentries e)

end Views

namespace Server

/-! ## Every run -/

section Runs

variable [SizeLayout] [JsonLibrary] {s t : Server} {c : ConnId}

/-- What a handler of a session that is no proxy has to do is about its own session. -/
def OwnPlan (s : Server) : Prop := ∀ a ∈ s.plan, a.sessions = [s.self]

omit [SizeLayout] in
/-- Running a handler leaves a plan about its own session. -/
lemma ownPlan_runHandler {now : Time} {message : Message} {messageHandler : MessageHandler}
    {e : Effect}
    (he : Handled .authenticatedSession s.sendersSessions c now message messageHandler e)
    (r : Server) : (r.runHandler c e).OwnPlan := by
  unfold OwnPlan
  rw [self_runHandler]
  cases he with
  | login email password h => exact fun a => sessions_of_mem_reply
  | refused checks plan h hplan => exact fun a ha => sessions_of_farewell (hplan a ha)
  | thrown checks what h => exact fun a => sessions_of_mem_disconnect
  | answered isRegistered h => exact fun a => sessions_of_mem_reply
  | registered isRegistered hclass h => cases hclass
  | found streamer hclass h hlookup => cases hclass

/-- Every move keeps plans to their own sessions. -/
lemma OwnPlan.move (hi : s.OwnPlan) {l : Label} (h : Move .authenticatedSession s l t) :
    t.OwnPlan := by
  cases h with
  | accept c hidle hnew => simp [OwnPlan, Action.sessions]
  | headerRejected c messageHandler maxMessageSize what hidle hread hlen hheader =>
    exact fun a => sessions_of_mem_disconnect
  | bodyCompletes c messageHandler header usersManager now hidle hread hlen =>
    exact ownPlan_runHandler (handled_invoke usersManager messageHandler) _
  | performs a rest hplan hcan =>
    intro b hb
    have hown := hi b (hplan ▸ List.mem_cons_of_mem a hb)
    cases a <;> exact hown
  | throws a rest what written hplan hcan =>
    unfold catchException
    split
    · simp [OwnPlan]
    · exact fun b => sessions_of_mem_disconnect
  | _ => exact hi

/-- An operation that throws on another session's socket does not concern a session. -/
lemma OwnPlan.view_throws (hi : s.OwnPlan) {a : Action}
    (h : Move .authenticatedSession s (.throws a) t) (hc : c ∉ a.sessions) :
    t.view c = s.view c := by
  cases h with
  | throws _ rest what written hplan hcan =>
    have ha : a.sessions = [s.self] := hi a (by rw [hplan]; exact List.mem_cons_self)
    have hne : c ≠ s.self := by simpa [ha] using hc
    have hself : (s.performPartly a written).self = s.self := by cases a <;> rfl
    obtain ⟨torn, htorn, hview⟩ := s.view_performPartly a written c
    have hnone : torn = [] := by
      refine List.eq_nil_iff_forall_not_mem.mpr fun t ht => hc ?_
      rw [htorn t ht]
      exact List.mem_singleton_self c
    have htodo : about c s.plan = [] := about_of_ne hi hne
    have hplan' : about c ((s.performPartly a written).catchException what).plan = [] := by
      unfold catchException
      split
      · rfl
      · refine about_of_ne (fun b hb => ?_) hne
        rw [← hself]
        exact sessions_of_mem_disconnect hb
    rw [view_catchException, hview, hnone, hplan', List.map_nil, List.append_nil, ← htodo]
    rfl

/-- What holds of a sessions server as long as no operation on the socket of `c` throws. -/
structure SessionsInv (s : Server) (c : ConnId) : Prop where
  inv : Inv .authenticatedSession s
  own : s.OwnPlan
  escaped : s.escaped = none
  replying : ReplyingInv (s.view c)

/-- The invariant of a server that has just been started. -/
lemma sessionsInv_init (c : ConnId) : SessionsInv init c where
  inv := inv_init
  own := by simp [OwnPlan, init]
  escaped := rfl
  replying := ⟨⟨fun _ => ⟨rfl, rfl⟩, fun _ => rfl⟩, by simp [view, init, Socket.accepted, requests],
    by simp [view, init, Socket.accepted]⟩

/-- No step that does not throw on the socket of `c` breaks the invariant. -/
lemma SessionsInv.step (hi : SessionsInv s c) {l : Label} (h : Step .authenticatedSession s l t)
    (hl : ∀ a, l = .throws a → c ∉ a.sessions) : SessionsInv t c where
  inv := hi.inv.step h
  own := hi.own.move h.2
  escaped := by
    have hbridges : s.bridges = [] := by
      refine List.eq_nil_iff_forall_not_mem.mpr fun j hj => ?_
      have hjoins := mem_joins hj .one
      rw [(hi.inv.session _).alone.2] at hjoins
      cases hjoins
    refine (escaped_of_move h.2 ?_).trans hi.escaped
    rintro sender receiver bl rfl
    cases h.2 with
    | bridge pre j post l b hidle hj => simp [hbridges] at hj
  replying := by
    have hmove := view_move hi.inv.tidy h.2 c
    cases hfailed : IsFailure l with
    | false => exact hi.replying.move (hi.inv.session c) (hfailed ▸ hmove)
    | true =>
      cases l with
      | throws a =>
        rw [hi.own.view_throws h.2 (hl a rfl)]
        exact hi.replying
      | _ => cases hfailed

/-- The session has nothing to do any more and cannot go on reading. -/
def AtRest (s : Server) (c : ConnId) : Prop :=
  s.plan = [] ∧ (∀ t, ¬ Step .authenticatedSession s (.headerCompletes c) t) ∧
    ∀ t, ¬ Step .authenticatedSession s (.bodyCompletes c) t

/-- How the session of the connection `c` has answered its requests. -/
structure Answers (s : Server) (c : ConnId) : Prop where
  /-- The requests handled are the frames that the peer wrote behind its login, in this order, and
  a session that still reads comes to rest only when it has handled all that are complete. -/
  handled : ∃ login rest, login.type = .login ∧
    (s.conn c).socket.sent =
      sendChunk login ++ ((requests (s.conn c).socket.log).flatMap sendChunk ++ rest) ∧
    (s.AtRest c → (s.conn c).reads ≠ [] → decodeFrame bufferSize rest = none)
  /-- The frames written and still to be written are the `ACK` and the replies, in this order, and
  then a `DISCONNECT` if a header was rejected. -/
  frames : frames (s.conn c).socket.log ++ queued (about c s.plan) =
    ackMessage :: ((requests (s.conn c).socket.log).flatMap (fun m => chunks (reply m)) ++
      rejections (s.conn c).socket.log)
  /-- Nothing else was written. -/
  whole : ∀ e ∈ (s.conn c).socket.log, e.isWritten = true → ∃ message, e = .frame message
  /-- A reply is a `JUST_A_MESSAGE` with this text. -/
  text : ∀ m ∈ requests (s.conn c).socket.log, (reply m).type = .justAMessage ∧
    (reply m).content =
      Bytes.ofString "Got your message! '" ++ m.content ++ Bytes.ofString "'"
  /-- A reply is one frame, or two if the request has more than `bufferSize - 20` bytes. -/
  split : ∀ m ∈ requests (s.conn c).socket.log,
    m.content.length ≤ bufferSize ∧
      chunks (reply m) = if m.content.length ≤ bufferSize - 20 then [reply m] else halves m
  /-- A client that receives the `ACK` and then one frame for each of its requests receives the
  replies exactly if no request has more than `bufferSize - 20` bytes. -/
  inStep : queued (about c s.plan) = [] → ∀ r : Inbound,
    r.bytes = (ScreenViewer.frames (s.conn c).socket.log).flatMap sendChunk →
      ((∃ r', readFrames
          (List.replicate ((requests (s.conn c).socket.log).length + 1) .receiveToBuffer) r =
            .ok (ackMessage :: (requests (s.conn c).socket.log).map reply, r')) ↔
        ∀ m ∈ requests (s.conn c).socket.log, m.content.length ≤ bufferSize - 20)

/-- At rest, no complete frame is in front of a session that still reads. -/
lemma SessionsInv.decodeFrame_eq_none (hi : SessionsInv s c) (hrest : s.AtRest c)
    (hreads : (s.conn c).reads ≠ []) :
    decodeFrame bufferSize (taken (s.conn c).reads ++ (s.conn c).socket.unread) = none := by
  obtain ⟨hidle, hheader, hbody⟩ := hrest
  obtain ⟨read, hread⟩ := List.exists_mem_of_ne_nil _ hreads
  refine (hi.inv.session c).decodeFrame_eq_none hread ?_
  by_contra hlong
  have hlen := not_lt.mp hlong
  cases read with
  | header messageHandler maxMessageSize =>
    cases hparse : MessageHeader.deserialize ((s.conn c).socket.unread.take MessageHeader.size)
      MessageHeader.size maxMessageSize with
    | ok header =>
      exact hheader _ ⟨hi.escaped, Move.headerAccepted s c _ _ header hidle hread hlen hparse⟩
    | error what =>
      exact hheader _ ⟨hi.escaped, Move.headerRejected s c _ _ what hidle hread hlen hparse⟩
  | body messageHandler header =>
    exact hbody _ ⟨hi.escaped, Move.bodyCompletes s c _ _ none 0 hidle hread hlen⟩

/-- Whoever has logged in is past the login. -/
lemma SessionsInv.exists_login (hi : SessionsInv s c) (hin : LoggedIn (s.conn c).socket.log) :
    ∃ (login : Message) (headers : List Bytes), login.type = .login ∧
      consumed (s.conn c).socket.log = sendChunk login ++
        ((requests (s.conn c).socket.log).flatMap sendChunk ++ headers.flatten) ∧
      (s.conn c).socket.log.flatMap (Entry.callsOf .authenticatedSession) =
        repliesTo (s.conn c).socket.log ∧
      ((s.conn c).reads ≠ [] → headers = []) := by
  obtain ⟨stage, htalk, hstages⟩ := (hi.inv.session c).inStage
  have hstage : ¬ stage.Outside := hin.not_outside htalk
  obtain ⟨login, headers, htype, hconsumed, hcalls, hend⟩ := htalk.exists_login hstage
  have htalk_eq : talk (s.view c).log = talk (s.conn c).socket.log := rfl
  rw [htalk_eq] at hconsumed hcalls
  rw [consumed_talk, requests_talk] at hconsumed
  rw [flatMap_callsOf_talk, repliesTo, requests_talk, rejections_talk] at hcalls
  refine ⟨login, headers, htype, hconsumed, hcalls, fun hreads => ?_⟩
  rcases hend with ⟨-, hnone, -⟩ | rfl
  · exact hnone
  · exact absurd (hstages.reads_eq_nil fun read => by cases read <;> exact id) hreads

/-- The requests handled are the frames behind the login. -/
lemma SessionsInv.exists_handled (hi : SessionsInv s c) (hin : LoggedIn (s.conn c).socket.log) :
    ∃ login rest, login.type = .login ∧
      (s.conn c).socket.sent =
        sendChunk login ++ ((requests (s.conn c).socket.log).flatMap sendChunk ++ rest) ∧
      (s.AtRest c → (s.conn c).reads ≠ [] → decodeFrame bufferSize rest = none) := by
  obtain ⟨login, headers, htype, hconsumed, -, hheaders⟩ := hi.exists_login hin
  by_cases hreads : (s.conn c).reads = []
  · obtain ⟨rest, hrest⟩ := (hi.inv.session c).prefix_consumed
    refine ⟨login, headers.flatten ++ rest, htype, ?_, fun _ hne => absurd hreads hne⟩
    change _ = (s.conn c).socket.sent at hrest
    change consumed (s.conn c).socket.log ++ rest = _ at hrest
    rw [← hrest, hconsumed]
    simp
  · obtain ⟨read, hread⟩ := List.exists_mem_of_ne_nil _ hreads
    have hsent := (hi.inv.session c).sent_eq (SessionInv.owners_of_mem_reads hread)
      (hi.inv.session c).alone.2
    change (s.conn c).socket.sent = consumed (s.conn c).socket.log ++
      (taken (s.conn c).reads ++ (s.conn c).socket.unread) at hsent
    refine ⟨login, taken (s.conn c).reads ++ (s.conn c).socket.unread, htype, ?_,
      fun hrest hne => hi.decodeFrame_eq_none hrest hne⟩
    rw [hsent, hconsumed, hheaders hreads]
    simp

/-- The frames that the session is sent are those called for. -/
lemma SessionsInv.frames_eq (hi : SessionsInv s c) (hin : LoggedIn (s.conn c).socket.log) :
    frames (s.conn c).socket.log ++ queued (about c s.plan) =
      repliesTo (s.conn c).socket.log := by
  obtain ⟨-, -, -, -, hcalls, -⟩ := hi.exists_login hin
  rw [← hcalls]
  exact hi.replying.follows.script hin

omit [JsonLibrary] in
/-- No frame for a session exceeds the buffer. -/
lemma length_le_of_mem_repliesTo {log : List Entry} {f : Message} (hf : f ∈ repliesTo log) :
    f.content.length ≤ bufferSize := by
  rcases List.mem_cons.mp hf with rfl | hf
  · exact Nat.zero_le _
  · rcases List.mem_append.mp hf with hf | hf
    · obtain ⟨m, -, hm⟩ := List.mem_flatMap.mp hf
      exact (isChunking_chunks (reply m)).length_le f hm
    · obtain ⟨e, -, he⟩ := List.mem_filterMap.mp hf
      cases e with
      | rejectedHeader header =>
        cases he
        unfold rejection
        split
        · exact length_le_of_deserialize_eq_error ‹_›
        · exact Nat.zero_le _
      | _ => cases he

/-- When all frames have been written, a client that receives the `ACK` and one frame for each of
its requests receives the replies exactly if each of them is one frame. -/
lemma SessionsInv.inStep (hi : SessionsInv s c) (hin : LoggedIn (s.conn c).socket.log)
    (hqueued : queued (about c s.plan) = []) (r : Inbound)
    (hr : r.bytes = (frames (s.conn c).socket.log).flatMap sendChunk) :
    (∃ r', readFrames
        (List.replicate ((requests (s.conn c).socket.log).length + 1) .receiveToBuffer) r =
          .ok (ackMessage :: (requests (s.conn c).socket.log).map reply, r')) ↔
      ∀ m ∈ requests (s.conn c).socket.log, m.content.length ≤ bufferSize - 20 := by
  have hframes := hi.frames_eq hin
  rw [hqueued, List.append_nil] at hframes
  rw [hframes] at hr
  have hcases := fun m hm => chunks_reply_cases (hi.replying.length_le m hm)
  have hheads : ∀ m ∈ requests (s.conn c).socket.log, chunks (reply m) = [reply m] ∨
      ∃ first rest, chunks (reply m) = first :: rest ∧ first ≠ reply m := by
    intro m hm
    rcases hcases m hm with ⟨hone, -⟩ | ⟨first, second, htwo, hne, -⟩
    · exact Or.inl hone
    · exact Or.inr ⟨first, [second], htwo, hne⟩
  have hiff : (∀ m ∈ requests (s.conn c).socket.log, chunks (reply m) = [reply m]) ↔
      ∀ m ∈ requests (s.conn c).socket.log, m.content.length ≤ bufferSize - 20 := by
    refine forall₂_congr fun m hm => ?_
    rcases hcases m hm with ⟨hone, hle⟩ | ⟨first, second, htwo, -, hgt⟩
    · exact iff_of_true hone hle
    · refine iff_of_false (fun hone => ?_) hgt
      rw [htwo] at hone
      simp at hone
  have hlen : (requests (s.conn c).socket.log).length + 1 ≤
      (repliesTo (s.conn c).socket.log).length := by
    rw [repliesTo, List.length_cons, List.length_append, List.length_flatMap]
    have hsum := List.length_le_sum_of_one_le
      ((requests (s.conn c).socket.log).map fun m => (chunks (reply m)).length) fun n hn => by
        obtain ⟨m, -, rfl⟩ := List.mem_map.mp hn
        rw [(isChunking_chunks (reply m)).length_eq]
        exact le_max_left _ _
    rw [List.length_map] at hsum
    omega
  obtain ⟨r', hread⟩ := readFrames_replicate (fun f hf => length_le_of_mem_repliesTo hf) hlen hr
  rw [← hiff, ← take_flatMap_eq_map_iff hheads (rejections (s.conn c).socket.log), hread]
  simp [repliesTo]

/-- In every run of a sessions server in which no operation on the socket of `c` throws, the session
of `c`, once it has logged in, answers its requests. -/
theorem answers_of_run {ls : List Label}
    (hrun : Transition.Run (Step .authenticatedSession) init ls s)
    (hok : ∀ a, .throws a ∈ ls → c ∉ a.sessions) (hin : LoggedIn (s.conn c).socket.log) :
    s.Answers c := by
  have hi : SessionsInv s c :=
    hrun.invariant_of_labels (I := fun s => SessionsInv s c)
      (P := fun l => ∀ a, l = .throws a → c ∉ a.sessions) (fun l hl a ha => hok a (ha ▸ hl))
      (sessionsInv_init c) fun _ _ _ hl hi hs => hi.step hs hl
  exact ⟨hi.exists_handled hin, hi.frames_eq hin, hi.replying.whole, fun _ _ => ⟨rfl, rfl⟩,
    fun m hm => ⟨hi.replying.length_le m hm, chunks_reply (hi.replying.length_le m hm)⟩,
    hi.inStep hin⟩

end Runs

/-! ## Requests that are written are answered -/

section Progress

variable [SizeLayout] [JsonLibrary] {s t : Server} {c : ConnId} {log : List Entry}

/-- The session of `c` is connected, reads as `reads` say and has `plan` to do; its log and what it
has not read are given. -/
structure Serving (s : Server) (c : ConnId) (reads : List PendingRead) (unread : Bytes)
    (log : List Entry) (plan : Plan) : Prop where
  escaped : s.escaped = none
  connected : s.Connected c
  reads : (s.conn c).reads = reads
  unread : (s.conn c).socket.unread = unread
  log : (s.conn c).socket.log = log
  plan : s.plan = plan

/-- A server gets from one state to another without an exception. -/
def Reaches (s t : Server) : Prop :=
  ∃ ls, Transition.Run (Step .authenticatedSession) s ls t ∧ ∀ a, .throws a ∉ ls

/-- A step that throws nothing goes on. -/
lemma Reaches.snoc {r : Server} (h : s.Reaches t) {l : Label}
    (hstep : Step .authenticatedSession t l r) (hl : ∀ a, l ≠ .throws a) : s.Reaches r := by
  obtain ⟨ls, hrun, hok⟩ := h
  refine ⟨ls ++ [l], hrun.snoc hstep, fun a hmem => ?_⟩
  rcases List.mem_append.mp hmem with hmem | hmem
  · exact hok a hmem
  · exact hl a (List.mem_singleton.mp hmem).symm

/-- What is reached goes on. -/
lemma Reaches.trans {r : Server} (h : s.Reaches t) (h' : t.Reaches r) : s.Reaches r := by
  obtain ⟨ls, hrun, hok⟩ := h
  obtain ⟨ms, hrun', hok'⟩ := h'
  refine ⟨ls ++ ms, hrun.append hrun', fun a hmem => ?_⟩
  exact (List.mem_append.mp hmem).elim (hok a) (hok' a)

/-- A server reaches itself. -/
lemma Reaches.refl (s : Server) : s.Reaches s := ⟨[], Transition.Run.nil s, fun _ h => by cases h⟩

/-- Frames that are to be written to a connected socket can be written. -/
lemma Serving.writes {reads : List PendingRead} {unread : Bytes} {rest : Plan}
    (fs : List Message)
    (h : Serving s c reads unread log (fs.map (Action.sendChunk c) ++ rest)) :
    ∃ t, s.Reaches t ∧ Serving t c reads unread (log ++ fs.map .frame) rest := by
  induction fs generalizing s log with
  | nil => exact ⟨s, Reaches.refl s, by simpa using h⟩
  | cons f fs ih =>
    have hstep : Step .authenticatedSession s (.performs (.sendChunk c f))
        { s.perform (.sendChunk c f) with plan := fs.map (Action.sendChunk c) ++ rest } :=
      ⟨h.escaped, Move.performs s _ _ h.plan h.connected⟩
    have hnext : Serving
        { s.perform (.sendChunk c f) with plan := fs.map (Action.sendChunk c) ++ rest } c reads
        unread (log ++ [.frame f]) (fs.map (Action.sendChunk c) ++ rest) := by
      have hconnected := h.connected
      refine ⟨h.escaped, ?_, ?_, ?_, ?_, rfl⟩
      · simpa [Connected, perform, updateSocket, updateConn, Socket.record] using hconnected
      · simpa [perform, updateSocket, updateConn] using h.reads
      · simpa [perform, updateSocket, updateConn, Socket.record] using h.unread
      · simpa [perform, updateSocket, updateConn, Socket.record] using h.log
    obtain ⟨t, hreaches, hserving⟩ := ih hnext
    exact ⟨t, ((Reaches.refl s).snoc hstep (fun _ => by simp)).trans hreaches,
      by simpa using hserving⟩

/-- The next read is started. -/
lemma Serving.arms {unread : Bytes}
    (h : Serving s c [] unread log (scheduleNewAsyncRead c)) :
    ∃ t, s.Reaches t ∧ Serving t c [.header .handleRead bufferSize] unread log [] := by
  have hstep : Step .authenticatedSession s
      (.performs (.asyncReadMessage c .handleRead bufferSize))
      { s.perform (.asyncReadMessage c .handleRead bufferSize) with plan := [] } :=
    ⟨h.escaped, Move.performs s _ _ h.plan le_rfl⟩
  refine ⟨_, (Reaches.refl s).snoc hstep (fun _ => by simp), h.escaped, ?_, ?_, ?_, ?_, rfl⟩
  · simpa [Connected, perform, asyncRead, updateConn] using h.connected
  · simp [perform, asyncRead, updateConn, h.reads]
  · simpa [perform, asyncRead, updateConn] using h.unread
  · simpa [perform, asyncRead, updateConn] using h.log

/-- The header of a request in front of a session that waits for one is read. -/
lemma Serving.readsHeader {message : Message} {rest : Bytes}
    (hlen : message.content.length ≤ bufferSize)
    (h : Serving s c [.header .handleRead bufferSize] (sendChunk message ++ rest) log []) :
    ∃ t, s.Reaches t ∧
      Serving t c [.body .handleRead (headerOf message)] (message.content ++ rest) log [] := by
  have hsize := toNat_messageSize_headerOf (hlen.trans_lt bufferSize_lt)
  have hsplit : sendChunk message ++ rest =
      (headerOf message).serialize ++ (message.content ++ rest) := by
    rw [sendChunk, List.append_assoc]
  have hunread := h.unread.trans hsplit
  have hheader : MessageHeader.deserialize ((s.conn c).socket.unread.take MessageHeader.size)
      MessageHeader.size bufferSize = .ok (headerOf message) := by
    rw [hunread, List.take_left' (MessageHeader.length_serialize _)]
    exact MessageHeader.deserialize_serialize (hsize.trans_le hlen)
  have hread : .header .handleRead bufferSize ∈ (s.conn c).reads := by simp [h.reads]
  have hlong : MessageHeader.size ≤ (s.conn c).socket.unread.length := by
    rw [hunread, List.length_append, MessageHeader.length_serialize]
    omega
  have hdrop : (s.conn c).socket.unread.drop MessageHeader.size = message.content ++ rest := by
    rw [hunread, List.drop_left' (MessageHeader.length_serialize _)]
  refine ⟨_, (Reaches.refl s).snoc ⟨h.escaped, Move.headerAccepted s c _ _ _ h.plan hread hlong
    hheader⟩ (fun _ => by simp), h.escaped, ?_, ?_, ?_, ?_, h.plan⟩
  · simpa [Connected, asyncRead, completeRead, updateConn, Socket.take] using h.connected
  · simp [asyncRead, completeRead, updateConn, h.reads]
  · simpa [asyncRead, completeRead, updateConn, Socket.take] using hdrop
  · simpa [asyncRead, completeRead, updateConn, Socket.take] using h.log

/-- The body of a request is read, and its handler runs. -/
lemma Serving.handles {message : Message} {rest : Bytes}
    (hlen : message.content.length ≤ bufferSize)
    (h : Serving s c [.body .handleRead (headerOf message)] (message.content ++ rest) log []) :
    ∃ t isRegistered, s.Reaches t ∧
      Serving t c [] rest (log ++ [.handleRead message isRegistered])
        (sendPlan c (reply message) ++ scheduleNewAsyncRead c) := by
  have hsize := toNat_messageSize_headerOf (hlen.trans_lt bufferSize_lt)
  have hread : .body .handleRead (headerOf message) ∈ (s.conn c).reads := by simp [h.reads]
  have hlong : (headerOf message).messageSize.toNat ≤ (s.conn c).socket.unread.length := by
    rw [h.unread, hsize, List.length_append]
    omega
  have hdrop : (s.conn c).socket.unread.drop (headerOf message).messageSize.toNat = rest := by
    rw [h.unread, hsize, List.drop_left]
  have hmessage : (⟨(headerOf message).type,
      (s.conn c).socket.unread.take (headerOf message).messageSize.toNat⟩ : Message) = message := by
    rw [h.unread, hsize, List.take_left]
    rfl
  have hstep : Move .authenticatedSession s (.bodyCompletes c) _ :=
    Move.bodyCompletes s c _ _ none 0 h.plan hread hlong
  rw [hmessage] at hstep
  refine ⟨_, decide (message.content ∈ s.sendersSessions), (Reaches.refl s).snoc
    ⟨h.escaped, hstep⟩ (fun _ => by simp), h.escaped, ?_, ?_, ?_, ?_, rfl⟩
  · simpa [Connected, completeRead, updateConn, Socket.take, record] using h.connected
  · simp [completeRead, updateConn, record, h.reads]
  · simpa [completeRead, updateConn, record, Socket.take] using hdrop
  · simpa [completeRead, updateConn, record, Socket.take, invoke, handleRead] using h.log

/-- A request in front of a session that waits for one is answered, and the session waits again. -/
lemma Serving.answers {message : Message} {rest : Bytes}
    (hlen : message.content.length ≤ bufferSize)
    (h : Serving s c [.header .handleRead bufferSize] (sendChunk message ++ rest) log []) :
    ∃ t isRegistered, s.Reaches t ∧
      Serving t c [.header .handleRead bufferSize] rest
        (log ++ .handleRead message isRegistered :: (chunks (reply message)).map .frame) [] := by
  obtain ⟨t₁, hreaches₁, h₁⟩ := h.readsHeader hlen
  obtain ⟨t₂, isRegistered, hreaches₂, h₂⟩ := h₁.handles hlen
  obtain ⟨t₃, hreaches₃, h₃⟩ := Serving.writes (chunks (reply message)) h₂
  obtain ⟨t₄, hreaches₄, h₄⟩ := h₃.arms
  exact ⟨t₄, isRegistered, ((hreaches₁.trans hreaches₂).trans hreaches₃).trans hreaches₄,
    by simpa using h₄⟩

/-- A peer that has not ended its stream can write. -/
lemma Serving.peerWrites {reads : List PendingRead} {unread : Bytes} {plan : Plan} (bytes : Bytes)
    (hnew : (s.conn c).accepted = true) (hopen : (s.conn c).socket.ended = false)
    (h : Serving s c reads unread log plan) :
    ∃ t, s.Reaches t ∧ Serving t c reads (unread ++ bytes) log plan := by
  refine ⟨_, (Reaches.refl s).snoc ⟨h.escaped, Move.peerWrites s c bytes hnew hopen⟩
    (fun _ => by simp), h.escaped, ?_, ?_, ?_, ?_, h.plan⟩
  · simpa [Connected, updateSocket, updateConn, Socket.peerWrites] using h.connected
  · simpa [updateSocket, updateConn] using h.reads
  · simp [updateSocket, updateConn, Socket.peerWrites, h.unread]
  · simpa [updateSocket, updateConn, Socket.peerWrites] using h.log

/-- All the requests that a peer has written can be answered one after another. -/
theorem Serving.run_of_requests {ms : List Message} {rest : Bytes}
    (hms : ∀ m ∈ ms, m.content.length ≤ bufferSize)
    (h : Serving s c [.header .handleRead bufferSize] (ms.flatMap sendChunk ++ rest) log []) :
    ∃ t entries, s.Reaches t ∧
      Serving t c [.header .handleRead bufferSize] rest (log ++ entries) [] ∧
      requests entries = ms ∧ frames entries = ms.flatMap (fun m => chunks (reply m)) := by
  induction ms generalizing s log with
  | nil => exact ⟨s, [], Reaches.refl s, by simpa using h, rfl, rfl⟩
  | cons m ms ih =>
    rw [List.flatMap_cons, List.append_assoc] at h
    obtain ⟨t₁, isRegistered, hreaches₁, h₁⟩ := h.answers (hms m List.mem_cons_self)
    obtain ⟨t, entries, hreaches, h₂, hrequests, hframes⟩ :=
      ih (fun m' hm' => hms m' (List.mem_cons_of_mem m hm')) h₁
    refine ⟨t, _, hreaches₁.trans hreaches, by rwa [← List.append_assoc], ?_, ?_⟩
    · rw [requests_append, hrequests]
      simp [requests]
    · rw [frames_append, hframes]
      simp [frames]

end Progress

/-- A client logs in, sends a request of two bytes and receives the reply. -/
theorem answers_of_run_short :
    letI := littleEndian
    letI := Json.stringObjects
    ∃ ls s, Transition.Run (Step .authenticatedSession) init ls s ∧ s.Answers 0 ∧
      requests (s.conn 0).socket.log = [⟨.justAMessage, [72, 105]⟩] ∧
      frames (s.conn 0).socket.log =
        [⟨.ack, []⟩, ⟨.justAMessage, Bytes.ofString "Got your message! 'Hi'"⟩] := by
  let := littleEndian
  let := Json.stringObjects
  obtain ⟨ls, s, hrun, hs⟩ := exists_run_of_replay .authenticatedSession (s := init)
    (logsIn 0 ++ writes 0 none 0 ⟨.justAMessage, [72, 105]⟩ ++ [.performs, .performs])
    (fun ls s => (∀ l ∈ ls, IsFailure l = false) ∧
      .credentialCheck [97] [98] (.ok true) ∈ (s.conn 0).socket.log ∧
      requests (s.conn 0).socket.log = [⟨.justAMessage, [72, 105]⟩] ∧
      frames (s.conn 0).socket.log =
        [⟨.ack, []⟩, ⟨.justAMessage, Bytes.ofString "Got your message! 'Hi'"⟩])
    (by decide +kernel)
  obtain ⟨hok, hlogin, hrequests, hframes⟩ := of_decide_eq_true hs
  refine ⟨ls, s, hrun, answers_of_run hrun (fun a hmem => ?_) ⟨_, _, hlogin⟩, hrequests, hframes⟩
  cases hok _ hmem

/-- Every request that the reader accepts is answered in some run, the first after the login. -/
lemma exists_run_of_request {message : Message} (hlen : message.content.length ≤ bufferSize) :
    letI := littleEndian
    letI := Json.stringObjects
    ∃ ls s, Transition.Run (Step .authenticatedSession) init ls s ∧ (∀ a, .throws a ∉ ls) ∧
      s.plan = [] ∧ LoggedIn (s.conn 0).socket.log ∧
      requests (s.conn 0).socket.log = [message] ∧
      frames (s.conn 0).socket.log = ackMessage :: chunks (reply message) := by
  let := littleEndian
  let := Json.stringObjects
  obtain ⟨ls, s, hrun, hs⟩ := exists_run_of_replay .authenticatedSession (s := init) (logsIn 0)
    (fun ls s => (∀ l ∈ ls, IsFailure l = false) ∧
      .credentialCheck [97] [98] (.ok true) ∈ (s.conn 0).socket.log ∧
      requests (s.conn 0).socket.log = [] ∧ frames (s.conn 0).socket.log = [ackMessage] ∧
      (s.conn 0).accepted = true ∧ (s.conn 0).socket.ended = false ∧ s.escaped = none ∧
      s.Connected 0 ∧ (s.conn 0).reads = [.header .handleRead bufferSize] ∧
      (s.conn 0).socket.unread = [] ∧ s.plan = [])
    (by decide +kernel)
  obtain ⟨hok, hlogin, hrequests, hframes, hnew, hopen, hescaped, hconnected, hreads, hunread,
    hplan⟩ := of_decide_eq_true hs
  have hstart : init.Reaches s := ⟨ls, hrun, fun a hmem => by cases hok _ hmem⟩
  have hserving : Serving s 0 [.header .handleRead bufferSize] [] (s.conn 0).socket.log [] :=
    ⟨hescaped, hconnected, hreads, hunread, rfl, hplan⟩
  obtain ⟨t₁, hreaches₁, h₁⟩ := hserving.peerWrites ([message].flatMap sendChunk ++ []) hnew hopen
  obtain ⟨t, entries, hreaches, h, hmessage, hanswer⟩ :=
    h₁.run_of_requests fun m hm => List.mem_singleton.mp hm ▸ hlen
  obtain ⟨ms, hrun', hok'⟩ := (hstart.trans hreaches₁).trans hreaches
  refine ⟨ms, t, hrun', hok', h.plan, ⟨[97], [98], ?_⟩, ?_, ?_⟩
  · rw [h.log]
    exact List.mem_append_left _ hlogin
  · rw [h.log, requests_append, hrequests, hmessage]
    rfl
  · rw [h.log, frames_append, hframes, hanswer]
    simp

/-- A request that fills the buffer. -/
@[irreducible] def fullRequest : Message :=
  { type := .justAMessage, content := List.replicate bufferSize 0 }

/-- A request that fills the buffer is answered with two frames. -/
theorem two_frames_for_fullRequest :
    letI := littleEndian
    letI := Json.stringObjects
    ∃ ls s, Transition.Run (Step .authenticatedSession) init ls s ∧ (∀ a, .throws a ∉ ls) ∧
      s.plan = [] ∧ LoggedIn (s.conn 0).socket.log ∧
      requests (s.conn 0).socket.log = [fullRequest] ∧
      frames (s.conn 0).socket.log = ackMessage :: halves fullRequest ∧
      frames (s.conn 0).socket.log ≠
        ackMessage :: (requests (s.conn 0).socket.log).map reply := by
  let := littleEndian
  let := Json.stringObjects
  have hlen : fullRequest.content.length = bufferSize := by
    unfold fullRequest
    exact List.length_replicate
  have hsize : bufferSize = 5242880 := by decide
  have hhalves : chunks (reply fullRequest) = halves fullRequest := by
    rw [chunks_reply hlen.le, if_neg (by omega)]
  obtain ⟨ls, s, hrun, hok, hplan, hlogin, hrequests, hframes⟩ := exists_run_of_request hlen.le
  rw [hhalves] at hframes
  refine ⟨ls, s, hrun, hok, hplan, hlogin, hrequests, hframes, ?_⟩
  rw [hframes, hrequests]
  simp [halves]

end Server

end ScreenViewer
