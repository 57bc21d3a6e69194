import Mathlib
import ScreenViewer.Server.View
import ScreenViewer.SocketBase.Receive

/-!
# The conversation on a connection

What has happened on a connection decides what can happen next: its log, without the frames written,
is a `Talk` in some `Stage`.  `SessionInv` says how the rest of the connection's state fits the
stage, and that at most one party owns its socket: a pending read, a place in the registry, an
operation under way that will create one of these, or a bridge.

Everything here is about one connection, and about every move of it, failing or not.
-/

namespace ScreenViewer

open SocketBase AuthenticatedSession ServerSessionsManager

/-- The stages of a connection. -/
inductive Stage
  /-- No message has been handled. -/
  | greeting
  /-- The first message was not let in. -/
  | refused
  /-- The session has logged in and answers messages. -/
  | serving
  /-- A later header was rejected. -/
  | rejected
  /-- The session has registered. -/
  | registered
  /-- The session was found by a receiver. -/
  | claimed (receiver : ConnId)
  /-- The session has found a streamer. -/
  | found (streamer : ConnId)
  deriving DecidableEq

/-- The stages of a connection that has not logged in. -/
def Stage.Outside : Stage → Prop
  | .greeting | .refused => True
  | _ => False

/-- Whether an entry is part of the conversation. -/
def Entry.isTalk : Entry → Bool
  | .frame _ | .torn .. | .relayed _ | .dropped => false
  | _ => true

/-- The conversation in a log. -/
def talk (log : List Entry) : List Entry := log.filter Entry.isTalk

@[simp] lemma talk_append (l m : List Entry) : talk (l ++ m) = talk l ++ talk m :=
  List.filter_append l m

section Talk

variable [JsonLibrary] (sessionClass : SessionClass) (c : ConnId)

/-- The conversations that lead to a stage. -/
inductive Talk : List Entry → Stage → Prop
  | greeting : Talk [] .greeting
  | rejectedFirst (header : Bytes) : Talk [.rejectedHeader header] .refused
  | refused (message : Message) (checks : List Entry) (h : Refusal checks) :
      Talk (.authenticateCallback message :: checks) .refused
  | login (message : Message) (email password : Bytes) (h : IsLogin message email password)
      (hlen : message.content.length ≤ firstMessageMaxSize) :
      Talk [.authenticateCallback message, .credentialCheck email password (.ok true)] .serving
  | answered {l : List Entry} (message : Message) (isRegistered : Bool) (hl : Talk l .serving)
      (h : Continues sessionClass message isRegistered) :
      Talk (l ++ [.handleRead message isRegistered]) .serving
  | rejected {l : List Entry} (header : Bytes) (hl : Talk l .serving) :
      Talk (l ++ [.rejectedHeader header]) .rejected
  | registered {l : List Entry} (message : Message) (isRegistered : Bool) (hl : Talk l .serving)
      (hclass : sessionClass = .proxySession) (h : message.type = .registerStreamer) :
      Talk (l ++ [.handleRead message isRegistered, .registered sessionId]) .registered
  | claimed {l : List Entry} (receiver : ConnId) (hl : Talk l .registered) (hne : receiver ≠ c) :
      Talk (l ++ [.claimed receiver]) (.claimed receiver)
  | found {l : List Entry} (message : Message) (streamer : ConnId) (hl : Talk l .serving)
      (hclass : sessionClass = .proxySession) (h : message.type = .findStreamer)
      (hne : streamer ≠ c) :
      Talk (l ++ [.handleRead message true, .found message.content streamer]) (.found streamer)

end Talk

section Bytes

variable [SizeLayout]

/-- The bytes of the frames that the conversation in a log is about. -/
def consumed (log : List Entry) : Bytes :=
  log.flatMap fun
    | .authenticateCallback message => sendChunk message
    | .handleRead message _ => sendChunk message
    | .rejectedHeader header => header
    | _ => []

/-- The bytes that pending reads have taken already. -/
def taken (reads : List PendingRead) : Bytes :=
  reads.flatMap fun
    | .header .. => []
    | .body _ header => header.serialize

@[simp] lemma consumed_append (l m : List Entry) : consumed (l ++ m) = consumed l ++ consumed m :=
  List.flatMap_append

/-- Only the conversation in a log matters for the bytes consumed. -/
lemma consumed_talk (log : List Entry) : consumed (talk log) = consumed log := by
  induction log with
  | nil => rfl
  | cons e log ih =>
    have hcons : ∀ l, consumed (e :: l) = consumed [e] ++ consumed l := consumed_append [e]
    cases htalk : e.isTalk with
    | true =>
      rw [talk, List.filter_cons_of_pos htalk]
      exact (hcons _).trans ((congrArg _ ih).trans (hcons log).symm)
    | false =>
      have hnone : consumed [e] = [] := by cases e <;> first | rfl | cases htalk
      rw [talk, List.filter_cons_of_neg (by simp [htalk]), hcons log, hnone]
      exact ih

/-- A header and the body it announces are a frame. -/
lemma sendChunk_of_header {header : MessageHeader} {content : Bytes}
    (h : content.length = header.messageSize.toNat) :
    sendChunk ⟨header.type, content⟩ = header.serialize ++ content := by
  simp [sendChunk, headerOf, h]

end Bytes

/-- The number of bytes that a read waits for. -/
def PendingRead.size : PendingRead → ℕ
  | .header .. => MessageHeader.size
  | .body _ announced => announced.messageSize.toNat

/-! ## What fits a stage -/

/-- The reads that a session has pending in a stage. -/
def Stage.Awaits : Stage → PendingRead → Prop
  | .greeting, .header messageHandler maxMessageSize =>
    messageHandler = .authenticateCallback ∧ maxMessageSize = firstMessageMaxSize
  | .greeting, .body messageHandler header =>
    messageHandler = .authenticateCallback ∧ header.messageSize.toNat ≤ firstMessageMaxSize
  | .serving, .header messageHandler maxMessageSize =>
    messageHandler = .handleRead ∧ maxMessageSize = bufferSize
  | .serving, .body messageHandler header =>
    messageHandler = .handleRead ∧ header.messageSize.toNat ≤ bufferSize
  | _, _ => False

/-- The messages that a session may be sent that has not logged in. -/
def Parting (message : Message) : Prop := message.type = .disconnect ∨ message.type = .nack

/-- The peers of a bridge that owns the socket of `c`. -/
def Stage.Joins (c : ConnId) (stage : Stage) (sender receiver : ConnId) : Prop :=
  sender ≠ receiver ∧
    ((c = sender ∧ stage = .claimed receiver) ∨ (c = receiver ∧ stage = .found sender))

/-- The operations on the socket of `c` that may be under way in a stage. -/
def Stage.Performs (c : ConnId) (stage : Stage) : Action → Prop
  | .sendChunk _ message => stage.Outside → Parting message
  | .asyncReadMessage _ messageHandler maxMessageSize =>
    stage.Awaits (.header messageHandler maxMessageSize)
  | .startBridge sender receiver => stage.Joins c sender receiver
  | .shutdown _ | .close _ => True

/-- The entries that are no part of the conversation fit the stage, too. -/
def Stage.Records (stage : Stage) : Entry → Prop
  | .frame message | .torn message _ => stage.Outside → Parting message
  | _ => True

/-- The number of operations under way that will make somebody own the socket. -/
def claims (todo : Plan) : ℕ :=
  todo.countP fun
    | .asyncReadMessage .. | .startBridge .. => true
    | _ => false

/-- The number of owners of a connection's socket. -/
def View.owners (v : View) : ℕ := v.reads.length + v.waiting + claims v.todo + v.joins.length

section Invariant

variable [SizeLayout] [JsonLibrary]

/-- What fits a stage. -/
structure View.InStage (c : ConnId) (v : View) (stage : Stage) : Prop where
  reads : ∀ read ∈ v.reads, stage.Awaits read
  todo : ∀ a ∈ v.todo, stage.Performs c a
  waiting : v.waiting ≠ 0 → stage = .registered
  joins : ∀ j ∈ v.joins, stage.Joins c j.1 j.2
  log : ∀ e ∈ v.log, stage.Records e

/-- What holds of every connection of a server. -/
structure SessionInv (sessionClass : SessionClass) (c : ConnId) (v : View) : Prop where
  /-- Before a connection is accepted, nothing happens on it. -/
  fresh : v.accepted = false → v.owners = 0 ∧ v.todo = [] ∧ v.log = [] ∧ v.sent = [] ∧ v.unread = []
  /-- At most one party owns the socket. -/
  owners_le : v.owners ≤ 1
  /-- The log is a conversation, and the rest of the state fits its stage. -/
  inStage : ∃ stage, Talk sessionClass c (talk v.log) stage ∧ v.InStage c stage
  /-- The frames of the conversation are at the front of what the peer has sent. -/
  prefix_consumed : consumed v.log <+: v.sent
  /-- Whoever owns the socket, except a bridge, goes on where the conversation stands. -/
  sent_eq : v.owners ≠ 0 → v.joins = [] →
    v.sent = consumed v.log ++ (taken v.reads ++ v.unread)
  /-- Only a bridge relays. -/
  relayed : v.joins = [] → ∀ bytes, .relayed bytes ∉ v.log
  /-- A registration waits, was claimed or was dropped. -/
  registrations : v.log.count (.registered sessionId) =
    v.waiting + v.log.countP (fun e => e matches .claimed _) + v.log.count .dropped

variable {sessionClass : SessionClass} {c : ConnId} {v : View}

/-! ## Owners -/

omit [SizeLayout] [JsonLibrary] in
/-- Where a stage waits for no message, nobody reads. -/
lemma View.InStage.reads_eq_nil {stage : Stage} (h : v.InStage c stage)
    (hstage : ∀ read, ¬ stage.Awaits read) : v.reads = [] :=
  List.eq_nil_iff_forall_not_mem.mpr fun read hread => hstage read (h.reads read hread)

omit [SizeLayout] [JsonLibrary] in
/-- Where a stage joins no sockets, there is no bridge. -/
lemma View.InStage.joins_eq_nil {stage : Stage} (h : v.InStage c stage)
    (hstage : ∀ sender receiver, ¬ stage.Joins c sender receiver) : v.joins = [] :=
  List.eq_nil_iff_forall_not_mem.mpr fun j hj => hstage j.1 j.2 (h.joins j hj)

omit [SizeLayout] [JsonLibrary] in
/-- Only a registered session waits in the registry. -/
lemma View.InStage.waiting_eq_zero {stage : Stage} (h : v.InStage c stage)
    (hstage : stage ≠ .registered) : v.waiting = 0 := by
  by_contra hwaiting
  exact hstage (h.waiting hwaiting)

namespace SessionInv

/-- A pending read is the only owner. -/
lemma of_mem_reads (hi : SessionInv sessionClass c v) {read : PendingRead} (h : read ∈ v.reads) :
    v.reads = [read] ∧ v.waiting = 0 ∧ claims v.todo = 0 ∧ v.joins = [] := by
  have howners := hi.owners_le
  have hlen := List.length_pos_of_mem h
  rw [View.owners] at howners
  obtain ⟨read', hreads⟩ := List.length_eq_one_iff.mp (by omega : v.reads.length = 1)
  rw [hreads, List.mem_singleton] at h
  exact ⟨h ▸ hreads, by omega, by omega, List.length_eq_zero_iff.mp (by omega)⟩

omit [SizeLayout] [JsonLibrary] in
/-- A pending read is an owner. -/
lemma owners_of_mem_reads {read : PendingRead} (h : read ∈ v.reads) : v.owners ≠ 0 := by
  have hlen := List.length_pos_of_mem h
  rw [View.owners]
  omega

/-- A connection with an owner has been accepted. -/
lemma accepted_of_owners (hi : SessionInv sessionClass c v) (h : v.owners ≠ 0) :
    v.accepted = true := by
  by_contra hnew
  exact h (hi.fresh (Bool.eq_false_iff.mpr hnew)).1

/-- A connection on which something has happened has been accepted. -/
lemma accepted_of_log (hi : SessionInv sessionClass c v) (h : v.log ≠ []) : v.accepted = true := by
  by_contra hnew
  exact h (hi.fresh (Bool.eq_false_iff.mpr hnew)).2.2.1

/-- A session that waits in the registry is owned by nobody else. -/
lemma of_waiting (hi : SessionInv sessionClass c v) (h : v.waiting ≠ 0) :
    v.waiting = 1 ∧ v.reads = [] ∧ claims v.todo = 0 ∧ v.joins = [] := by
  have howners := hi.owners_le
  rw [View.owners] at howners
  exact ⟨by omega, List.length_eq_zero_iff.mp (by omega), by omega,
    List.length_eq_zero_iff.mp (by omega)⟩

/-- While a body is read, the peer's bytes go on with the frame. -/
lemma sent_of_body (hi : SessionInv sessionClass c v) {messageHandler : MessageHandler}
    {header : MessageHeader} (hread : .body messageHandler header ∈ v.reads)
    (hlen : header.messageSize.toNat ≤ v.unread.length) :
    v.sent = consumed v.log ++
      (sendChunk ⟨header.type, v.unread.take header.messageSize.toNat⟩ ++
        v.unread.drop header.messageSize.toNat) := by
  obtain ⟨hreads, -, -, hjoins⟩ := hi.of_mem_reads hread
  rw [hi.sent_eq (owners_of_mem_reads hread) hjoins,
    sendChunk_of_header (List.length_take_of_le hlen), hreads]
  simp [taken]

/-- While a header is read, the peer's bytes go on with the header. -/
lemma sent_of_header (hi : SessionInv sessionClass c v) {messageHandler : MessageHandler}
    {maxMessageSize : ℕ} (hread : .header messageHandler maxMessageSize ∈ v.reads) :
    v.sent = consumed v.log ++ v.unread := by
  obtain ⟨hreads, -, -, hjoins⟩ := hi.of_mem_reads hread
  rw [hi.sent_eq (owners_of_mem_reads hread) hjoins, hreads]
  simp [taken]

/-- A read completes: what is to be shown of the entries it adds to the log and of the plan. -/
lemma completed (hi : SessionInv sessionClass c v) {read : PendingRead} (hread : read ∈ v.reads)
    (waiting : ℕ) {entries : List Entry} {rest : Bytes} {todo : Plan} {stage : Stage}
    (hsent : v.sent = consumed v.log ++ (consumed entries ++ rest))
    (htalk : Talk sessionClass c (talk v.log ++ talk entries) stage)
    (howners : waiting + claims todo ≤ 1) (htodo : ∀ a ∈ todo, stage.Performs c a)
    (hwaiting : waiting ≠ 0 → stage = .registered)
    (hlog : ∀ e ∈ v.log, stage.Records e) (hentries : talk entries = entries)
    (hregistered : entries.count (.registered sessionId) = waiting)
    (hclaimed : (entries.countP fun e => e matches .claimed _) = 0) :
    SessionInv sessionClass c
      { v with
        unread := rest
        reads := v.reads.erase read
        log := v.log ++ entries
        todo
        waiting } := by
  obtain ⟨hreads, hwaiting₀, -, hjoins⟩ := hi.of_mem_reads hread
  have haccepted := hi.accepted_of_owners (owners_of_mem_reads hread)
  have herase : v.reads.erase read = [] := by simp [hreads]
  have hdropped : entries.count .dropped = 0 := by
    rw [← hentries, List.count_eq_zero]
    simp [talk, Entry.isTalk]
  have hnorelay : ∀ bytes, .relayed bytes ∉ entries := by
    intro bytes
    rw [← hentries]
    simp [talk, Entry.isTalk]
  constructor
  · simp [haccepted]
  · simpa [View.owners, herase, hjoins] using howners
  · refine ⟨stage, by simpa using htalk, ⟨by simp [herase], htodo, hwaiting, by simp [hjoins], ?_⟩⟩
    intro e he
    rcases List.mem_append.mp he with he | he
    · exact hlog e he
    · rw [← hentries] at he
      cases e <;> simp_all [talk, Entry.isTalk, Stage.Records]
  · rw [consumed_append, hsent, ← List.append_assoc]
    exact List.prefix_append _ _
  · intro _ _
    simp [hsent, herase, taken]
  · intro _ bytes hmem
    rcases List.mem_append.mp hmem with hmem | hmem
    · exact hi.relayed hjoins bytes hmem
    · exact hnorelay bytes hmem
  · have := hi.registrations
    rw [hwaiting₀] at this
    simp only [List.count_append, List.countP_append, hdropped, hregistered, hclaimed]
    omega

end SessionInv

/-! ## Operations that make nobody an owner -/

omit [SizeLayout] [JsonLibrary] in
@[simp] lemma claims_append (p q : Plan) : claims (p ++ q) = claims p + claims q :=
  List.countP_append

omit [SizeLayout] [JsonLibrary] in
lemma claims_farewell {plan : Plan} (h : ∀ a ∈ plan, Farewell c a) : claims plan = 0 := by
  rw [claims, List.countP_eq_zero]
  intro a ha
  rcases h a ha with ⟨m, rfl, -⟩ | rfl | rfl <;> simp

omit [SizeLayout] [JsonLibrary] in
lemma claims_sendPlan (m : Message) : claims (sendPlan c m) = 0 := by
  rw [claims, List.countP_eq_zero]
  intro a ha
  obtain ⟨m', rfl, -⟩ := mem_sendPlan ha
  simp

omit [SizeLayout] [JsonLibrary] in
/-- Taking leave fits every stage. -/
lemma performs_of_farewell {a : Action} (h : Farewell c a) (stage : Stage) :
    stage.Performs c a := by
  rcases h with ⟨m, rfl, hm⟩ | rfl | rfl
  · exact fun _ => hm
  · trivial
  · trivial

omit [SizeLayout] [JsonLibrary] in
/-- Sending fits every stage of a session that has logged in. -/
lemma performs_of_mem_sendPlan {m : Message} {a : Action} (h : a ∈ sendPlan c m) {stage : Stage}
    (hstage : ¬ stage.Outside) : stage.Performs c a := by
  obtain ⟨m', rfl, -⟩ := mem_sendPlan h
  exact fun houtside => absurd houtside hstage

omit [SizeLayout] [JsonLibrary] in
/-- A reply ends with one claim to the socket: the next read. -/
lemma claims_reply (m : Message) : claims (sendPlan c m ++ scheduleNewAsyncRead c) = 1 := by
  rw [claims_append, claims_sendPlan]
  rfl

omit [SizeLayout] [JsonLibrary] in
/-- A reply fits a session that is served. -/
lemma performs_of_mem_reply {m : Message} {a : Action}
    (h : a ∈ sendPlan c m ++ scheduleNewAsyncRead c) : Stage.serving.Performs c a := by
  rcases List.mem_append.mp h with h | h
  · exact performs_of_mem_sendPlan h id
  · rw [List.mem_singleton.mp h]
    exact ⟨rfl, rfl⟩

omit [SizeLayout] [JsonLibrary] in
/-- Once a session has logged in, anything may be recorded. -/
lemma records_of_not_outside {stage : Stage} (h : ¬ stage.Outside) (e : Entry) :
    stage.Records e := by
  cases e <;> first | trivial | exact fun houtside => absurd houtside h

omit [SizeLayout] in
/-- Before the first message nothing has been said. -/
lemma Talk.eq_nil {l : List Entry} (h : Talk sessionClass c l .greeting) : l = [] := by
  generalize hstage : Stage.greeting = stage at h
  cases h <;> first | rfl | cases hstage

omit [SizeLayout] [JsonLibrary] in
/-- Torn frames are no part of the conversation. -/
lemma talk_torn (torn : List (Message × ℕ)) : talk (torn.map fun t => .torn t.1 t.2) = [] := by
  refine List.filter_eq_nil_iff.mpr fun e he => ?_
  obtain ⟨t, -, rfl⟩ := List.mem_map.mp he
  simp [Entry.isTalk]

omit [SizeLayout] [JsonLibrary] in
/-- The entries of a log keep fitting the stage when others are added that fit it. -/
lemma View.InStage.log_append {stage : Stage} (h : v.InStage c stage)
    {extra : List Entry} (hextra : ∀ e ∈ extra, stage.Records e) :
    ∀ e ∈ v.log ++ extra, stage.Records e := by
  intro e he
  rcases List.mem_append.mp he with he | he
  · exact h.log e he
  · exact hextra e he

omit [SizeLayout] [JsonLibrary] in
/-- What is left of a plan keeps fitting the stage. -/
lemma View.InStage.todo_tail {stage : Stage} (h : v.InStage c stage) {a : Action} {rest : Plan}
    (htodo : v.todo = a :: rest) : ∀ a' ∈ rest, stage.Performs c a' := by
  intro a' ha
  refine h.todo a' ?_
  rw [htodo]
  exact List.mem_cons_of_mem _ ha

omit [SizeLayout] [JsonLibrary] in
/-- The operation that is performed next fits the stage. -/
lemma View.InStage.todo_head {stage : Stage} (h : v.InStage c stage) {a : Action} {rest : Plan}
    (htodo : v.todo = a :: rest) : stage.Performs c a :=
  h.todo a (by simp [htodo])

omit [SizeLayout] [JsonLibrary] in
/-- Frames of the plan that are torn may be recorded. -/
lemma View.InStage.records_torn {stage : Stage} (h : v.InStage c stage)
    {torn : List (Message × ℕ)} (htorn : ∀ t ∈ torn, .sendChunk c t.1 ∈ v.todo) :
    ∀ e ∈ torn.map (fun t => Entry.torn t.1 t.2), stage.Records e := by
  intro e he
  obtain ⟨t, ht, rfl⟩ := List.mem_map.mp he
  exact h.todo _ (htorn t ht)

/-! ## Every move keeps the invariant -/

namespace SessionInv

/-- In which stage the first message is read, and with which limit. -/
lemma stage_of_body (hi : SessionInv sessionClass c v) {messageHandler : MessageHandler}
    {header : MessageHeader} (hread : .body messageHandler header ∈ v.reads) :
    (messageHandler = .authenticateCallback ∧ header.messageSize.toNat ≤ firstMessageMaxSize ∧
        talk v.log = [] ∧ v.InStage c .greeting) ∨
      (messageHandler = .handleRead ∧ header.messageSize.toNat ≤ bufferSize ∧
        Talk sessionClass c (talk v.log) .serving ∧ v.InStage c .serving) := by
  obtain ⟨stage, htalk, hin⟩ := hi.inStage
  have hawaits := hin.reads _ hread
  cases stage with
  | greeting => exact Or.inl ⟨hawaits.1, hawaits.2, htalk.eq_nil, hin⟩
  | serving => exact Or.inr ⟨hawaits.1, hawaits.2, htalk, hin⟩
  | _ => exact hawaits.elim

/-- While a read waits for more bytes, no whole frame is in front of the session. -/
lemma decodeFrame_eq_none (hi : SessionInv sessionClass c v) {read : PendingRead}
    (hread : read ∈ v.reads) (hshort : v.unread.length < read.size) :
    decodeFrame bufferSize (taken v.reads ++ v.unread) = none := by
  rw [(hi.of_mem_reads hread).1]
  cases read with
  | header messageHandler maxMessageSize => exact (decodeFrame_of_short_header bufferSize hshort).1
  | body messageHandler header =>
    have hle : header.messageSize.toNat ≤ bufferSize := by
      obtain ⟨-, hle, -⟩ | ⟨-, hle, -⟩ := hi.stage_of_body hread
      · exact hle.trans (by decide)
      · exact hle
    have htaken : taken [.body messageHandler header] = header.serialize := by simp [taken]
    rw [htaken]
    exact (decodeFrame_of_short_body header.length_serialize
      (MessageHeader.deserialize_serialize hle) hshort).1

/-- The first message is handled. -/
lemma completed_first (hi : SessionInv sessionClass c v) {header : MessageHeader}
    {message : Message} (hread : .body .authenticateCallback header ∈ v.reads)
    (hlen : header.messageSize.toNat ≤ v.unread.length)
    (hmessage : message = ⟨header.type, v.unread.take header.messageSize.toNat⟩)
    (stage : Stage) {checks : List Entry} {todo : Plan}
    (hchecks : ∀ e ∈ checks, ∃ email password result, e = .credentialCheck email password result)
    (htalk : message.content.length ≤ firstMessageMaxSize →
      Talk sessionClass c (.authenticateCallback message :: checks) stage)
    (howners : claims todo ≤ 1) (htodo : ∀ a ∈ todo, stage.Performs c a)
    (hlog : ∀ e, Stage.greeting.Records e → stage.Records e) :
    SessionInv sessionClass c
      { v with
        unread := v.unread.drop header.messageSize.toNat
        reads := v.reads.erase (.body .authenticateCallback header)
        log := v.log ++ .authenticateCallback message :: checks
        todo } := by
  obtain ⟨-, hmax, hnil, hin⟩ | ⟨h, -⟩ := hi.stage_of_body hread
  · have hwaiting : v.waiting = 0 := (hi.of_mem_reads hread).2.1
    have hlength : message.content.length ≤ firstMessageMaxSize := by
      rw [hmessage]
      exact (List.length_take_of_le hlen).trans_le hmax
    have hsent := hi.sent_of_body hread hlen
    rw [← hmessage] at hsent
    have hentries : talk (.authenticateCallback message :: checks) =
        .authenticateCallback message :: checks := by
      refine List.filter_eq_self.mpr fun e he => ?_
      rcases List.mem_cons.mp he with rfl | he
      · rfl
      · obtain ⟨_, _, _, rfl⟩ := hchecks e he
        rfl
    have hconsumed : consumed (.authenticateCallback message :: checks) = sendChunk message := by
      have hnone : consumed checks = [] := by
        refine List.flatMap_eq_nil_iff.mpr fun e he => ?_
        obtain ⟨_, _, _, rfl⟩ := hchecks e he
        rfl
      change sendChunk message ++ consumed checks = _
      rw [hnone, List.append_nil]
    have hregistered :
        (.authenticateCallback message :: checks).count (.registered sessionId) = 0 := by
      rw [List.count_eq_zero]
      intro hmem
      rcases List.mem_cons.mp hmem with h | hmem
      · cases h
      · obtain ⟨_, _, _, h⟩ := hchecks _ hmem
        cases h
    have hclaimed : ((.authenticateCallback message :: checks).countP
        fun e => e matches .claimed _) = 0 := by
      rw [List.countP_eq_zero]
      intro e he
      rcases List.mem_cons.mp he with rfl | he
      · simp
      · obtain ⟨_, _, _, rfl⟩ := hchecks e he
        simp
    refine hi.completed hread v.waiting (by rwa [hconsumed]) ?_ ?_ htodo ?_ ?_ hentries
      ?_ hclaimed
    · rw [hnil, hentries]
      exact htalk hlength
    · omega
    · exact fun h => absurd hwaiting h
    · exact fun e he => hlog e (hin.log e he)
    · rw [hregistered, hwaiting]
  · cases h

/-- A later message is handled. -/
lemma completed_later (hi : SessionInv sessionClass c v) {header : MessageHeader}
    {message : Message} (hread : .body .handleRead header ∈ v.reads)
    (hlen : header.messageSize.toNat ≤ v.unread.length)
    (hmessage : message = ⟨header.type, v.unread.take header.messageSize.toNat⟩)
    (stage : Stage) (waiting : ℕ) {isRegistered : Bool} {marks : List Entry} {todo : Plan}
    (hconsumed : consumed marks = []) (hmarks : talk marks = marks)
    (htalk : ∀ l, Talk sessionClass c l .serving →
      Talk sessionClass c (l ++ .handleRead message isRegistered :: marks) stage)
    (howners : waiting + claims todo ≤ 1) (htodo : ∀ a ∈ todo, stage.Performs c a)
    (hwaiting : waiting ≠ 0 → stage = .registered) (houtside : ¬ stage.Outside)
    (hregistered : marks.count (.registered sessionId) = waiting)
    (hclaimed : (marks.countP fun e => e matches .claimed _) = 0) :
    SessionInv sessionClass c
      { v with
        unread := v.unread.drop header.messageSize.toNat
        reads := v.reads.erase (.body .handleRead header)
        log := v.log ++ .handleRead message isRegistered :: marks
        todo
        waiting } := by
  obtain ⟨h, -⟩ | ⟨-, -, hserving, hin⟩ := hi.stage_of_body hread
  · cases h
  · have hsent := hi.sent_of_body hread hlen
    rw [← hmessage] at hsent
    have hentries : talk (.handleRead message isRegistered :: marks) =
        .handleRead message isRegistered :: marks := by
      rw [talk, List.filter_cons_of_pos rfl]
      exact congrArg _ hmarks
    refine hi.completed hread waiting ?_ ?_ howners htodo hwaiting
      (fun e _ => records_of_not_outside houtside e) hentries ?_ ?_
    · change v.sent = consumed v.log ++ ((sendChunk message ++ consumed marks) ++ _)
      rw [hconsumed, List.append_nil]
      exact hsent
    · rw [hentries]
      exact htalk _ hserving
    · rw [List.count_cons_of_ne (by simp)]
      exact hregistered
    · rw [List.countP_cons_of_neg (by simp)]
      exact hclaimed

/-- A header is rejected. -/
lemma headerRejected (hi : SessionInv sessionClass c v) {messageHandler : MessageHandler}
    {maxMessageSize : ℕ} (hread : .header messageHandler maxMessageSize ∈ v.reads) (what : Bytes) :
    SessionInv sessionClass c
      { v with
        unread := v.unread.drop MessageHeader.size
        reads := v.reads.erase (.header messageHandler maxMessageSize)
        log := v.log ++ [.rejectedHeader (v.unread.take MessageHeader.size)]
        todo := disconnect c (some what) } := by
  have hwaiting : v.waiting = 0 := (hi.of_mem_reads hread).2.1
  have hsent := hi.sent_of_header hread
  obtain ⟨stage, htalk, hin⟩ := hi.inStage
  have hawaits := hin.reads _ hread
  obtain ⟨stage', htalk', hrecords⟩ : ∃ stage', Talk sessionClass c
      (talk v.log ++ [.rejectedHeader (v.unread.take MessageHeader.size)]) stage' ∧
      ∀ e, stage.Records e → stage'.Records e := by
    cases stage with
    | greeting =>
      rw [htalk.eq_nil]
      exact ⟨.refused, Talk.rejectedFirst _, fun e he => by cases e <;> exact he⟩
    | serving => exact ⟨.rejected, Talk.rejected _ htalk, fun e _ => records_of_not_outside id e⟩
    | _ => exact hawaits.elim
  refine hi.completed hread v.waiting ?_ htalk' ?_
    (fun a ha => performs_of_farewell (farewell_disconnect ha) _) (fun h => absurd hwaiting h)
    (fun e he => hrecords e (hin.log e he)) rfl ?_ rfl
  · simpa [consumed] using hsent
  · rw [hwaiting, claims_farewell fun a ha => farewell_disconnect ha]
    exact Nat.zero_le _
  · rw [hwaiting]
    rfl

/-- A step that adds nothing to the conversation: what is to be shown of the entries it adds to the
log, of the owners, and of what fits the stage. -/
lemma quiet (hi : SessionInv sessionClass c v) {v' : View} {extra : List Entry}
    (hlog : v'.log = v.log ++ extra) (hextra : talk extra = [])
    (haccepted : v'.accepted = v.accepted) (hsent : v'.sent = v.sent)
    (hnew : v.accepted = false → v.todo = [] → extra = [] ∧ v'.todo = [])
    (hunread : ∃ n, v'.unread = v.unread.drop n ∧ (v.joins = [] → n = 0))
    (howners : v'.owners ≤ v.owners) (hjoins : v'.joins = [] → v.joins = [])
    (htaken : v'.owners ≠ 0 → v'.joins = [] → taken v'.reads = taken v.reads)
    (hwaiting : v'.waiting + extra.count .dropped = v.waiting)
    (hrelayed : v.joins = [] → ∀ bytes, .relayed bytes ∉ extra)
    (hin : ∀ stage, v.InStage c stage → v'.InStage c stage) : SessionInv sessionClass c v' := by
  have htalk : talk v'.log = talk v.log := by rw [hlog, talk_append, hextra, List.append_nil]
  have hquiet : ∀ e ∈ extra, e.isTalk = false := by simpa [talk] using hextra
  have hconsumed : consumed v'.log = consumed v.log := by
    have hnone : consumed extra = [] := by
      refine List.flatMap_eq_nil_iff.mpr fun e he => ?_
      have := hquiet e he
      cases e <;> first | rfl | cases this
    rw [hlog, consumed_append, hnone, List.append_nil]
  obtain ⟨n, hunread, hn⟩ := hunread
  constructor
  · intro hnew'
    rw [haccepted] at hnew'
    obtain ⟨hzero, htodo, hlog', hsent', hunread'⟩ := hi.fresh hnew'
    obtain ⟨rfl, htodo'⟩ := hnew hnew' htodo
    exact ⟨by omega, htodo', by simp [hlog, hlog'], hsent.trans hsent', by simp [hunread, hunread']⟩
  · exact howners.trans hi.owners_le
  · obtain ⟨stage, ht, hs⟩ := hi.inStage
    exact ⟨stage, htalk ▸ ht, hin stage hs⟩
  · rw [hconsumed, hsent]
    exact hi.prefix_consumed
  · intro howners' hjoins'
    have hzero : v.owners ≠ 0 := by omega
    rw [hsent, hconsumed, htaken howners' hjoins', hunread, hn (hjoins hjoins'), List.drop_zero]
    exact hi.sent_eq hzero (hjoins hjoins')
  · intro hjoins' bytes hmem
    rw [hlog] at hmem
    rcases List.mem_append.mp hmem with hmem | hmem
    · exact hi.relayed (hjoins hjoins') bytes hmem
    · exact hrelayed (hjoins hjoins') bytes hmem
  · have hregistered : extra.count (.registered sessionId) = 0 :=
      List.count_eq_zero.mpr fun hmem => by cases hquiet _ hmem
    have hclaimed : (extra.countP fun e => e matches .claimed _) = 0 := by
      refine List.countP_eq_zero.mpr fun e he hmatch => ?_
      have := hquiet e he
      cases e <;> first | exact Bool.false_ne_true hmatch | cases this
    have := hi.registrations
    simp only [hlog, List.count_append, List.countP_append, hregistered, hclaimed]
    omega

/-- A connection is accepted. -/
lemma accepts (hi : SessionInv sessionClass c v) (hnew : v.accepted = false) :
    SessionInv sessionClass c
      { v with
        accepted := true
        todo := [.asyncReadMessage c .authenticateCallback firstMessageMaxSize] } := by
  obtain ⟨hzero, htodo, hlog, hsent, hunread⟩ := hi.fresh hnew
  simp only [View.owners] at hzero
  have hreads : v.reads = [] := List.length_eq_zero_iff.mp (by omega)
  have hjoins : v.joins = [] := List.length_eq_zero_iff.mp (by omega)
  have hwaiting : v.waiting = 0 := by omega
  refine ⟨by simp, ?_, ⟨.greeting, ?_, ?_⟩, hi.prefix_consumed, ?_, hi.relayed, hi.registrations⟩
  · simp [View.owners, hreads, hjoins, hwaiting, claims]
  · rw [hlog]
    exact Talk.greeting
  · refine ⟨by simp [hreads], ?_, fun h => absurd hwaiting h, by simp [hjoins], by simp [hlog]⟩
    intro a ha
    rw [List.mem_singleton.mp ha]
    exact ⟨rfl, rfl⟩
  · simp [hsent, hlog, hreads, hunread, consumed, taken]

/-- A header is accepted. -/
lemma headerAccepted (hi : SessionInv sessionClass c v) {messageHandler : MessageHandler}
    {maxMessageSize : ℕ} {header : MessageHeader}
    (hread : .header messageHandler maxMessageSize ∈ v.reads)
    (hlen : MessageHeader.size ≤ v.unread.length)
    (hheader : MessageHeader.deserialize (v.unread.take MessageHeader.size) MessageHeader.size
      maxMessageSize = .ok header) :
    SessionInv sessionClass c
      { v with
        unread := v.unread.drop MessageHeader.size
        reads := v.reads.erase (.header messageHandler maxMessageSize) ++
          [.body messageHandler header] } := by
  obtain ⟨hreads, hwaiting, -, hjoins⟩ := hi.of_mem_reads hread
  obtain ⟨hmax, hserialize⟩ := MessageHeader.of_deserialize_eq_ok (List.length_take_of_le hlen)
    hheader
  have hsent := hi.sent_of_header hread
  have hnew := hi.accepted_of_owners (owners_of_mem_reads hread)
  obtain ⟨stage, ht, hin⟩ := hi.inStage
  refine ⟨by simp [hnew], ?_, ⟨stage, ht, ?_, hin.todo, hin.waiting, hin.joins, hin.log⟩,
    hi.prefix_consumed, fun _ _ => ?_, hi.relayed, hi.registrations⟩
  · simpa [View.owners, hreads] using hi.owners_le
  · have hawaits := hin.reads _ hread
    simp only [hreads, List.erase_cons_head, List.nil_append, List.mem_singleton, forall_eq]
    cases stage with
    | greeting => exact ⟨hawaits.1, hawaits.2 ▸ hmax⟩
    | serving => exact ⟨hawaits.1, hawaits.2 ▸ hmax⟩
    | _ => exact hawaits.elim
  · simp only [hreads, List.erase_cons_head, List.nil_append, taken, List.flatMap_singleton,
      ← hserialize, List.take_append_drop]
    exact hsent

/-- A receiver claims the session. -/
lemma claimed (hi : SessionInv sessionClass c v) {waiting : ℕ} {receiver : ConnId}
    (hwaiting : v.waiting = waiting + 1) (hne : receiver ≠ c) :
    SessionInv sessionClass c
      { v with
        log := v.log ++ [.claimed receiver]
        todo := [.sendChunk c { type := .startStream, content := [] }, .startBridge c receiver]
        waiting } := by
  obtain ⟨hone, hreads, -, hjoins⟩ := hi.of_waiting (by omega)
  obtain rfl : waiting = 0 := by omega
  have howners : v.owners ≠ 0 := by
    rw [View.owners]
    omega
  have hnew := hi.accepted_of_owners howners
  obtain ⟨stage, ht, hin⟩ := hi.inStage
  obtain rfl := hin.waiting (by omega)
  have hconsumed : consumed (v.log ++ [.claimed receiver]) = consumed v.log := by
    simp [consumed]
  refine ⟨by simp [hnew], ?_, ⟨.claimed receiver, ?_, by simp [hreads], ?_, by simp,
    by simp [hjoins], fun e _ => records_of_not_outside id e⟩, ?_, fun _ _ => ?_, ?_, ?_⟩
  · simp [View.owners, hreads, hjoins, claims]
  · rw [talk_append]
    exact Talk.claimed receiver ht hne
  · intro a ha
    rcases List.mem_cons.mp ha with rfl | ha
    · exact fun h => h.elim
    · rw [List.mem_singleton.mp ha]
      exact ⟨hne.symm, Or.inl ⟨rfl, rfl⟩⟩
  · rw [hconsumed]
    exact hi.prefix_consumed
  · rw [hconsumed]
    exact hi.sent_eq howners hjoins
  · intro _ bytes hmem
    exact hi.relayed hjoins bytes (by simpa using hmem)
  · have := hi.registrations
    simp only [List.count_append, List.countP_append, List.countP_singleton, List.count_singleton]
    simp only [beq_iff_eq, reduceCtorEq, if_false, if_true]
    omega

omit [SizeLayout] [JsonLibrary] in
/-- The first operation of a plan claims a socket or does not. -/
lemma owners_eq_of_todo {a : Action} {rest : Plan} (htodo : v.todo = a :: rest) :
    v.owners = v.reads.length + v.waiting + (claims [a] + claims rest) + v.joins.length := by
  rw [View.owners, htodo, ← claims_append, List.singleton_append]

/-- An operation of the running handler is performed: what is to be shown of who owns the socket
then, and of what fits the stage. -/
lemma performed (hi : SessionInv sessionClass c v) {v' : View} {a : Action}
    (htodo : v.todo = a :: v'.todo) {extra : List Entry} (hlog : v'.log = v.log ++ extra)
    (hextra : ∀ e ∈ extra, ∃ message, e = .frame message)
    (hrest : v' = { v with reads := v'.reads, log := v'.log, todo := v'.todo, joins := v'.joins })
    (howners : v'.reads.length + v'.joins.length ≤
      v.reads.length + claims [a] + v.joins.length)
    (hjoins : v'.joins = [] → v.joins = [] ∧ taken v'.reads = taken v.reads)
    (hin : ∀ stage, v.InStage c stage → (∀ read ∈ v'.reads, stage.Awaits read) ∧
      (∀ j ∈ v'.joins, stage.Joins c j.1 j.2) ∧ ∀ e ∈ extra, stage.Records e) :
    SessionInv sessionClass c v' := by
  have hnone : ∀ e : Entry, (∀ message, e ≠ .frame message) → e ∉ extra := by
    intro e he hmem
    obtain ⟨message, heq⟩ := hextra e hmem
    exact he message heq
  have haccepted : v'.accepted = v.accepted := by rw [hrest]
  have hsent : v'.sent = v.sent := by rw [hrest]
  have hunread : v'.unread = v.unread.drop 0 := by rw [hrest, List.drop_zero]
  have hwaiting : v'.waiting = v.waiting := by rw [hrest]
  refine hi.quiet hlog ?_ haccepted hsent ?_ ⟨0, hunread, fun _ => rfl⟩ ?_ (fun h => (hjoins h).1)
    (fun _ h => (hjoins h).2) ?_ (fun _ bytes => hnone _ (by simp)) fun stage h => ?_
  · refine List.filter_eq_nil_iff.mpr fun e he => ?_
    obtain ⟨message, rfl⟩ := hextra e he
    simp [Entry.isTalk]
  · simp [htodo]
  · rw [owners_eq_of_todo htodo, View.owners]
    omega
  · rw [List.count_eq_zero.mpr (hnone _ (by simp)), Nat.add_zero, hwaiting]
  · obtain ⟨hreads, hjoined, hrecords⟩ := hin stage h
    refine ⟨hreads, h.todo_tail htodo, fun hne => h.waiting (hwaiting ▸ hne), hjoined, ?_⟩
    rw [hlog]
    exact h.log_append hrecords

/-- A handler is left because of an exception: what is to be shown of what is done then. -/
lemma left (hi : SessionInv sessionClass c v) {torn : List (Message × ℕ)}
    (htorn : ∀ t ∈ torn, .sendChunk c t.1 ∈ v.todo) {todo : Plan}
    (htodo : ∀ a ∈ todo, Farewell c a) (hnew : v.accepted = false → todo = []) :
    SessionInv sessionClass c
      { v with log := v.log ++ torn.map fun t => .torn t.1 t.2, todo } := by
  refine hi.quiet rfl (talk_torn torn) rfl rfl ?_ ⟨0, rfl, fun _ => rfl⟩ ?_ id (fun _ _ => rfl) ?_
    (by simp) fun stage hin => ?_
  · intro hfresh hidle
    have hnone : torn = [] := by
      refine List.eq_nil_iff_forall_not_mem.mpr fun t ht => ?_
      simpa [hidle] using htorn t ht
    exact ⟨by rw [hnone]; rfl, hnew hfresh⟩
  · simp only [View.owners, claims_farewell htodo]
    omega
  · rw [List.count_eq_zero.mpr (by simp), Nat.add_zero]
  · exact ⟨hin.reads, fun a ha => performs_of_farewell (htodo a ha) _, hin.waiting, hin.joins,
      hin.log_append (hin.records_torn htorn)⟩

/-- Every move keeps the invariant. -/
theorem move (hi : SessionInv sessionClass c v) {failed : Bool} {v' : View}
    (h : View.Move sessionClass c failed v v') : SessionInv sessionClass c v' := by
  cases h with
  | idle => exact hi
  | accepts _ hidle hnew => exact hi.accepts hnew
  | acceptFails _ hnew =>
    obtain ⟨stage, ht, hin⟩ := hi.inStage
    exact ⟨by simp, hi.owners_le, ⟨stage, ht, hin.reads, hin.todo, hin.waiting, hin.joins, hin.log⟩,
      hi.prefix_consumed, hi.sent_eq, hi.relayed, hi.registrations⟩
  | peerWrites _ bytes hnew =>
    obtain ⟨stage, ht, hin⟩ := hi.inStage
    refine ⟨by simp [hnew], hi.owners_le,
      ⟨stage, ht, hin.reads, hin.todo, hin.waiting, hin.joins, hin.log⟩,
      hi.prefix_consumed.trans (List.prefix_append _ _), fun howners hjoins => ?_, hi.relayed,
      hi.registrations⟩
    simp only [hi.sent_eq howners hjoins, List.append_assoc]
  | headerAccepted _ messageHandler maxMessageSize header hidle hread hlen hheader =>
    exact hi.headerAccepted hread hlen hheader
  | headerRejected _ messageHandler maxMessageSize what hidle hread hlen hheader =>
    exact hi.headerRejected hread _
  | login _ header message email password hidle hread hlen hmessage hlogin =>
    refine hi.completed_first hread hlen hmessage .serving (by simp)
      (fun hmax => Talk.login message email password hlogin hmax) (claims_reply _).le
      (fun a => performs_of_mem_reply) fun e _ => records_of_not_outside id e
  | refused _ header message checks todo hidle hread hlen hmessage hchecks htodo =>
    refine hi.completed_first hread hlen hmessage .refused ?_
      (fun _ => Talk.refused message checks hchecks) ?_
      (fun a ha => performs_of_farewell (htodo a ha) _)
      fun e he => by cases e <;> exact he
    · rcases hchecks with rfl | ⟨email, password, result, -, rfl⟩ <;> simp
    · rw [claims_farewell htodo]
      exact Nat.zero_le _
  | answered _ header message isRegistered hidle hread hlen hmessage hcontinues =>
    have hwaiting := (hi.of_mem_reads hread).2.1
    refine hi.completed_later hread hlen hmessage .serving v.waiting rfl rfl
      (fun l hl => Talk.answered message isRegistered hl hcontinues) ?_
      (fun a => performs_of_mem_reply) (fun h => absurd hwaiting h) id ?_ rfl
    · rw [hwaiting, claims_reply]
    · rw [hwaiting]
      rfl
  | registered _ header message isRegistered hidle hread hlen hmessage hclass htype =>
    have hwaiting := (hi.of_mem_reads hread).2.1
    refine hi.completed_later hread hlen hmessage .registered _ rfl rfl
      (fun l hl => Talk.registered message isRegistered hl hclass htype) ?_
      (fun a ha => performs_of_mem_sendPlan ha id) (fun _ => rfl) id ?_ rfl
    · rw [hwaiting, claims_sendPlan]
    · rw [hwaiting]
      rfl
  | found _ header message streamer hidle hread hlen hmessage hclass htype hne =>
    have hwaiting := (hi.of_mem_reads hread).2.1
    refine hi.completed_later hread hlen hmessage (.found streamer) v.waiting
      rfl rfl (fun l hl => Talk.found message streamer hl hclass htype hne) ?_ ?_
      (fun h => absurd hwaiting h) id ?_ rfl
    · rw [hwaiting]
      exact le_rfl
    · intro a ha
      rcases List.mem_cons.mp ha with rfl | ha
      · exact fun h => h.elim
      · rw [List.mem_singleton.mp ha]
        exact ⟨hne, Or.inr ⟨rfl, rfl⟩⟩
    · rw [hwaiting]
      rfl
  | claimed _ waiting receiver hidle hwaiting hne => exact hi.claimed hwaiting hne
  | dropped _ n waiting hwaiting =>
    refine hi.quiet rfl ?_ rfl rfl ?_ ⟨0, by simp, fun _ => rfl⟩ ?_ id (fun _ _ => rfl) ?_ ?_ ?_
    · simp [talk, Entry.isTalk]
    · intro hnew htodo
      have hzero := (hi.fresh hnew).1
      rw [View.owners] at hzero
      obtain rfl : n = 0 := by omega
      exact ⟨rfl, htodo⟩
    · simp only [View.owners]
      omega
    · simpa using hwaiting.symm
    · simp
    · intro stage hin
      have hpos : waiting ≠ 0 → v.waiting ≠ 0 := by omega
      exact ⟨hin.reads, hin.todo, fun h => hin.waiting (hpos h), hin.joins,
        hin.log_append (by simp [Stage.Records])⟩
  | sends _ message rest htodo =>
    refine hi.performed htodo rfl (by simp) rfl (by simp) (fun h => ⟨h, rfl⟩) fun stage hin =>
      ⟨hin.reads, hin.joins, fun e he => ?_⟩
    rw [List.mem_singleton.mp he]
    exact hin.todo_head htodo
  | arms _ messageHandler maxMessageSize rest htodo =>
    refine hi.performed htodo (List.append_nil _).symm (by simp) rfl (by simp [claims])
      (fun h => ⟨h, by simp [taken]⟩) fun stage hin => ⟨fun read hread => ?_, hin.joins, by simp⟩
    rcases List.mem_append.mp hread with hread | hread
    · exact hin.reads read hread
    · rw [List.mem_singleton.mp hread]
      exact hin.todo_head htodo
  | joins _ sender receiver rest htodo =>
    refine hi.performed htodo (List.append_nil _).symm (by simp) rfl ?_ (by simp)
      fun stage hin => ⟨hin.reads, fun j hj => ?_, by simp⟩
    · simp only [claims, List.length_append, List.length_singleton, List.countP_singleton]
      simp
      omega
    · rcases List.mem_append.mp hj with hj | hj
      · exact hin.joins j hj
      · rw [List.mem_singleton.mp hj]
        exact hin.todo_head htodo
  | closes _ a rest htodo ha =>
    exact hi.performed htodo (List.append_nil _).symm (by simp) rfl (by simp)
      (fun h => ⟨h, rfl⟩) fun stage hin => ⟨hin.reads, hin.joins, by simp⟩
  | readFails _ read hread =>
    obtain ⟨hreads, hwaiting, hclaims, hjoins⟩ := hi.of_mem_reads hread
    have hzero : ({ v with reads := v.reads.erase read } : View).owners = 0 := by
      simp [View.owners, hreads, hwaiting, hclaims, hjoins]
    refine hi.quiet (List.append_nil _).symm rfl rfl rfl (fun _ h => ⟨rfl, h⟩)
      ⟨0, rfl, fun _ => rfl⟩ (hzero.trans_le (Nat.zero_le _)) id (fun h => absurd hzero h) rfl
      (by simp) ?_
    intro stage hin
    exact ⟨fun read' hread' => hin.reads read' (List.mem_of_mem_erase hread'), hin.todo,
      hin.waiting, hin.joins, hin.log⟩
  | relays _ n blocks hjoins =>
    refine hi.quiet rfl ?_ rfl rfl ?_ ⟨n, rfl, fun h => absurd h hjoins⟩ le_rfl id
      (fun _ _ => rfl) ?_ (fun h => absurd h hjoins) ?_
    · simp [talk, Entry.isTalk]
    · intro hnew
      have hzero := (hi.fresh hnew).1
      have hpos := List.length_pos_iff.mpr hjoins
      rw [View.owners] at hzero
      omega
    · rw [List.count_eq_zero.mpr (by simp), Nat.add_zero]
    · intro stage hin
      exact ⟨hin.reads, hin.todo, hin.waiting, hin.joins,
        hin.log_append (by simp [Stage.Records])⟩
  | aborted _ torn htorn => exact hi.left htorn (by simp) fun _ => rfl
  | dismissed _ torn what hlog htorn =>
    exact hi.left htorn (fun a => farewell_disconnect)
      fun hnew => absurd (hi.fresh hnew).2.2.1 hlog

end SessionInv

end Invariant

end ScreenViewer
