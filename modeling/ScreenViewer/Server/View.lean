import Mathlib
import ScreenViewer.Server

/-!
# One connection at a time

What a server does to one connection is described without the others: a `View` collects what
concerns the connection, and `View.Move` lists what can happen to it.  `view_move` projects every
move of the server to each of its connections, so that a property of single connections is proved of
the moves of a view.

A move of a view carries whether a network operation of the server has failed.
-/

namespace ScreenViewer

open SocketBase AuthenticatedSession ServerSessionsManager

/-- What concerns one connection. -/
structure View where
  accepted : Bool
  sent : Bytes
  unread : Bytes
  log : List Entry
  reads : List PendingRead
  /-- The part of the running handler's plan that is about the connection. -/
  todo : Plan
  /-- The number of codes under which the session is registered. -/
  waiting : ℕ
  /-- The bridges that own the connection's socket, by their peers. -/
  joins : List (ConnId × ConnId)

namespace Server

/-- The operations of a plan that are about a connection. -/
def about (c : ConnId) (plan : Plan) : Plan := plan.filter fun a => c ∈ a.sessions

/-- The view of a connection. -/
def view (s : Server) (c : ConnId) : View where
  accepted := (s.conn c).accepted
  sent := (s.conn c).socket.sent
  unread := (s.conn c).socket.unread
  log := (s.conn c).socket.log
  reads := (s.conn c).reads
  todo := about c s.plan
  waiting := ServerSessionsManager.waiting s.sendersSessions c
  joins := (s.bridges.map fun j => (j.sender, j.receiver)).filter fun j => j.1 = c ∨ j.2 = c

end Server

namespace View

variable [SizeLayout] [JsonLibrary]

/-- What can happen to the connection `c`; the flag says whether a network operation of the server
has failed. -/
inductive Move (sessionClass : SessionClass) (c : ConnId) : Bool → View → View → Prop
  /-- Nothing that concerns the connection. -/
  | idle (v : View) : Move sessionClass c false v v
  /-- The connection is accepted. -/
  | accepts (v : View) (hidle : v.todo = []) (hnew : v.accepted = false) :
      Move sessionClass c false v
        { v with
          accepted := true
          todo := [.asyncReadMessage c .authenticateCallback firstMessageMaxSize] }
  /-- The connection is accepted, but the handshake fails. -/
  | acceptFails (v : View) (hnew : v.accepted = false) :
      Move sessionClass c false v { v with accepted := true }
  /-- The peer writes. -/
  | peerWrites (v : View) (bytes : Bytes) (hnew : v.accepted = true) :
      Move sessionClass c false v { v with sent := v.sent ++ bytes, unread := v.unread ++ bytes }
  /-- A header is accepted. -/
  | headerAccepted (v : View) (messageHandler : MessageHandler) (maxMessageSize : ℕ)
      (header : MessageHeader) (hidle : v.todo = [])
      (hread : .header messageHandler maxMessageSize ∈ v.reads)
      (hlen : MessageHeader.size ≤ v.unread.length)
      (hheader : MessageHeader.deserialize (v.unread.take MessageHeader.size) MessageHeader.size
        maxMessageSize = .ok header) :
      Move sessionClass c false v
        { v with
          unread := v.unread.drop MessageHeader.size
          reads := v.reads.erase (.header messageHandler maxMessageSize) ++
            [.body messageHandler header] }
  /-- A header is rejected. -/
  | headerRejected (v : View) (messageHandler : MessageHandler) (maxMessageSize : ℕ)
      (what : String) (hidle : v.todo = [])
      (hread : .header messageHandler maxMessageSize ∈ v.reads)
      (hlen : MessageHeader.size ≤ v.unread.length)
      (hheader : MessageHeader.deserialize (v.unread.take MessageHeader.size) MessageHeader.size
        maxMessageSize = .error what) :
      Move sessionClass c false v
        { v with
          unread := v.unread.drop MessageHeader.size
          reads := v.reads.erase (.header messageHandler maxMessageSize)
          log := v.log ++ [.rejectedHeader (v.unread.take MessageHeader.size)]
          todo := disconnect c (some (Bytes.ofString what)) }
  /-- The session logs in. -/
  | login (v : View) (header : MessageHeader) (message : Message) (email password : Bytes)
      (hidle : v.todo = []) (hread : .body .authenticateCallback header ∈ v.reads)
      (hlen : header.messageSize.toNat ≤ v.unread.length)
      (hmessage : message = ⟨header.type, v.unread.take header.messageSize.toNat⟩)
      (hlogin : IsLogin message email password) :
      Move sessionClass c false v
        { v with
          unread := v.unread.drop header.messageSize.toNat
          reads := v.reads.erase (.body .authenticateCallback header)
          log := v.log ++
            [.authenticateCallback message, .credentialCheck email password (.ok true)]
          todo := sendACK c ++ scheduleNewAsyncRead c }
  /-- The session is not let in. -/
  | refused (v : View) (header : MessageHeader) (message : Message) (checks : List Entry)
      (todo : Plan) (hidle : v.todo = [])
      (hread : .body .authenticateCallback header ∈ v.reads)
      (hlen : header.messageSize.toNat ≤ v.unread.length)
      (hmessage : message = ⟨header.type, v.unread.take header.messageSize.toNat⟩)
      (hchecks : Refusal checks) (htodo : ∀ a ∈ todo, Farewell c a) :
      Move sessionClass c false v
        { v with
          unread := v.unread.drop header.messageSize.toNat
          reads := v.reads.erase (.body .authenticateCallback header)
          log := v.log ++ .authenticateCallback message :: checks
          todo }
  /-- A message is answered. -/
  | answered (v : View) (header : MessageHeader) (message : Message) (isRegistered : Bool)
      (hidle : v.todo = []) (hread : .body .handleRead header ∈ v.reads)
      (hlen : header.messageSize.toNat ≤ v.unread.length)
      (hmessage : message = ⟨header.type, v.unread.take header.messageSize.toNat⟩)
      (hcontinues : Continues sessionClass message isRegistered) :
      Move sessionClass c false v
        { v with
          unread := v.unread.drop header.messageSize.toNat
          reads := v.reads.erase (.body .handleRead header)
          log := v.log ++ [.handleRead message isRegistered]
          todo := sendPlan c (answer sessionClass message) ++ scheduleNewAsyncRead c }
  /-- The session is registered. -/
  | registered (v : View) (header : MessageHeader) (message : Message) (isRegistered : Bool)
      (hidle : v.todo = []) (hread : .body .handleRead header ∈ v.reads)
      (hlen : header.messageSize.toNat ≤ v.unread.length)
      (hmessage : message = ⟨header.type, v.unread.take header.messageSize.toNat⟩)
      (hclass : sessionClass = .proxySession) (htype : message.type = .registerStreamer) :
      Move sessionClass c false v
        { v with
          unread := v.unread.drop header.messageSize.toNat
          reads := v.reads.erase (.body .handleRead header)
          log := v.log ++ [.handleRead message isRegistered, .registered sessionId]
          todo := sendPlan c { type := .id, content := sessionId }
          waiting := v.waiting + 1 }
  /-- The session has found a streamer. -/
  | found (v : View) (header : MessageHeader) (message : Message) (streamer : ConnId)
      (hidle : v.todo = []) (hread : .body .handleRead header ∈ v.reads)
      (hlen : header.messageSize.toNat ≤ v.unread.length)
      (hmessage : message = ⟨header.type, v.unread.take header.messageSize.toNat⟩)
      (hclass : sessionClass = .proxySession) (htype : message.type = .findStreamer)
      (hne : streamer ≠ c) :
      Move sessionClass c false v
        { v with
          unread := v.unread.drop header.messageSize.toNat
          reads := v.reads.erase (.body .handleRead header)
          log := v.log ++ [.handleRead message true, .found message.content streamer]
          todo := [.sendChunk c { type := .ack, content := [] }, .startBridge streamer c] }
  /-- The session is found by a receiver. -/
  | claimed (v : View) (waiting : ℕ) (receiver : ConnId) (hidle : v.todo = [])
      (hwaiting : v.waiting = waiting + 1) (hne : receiver ≠ c) :
      Move sessionClass c false v
        { v with
          log := v.log ++ [.claimed receiver]
          todo := [.sendChunk c { type := .startStream, content := [] }, .startBridge c receiver]
          waiting }
  /-- The registry lets go of the session. -/
  | dropped (v : View) (n waiting : ℕ) (hwaiting : v.waiting = waiting + n) :
      Move sessionClass c false v { v with log := v.log ++ List.replicate n .dropped, waiting }
  /-- A frame is written. -/
  | sends (v : View) (message : Message) (rest : Plan)
      (htodo : v.todo = .sendChunk c message :: rest) :
      Move sessionClass c false v { v with log := v.log ++ [.frame message], todo := rest }
  /-- The session waits for a message. -/
  | arms (v : View) (messageHandler : MessageHandler) (maxMessageSize : ℕ) (rest : Plan)
      (htodo : v.todo = .asyncReadMessage c messageHandler maxMessageSize :: rest) :
      Move sessionClass c false v
        { v with reads := v.reads ++ [.header messageHandler maxMessageSize], todo := rest }
  /-- A bridge takes the socket over. -/
  | joins (v : View) (sender receiver : ConnId) (rest : Plan)
      (htodo : v.todo = .startBridge sender receiver :: rest) :
      Move sessionClass c false v { v with joins := v.joins ++ [(sender, receiver)], todo := rest }
  /-- The socket is shut down or closed. -/
  | closes (v : View) (a : Action) (rest : Plan) (htodo : v.todo = a :: rest)
      (ha : a = .shutdown c ∨ a = .close c) : Move sessionClass c false v { v with todo := rest }
  /-- The read of the session fails. -/
  | readFails (v : View) (read : PendingRead) (hread : read ∈ v.reads) :
      Move sessionClass c false v { v with reads := v.reads.erase read }
  /-- The bridge that owns the socket reads from it or writes to it. -/
  | relays (v : View) (n : ℕ) (blocks : List Bytes) (hjoins : v.joins ≠ []) :
      Move sessionClass c false v
        { v with unread := v.unread.drop n, log := v.log ++ blocks.map .relayed }
  /-- A handler is left because of an exception. -/
  | aborted (v : View) (torn : List (Message × ℕ))
      (htorn : ∀ t ∈ torn, .sendChunk c t.1 ∈ v.todo) :
      Move sessionClass c true v
        { v with log := v.log ++ torn.map fun t => .torn t.1 t.2, todo := [] }
  /-- The session's own handler is left because of an exception. -/
  | dismissed (v : View) (torn : List (Message × ℕ)) (what : Bytes) (hlog : v.log ≠ [])
      (htorn : ∀ t ∈ torn, .sendChunk c t.1 ∈ v.todo) :
      Move sessionClass c true v
        { v with
          log := v.log ++ torn.map fun t => .torn t.1 t.2
          todo := disconnect c (some what) }

end View

namespace Server

variable (s : Server) (c d : ConnId)

/-! ## Marks -/

section Marks

variable {c d} (e : Entry) (l : List Entry) (marks : List (ConnId × Entry))

@[simp] lemma entriesOf_nil : entriesOf c [] = [] := rfl

@[simp] lemma entriesOf_cons_self : entriesOf c ((c, e) :: marks) = e :: entriesOf c marks := by
  simp [entriesOf]

lemma entriesOf_cons_of_ne (h : d ≠ c) : entriesOf d ((c, e) :: marks) = entriesOf d marks := by
  simp [entriesOf, h.symm]

@[simp] lemma entriesOf_append (marks' : List (ConnId × Entry)) :
    entriesOf c (marks ++ marks') = entriesOf c marks ++ entriesOf c marks' := by
  simp [entriesOf]

@[simp] lemma entriesOf_map_self : entriesOf c (l.map (c, ·)) = l := by
  induction l with
  | nil => rfl
  | cons e l ih => rw [List.map_cons, entriesOf_cons_self, ih]

lemma entriesOf_map_of_ne (h : d ≠ c) : entriesOf d (l.map (c, ·)) = [] := by
  simp [entriesOf, h.symm]

/-- The marks of sessions that the registry lets go of. -/
@[simp] lemma entriesOf_map_dropped (dropped : List ConnId) :
    entriesOf c (dropped.map (·, .dropped)) = List.replicate (dropped.count c) .dropped := by
  induction dropped with
  | nil => rfl
  | cons d dropped ih =>
    by_cases h : d = c
    · subst h
      rw [List.map_cons, entriesOf_cons_self, ih, List.count_cons_self, List.replicate_succ]
    · rw [List.map_cons, entriesOf_cons_of_ne _ _ (Ne.symm h), ih, List.count_cons_of_ne h]

end Marks

/-! ## What the operations do to a view -/

variable {c d} in
lemma view_updateConn_of_ne (h : d ≠ c) (f : Connection → Connection) :
    (s.updateConn c f).view d = s.view d := by
  simp [view, updateConn, Function.update_of_ne h]

lemma view_updateConn_self (f : Connection → Connection) :
    (s.updateConn c f).view c =
      { s.view c with
        accepted := (f (s.conn c)).accepted
        sent := (f (s.conn c)).socket.sent
        unread := (f (s.conn c)).socket.unread
        log := (f (s.conn c)).socket.log
        reads := (f (s.conn c)).reads } := by
  simp [view, updateConn]

variable {c d} in
lemma view_updateSocket_of_ne (h : d ≠ c) (f : Socket → Socket) :
    (s.updateSocket c f).view d = s.view d :=
  s.view_updateConn_of_ne h _

lemma view_updateSocket_self (f : Socket → Socket) :
    (s.updateSocket c f).view c =
      { s.view c with
        sent := (f (s.conn c).socket).sent
        unread := (f (s.conn c).socket).unread
        log := (f (s.conn c).socket).log } :=
  s.view_updateConn_self c _

lemma view_updateSocket_of_eq {f : Socket → Socket}
    (hsent : (f (s.conn c).socket).sent = (s.conn c).socket.sent)
    (hunread : (f (s.conn c).socket).unread = (s.conn c).socket.unread)
    (hlog : (f (s.conn c).socket).log = (s.conn c).socket.log) :
    (s.updateSocket c f).view d = s.view d := by
  by_cases h : d = c
  · subst h
    rw [view_updateSocket_self, hsent, hunread, hlog]
    rfl
  · exact s.view_updateSocket_of_ne h f

lemma view_record (marks : List (ConnId × Entry)) :
    (s.record marks).view c =
      { s.view c with log := (s.view c).log ++ entriesOf c marks } := rfl

variable {c d} in
lemma view_completeRead_of_ne (h : d ≠ c) (read : PendingRead) (n : ℕ) :
    (s.completeRead c read n).view d = s.view d :=
  s.view_updateConn_of_ne h _

lemma view_completeRead_self (read : PendingRead) (n : ℕ) :
    (s.completeRead c read n).view c =
      { s.view c with
        unread := (s.view c).unread.drop n
        reads := (s.view c).reads.erase read } :=
  s.view_updateConn_self c _

variable {c d} in
lemma view_asyncRead_of_ne (h : d ≠ c) (read : PendingRead) :
    (s.asyncRead c read).view d = s.view d :=
  s.view_updateConn_of_ne h _

lemma view_asyncRead_self (read : PendingRead) :
    (s.asyncRead c read).view c = { s.view c with reads := (s.view c).reads ++ [read] } :=
  s.view_updateConn_self c _

variable {s} in
/-- Servers with the same connections, registry and bridges differ in their plans. -/
lemma view_eq {t : Server} (hconn : t.conn = s.conn)
    (hsessions : t.sendersSessions = s.sendersSessions) (hbridges : t.bridges = s.bridges) :
    t.view d = { s.view d with todo := about d t.plan } := by
  simp [view, hconn, hsessions, hbridges]

/-- Disconnecting changes the plan only. -/
lemma view_safeDisconnect (what : Bytes) :
    (s.safeDisconnect c what).view d =
      { s.view d with todo := about d (disconnect c (some what)) } := rfl

/-- A catch clause changes the plan only. -/
lemma view_catchException (what : Bytes) :
    (s.catchException what).view d =
      { s.view d with todo := about d (s.catchException what).plan } := by
  apply view_eq <;> · unfold catchException; split <;> rfl

/-! ## The parts of a plan -/

variable {c d}

/-- A plan about one session only is this session's. -/
lemma about_self {plan : Plan} (h : ∀ a ∈ plan, a.sessions = [c]) : about c plan = plan := by
  rw [about, List.filter_eq_self]
  intro a ha
  simp [h a ha]

/-- A plan about one session only is nobody else's. -/
lemma about_of_ne {plan : Plan} (h : ∀ a ∈ plan, a.sessions = [c]) (hne : d ≠ c) :
    about d plan = [] := by
  rw [about, List.filter_eq_nil_iff]
  intro a ha
  simp [h a ha, hne]

lemma sessions_of_farewell {a : Action} (h : Farewell c a) : a.sessions = [c] := by
  rcases h with ⟨m, rfl, -⟩ | rfl | rfl <;> rfl

lemma sessions_of_mem_sendPlan {m : Message} {a : Action} (h : a ∈ sendPlan c m) :
    a.sessions = [c] := by
  obtain ⟨c', rfl, -⟩ := mem_sendPlan h
  rfl

lemma sessions_of_mem_disconnect {msg : Bytes} {a : Action} (h : a ∈ disconnect c (some msg)) :
    a.sessions = [c] :=
  sessions_of_farewell (farewell_disconnect h)

lemma sessions_of_mem_reply {m : Message} {a : Action}
    (h : a ∈ sendPlan c m ++ scheduleNewAsyncRead c) : a.sessions = [c] := by
  rcases List.mem_append.mp h with h | h
  · exact sessions_of_mem_sendPlan h
  · rw [List.mem_singleton.mp h]
    rfl

/-! ## Every move is a move of each view -/

section Moves

variable {s} [SizeLayout] [JsonLibrary] {sessionClass : SessionClass}

/-- Performing an operation. -/
lemma view_move_perform {a : Action} {rest : Plan} (hplan : s.plan = a :: rest) (d : ConnId) :
    View.Move sessionClass d false (s.view d)
      (({ s.perform a with plan := rest } : Server).view d) := by
  by_cases hd : d ∈ a.sessions
  · have htodo : (s.view d).todo = a :: about d rest := by
      rw [view, hplan, about, List.filter_cons_of_pos (by simpa using hd)]
      rfl
    cases a with
    | sendChunk session message =>
      obtain rfl : d = session := List.mem_singleton.mp hd
      have hview : ({ s.perform (.sendChunk d message) with plan := rest } : Server).view d =
          { s.view d with log := (s.view d).log ++ [.frame message], todo := about d rest } := by
        simp [view, perform, updateSocket, updateConn, Socket.record]
      rw [hview]
      exact View.Move.sends _ _ _ htodo
    | asyncReadMessage session messageHandler maxMessageSize =>
      obtain rfl : d = session := List.mem_singleton.mp hd
      have hview : ({ s.perform (.asyncReadMessage d messageHandler maxMessageSize) with
          plan := rest } : Server).view d =
          { s.view d with
            reads := (s.view d).reads ++ [.header messageHandler maxMessageSize]
            todo := about d rest } := by
        simp [view, perform, asyncRead, updateConn]
      rw [hview]
      exact View.Move.arms _ _ _ _ htodo
    | startBridge sender receiver =>
      have hview :
          ({ s.perform (.startBridge sender receiver) with plan := rest } : Server).view d =
          { s.view d with joins := (s.view d).joins ++ [(sender, receiver)]
                          todo := about d rest } := by
        have hd' : sender = d ∨ receiver = d := by simpa [Action.sessions, eq_comm] using hd
        simp [view, perform, hd']
      rw [hview]
      exact View.Move.joins _ _ _ _ htodo
    | shutdown session =>
      obtain rfl : d = session := List.mem_singleton.mp hd
      exact View.Move.closes _ _ _ htodo (Or.inl rfl)
    | close session =>
      obtain rfl : d = session := List.mem_singleton.mp hd
      have hview : ({ s.perform (.close d) with plan := rest } : Server).view d =
          { s.view d with todo := about d rest } := by
        simp [view, perform, updateSocket, updateConn, Socket.close]
      rw [hview]
      exact View.Move.closes _ _ _ htodo (Or.inr rfl)
  · have hview : ({ s.perform a with plan := rest } : Server).view d = s.view d := by
      have htodo : about d s.plan = about d rest := by
        rw [hplan, about, List.filter_cons_of_neg (by simpa using hd)]
        rfl
      cases a with
      | sendChunk session message =>
        have hne : d ≠ session := fun h => hd (List.mem_singleton.mpr h)
        simp [view, perform, updateSocket, updateConn, hne, htodo]
      | asyncReadMessage session messageHandler maxMessageSize =>
        have hne : d ≠ session := fun h => hd (List.mem_singleton.mpr h)
        simp [view, perform, asyncRead, updateConn, hne, htodo]
      | startBridge sender receiver =>
        have hne : ¬ (sender = d ∨ receiver = d) := by simpa [Action.sessions, eq_comm] using hd
        simp [view, perform, hne, htodo]
      | shutdown session => simp [view, perform, htodo]
      | close session =>
        have hne : d ≠ session := fun h => hd (List.mem_singleton.mpr h)
        simp [view, perform, updateSocket, updateConn, hne, htodo]
    rw [hview]
    exact View.Move.idle _

omit [SizeLayout] [JsonLibrary] in
/-- What an operation that throws does to a view. -/
lemma view_performPartly (a : Action) (written : ℕ) (d : ConnId) :
    ∃ torn : List (Message × ℕ), (∀ t ∈ torn, a = .sendChunk d t.1) ∧
      (s.performPartly a written).view d =
        { s.view d with log := (s.view d).log ++ torn.map fun t => .torn t.1 t.2 } := by
  cases a with
  | sendChunk session message =>
    by_cases hd : d = session
    · subst hd
      refine ⟨[(message, written)], by simp, ?_⟩
      exact s.view_updateSocket_self d (·.record (.torn message written))
    · exact ⟨[], by simp, by simpa [performPartly] using s.view_updateSocket_of_ne hd _⟩
  | startBridge sender receiver =>
    refine ⟨[], by simp, ?_⟩
    have h₁ := s.view_updateSocket_of_eq sender d (f := Socket.close) rfl rfl rfl
    have h₂ := (s.updateSocket sender Socket.close).view_updateSocket_of_eq receiver d
      (f := Socket.close) rfl rfl rfl
    simpa [performPartly] using h₂.trans h₁
  | asyncReadMessage session messageHandler maxMessageSize =>
    exact ⟨[], by simp, by simp [performPartly]⟩
  | shutdown session => exact ⟨[], by simp, by simp [performPartly]⟩
  | close session => exact ⟨[], by simp, by simp [performPartly]⟩

/-- Throwing out of the running handler. -/
lemma view_move_throw {a : Action} {rest : Plan} (hplan : s.plan = a :: rest) (what : Bytes)
    (written : ℕ) (hself : s.guarded = false → (s.view s.self).log ≠ []) (d : ConnId) :
    View.Move sessionClass d true (s.view d)
      (((s.performPartly a written).catchException what).view d) := by
  obtain ⟨torn, ha, hview⟩ := s.view_performPartly a written d
  have htorn : ∀ t ∈ torn, .sendChunk d t.1 ∈ (s.view d).todo := by
    intro t ht
    obtain rfl := ha t ht
    rw [view, hplan, about, List.filter_cons_of_pos (by simp [Action.sessions])]
    exact List.mem_cons_self
  have hself' : (s.performPartly a written).self = s.self := by cases a <;> rfl
  have hguarded : (s.performPartly a written).guarded = s.guarded := by cases a <;> rfl
  have hcatch : ((s.performPartly a written).catchException what).view d =
      { s.view d with
        log := (s.view d).log ++ torn.map (fun t => .torn t.1 t.2)
        todo := about d ((s.performPartly a written).catchException what).plan } := by
    rw [view_catchException, hview]
  cases hg : s.guarded with
  | true =>
    have hplan : ((s.performPartly a written).catchException what).plan = [] := by
      rw [catchException, hguarded, hg, if_pos rfl]
    rw [hcatch, hplan]
    exact View.Move.aborted _ _ htorn
  | false =>
    have hplan : ((s.performPartly a written).catchException what).plan =
        disconnect s.self (some what) := by
      rw [catchException, hguarded, hg, if_neg Bool.false_ne_true, hself']
      rfl
    rw [hcatch, hplan]
    by_cases hd : d = s.self
    · subst hd
      rw [about_self fun a ha => sessions_of_mem_disconnect ha]
      exact View.Move.dismissed _ _ _ (hself hg) htorn
    · rw [about_of_ne (fun a ha => sessions_of_mem_disconnect ha) hd]
      exact View.Move.aborted _ _ htorn

/-- Letting go of sessions. -/
lemma view_move_letGo {r : Registry × List ConnId} {d : ConnId}
    (h : waiting r.1 d + r.2.count d = waiting s.sendersSessions d) :
    View.Move sessionClass d false (s.view d) ((s.letGo r).view d) := by
  have hview : (s.letGo r).view d =
      { s.view d with
        log := (s.view d).log ++ List.replicate (r.2.count d) .dropped
        waiting := waiting r.1 d } := by
    change ({ (s.record _).view d with waiting := _ } : View) = _
    rw [view_record, entriesOf_map_dropped]
    rfl
  rw [hview]
  exact View.Move.dropped _ _ _ h.symm

omit [SizeLayout] [JsonLibrary] in
/-- Running a handler as far as its locked step. -/
lemma view_runHandler (c : ConnId) (e : Effect) (d : ConnId) :
    (s.runHandler c e).view d =
      { s.view d with
        log := (s.view d).log ++ entriesOf d e.marks
        waiting := waiting e.sendersSessions d
        todo :=
          about d (match e.plan with
            | .ok plan => plan
            | .error what => disconnect c (some what)) } := by
  unfold runHandler
  cases e.plan with
  | ok plan => rfl
  | error what => rfl

/-- What the projection needs to know of a server: a session that reads is not registered, and a
handler whose exceptions are caught has been called with a message. -/
structure Tidy (s : Server) : Prop where
  waiting_eq : ∀ c, (s.view c).reads ≠ [] → (s.view c).waiting = 0
  log_ne : s.guarded = false → (s.view s.self).log ≠ []

/-- The handler of a message runs, as its own session sees it. -/
lemma view_move_handled_self (hs : Tidy s) {c : ConnId} {messageHandler : MessageHandler}
    {header : MessageHeader} {message : Message} {now : Time} {e : Effect} (hidle : s.plan = [])
    (hread : .body messageHandler header ∈ (s.conn c).reads)
    (hlen : header.messageSize.toNat ≤ (s.conn c).socket.unread.length)
    (hmessage : message = ⟨header.type, (s.conn c).socket.unread.take header.messageSize.toNat⟩)
    (he : Handled sessionClass s.sendersSessions c now message messageHandler e) :
    View.Move sessionClass c false (s.view c)
      (((s.completeRead c (.body messageHandler header) header.messageSize.toNat).runHandler c
        e).view c) := by
  have htodo : (s.view c).todo = [] := by
    rw [view, hidle]
    rfl
  have hwaiting : waiting s.sendersSessions c = 0 := hs.waiting_eq c (List.ne_nil_of_mem hread)
  rw [view_runHandler, view_completeRead_self]
  cases he with
  | login email password h =>
    simp only [entriesOf_cons_self, entriesOf_nil, sendACK,
      about_self fun a ha => sessions_of_mem_reply ha]
    exact View.Move.login (s.view c) header _ email password htodo hread hlen hmessage h
  | refused checks plan h hplan =>
    simp only [entriesOf_cons_self, entriesOf_map_self,
      about_self fun a ha => sessions_of_farewell (hplan a ha)]
    exact View.Move.refused (s.view c) header _ checks plan htodo hread hlen hmessage h hplan
  | thrown checks what h =>
    simp only [entriesOf_cons_self, entriesOf_map_self,
      about_self fun a ha => sessions_of_mem_disconnect ha]
    exact View.Move.refused (s.view c) header _ checks _ htodo hread hlen hmessage h
      fun a => farewell_disconnect
  | answered isRegistered h =>
    simp only [entriesOf_cons_self, entriesOf_nil, about_self fun a ha => sessions_of_mem_reply ha]
    exact View.Move.answered (s.view c) header _ isRegistered htodo hread hlen hmessage h
  | registered isRegistered hclass h =>
    have hcount := waiting_registerStreamer s.sendersSessions c c now
    rw [hwaiting, if_pos rfl] at hcount
    have hpos := waiting_registerStreamer_pos s.sendersSessions c now
    have hdropped : (registerStreamer s.sendersSessions c now).2.2.count c = 0 := by omega
    have hwaiting' : waiting (registerStreamer s.sendersSessions c now).2.1 c =
        (s.view c).waiting + 1 := by
      change _ = waiting s.sendersSessions c + 1
      omega
    simp only [entriesOf_cons_self, entriesOf_append, entriesOf_map_dropped, hdropped,
      List.replicate_zero, List.nil_append, entriesOf_nil, hwaiting',
      about_self fun a ha => sessions_of_mem_sendPlan ha]
    exact View.Move.registered (s.view c) header _ isRegistered htodo hread hlen hmessage hclass h
  | found streamer hclass h hlookup =>
    have hne : streamer.clientSession ≠ c := by
      intro heq
      have hpos := AList.valueCount_pos (p := fun node => node.clientSession = c) hlookup heq
      rw [waiting] at hwaiting
      omega
    have hwaiting' : waiting (s.sendersSessions.erase message.content) c = (s.view c).waiting := by
      have herase := waiting_erase c hlookup
      rw [if_neg hne] at herase
      exact herase
    simp only [entriesOf_cons_self, entriesOf_cons_of_ne _ _ hne.symm, entriesOf_nil, hwaiting']
    have habout : about c [.sendChunk c { type := .ack, content := [] },
        .sendChunk streamer.clientSession { type := .startStream, content := [] },
        .startBridge streamer.clientSession c] =
        [.sendChunk c { type := .ack, content := [] }, .startBridge streamer.clientSession c] := by
      simp [about, Action.sessions, hne.symm]
    rw [habout]
    exact View.Move.found (s.view c) header _ streamer.clientSession htodo hread hlen hmessage
      hclass
      h hne

/-- The handler of a message runs, as another session sees it. -/
lemma view_move_handled_of_ne {c d : ConnId} (hne : d ≠ c) {messageHandler : MessageHandler}
    {message : Message} {now : Time} {e : Effect} {read : PendingRead} {n : ℕ} (hidle : s.plan = [])
    (he : Handled sessionClass s.sendersSessions c now message messageHandler e) :
    View.Move sessionClass d false (s.view d)
      (((s.completeRead c read n).runHandler c e).view d) := by
  have htodo : (s.view d).todo = [] := by
    rw [view, hidle]
    rfl
  have hidle' : View.Move sessionClass d false (s.view d)
      { s.view d with
        log := (s.view d).log ++ []
        waiting := waiting s.sendersSessions d
        todo := [] } := by
    rw [List.append_nil, ← htodo]
    exact View.Move.idle _
  rw [view_runHandler, view_completeRead_of_ne s hne]
  cases he with
  | login email password h =>
    simp only [entriesOf_cons_of_ne _ _ hne, entriesOf_nil, sendACK,
      about_of_ne (fun a ha => sessions_of_mem_reply ha) hne]
    exact hidle'
  | refused checks plan h hplan =>
    simp only [entriesOf_cons_of_ne _ _ hne, entriesOf_map_of_ne _ hne,
      about_of_ne (fun a ha => sessions_of_farewell (hplan a ha)) hne]
    exact hidle'
  | thrown checks what h =>
    simp only [entriesOf_cons_of_ne _ _ hne, entriesOf_map_of_ne _ hne,
      about_of_ne (fun a ha => sessions_of_mem_disconnect ha) hne]
    exact hidle'
  | answered isRegistered h =>
    simp only [entriesOf_cons_of_ne _ _ hne, entriesOf_nil,
      about_of_ne (fun a ha => sessions_of_mem_reply ha) hne]
    exact hidle'
  | registered isRegistered hclass h =>
    have hcount := waiting_registerStreamer s.sendersSessions d c now
    rw [if_neg hne.symm, Nat.add_zero] at hcount
    simp only [entriesOf_cons_of_ne _ _ hne, entriesOf_append, entriesOf_map_dropped, entriesOf_nil,
      List.append_nil, about_of_ne (fun a ha => sessions_of_mem_sendPlan ha) hne]
    have hmove : View.Move sessionClass d false (s.view d) _ :=
      View.Move.dropped (s.view d) _ _ hcount.symm
    rw [htodo] at hmove
    exact hmove
  | found streamer hclass h hlookup =>
    have herase := waiting_erase d hlookup
    by_cases hd : streamer.clientSession = d
    · subst hd
      rw [if_pos rfl] at herase
      have habout : about streamer.clientSession [.sendChunk c { type := .ack, content := [] },
          .sendChunk streamer.clientSession { type := .startStream, content := [] },
          .startBridge streamer.clientSession c] =
          [.sendChunk streamer.clientSession { type := .startStream, content := [] },
            .startBridge streamer.clientSession c] := by
        simp [about, Action.sessions, hne]
      simp only [entriesOf_cons_of_ne _ _ hne, entriesOf_cons_self, entriesOf_nil, habout]
      exact View.Move.claimed (s.view _) _ c htodo herase.symm hne.symm
    · have hnotd : d ≠ streamer.clientSession := fun heq => hd heq.symm
      rw [if_neg hd, Nat.add_zero] at herase
      have habout : about d [.sendChunk c { type := .ack, content := [] },
          .sendChunk streamer.clientSession { type := .startStream, content := [] },
          .startBridge streamer.clientSession c] = [] := by
        simp [about, Action.sessions, hne, hnotd]
      have hwaiting : waiting (s.sendersSessions.erase message.content) d =
          waiting s.sendersSessions d := herase
      simp only [entriesOf_cons_of_ne _ _ hne, entriesOf_cons_of_ne _ _ hnotd, entriesOf_nil,
        habout, hwaiting]
      exact hidle'

omit [SizeLayout] [JsonLibrary] in
/-- A step of a bridge's own takes bytes from a socket and adds to its log what is relayed; it
changes nothing that the peer has sent. -/
lemma bridgeStep_peer {b b' : Bridge.State} {l : Bridge.Label} (hown : OwnLabel l)
    (h : Bridge.Step b l b') (p : Peer) :
    (b'.peer p).sent = (b.peer p).sent ∧
      ∃ (n : ℕ) (blocks : List Bytes), (b'.peer p).unread = (b.peer p).unread.drop n ∧
        (b'.peer p).log = (b.peer p).log ++ blocks.map .relayed := by
  cases h with
  | peerWrites => exact hown.elim
  | peerEnds => exact hown.elim
  | peerDisconnects => exact hown.elim
  | readCompletes op n hop hopen hpos hn hmax hesc =>
    by_cases hp : p = op.peer
    · refine ⟨?_, n, [], ?_, ?_⟩ <;>
        simp [Bridge.State.complete, Bridge.State.fill, Bridge.State.updatePeer_peer, hp,
          Socket.take]
    · refine ⟨?_, 0, [], ?_, ?_⟩ <;>
        simp [Bridge.State.complete, Bridge.State.fill, Bridge.State.updatePeer_peer, hp]
  | readEnds op hop hopen hunread hended hesc => exact ⟨rfl, 0, [], by simp [Bridge.State.complete]⟩
  | readFails op hop hesc => exact ⟨rfl, 0, [], by simp [Bridge.State.complete]⟩
  | handle op result ec hready hesc hec =>
    obtain ⟨hsent, hunread, blocks, hlog⟩ :=
      Bridge.handle_peer (b.dequeue op result) op.handler result ec p
    exact ⟨hsent, 0, blocks, hunread, hlog⟩

/-- A bridge makes a step. -/
lemma view_move_bridge {pre post : List Joined} {j : Joined} {l : Bridge.Label} {b : Bridge.State}
    (hj : s.bridges = pre ++ j :: post) (hown : OwnLabel l)
    (hb : Bridge.Step (s.bridgeState j) l b) (d : ConnId) :
    View.Move sessionClass d false (s.view d) ((s.putBack pre j post b).view d) := by
  have hjoins :
      ((pre ++ { j with bridge := b.toBridge } :: post).map fun j => (j.sender, j.receiver)) =
      s.bridges.map fun j => (j.sender, j.receiver) := by
    simp [hj]
  have hne : d = j.sender ∨ d = j.receiver → (s.view d).joins ≠ [] := by
    intro hd
    have hmem : (j.sender, j.receiver) ∈ (s.view d).joins := by
      simp only [view, hj, List.mem_filter, List.mem_map]
      exact ⟨⟨j, by simp, rfl⟩, by simpa using hd.imp Eq.symm Eq.symm⟩
    exact List.ne_nil_of_mem hmem
  have hview : (s.putBack pre j post b).view d =
      { ((s.updateSocket j.sender fun _ => b.peer .one).updateSocket j.receiver
          fun _ => b.peer .two).view d with joins := (s.view d).joins } := by
    simp only [view, putBack, hjoins]
  rw [hview]
  by_cases hreceiver : d = j.receiver
  · obtain ⟨hsent, n, blocks, hunread, hlog⟩ := bridgeStep_peer hown hb .two
    have hmove : View.Move sessionClass d false (s.view d) _ :=
      View.Move.relays _ n blocks (hne (Or.inr hreceiver))
    subst hreceiver
    rw [view_updateSocket_self, hsent, hunread, hlog]
    by_cases hself : j.receiver = j.sender
    · rw [← hself, view_updateSocket_self]
      exact hmove
    · rw [view_updateSocket_of_ne s hself]
      exact hmove
  · rw [view_updateSocket_of_ne _ hreceiver]
    by_cases hsender : d = j.sender
    · obtain ⟨hsent, n, blocks, hunread, hlog⟩ := bridgeStep_peer hown hb .one
      have hmove : View.Move sessionClass d false (s.view d) _ :=
        View.Move.relays _ n blocks (hne (Or.inl hsender))
      subst hsender
      rw [view_updateSocket_self, hsent, hunread, hlog]
      exact hmove
    · rw [view_updateSocket_of_ne _ hsender]
      exact View.Move.idle _

/-- A label under which a network operation of the server fails. -/
def IsFailure : Label → Bool
  | .throws _ => true
  | _ => false

/-- Every move of a tidy server is a move of each view. -/
theorem view_move (hs : Tidy s) {l : Label} {t : Server} (h : Move sessionClass s l t)
    (d : ConnId) :
    View.Move sessionClass d (IsFailure l) (s.view d) (t.view d) := by
  have htodo : s.plan = [] → ∀ d, (s.view d).todo = [] := by
    intro hidle d
    rw [view, hidle]
    rfl
  have hquiet : ∀ (c : ConnId) (f : Socket → Socket), (∀ k, (f k).sent = k.sent) →
      (∀ k, (f k).unread = k.unread) → (∀ k, (f k).log = k.log) →
      View.Move sessionClass d false (s.view d) ((s.updateSocket c f).view d) := by
    intro c f hsent hunread hlog
    rw [s.view_updateSocket_of_eq c d (hsent _) (hunread _) (hlog _)]
    exact View.Move.idle _
  cases h with
  | accept c hidle hnew =>
    by_cases hd : d = c
    · subst hd
      have hview : ({ s.updateConn d fun k => { k with accepted := true } with
          self := d
          plan := [.asyncReadMessage d .authenticateCallback firstMessageMaxSize]
          guarded := true } : Server).view d =
          { s.view d with
            accepted := true
            todo := [.asyncReadMessage d .authenticateCallback firstMessageMaxSize] } := by
        simp [view, updateConn, about, Action.sessions]
      rw [hview]
      exact View.Move.accepts _ (htodo hidle d) hnew
    · have hview : ({ s.updateConn c fun k => { k with accepted := true } with
          self := c
          plan := [.asyncReadMessage c .authenticateCallback firstMessageMaxSize]
          guarded := true } : Server).view d = s.view d := by
        simp [view, updateConn, about, Action.sessions, hd, hidle]
      rw [hview]
      exact View.Move.idle _
  | acceptFails c hidle hnew =>
    by_cases hd : d = c
    · subst hd
      rw [view_updateConn_self]
      exact View.Move.acceptFails _ hnew
    · rw [view_updateConn_of_ne s hd]
      exact View.Move.idle _
  | peerWrites c bytes hnew hopen =>
    by_cases hd : d = c
    · subst hd
      rw [view_updateSocket_self]
      exact View.Move.peerWrites _ bytes hnew
    · rw [view_updateSocket_of_ne s hd]
      exact View.Move.idle _
  | peerEnds c hnew => exact hquiet c _ (fun _ => rfl) (fun _ => rfl) fun _ => rfl
  | peerDisconnects c hnew => exact hquiet c _ (fun _ => rfl) (fun _ => rfl) fun _ => rfl
  | headerAccepted c messageHandler maxMessageSize header hidle hread hlen hheader =>
    by_cases hd : d = c
    · subst hd
      rw [view_asyncRead_self, view_completeRead_self]
      exact View.Move.headerAccepted _ _ _ _ (htodo hidle d) hread hlen hheader
    · rw [view_asyncRead_of_ne _ hd, view_completeRead_of_ne _ hd]
      exact View.Move.idle _
  | headerRejected c messageHandler maxMessageSize what hidle hread hlen hheader =>
    rw [view_safeDisconnect, view_record]
    by_cases hd : d = c
    · subst hd
      rw [view_completeRead_self, entriesOf_cons_self, entriesOf_nil,
        about_self fun a ha => sessions_of_mem_disconnect ha]
      exact View.Move.headerRejected _ _ _ _ (htodo hidle d) hread hlen hheader
    · rw [view_completeRead_of_ne _ hd, entriesOf_cons_of_ne _ _ hd, entriesOf_nil, List.append_nil,
        about_of_ne (fun a ha => sessions_of_mem_disconnect ha) hd, ← htodo hidle d]
      exact View.Move.idle _
  | bodyCompletes c messageHandler header usersManager now hidle hread hlen =>
    by_cases hd : d = c
    · subst hd
      exact view_move_handled_self hs hidle hread hlen rfl
        (handled_invoke usersManager messageHandler)
    · exact view_move_handled_of_ne hd hidle (handled_invoke usersManager messageHandler)
  | readFails c read hidle hread =>
    by_cases hd : d = c
    · subst hd
      rw [view_completeRead_self, List.drop_zero]
      exact View.Move.readFails _ _ hread
    · rw [view_completeRead_of_ne _ hd]
      exact View.Move.idle _
  | performs a rest hplan hcan => exact view_move_perform hplan d
  | throws a rest what written hplan hcan => exact view_move_throw hplan what written hs.log_ne d
  | terminateTimeoutClients overflow clientTimeout now =>
    exact view_move_letGo (waiting_terminateTimeoutClients ..)
  | reset => exact view_move_letGo (waiting_reset ..)
  | destroys c hnew hfree => exact hquiet c _ (fun _ => rfl) (fun _ => rfl) fun _ => rfl
  | bridge pre j post l b hidle hj hown hb => exact view_move_bridge hj hown hb d

end Moves

end Server

end ScreenViewer
