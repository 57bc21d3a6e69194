import Mathlib
import ScreenViewer.Lib.Runs
import ScreenViewer.Bridge
import ScreenViewer.Session

/-!
# The server

A server accepts connections, each served by a session of its class, until a bridge takes its socket
over.  One thread runs all completion handlers one after another; each performs its plan, and
between two operations of a plan only the peers, the cleaner and `reset` can act.

An operation on a socket may throw.  The handler of a message is then left, and the completion of
the read that called it disconnects the session (`safeDisconnect`), where a further exception is
only logged: `guarded` says that this is where the server is.
-/

namespace ScreenViewer

open SocketBase AuthenticatedSession

/-- A read of a session that has not completed: of a header, or of the body that one announces. -/
inductive PendingRead
  | header (messageHandler : MessageHandler) (maxMessageSize : ℕ)
  | body (messageHandler : MessageHandler) (header : MessageHeader)
  deriving DecidableEq

/-- A connection of the server. -/
structure Connection where
  socket : Socket
  /-- The connection has been accepted. -/
  accepted : Bool
  /-- The pending reads of the connection's session. -/
  reads : List PendingRead

/-- A bridge and the connections whose sockets it took over. -/
structure Joined where
  sender : ConnId
  receiver : ConnId
  bridge : Bridge

/-- The state of a server. -/
structure Server where
  conn : ConnId → Connection
  /-- The registry of waiting streamers. -/
  sendersSessions : Registry
  /-- The bridges, oldest first. -/
  bridges : List Joined
  /-- The session whose handler runs, or ran last. -/
  self : ConnId
  /-- What the running handler has still to do. -/
  plan : Plan
  /-- An exception is only logged now. -/
  guarded : Bool
  /-- The exception that ended the server. -/
  escaped : Option SystemError

namespace Server

/-- A server that has just been started. -/
def init : Server where
  conn _ := { socket := Socket.accepted, accepted := false, reads := [] }
  sendersSessions := ∅
  bridges := []
  self := 0
  plan := []
  guarded := true
  escaped := none

/-- The entries that marks add to the log of a connection. -/
def entriesOf (c : ConnId) (marks : List (ConnId × Entry)) : List Entry :=
  (marks.filter (·.1 = c)).map Prod.snd

variable (s : Server)

/-- Changes a connection. -/
def updateConn (c : ConnId) (f : Connection → Connection) : Server :=
  { s with conn := Function.update s.conn c (f (s.conn c)) }

/-- Changes the socket of a connection. -/
def updateSocket (c : ConnId) (f : Socket → Socket) : Server :=
  s.updateConn c fun k => { k with socket := f k.socket }

/-- Adds entries to the logs of connections. -/
def record (marks : List (ConnId × Entry)) : Server :=
  { s with
    conn := fun c =>
      { s.conn c with
        socket :=
          { (s.conn c).socket with log := (s.conn c).socket.log ++ entriesOf c marks } } }

/-- Starts a read of a session. -/
def asyncRead (c : ConnId) (read : PendingRead) : Server :=
  s.updateConn c fun k => { k with reads := k.reads ++ [read] }

/-- A read of a session completes with the next `n` bytes. -/
def completeRead (c : ConnId) (read : PendingRead) (n : ℕ) : Server :=
  s.updateConn c fun k => { k with socket := k.socket.take n, reads := k.reads.erase read }

/-- The bridge of two connections, with their sockets. -/
def bridgeState (j : Joined) : Bridge.State where
  toBridge := j.bridge
  peer
    | .one => (s.conn j.sender).socket
    | .two => (s.conn j.receiver).socket
  escaped := s.escaped

/-- The server after a bridge has changed. -/
def putBack (pre : List Joined) (j : Joined) (post : List Joined) (b : Bridge.State) : Server :=
  { (s.updateSocket j.sender fun _ => b.peer .one).updateSocket j.receiver fun _ => b.peer .two with
    bridges := pre ++ { j with bridge := b.toBridge } :: post
    escaped := b.escaped }

/-- The socket of a session is connected. -/
def Connected (c : ConnId) : Prop := (s.conn c).socket.connectivity = .connected

/-- An operation can be performed.  A write to a connected peer takes as long as the peer needs to
read; its step is taken when it returns. -/
def CanPerform : Action → Prop
  | .sendChunk session _ => s.Connected session
  | .asyncReadMessage _ _ maxMessageSize => maxMessageSize ≤ bufferSize
  | .startBridge sender receiver => s.Connected sender ∧ s.Connected receiver
  | .shutdown session => s.Connected session
  | .close _ => True

/-- Performs an operation. -/
def perform : Action → Server
  | .sendChunk session message => s.updateSocket session (·.record (.frame message))
  | .asyncReadMessage session messageHandler maxMessageSize =>
    s.asyncRead session (.header messageHandler maxMessageSize)
  | .startBridge sender receiver =>
    { s with
      bridges := s.bridges ++
        [{ sender, receiver
           bridge := Bridge.start (s.conn sender).socket (s.conn receiver).socket }] }
  | .shutdown _ => s
  | .close session => s.updateSocket session Socket.close

/-- An operation can throw.  Any write may fail, and it is then torn after `written` bytes; the
constructor of a bridge asks for the addresses of both peers, which only a connected socket has. -/
def CanThrow [SizeLayout] (a : Action) (what : Bytes) (written : ℕ) : Prop :=
  match a with
  | .sendChunk _ message => written < (sendChunk message).length
  | .asyncReadMessage _ _ maxMessageSize =>
    bufferSize < maxMessageSize ∧ what = maxMessageSizeError maxMessageSize
  | .startBridge sender receiver => ¬ (s.Connected sender ∧ s.Connected receiver)
  | .shutdown session => ¬ s.Connected session
  | .close _ => False

/-- What an operation that throws leaves behind.  The sockets of a bridge that could not be
constructed have been moved into its constructor and are destroyed; what was moved from counts as a
closed socket. -/
def performPartly (a : Action) (written : ℕ) : Server :=
  match a with
  | .sendChunk session message => s.updateSocket session (·.record (.torn message written))
  | .startBridge sender receiver =>
    (s.updateSocket sender Socket.close).updateSocket receiver Socket.close
  | _ => s

/-- `safeDisconnect` of a session. -/
def safeDisconnect (self : ConnId) (what : Bytes) : Server :=
  { s with self := self, plan := disconnect self (some what), guarded := true }

/-- The catch clauses: an exception of a message handler disconnects the session, one of the
disconnecting is only logged. -/
def catchException (what : Bytes) : Server :=
  if s.guarded then { s with plan := [] } else s.safeDisconnect s.self what

/-- The catch clauses leave the connections as they are. -/
@[simp] lemma conn_catchException (what : Bytes) : (s.catchException what).conn = s.conn := by
  unfold catchException
  split <;> rfl

/-- The catch clauses leave the registry as it is. -/
@[simp] lemma sendersSessions_catchException (what : Bytes) :
    (s.catchException what).sendersSessions = s.sendersSessions := by
  unfold catchException
  split <;> rfl

/-- The catch clauses leave the bridges as they are. -/
@[simp] lemma bridges_catchException (what : Bytes) :
    (s.catchException what).bridges = s.bridges := by
  unfold catchException
  split <;> rfl

/-- No exception escapes from the catch clauses. -/
@[simp] lemma escaped_catchException (what : Bytes) :
    (s.catchException what).escaped = s.escaped := by
  unfold catchException
  split <;> rfl

/-- What runs after a catch clause is guarded. -/
@[simp] lemma guarded_catchException (what : Bytes) :
    (s.catchException what).guarded = true := by
  unfold catchException
  split
  · assumption
  · rfl

/-- Runs a handler of the session `self` as far as its locked step. -/
def runHandler (self : ConnId) (effect : Effect) : Server :=
  let s := { s.record effect.marks with sendersSessions := effect.sendersSessions, self := self }
  match effect.plan with
  | .ok plan => { s with plan := plan, guarded := false }
  | .error what => { s with guarded := false }.catchException what

/-- A handler changes the connections by its marks only. -/
@[simp] lemma conn_runHandler (self : ConnId) (effect : Effect) :
    (s.runHandler self effect).conn = (s.record effect.marks).conn := by
  unfold runHandler
  cases effect.plan <;> rfl

/-- A handler leaves the registry of its effect. -/
@[simp] lemma sendersSessions_runHandler (self : ConnId) (effect : Effect) :
    (s.runHandler self effect).sendersSessions = effect.sendersSessions := by
  unfold runHandler
  cases effect.plan <;> rfl

/-- No handler changes the bridges before its operations. -/
@[simp] lemma bridges_runHandler (self : ConnId) (effect : Effect) :
    (s.runHandler self effect).bridges = s.bridges := by
  unfold runHandler
  cases effect.plan <;> rfl

/-- No exception escapes from a handler. -/
@[simp] lemma escaped_runHandler (self : ConnId) (effect : Effect) :
    (s.runHandler self effect).escaped = s.escaped := by
  unfold runHandler
  cases effect.plan with
  | ok plan => rfl
  | error what => exact escaped_catchException _ what

/-- A handler runs for its session. -/
@[simp] lemma self_runHandler (self : ConnId) (effect : Effect) :
    (s.runHandler self effect).self = self := by
  unfold runHandler
  cases effect.plan <;> rfl

/-- The registry lets go of sessions. -/
def letGo (r : Registry × List ConnId) : Server :=
  { s.record (r.2.map (·, .dropped)) with sendersSessions := r.1 }

/-- A session is referred to by a pending read, the registry, a bridge or the running handler. -/
def Referenced (c : ConnId) : Prop :=
  (s.conn c).reads ≠ [] ∨ ServerSessionsManager.waiting s.sendersSessions c ≠ 0 ∨
    (∃ j ∈ s.bridges, j.sender = c ∨ j.receiver = c) ∨
    (s.plan ≠ [] ∧ s.self = c) ∨ ∃ a ∈ s.plan, c ∈ a.sessions

/-- What can happen to a server. -/
inductive Label
  | accept (c : ConnId) (handshake : Bool)
  | peerWrites (c : ConnId) (bytes : Bytes)
  | peerEnds (c : ConnId)
  | peerDisconnects (c : ConnId)
  | headerCompletes (c : ConnId)
  | bodyCompletes (c : ConnId)
  | readFails (c : ConnId)
  | performs (a : Action)
  | throws (a : Action)
  | terminateTimeoutClients
  | reset
  | destroys (c : ConnId)
  | bridge (sender receiver : ConnId) (l : Bridge.Label)
  deriving DecidableEq

/-- The labels of a bridge that are its own, not its peers'. -/
def OwnLabel : Bridge.Label → Prop
  | .readCompletes .. | .readEnds .. | .readFails .. | .handle .. => True
  | .peerWrites .. | .peerEnds .. | .peerDisconnects .. => False

section Moves

variable [SizeLayout] [JsonLibrary] (sessionClass : SessionClass)

/-- What a server, its peers and its cleaner can do next. -/
inductive Move : Server → Label → Server → Prop
  /-- A connection is accepted, and the handshake succeeds. -/
  | accept (s : Server) (c : ConnId) (hidle : s.plan = []) (hnew : (s.conn c).accepted = false) :
      Move s (.accept c true)
        { s.updateConn c fun k => { k with accepted := true } with
          self := c
          plan := [.asyncReadMessage c .authenticateCallback firstMessageMaxSize]
          guarded := true }
  /-- A connection is accepted, but the handshake fails. -/
  | acceptFails (s : Server) (c : ConnId) (hidle : s.plan = [])
      (hnew : (s.conn c).accepted = false) :
      Move s (.accept c false)
        (s.updateConn c fun k => { k with accepted := true, socket := k.socket.close })
  /-- A peer that has not ended its stream writes. -/
  | peerWrites (s : Server) (c : ConnId) (bytes : Bytes) (hnew : (s.conn c).accepted = true)
      (hopen : (s.conn c).socket.ended = false) :
      Move s (.peerWrites c bytes) (s.updateSocket c (·.peerWrites bytes))
  /-- A peer ends its stream. -/
  | peerEnds (s : Server) (c : ConnId) (hnew : (s.conn c).accepted = true) :
      Move s (.peerEnds c) (s.updateSocket c Socket.peerEnds)
  /-- A connection is lost. -/
  | peerDisconnects (s : Server) (c : ConnId) (hnew : (s.conn c).accepted = true) :
      Move s (.peerDisconnects c) (s.updateSocket c Socket.peerDisconnects)
  /-- The read of a header completes, and the body is read. -/
  | headerAccepted (s : Server) (c : ConnId) (messageHandler : MessageHandler)
      (maxMessageSize : ℕ) (header : MessageHeader) (hidle : s.plan = [])
      (hread : .header messageHandler maxMessageSize ∈ (s.conn c).reads)
      (hlen : MessageHeader.size ≤ (s.conn c).socket.unread.length)
      (hheader : MessageHeader.deserialize ((s.conn c).socket.unread.take MessageHeader.size)
        MessageHeader.size maxMessageSize = .ok header) :
      Move s (.headerCompletes c)
        ((s.completeRead c (.header messageHandler maxMessageSize) MessageHeader.size).asyncRead c
          (.body messageHandler header))
  /-- The read of a header completes, but the header is rejected. -/
  | headerRejected (s : Server) (c : ConnId) (messageHandler : MessageHandler)
      (maxMessageSize : ℕ) (what : String) (hidle : s.plan = [])
      (hread : .header messageHandler maxMessageSize ∈ (s.conn c).reads)
      (hlen : MessageHeader.size ≤ (s.conn c).socket.unread.length)
      (hheader : MessageHeader.deserialize ((s.conn c).socket.unread.take MessageHeader.size)
        MessageHeader.size maxMessageSize = .error what) :
      Move s (.headerCompletes c)
        (((s.completeRead c (.header messageHandler maxMessageSize) MessageHeader.size).record
            [(c, .rejectedHeader ((s.conn c).socket.unread.take MessageHeader.size))]
          ).safeDisconnect c (Bytes.ofString what))
  /-- The read of a body completes, and the handler of the message runs. -/
  | bodyCompletes (s : Server) (c : ConnId) (messageHandler : MessageHandler)
      (header : MessageHeader) (usersManager : Option Authenticator) (now : Time)
      (hidle : s.plan = []) (hread : .body messageHandler header ∈ (s.conn c).reads)
      (hlen : header.messageSize.toNat ≤ (s.conn c).socket.unread.length) :
      Move s (.bodyCompletes c)
        ((s.completeRead c (.body messageHandler header) header.messageSize.toNat).runHandler c
          (invoke sessionClass usersManager s.sendersSessions c now messageHandler
            { type := header.type
              content := (s.conn c).socket.unread.take header.messageSize.toNat }))
  /-- The read of a session fails, at the end of the stream or because of an error. -/
  | readFails (s : Server) (c : ConnId) (read : PendingRead) (hidle : s.plan = [])
      (hread : read ∈ (s.conn c).reads) : Move s (.readFails c) (s.completeRead c read 0)
  /-- The running handler performs its next operation. -/
  | performs (s : Server) (a : Action) (rest : Plan) (hplan : s.plan = a :: rest)
      (hcan : s.CanPerform a) : Move s (.performs a) { s.perform a with plan := rest }
  /-- The next operation of the running handler throws. -/
  | throws (s : Server) (a : Action) (rest : Plan) (what : Bytes) (written : ℕ)
      (hplan : s.plan = a :: rest) (hcan : s.CanThrow a what written) :
      Move s (.throws a) ((s.performPartly a written).catchException what)
  /-- The cleaner makes a pass. -/
  | terminateTimeoutClients (s : Server) (overflow : DurationOverflow) (clientTimeout : Seconds)
      (now : ℕ → Time) :
      Move s .terminateTimeoutClients (s.letGo
        (ServerSessionsManager.terminateTimeoutClients overflow s.sendersSessions clientTimeout
          now))
  /-- The registry is reset. -/
  | reset (s : Server) :
      Move s .reset (s.letGo (ServerSessionsManager.reset s.sendersSessions))
  /-- The last reference to a session is dropped, which ends its connection. -/
  | destroys (s : Server) (c : ConnId) (hnew : (s.conn c).accepted = true)
      (hfree : ¬ s.Referenced c) : Move s (.destroys c) (s.updateSocket c Socket.close)
  /-- A bridge makes a step of its own. -/
  | bridge (s : Server) (pre : List Joined) (j : Joined) (post : List Joined) (l : Bridge.Label)
      (b : Bridge.State) (hidle : s.plan = []) (hj : s.bridges = pre ++ j :: post)
      (hown : OwnLabel l) (hb : Bridge.Step (s.bridgeState j) l b) :
      Move s (.bridge j.sender j.receiver l) (s.putBack pre j post b)

/-- The steps of a server: moves, as long as no exception has escaped. -/
def Step (s : Server) (l : Label) (t : Server) : Prop :=
  s.escaped = none ∧ Move sessionClass s l t

end Moves

end Server

end ScreenViewer
