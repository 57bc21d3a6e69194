import Mathlib
import ScreenViewer.Message

/-!
# Connected sockets

A `Socket` is the server's end of one connection: what the peer has written, how much of it is still
unread, what the connection has been used for so far, and the state of the descriptor.  Sessions own
the socket of their connection until a bridge takes it over; both work on the same record.

The log of a connection is history only.  No function of the model reads it; it records, oldest
first, what was written to the peer and the milestones of the session, so that statements about runs
can be made about states.
-/

namespace ScreenViewer

/-- The connections accepted by a server are numbered. -/
abbrev ConnId := ℕ

/-- The code under which a streamer is registered. -/
abbrev Code := Bytes

/-- An entry of the log of a connection. -/
inductive Entry
  /-- A whole frame was written to the peer. -/
  | frame (message : Message)
  /-- Writing a frame failed after the first `written` bytes. -/
  | torn (message : Message) (written : ℕ)
  /-- A bridge wrote these bytes to the peer. -/
  | relayed (bytes : Bytes)
  /-- The session rejected a frame because of its header. -/
  | rejectedHeader (header : Bytes)
  /-- The session's `authenticateCallback` was called. -/
  | authenticateCallback (message : Message)
  /-- `UsersManager::authenticate` was called and returned, or threw. -/
  | credentialCheck (email password : Bytes) (result : Except Bytes Bool)
  /-- The session's `handleRead` was called; whether the content was then a registered code. -/
  | handleRead (message : Message) (isRegistered : Bool)
  /-- The session was put into the registry. -/
  | registered (code : Code)
  /-- The session was taken out of the registry by the receiver's request. -/
  | claimed (receiver : ConnId)
  /-- The session's request took the streamer with this code out of the registry. -/
  | found (code : Code) (streamer : ConnId)
  /-- The session was dropped from the registry. -/
  | dropped
  deriving DecidableEq

/-- What the transport knows of a connection. -/
inductive Connectivity
  | connected
  | disconnected
  | closed
  deriving DecidableEq

/-- The errors of operations on a socket that is not connected. -/
inductive SystemError
  | notConnected
  | badDescriptor
  deriving DecidableEq

/-- The server's end of a connection. -/
structure Socket where
  /-- Everything the peer has written. -/
  sent : Bytes
  /-- The part of it that has not been read. -/
  unread : Bytes
  /-- The peer has ended its stream. -/
  ended : Bool
  /-- The state of the descriptor. -/
  connectivity : Connectivity
  /-- The history of the connection. -/
  log : List Entry

namespace Socket

/-- A connection that has just been accepted. -/
def accepted : Socket :=
  { sent := [], unread := [], ended := false, connectivity := .connected, log := [] }

/-- `is_open()`. -/
def isOpen (s : Socket) : Bool := s.connectivity ≠ .closed

/-- The throwing `shutdown(shutdown_both)`. -/
def shutdown (s : Socket) : Except SystemError Socket :=
  match s.connectivity with
  | .connected => .ok s
  | .disconnected => .error .notConnected
  | .closed => .error .badDescriptor

/-- `close()`. -/
def close (s : Socket) : Socket := { s with connectivity := .closed }

/-- The peer writes. -/
def peerWrites (s : Socket) (bytes : Bytes) : Socket :=
  { s with sent := s.sent ++ bytes, unread := s.unread ++ bytes }

/-- The peer ends its stream. -/
def peerEnds (s : Socket) : Socket := { s with ended := true }

/-- The connection is lost. -/
def peerDisconnects (s : Socket) : Socket :=
  { s with connectivity := if s.connectivity = .connected then .disconnected else s.connectivity }

/-- A read takes the first `n` unread bytes. -/
def take (s : Socket) (n : ℕ) : Socket := { s with unread := s.unread.drop n }

/-- An entry is added to the log. -/
def record (s : Socket) (e : Entry) : Socket := { s with log := s.log ++ [e] }

end Socket

/-- The bytes that bridges have written, according to a log. -/
def relayedBytes (log : List Entry) : Bytes :=
  log.flatMap fun
    | .relayed bytes => bytes
    | _ => []

@[simp] lemma relayedBytes_append (l m : List Entry) :
    relayedBytes (l ++ m) = relayedBytes l ++ relayedBytes m :=
  List.flatMap_append

end ScreenViewer
