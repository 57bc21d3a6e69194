import Mathlib
import ScreenViewer.Socket
import ScreenViewer.SocketBase.Send

/-!
# What a handler does with its sockets

A completion handler of the server changes the registry at most once, at its locked step, and
decides everything else it does there and then: a list of operations on sockets, performed in order
until one of them throws.  Such a list is a plan.  The functions below are the plans of the
operations of `SocketBase`; the handlers put them together, and the server performs them one by one,
so that everything else that runs can happen between two of them.
-/

namespace ScreenViewer

/-- The handlers of complete messages, as passed to `asyncReadMessage`. -/
inductive MessageHandler
  | authenticateCallback
  | handleRead
  deriving DecidableEq

/-- An operation of a plan. -/
inductive Action
  /-- `sendChunk` on the socket of `session`. -/
  | sendChunk (session : ConnId) (message : Message)
  /-- `asyncReadMessage`: the session waits for a message. -/
  | asyncReadMessage (session : ConnId) (messageHandler : MessageHandler) (maxMessageSize : ℕ)
  /-- A bridge is constructed over the sockets of two sessions and started. -/
  | startBridge (sender receiver : ConnId)
  /-- `shutdown` on the socket of `session`. -/
  | shutdown (session : ConnId)
  /-- `close` on the socket of `session`. -/
  | close (session : ConnId)
  deriving DecidableEq

/-- The operations of a handler, in order. -/
abbrev Plan := List Action

/-- The sessions whose sockets an operation is about. -/
def Action.sessions : Action → List ConnId
  | .sendChunk session _ => [session]
  | .asyncReadMessage session _ _ => [session]
  | .startBridge sender receiver => [sender, receiver]
  | .shutdown session => [session]
  | .close session => [session]

namespace SocketBase

/-- The plan of `send`. -/
def sendPlan (session : ConnId) (message : Message) : Plan :=
  (chunks message).map (Action.sendChunk session)

/-- `sendACK`. -/
def sendACK (session : ConnId) : Plan := sendPlan session { type := .ack, content := [] }

/-- `sendNACK`. -/
def sendNACK (session : ConnId) : Plan := sendPlan session { type := .nack, content := [] }

/-- `disconnect`. -/
def disconnect (session : ConnId) (disconnectMsg : Option Bytes) : Plan :=
  (match disconnectMsg with
    | some msg => sendPlan session { type := .disconnect, content := msg }
    | none => []) ++ [.shutdown session, .close session]

/-- The text of the exception of `asyncReadMessage` for a limit above the buffer's size. -/
def maxMessageSizeError (maxMessageSize : ℕ) : Bytes :=
  Bytes.ofString
    (s!"Tried to schedule receiving message with max size of {maxMessageSize} bytes, " ++
      s!"where buffer size is {bufferSize}.")

lemma chunks_ack : chunks { type := .ack, content := [] } = [{ type := .ack, content := [] }] :=
  chunks_of_le (Nat.zero_le _)

lemma chunks_startStream :
    chunks { type := .startStream, content := [] } = [{ type := .startStream, content := [] }] :=
  chunks_of_le (Nat.zero_le _)

lemma sendACK_eq (session : ConnId) :
    sendACK session = [.sendChunk session { type := .ack, content := [] }] := by
  rw [sendACK, sendPlan, chunks_ack, List.map_singleton]

/-- Every part of a message that is sent has the message's type. -/
lemma mem_sendPlan {session : ConnId} {message : Message} {a : Action}
    (h : a ∈ sendPlan session message) :
    ∃ c, a = .sendChunk session c ∧ c.type = message.type := by
  obtain ⟨c, hc, rfl⟩ := List.mem_map.mp h
  exact ⟨c, rfl, type_of_mem_chunksFrom hc⟩

end SocketBase

end ScreenViewer
