import Mathlib
import ScreenViewer.Socket
import ScreenViewer.SocketBase.AsyncRead

/-!
# Disconnecting

`disconnect` sends the `DISCONNECT` message, shuts the connection down and closes the socket; the
first two can throw, and then the socket is not closed.  `safeDisconnect` catches what `disconnect`
throws, and the completion handlers of the reader call it when they reject a header or catch an
exception of the message handler.

The calls are programs over an `Endpoint`, which holds the faults of the transport: nothing is
assumed of them.
-/

namespace ScreenViewer

namespace SocketBase

/-- The texts of the errors of the system. -/
class SystemErrorText where
  what : SystemError → Bytes

/-- One end of a connection, with what the transport makes of the next calls. -/
structure Endpoint where
  socket : Socket
  /-- The member `data_buffer`. -/
  dataBuffer : Bytes
  /-- The outstanding read, if any. -/
  pending : Option AsyncRead
  /-- The faults of the next writes: how much a write that fails has written, and its error. -/
  writeFaults : Stream' (Option (ℕ × Bytes))
  /-- The faults of the next shutdowns. -/
  shutdownFaults : Stream' (Option Bytes)

namespace Endpoint

/-- A program that may throw an exception, given by its text, and that leaves what it has done. -/
abbrev Call := EStateM Bytes Endpoint

section Calls

variable [SystemErrorText]

/-- `sendChunk`. -/
def sendChunk (message : Message) : Call Unit := do
  let s ← get
  match s.socket.connectivity with
  | .closed => throw (SystemErrorText.what .badDescriptor)
  | .disconnected => throw (SystemErrorText.what .notConnected)
  | .connected =>
    match s.writeFaults.head with
    | none =>
      set { s with
        writeFaults := s.writeFaults.tail
        socket := s.socket.record (.frame message) }
    | some (written, what) => do
      set { s with
        writeFaults := s.writeFaults.tail
        socket := s.socket.record (.torn message written) }
      throw what

/-- `send`. -/
def send (message : Message) : Call Unit := forM (chunks message) sendChunk

/-- The throwing `shutdown(shutdown_both)` of the lowest layer. -/
def shutdown : Call Unit := do
  let s ← get
  match s.socket.shutdown with
  | .error e => throw (SystemErrorText.what e)
  | .ok socket =>
    set { s with socket := socket, shutdownFaults := s.shutdownFaults.tail }
    match s.shutdownFaults.head with
    | none => pure ()
    | some what => throw what

omit [SystemErrorText] in
/-- `close()` of the lowest layer. -/
def close : Call Unit := modify fun s => { s with socket := s.socket.close }

/-- `disconnect`. -/
def disconnect (disconnectMsg : Option Bytes) : Call Unit := do
  match disconnectMsg with
  | some msg => send { type := .disconnect, content := msg }
  | none => pure ()
  shutdown
  close

/-- `safeDisconnect`. -/
def safeDisconnect (disconnectMsg : Option Bytes) : Call Unit :=
  tryCatch (disconnect disconnectMsg) fun _ => pure ()

variable [SizeLayout]

/-- The completion handler of `asyncReadHeader`, with the error of the read or without one. -/
def headerRead (maxMessageSize : ℕ) (ec : Option Bytes) (transferredBytes : ℕ) : Call Unit := do
  match ec with
  | some _ => pure ()
  | none =>
    let s ← get
    match MessageHeader.deserialize s.dataBuffer transferredBytes maxMessageSize with
    | .ok header => set { s with pending := some (.body header 0) }
    | .error what => safeDisconnect (some (Bytes.ofString what))

omit [SizeLayout] in
/-- The completion handler of `asyncReadMessageImpl`. -/
def messageRead (messageHandler : Message → Call Unit) (header : MessageHeader)
    (ec : Option Bytes) (messageSize : ℕ) : Call Unit := do
  match ec with
  | some _ => pure ()
  | none =>
    let s ← get
    tryCatch
      (messageHandler { type := header.type, content := s.dataBuffer.take messageSize })
      fun what => safeDisconnect (some what)

end Calls

/-- `isOpen()`. -/
def isOpen (s : Endpoint) : Bool := s.socket.isOpen

/-- A call returns without an exception and leaves a closed socket. -/
def Closes (call : Call Unit) (s : Endpoint) : Prop :=
  ∃ t, call.run s = .ok () t ∧ t.isOpen = false

/-- The messages that `disconnect` passes to `sendChunk`. -/
def goodbye (disconnectMsg : Option Bytes) : List Message :=
  match disconnectMsg with
  | some msg => chunks { type := .disconnect, content := msg }
  | none => []

/-- The transport lets the next writes through, one for each message. -/
structure LetsThrough (s : Endpoint) (cs : List Message) : Prop where
  connected : s.socket.connectivity = .connected
  writes : ∀ i < cs.length, s.writeFaults.get i = none

/-- The transport lets `disconnect` through. -/
structure LetsDisconnect (s : Endpoint) (disconnectMsg : Option Bytes) : Prop where
  send : s.LetsThrough (goodbye disconnectMsg)
  shutdown : s.shutdownFaults.head = none

section Specs

variable [SystemErrorText] {s t : Endpoint} {what : Bytes}

/-- What `sendChunk` does to a connected socket is up to the transport. -/
lemma run_sendChunk (message : Message) (h : s.socket.connectivity = .connected) :
    (sendChunk message).run s =
      match s.writeFaults.head with
      | none =>
        .ok () { s with
          writeFaults := s.writeFaults.tail
          socket := s.socket.record (.frame message) }
      | some (written, what) =>
        .error what { s with
          writeFaults := s.writeFaults.tail
          socket := s.socket.record (.torn message written) } := by
  unfold sendChunk
  rw [EStateM.run_bind, EStateM.run_get]
  simp only [h]
  cases s.writeFaults.head <;> rfl

/-- Nothing can be sent through a socket that is not connected. -/
lemma run_sendChunk_of_not_connected (message : Message) (h : s.socket.connectivity ≠ .connected) :
    ∃ what, (sendChunk message).run s = .error what s := by
  unfold sendChunk
  rw [EStateM.run_bind, EStateM.run_get]
  cases hc : s.socket.connectivity with
  | connected => exact absurd hc h
  | disconnected => exact ⟨SystemErrorText.what .notConnected, by simp only [hc]; rfl⟩
  | closed => exact ⟨SystemErrorText.what .badDescriptor, by simp only [hc]; rfl⟩

omit [SystemErrorText] in
/-- What lets a first write and others through goes on to let the others through. -/
lemma LetsThrough.of_cons {c : Message} {cs : List Message} (h : s.LetsThrough (c :: cs)) :
    LetsThrough { s with
      writeFaults := s.writeFaults.tail
      socket := s.socket.record (.frame c) } cs := by
  constructor
  · exact h.connected
  · intro i hi
    exact h.writes (i + 1) (Nat.succ_lt_succ hi)

omit [SystemErrorText] in
/-- What lets a first write through and then others lets them all through. -/
lemma LetsThrough.cons {c : Message} {cs : List Message} (hhead : s.writeFaults.head = none)
    (h : LetsThrough { s with
      writeFaults := s.writeFaults.tail
      socket := s.socket.record (.frame c) } cs) : s.LetsThrough (c :: cs) := by
  constructor
  · exact h.connected
  · intro i hi
    cases i with
    | zero => exact hhead
    | succ i => exact h.writes i (Nat.lt_of_succ_lt_succ hi)

/-- Chunks that the transport lets through are sent. -/
lemma run_sendChunks_of_letsThrough {cs : List Message} (h : s.LetsThrough cs) :
    ∃ t, (forM cs sendChunk).run s = .ok () t ∧ t.socket.connectivity = .connected ∧
      t.shutdownFaults = s.shutdownFaults := by
  induction cs generalizing s with
  | nil => exact ⟨s, rfl, h.connected, rfl⟩
  | cons c cs ih =>
    have hhead : s.writeFaults.head = none := h.writes 0 (Nat.succ_pos _)
    obtain ⟨t, ht, hconnected, hfaults⟩ := ih h.of_cons
    refine ⟨t, ?_, hconnected, hfaults⟩
    rw [List.forM_cons, EStateM.run_bind, run_sendChunk c h.connected, hhead]
    exact ht

/-- The first chunk that the transport does not let through throws. -/
lemma run_sendChunks_of_not_letsThrough {cs : List Message} (hcs : cs ≠ [])
    (h : ¬ s.LetsThrough cs) :
    ∃ what t, (forM cs sendChunk).run s = .error what t ∧ t.isOpen = s.isOpen := by
  induction cs generalizing s with
  | nil => exact absurd rfl hcs
  | cons c cs ih =>
    rw [List.forM_cons, EStateM.run_bind]
    by_cases hconnected : s.socket.connectivity = .connected
    · rw [run_sendChunk c hconnected]
      cases hhead : s.writeFaults.head with
      | some fault => exact ⟨_, _, rfl, rfl⟩
      | none =>
        by_cases hnil : cs = []
        · have hdone : s.LetsThrough [c] := by
            apply LetsThrough.cons hhead
            exact ⟨hconnected, fun i hi => absurd hi (Nat.not_lt_zero i)⟩
          exact absurd (hnil ▸ hdone) h
        · obtain ⟨what, t, ht, hopen⟩ := ih hnil fun hthrough => h (hthrough.cons hhead)
          exact ⟨what, t, ht, hopen⟩
    · obtain ⟨what, hsend⟩ := run_sendChunk_of_not_connected c hconnected
      rw [hsend]
      exact ⟨what, s, rfl, rfl⟩

/-- Shutting down and closing a connected socket succeeds if the transport lets the shutdown
through, and otherwise throws and closes nothing. -/
lemma run_shutdown_close (h : s.socket.connectivity = .connected) :
    match s.shutdownFaults.head with
    | none => Closes (do shutdown; close) s
    | some what =>
      ∃ t, (do shutdown; close : Call Unit).run s = .error what t ∧ t.isOpen = true := by
  have hshutdown : s.socket.shutdown = .ok s.socket := by simp [Socket.shutdown, h]
  unfold Closes shutdown
  rw [EStateM.run_bind, EStateM.run_bind, EStateM.run_get]
  simp only [hshutdown, EStateM.run_bind, EStateM.run_set]
  cases s.shutdownFaults.head with
  | none => exact ⟨_, rfl, rfl⟩
  | some what => exact ⟨_, rfl, by simp [isOpen, Socket.isOpen, h]⟩

/-- A socket that is not connected cannot be shut down. -/
lemma run_shutdown_close_of_not_connected (h : s.socket.connectivity ≠ .connected) :
    ∃ what, (do shutdown; close : Call Unit).run s = .error what s := by
  unfold shutdown
  rw [EStateM.run_bind, EStateM.run_bind, EStateM.run_get]
  cases hc : s.socket.connectivity with
  | connected => exact absurd hc h
  | disconnected => simp [Socket.shutdown, hc]
  | closed => simp [Socket.shutdown, hc]

/-- `disconnect` sends the chunks of its message, if it has one. -/
lemma disconnect_eq (disconnectMsg : Option Bytes) :
    disconnect disconnectMsg =
      (forM (goodbye disconnectMsg) sendChunk >>= fun _ => do shutdown; close) := by
  cases disconnectMsg <;> rfl

/-- What the transport lets through disconnects. -/
lemma closes_disconnect {disconnectMsg : Option Bytes} (h : s.LetsDisconnect disconnectMsg) :
    Closes (disconnect disconnectMsg) s := by
  obtain ⟨t, ht, hconnected, hfaults⟩ := run_sendChunks_of_letsThrough h.send
  have hclose := run_shutdown_close hconnected
  rw [hfaults, h.shutdown] at hclose
  unfold Closes
  rw [disconnect_eq, EStateM.run_bind, ht]
  exact hclose

/-- What the transport does not let through throws, and closes nothing. -/
lemma disconnect_throws {disconnectMsg : Option Bytes} (h : ¬ s.LetsDisconnect disconnectMsg) :
    ∃ what t, (disconnect disconnectMsg).run s = .error what t ∧ t.isOpen = s.isOpen := by
  rw [disconnect_eq, EStateM.run_bind]
  by_cases hsend : s.LetsThrough (goodbye disconnectMsg)
  · obtain ⟨t, ht, hconnected, hfaults⟩ := run_sendChunks_of_letsThrough hsend
    have hclose := run_shutdown_close hconnected
    rw [hfaults] at hclose
    rw [ht]
    cases hhead : s.shutdownFaults.head with
    | none => exact absurd ⟨hsend, hhead⟩ h
    | some what =>
      rw [hhead] at hclose
      obtain ⟨u, hu, hopen⟩ := hclose
      refine ⟨what, u, hu, ?_⟩
      rw [hopen, isOpen, Socket.isOpen, hsend.connected]
      rfl
  · by_cases hnil : goodbye disconnectMsg = []
    · have hconnected : s.socket.connectivity ≠ .connected := by
        intro hconnected
        refine hsend ⟨hconnected, fun i hi => ?_⟩
        rw [hnil] at hi
        exact absurd hi (Nat.not_lt_zero i)
      obtain ⟨what, hshutdown⟩ := run_shutdown_close_of_not_connected hconnected
      rw [hnil]
      exact ⟨what, s, hshutdown, rfl⟩
    · obtain ⟨what, t, ht, hopen⟩ := run_sendChunks_of_not_letsThrough hnil hsend
      rw [ht]
      exact ⟨what, t, rfl, hopen⟩

omit [SystemErrorText] in
/-- A handler runs in the state that the exception has left. -/
lemma run_tryCatch (call : Call Unit) (handler : Bytes → Call Unit) :
    (tryCatch call handler).run s =
      match call.run s with
      | .ok a t => .ok a t
      | .error what t => (handler what).run t := by
  unfold tryCatch EStateM.run
  simp only [instMonadExceptOfMonadExceptOf, tryCatchThe, MonadExceptOf.tryCatch, EStateM.tryCatch]
  cases call s <;> rfl

/-- `safeDisconnect` closes the socket exactly if it is closed already or the transport lets the
disconnecting through. -/
lemma closes_safeDisconnect_iff {disconnectMsg : Option Bytes} :
    Closes (safeDisconnect disconnectMsg) s ↔
      s.isOpen = false ∨ s.LetsDisconnect disconnectMsg := by
  unfold safeDisconnect
  by_cases h : s.LetsDisconnect disconnectMsg
  · obtain ⟨t, ht, hopen⟩ := closes_disconnect h
    refine ⟨fun _ => Or.inr h, fun _ => ⟨t, ?_, hopen⟩⟩
    rw [run_tryCatch, ht]
  · obtain ⟨what, t, ht, hopen⟩ := disconnect_throws h
    unfold Closes
    rw [run_tryCatch, ht, or_iff_left h, ← hopen]
    simp

/-- An exception of `disconnect` never escapes from `safeDisconnect`. -/
lemma safeDisconnect_returns (disconnectMsg : Option Bytes) :
    ∃ t, (safeDisconnect disconnectMsg).run s = .ok () t := by
  unfold safeDisconnect
  rw [run_tryCatch]
  cases (disconnect disconnectMsg).run s with
  | ok _ t => exact ⟨t, rfl⟩
  | error what t => exact ⟨t, rfl⟩

section Handlers

variable [SizeLayout]

/-- A rejected header disconnects. -/
lemma run_headerRead {maxMessageSize transferredBytes : ℕ} {what : String}
    (h : MessageHeader.deserialize s.dataBuffer transferredBytes maxMessageSize = .error what) :
    (headerRead maxMessageSize none transferredBytes).run s =
      (safeDisconnect (some (Bytes.ofString what))).run s := by
  unfold headerRead
  simp only [EStateM.run_bind, EStateM.run_get, h]

omit [SizeLayout] in
/-- A message handler that throws leaves its state to the disconnecting. -/
lemma run_messageRead {messageHandler : Message → Call Unit} {header : MessageHeader}
    {messageSize : ℕ}
    (h : (messageHandler
      { type := header.type, content := s.dataBuffer.take messageSize }).run s = .error what t) :
    (messageRead messageHandler header none messageSize).run s =
      (safeDisconnect (some what)).run t := by
  unfold messageRead
  simp only [EStateM.run_bind, EStateM.run_get, run_tryCatch, h]

/-- The disconnecting, alone or in a handler of a read, closes the socket exactly if that is closed
already or the transport lets it through, and `safeDisconnect` returns in any case. -/
theorem closes_iff (s : Endpoint) :
    (∀ disconnectMsg, Closes (safeDisconnect disconnectMsg) s ↔
      s.isOpen = false ∨ s.LetsDisconnect disconnectMsg) ∧
    (∀ maxMessageSize transferredBytes what,
      MessageHeader.deserialize s.dataBuffer transferredBytes maxMessageSize = .error what →
        (Closes (headerRead maxMessageSize none transferredBytes) s ↔
          s.isOpen = false ∨ s.LetsDisconnect (some (Bytes.ofString what)))) ∧
    (∀ (messageHandler : Message → Call Unit) (header : MessageHeader) messageSize what t,
      (messageHandler
        { type := header.type, content := s.dataBuffer.take messageSize }).run s = .error what t →
        (Closes (messageRead messageHandler header none messageSize) s ↔
          t.isOpen = false ∨ t.LetsDisconnect (some what))) ∧
    ∀ disconnectMsg, ∃ t, (safeDisconnect disconnectMsg).run s = .ok () t := by
  refine ⟨fun disconnectMsg => closes_safeDisconnect_iff, ?_, ?_, safeDisconnect_returns⟩
  · intro maxMessageSize transferredBytes what h
    unfold Closes
    rw [run_headerRead h]
    exact closes_safeDisconnect_iff
  · intro messageHandler header messageSize what t h
    unfold Closes
    rw [run_messageRead h]
    exact closes_safeDisconnect_iff

end Handlers

omit [SystemErrorText] in
/-- A header of an unknown type closes the socket if nothing fails. -/
theorem closes_iff_rejected :
    letI := littleEndian
    letI : SystemErrorText := ⟨fun _ => []⟩
    Closes (headerRead bufferSize none MessageHeader.size)
      { socket := .accepted, dataBuffer := List.replicate 8 0 ++ [200], pending := none,
        writeFaults := Stream'.const none, shutdownFaults := Stream'.const none } := by
  let := littleEndian
  let : SystemErrorText := ⟨fun _ => []⟩
  refine ((closes_iff _).2.1 _ _ "Got unknown message type (200)." rfl).mpr (Or.inr ?_)
  exact ⟨⟨rfl, fun _ _ => rfl⟩, rfl⟩

omit [SystemErrorText] in
/-- When the peer has reset the connection, the socket stays open, also if the header was read
before. -/
theorem not_closes_reset :
    letI := littleEndian
    letI : SystemErrorText := ⟨fun _ => []⟩
    ∃ s : Endpoint, s.socket.connectivity = .disconnected ∧
      ¬ Closes (safeDisconnect none) s ∧
      ¬ Closes (headerRead bufferSize none MessageHeader.size) s := by
  let := littleEndian
  let : SystemErrorText := ⟨fun _ => []⟩
  let s : Endpoint :=
    { socket := { Socket.accepted with connectivity := .disconnected }
      dataBuffer := List.replicate 8 0 ++ [200], pending := none
      writeFaults := Stream'.const none, shutdownFaults := Stream'.const none }
  have hstays : ∀ disconnectMsg, ¬ Closes (safeDisconnect disconnectMsg) s := by
    intro disconnectMsg h
    rcases closes_safeDisconnect_iff.mp h with hopen | hthrough
    · exact absurd hopen (by decide)
    · exact absurd hthrough.send.connected (by decide)
  refine ⟨s, rfl, hstays none, ?_⟩
  have hrejected : MessageHeader.deserialize (List.replicate 8 0 ++ [200]) MessageHeader.size
      bufferSize = .error "Got unknown message type (200)." := rfl
  unfold Closes
  rw [run_headerRead hrejected]
  exact hstays _

end Specs

end Endpoint

end SocketBase

end ScreenViewer
