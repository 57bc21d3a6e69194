import Mathlib
import ScreenViewer.Lib.Runs
import ScreenViewer.Socket

/-!
# The bridge between two peers

`Bridge` relays in both directions between two sockets.  Its four handlers arm each other: a
completed read of one peer is written to the other peer, and a successful write arms the next read.
The model keeps the source's crossed names: `peer_two` is read into `client_buffer` for
`handle_upstream_read`, which writes to `peer_one`; `peer_one` is read into `server_buffer` for
`handle_downstream_read`, which writes to `peer_two`.

Outstanding reads and completed ones whose handlers have not run yet are lists, so that the number
of reads in a direction is something to be proved.  Between two steps of the bridge the peers may
write, end their streams or get lost, and handlers run one at a time.  `relays` is the statement
about every reachable state.
-/

namespace ScreenViewer

/-- The two ends of a bridge. -/
inductive Peer
  | one
  | two
  deriving DecidableEq

/-- The two buffers of a bridge. -/
inductive BufferName
  | serverBuffer
  | clientBuffer
  deriving DecidableEq

/-- The handlers to which the reads of a bridge are bound. -/
inductive ReadHandler
  | handleUpstreamRead
  | handleDownstreamRead
  deriving DecidableEq

/-- An `async_read` of the bridge: the peer it reads, the buffer it fills, and its handler. -/
structure ReadOp where
  peer : Peer
  buffer : BufferName
  handler : ReadHandler
  deriving DecidableEq

/-- Why a read completes without data: the peer's stream has ended, or an error. -/
inductive ReadEnd
  | eof
  | error
  deriving DecidableEq

/-- What made a handler call `close`. -/
inductive CloseCause
  | readEnded (handler : ReadHandler)
  | readFailed (handler : ReadHandler)
  | writeFailed (handler : ReadHandler)
  deriving DecidableEq

/-- The outcome of a write to a peer; a failing one may have written some bytes. -/
inductive WriteResult
  | ok
  | failed (written : ℕ)
  deriving DecidableEq

/-- What a write of `bytes` with this outcome has written. -/
def WriteResult.transferred (bytes : Bytes) : WriteResult → Bytes
  | .ok => bytes
  | .failed written => bytes.take written

/-- A write writes a part of what it is given, in order. -/
lemma WriteResult.prefix_transferred (bytes : Bytes) (ec : WriteResult) :
    ec.transferred bytes <+: bytes := by
  cases ec with
  | ok => exact List.prefix_refl _
  | failed written => exact List.take_prefix _ _

/-- A bridge without its two sockets. -/
structure Bridge where
  /-- The contents of the two buffers. -/
  buffer : BufferName → Bytes
  /-- Whether a buffer holds bytes that have not been written yet (history). -/
  unwritten : BufferName → Bool
  /-- The outstanding reads. -/
  reads : List ReadOp
  /-- The completed reads whose handlers have not run. -/
  ready : List (ReadOp × Except ReadEnd ℕ)
  /-- The calls of `close`, with what caused them (history). -/
  closes : List CloseCause
  /-- The sockets as they were handed over (history). -/
  handover : Peer → Socket

namespace Bridge

/-- `MAX_DATA_LENGTH`. -/
def maxDataLength : ℕ := 1000000

/-- A bridge together with the sockets it owns, and the exception that has escaped from one of its
handlers, if any. -/
structure State extends Bridge where
  peer : Peer → Socket
  escaped : Option SystemError

/-- The read armed by `start` and by `handle_downstream_write`. -/
def readPeerTwo : ReadOp :=
  { peer := .two, buffer := .clientBuffer, handler := .handleUpstreamRead }

/-- The read armed by `start` and by `handle_upstream_write`. -/
def readPeerOne : ReadOp :=
  { peer := .one, buffer := .serverBuffer, handler := .handleDownstreamRead }

/-- A bridge over two sockets that has been constructed and started. -/
def start (peerOne peerTwo : Socket) : Bridge where
  buffer _ := List.replicate maxDataLength 0
  unwritten _ := false
  reads := [readPeerTwo, readPeerOne]
  ready := []
  closes := []
  handover
    | .one => peerOne
    | .two => peerTwo

/-- The body of `close`: the new sockets, and the exception it leaves with, if any. -/
def closePeers (peerOne peerTwo : Socket) : (Socket × Socket) × Option SystemError :=
  match if peerOne.isOpen then peerOne.shutdown.map Socket.close else .ok peerOne with
  | .error e => ((peerOne, peerTwo), some e)
  | .ok peerOne =>
    if peerTwo.isOpen then
      match peerOne.shutdown with
      | .error e => ((peerOne, peerTwo), some e)
      | .ok peerOne => ((peerOne, peerTwo.close), none)
    else ((peerOne, peerTwo), none)

namespace State

/-- A started bridge. -/
def started (peerOne peerTwo : Socket) : State where
  toBridge := Bridge.start peerOne peerTwo
  peer
    | .one => peerOne
    | .two => peerTwo
  escaped := none

/-- Changes one socket. -/
def updatePeer (s : State) (p : Peer) (f : Socket → Socket) : State :=
  { s with peer := Function.update s.peer p (f (s.peer p)) }

/-- Starts a read. -/
def asyncRead (s : State) (op : ReadOp) : State := { s with reads := s.reads ++ [op] }

/-- A read takes `n` unread bytes into its buffer. -/
def fill (s : State) (op : ReadOp) (n : ℕ) : State :=
  { s.updatePeer op.peer (·.take n) with
    buffer := Function.update s.buffer op.buffer
      (Bytes.overwrite (s.buffer op.buffer) 0 ((s.peer op.peer).unread.take n))
    unwritten := Function.update s.unwritten op.buffer true }

/-- An outstanding read completes; its handler has yet to run. -/
def complete (s : State) (op : ReadOp) (result : Except ReadEnd ℕ) : State :=
  { s with reads := s.reads.erase op, ready := s.ready ++ [(op, result)] }

/-- A completed read is taken up to be handled. -/
def dequeue (s : State) (op : ReadOp) (result : Except ReadEnd ℕ) : State :=
  { s with ready := s.ready.erase (op, result) }

/-- `close`, called because of `cause`. -/
def close (s : State) (cause : CloseCause) : State :=
  let r := closePeers (s.peer .one) (s.peer .two)
  { s with
    peer := fun
      | .one => r.1.1
      | .two => r.1.2
    escaped := r.2
    closes := s.closes ++ [cause] }

/-- Writes the first `n` bytes of a buffer to a peer. -/
def write (s : State) (p : Peer) (b : BufferName) (n : ℕ) (ec : WriteResult) : State :=
  { s.updatePeer p (·.record (.relayed (ec.transferred ((s.buffer b).take n)))) with
    unwritten :=
      match ec with
      | .ok => Function.update s.unwritten b false
      | .failed _ => s.unwritten }

/-- `handle_downstream_write`. -/
def handleDownstreamWrite (s : State) : WriteResult → State
  | .ok => s.asyncRead readPeerTwo
  | .failed _ => s.close (.writeFailed .handleUpstreamRead)

/-- `handle_upstream_read`. -/
def handleUpstreamRead (s : State) (result : Except ReadEnd ℕ) (ec : WriteResult) : State :=
  match result with
  | .ok bytesTransferred =>
    (s.write .one .clientBuffer bytesTransferred ec).handleDownstreamWrite ec
  | .error .eof => s.close (.readEnded .handleUpstreamRead)
  | .error .error => s.close (.readFailed .handleUpstreamRead)

/-- `handle_upstream_write`. -/
def handleUpstreamWrite (s : State) : WriteResult → State
  | .ok => s.asyncRead readPeerOne
  | .failed _ => s.close (.writeFailed .handleDownstreamRead)

/-- `handle_downstream_read`. -/
def handleDownstreamRead (s : State) (result : Except ReadEnd ℕ) (ec : WriteResult) : State :=
  match result with
  | .ok bytesTransferred => (s.write .two .serverBuffer bytesTransferred ec).handleUpstreamWrite ec
  | .error .eof => s.close (.readEnded .handleDownstreamRead)
  | .error .error => s.close (.readFailed .handleDownstreamRead)

/-- Runs the handler of a completed read. -/
def handle (s : State) (handler : ReadHandler) (result : Except ReadEnd ℕ) (ec : WriteResult) :
    State :=
  match handler with
  | .handleUpstreamRead => s.handleUpstreamRead result ec
  | .handleDownstreamRead => s.handleDownstreamRead result ec

end State

/-! ## The two directions -/

/-- The peer whose stream a handler relays. -/
def source : ReadHandler → Peer
  | .handleUpstreamRead => .two
  | .handleDownstreamRead => .one

/-- The peer to which a handler relays. -/
def destination : ReadHandler → Peer
  | .handleUpstreamRead => .one
  | .handleDownstreamRead => .two

/-- The buffer that a handler relays through. -/
def bufferOf : ReadHandler → BufferName
  | .handleUpstreamRead => .clientBuffer
  | .handleDownstreamRead => .serverBuffer

/-- The read that a handler is bound to. -/
def readOf (h : ReadHandler) : ReadOp := { peer := source h, buffer := bufferOf h, handler := h }

lemma source_injective : Function.Injective source := by
  intro g h
  cases g <;> cases h <;> simp [source]

lemma destination_injective : Function.Injective destination := by
  intro g h
  cases g <;> cases h <;> simp [destination]

lemma bufferOf_injective : Function.Injective bufferOf := by
  intro g h
  cases g <;> cases h <;> simp [bufferOf]

lemma readOf_injective : Function.Injective readOf :=
  fun _ _ h => congrArg ReadOp.handler h

namespace State

/-- What the source of a direction has written since its socket was handed over, including what was
waiting there. -/
def stream (s : State) (h : ReadHandler) : Bytes :=
  (s.handover (source h)).unread ++
    (s.peer (source h)).sent.drop (s.handover (source h)).sent.length

/-- What the bridge has written to the destination of a direction. -/
def written (s : State) (h : ReadHandler) : Bytes :=
  (relayedBytes (s.peer (destination h)).log).drop
    (relayedBytes (s.handover (destination h)).log).length

/-- A completed read is handled by writing its bytes and reading on. -/
lemma handle_ok (s : State) (h : ReadHandler) (n : ℕ) :
    s.handle h (.ok n) .ok =
      (s.write (destination h) (bufferOf h) n .ok).asyncRead (readOf h) := by
  cases h <;> rfl

/-- A failing write closes the bridge. -/
lemma handle_failed (s : State) (h : ReadHandler) (n k : ℕ) :
    s.handle h (.ok n) (.failed k) =
      (s.write (destination h) (bufferOf h) n (.failed k)).close (.writeFailed h) := by
  cases h <;> rfl

/-- A read that ends the stream closes the bridge. -/
lemma handle_eof (s : State) (h : ReadHandler) (ec : WriteResult) :
    s.handle h (.error .eof) ec = s.close (.readEnded h) := by
  cases h <;> rfl

/-- A failing read closes the bridge. -/
lemma handle_error (s : State) (h : ReadHandler) (ec : WriteResult) :
    s.handle h (.error .error) ec = s.close (.readFailed h) := by
  cases h <;> rfl

end State

/-! ## Steps -/

/-- What can happen to a bridge and its peers. -/
inductive Label
  | peerWrites (p : Peer) (bytes : Bytes)
  | peerEnds (p : Peer)
  | peerDisconnects (p : Peer)
  | readCompletes (op : ReadOp) (n : ℕ)
  | readEnds (op : ReadOp)
  | readFails (op : ReadOp)
  | handle (op : ReadOp) (result : Except ReadEnd ℕ) (ec : WriteResult)
  deriving DecidableEq

/-- A write succeeds only on a connected socket, and writes nothing on any other.  It may block
until its peer reads; the step of its handler is taken when it returns. -/
def WritePossible (ec : WriteResult) (s : Socket) : Prop :=
  s.connectivity ≠ .connected → ec = .failed 0

/-- The steps of a bridge. -/
inductive Step : State → Label → State → Prop
  /-- A peer that has not ended its stream writes. -/
  | peerWrites (s : State) (p : Peer) (bytes : Bytes) (h : (s.peer p).ended = false) :
      Step s (.peerWrites p bytes) (s.updatePeer p (·.peerWrites bytes))
  /-- A peer ends its stream. -/
  | peerEnds (s : State) (p : Peer) : Step s (.peerEnds p) (s.updatePeer p Socket.peerEnds)
  /-- A connection is lost. -/
  | peerDisconnects (s : State) (p : Peer) :
      Step s (.peerDisconnects p) (s.updatePeer p Socket.peerDisconnects)
  /-- An outstanding read completes with some of the unread bytes. -/
  | readCompletes (s : State) (op : ReadOp) (n : ℕ) (hop : op ∈ s.reads)
      (hopen : (s.peer op.peer).isOpen) (hpos : 0 < n) (hn : n ≤ (s.peer op.peer).unread.length)
      (hmax : n ≤ maxDataLength) (hesc : s.escaped = none) :
      Step s (.readCompletes op n) ((s.fill op n).complete op (.ok n))
  /-- An outstanding read completes at the end of the peer's stream. -/
  | readEnds (s : State) (op : ReadOp) (hop : op ∈ s.reads) (hopen : (s.peer op.peer).isOpen)
      (hunread : (s.peer op.peer).unread = []) (hended : (s.peer op.peer).ended = true)
      (hesc : s.escaped = none) :
      Step s (.readEnds op) (s.complete op (.error .eof))
  /-- An outstanding read fails, for instance because its socket was closed. -/
  | readFails (s : State) (op : ReadOp) (hop : op ∈ s.reads) (hesc : s.escaped = none) :
      Step s (.readFails op) (s.complete op (.error .error))
  /-- The handler of a completed read runs. -/
  | handle (s : State) (op : ReadOp) (result : Except ReadEnd ℕ) (ec : WriteResult)
      (hready : (op, result) ∈ s.ready) (hesc : s.escaped = none)
      (hec : WritePossible ec (s.peer (destination op.handler))) :
      Step s (.handle op result ec) ((s.dequeue op result).handle op.handler result ec)

/-! ## What the operations leave alone -/

namespace State

variable (s : State) (p q : Peer) (b : BufferName) (n : ℕ) (ec : WriteResult) (cause : CloseCause)

lemma updatePeer_peer (f : Socket → Socket) :
    (s.updatePeer p f).peer q = if q = p then f (s.peer q) else s.peer q := by
  by_cases h : q = p
  · subst h
    simp [updatePeer]
  · simp [updatePeer, h]

@[simp] lemma updatePeer_toBridge (f : Socket → Socket) :
    (s.updatePeer p f).toBridge = s.toBridge := rfl

@[simp] lemma updatePeer_escaped (f : Socket → Socket) :
    (s.updatePeer p f).escaped = s.escaped := rfl

@[simp] lemma write_reads : (s.write p b n ec).reads = s.reads := rfl

@[simp] lemma write_ready : (s.write p b n ec).ready = s.ready := rfl

@[simp] lemma write_closes : (s.write p b n ec).closes = s.closes := rfl

@[simp] lemma write_handover : (s.write p b n ec).handover = s.handover := rfl

@[simp] lemma write_buffer : (s.write p b n ec).buffer = s.buffer := rfl

/-- A write changes nothing of a socket but its log. -/
lemma write_peer :
    (s.write p b n ec).peer q =
      { s.peer q with
        log := (s.peer q).log ++
          if q = p then [.relayed (ec.transferred ((s.buffer b).take n))] else [] } := by
  by_cases h : q = p <;> simp [write, updatePeer_peer, h, Socket.record]

@[simp] lemma write_peer_sent : ((s.write p b n ec).peer q).sent = (s.peer q).sent := by
  rw [write_peer]

@[simp] lemma write_peer_unread : ((s.write p b n ec).peer q).unread = (s.peer q).unread := by
  rw [write_peer]

@[simp] lemma write_peer_ended : ((s.write p b n ec).peer q).ended = (s.peer q).ended := by
  rw [write_peer]

end State

/-- `close` changes nothing of the sockets but whether they are open. -/
lemma closePeers_eq (one two : Socket) :
    ∃ c d, (closePeers one two).1 =
      ({ one with connectivity := c }, { two with connectivity := d }) := by
  unfold closePeers Socket.shutdown Socket.isOpen
  rcases one with ⟨_, _, _, c, _⟩
  rcases two with ⟨_, _, _, d, _⟩
  cases c <;> cases d <;> exact ⟨_, _, rfl⟩

namespace State

variable (s : State) (p : Peer) (cause : CloseCause)

@[simp] lemma close_reads : (s.close cause).reads = s.reads := rfl

@[simp] lemma close_ready : (s.close cause).ready = s.ready := rfl

@[simp] lemma close_handover : (s.close cause).handover = s.handover := rfl

@[simp] lemma close_buffer : (s.close cause).buffer = s.buffer := rfl

@[simp] lemma close_unwritten : (s.close cause).unwritten = s.unwritten := rfl

@[simp] lemma close_closes : (s.close cause).closes = s.closes ++ [cause] := rfl

/-- Closing the bridge changes nothing of its sockets but whether they are open. -/
lemma close_peer :
    ∃ c, (s.close cause).peer p = { s.peer p with connectivity := c } := by
  obtain ⟨c, d, h⟩ := closePeers_eq (s.peer .one) (s.peer .two)
  cases p with
  | one => exact ⟨c, by simp [close, h]⟩
  | two => exact ⟨d, by simp [close, h]⟩

@[simp] lemma close_peer_sent : ((s.close cause).peer p).sent = (s.peer p).sent := by
  obtain ⟨c, h⟩ := s.close_peer p cause
  rw [h]

@[simp] lemma close_peer_unread : ((s.close cause).peer p).unread = (s.peer p).unread := by
  obtain ⟨c, h⟩ := s.close_peer p cause
  rw [h]

@[simp] lemma close_peer_ended : ((s.close cause).peer p).ended = (s.peer p).ended := by
  obtain ⟨c, h⟩ := s.close_peer p cause
  rw [h]

@[simp] lemma close_peer_log : ((s.close cause).peer p).log = (s.peer p).log := by
  obtain ⟨c, h⟩ := s.close_peer p cause
  rw [h]

end State

/-! ## One direction -/

/-- The number of reads that a direction has in flight: outstanding, or completed but not
handled. -/
def State.inFlight (s : State) (h : ReadHandler) : ℕ :=
  s.reads.count (readOf h) + s.ready.countP fun r => r.1 = readOf h

/-- What holds of one direction of a reachable bridge. -/
structure DirectionInv (s : State) (h : ReadHandler) : Prop where
  /-- One read at most is in flight. -/
  oneRead : s.inFlight h ≤ 1
  /-- The source's bytes are those of the handover and later ones. -/
  sent_le : (s.handover (source h)).sent.length ≤ (s.peer (source h)).sent.length
  /-- The destination's log is that of the handover and later entries. -/
  log_le : (relayedBytes (s.handover (destination h)).log).length ≤
    (relayedBytes (s.peer (destination h)).log).length
  /-- While a read is outstanding, everything that was read has been written. -/
  reading : readOf h ∈ s.reads → s.stream h = s.written h ++ (s.peer (source h)).unread ∧
    s.unwritten (bufferOf h) = false
  /-- While a completed read waits for its handler, the buffer holds what is missing. -/
  read : ∀ n, (readOf h, .ok n) ∈ s.ready →
    s.stream h = s.written h ++ ((s.buffer (bufferOf h)).take n ++ (s.peer (source h)).unread)
  /-- At the end of the stream everything has been written. -/
  eof : (readOf h, .error .eof) ∈ s.ready →
    s.written h = s.stream h ∧ (s.peer (source h)).ended = true
  /-- What has been written is a part of the stream. -/
  prefix_written : s.written h <+: s.stream h
  /-- When the direction closed the bridge at the end of the stream, everything was written, and it
  reads no more. -/
  closed : .readEnded h ∈ s.closes →
    s.written h = s.stream h ∧ (s.peer (source h)).ended = true ∧ s.inFlight h = 0

/-- As far as the direction `h` goes, `t` differs from `s` only by `bytes`, which the source has
written. -/
structure Grows (h : ReadHandler) (bytes : Bytes) (s t : State) : Prop where
  handover : t.handover = s.handover
  reads : t.reads.count (readOf h) = s.reads.count (readOf h)
  ready : t.ready.countP (fun r => r.1 = readOf h) = s.ready.countP fun r => r.1 = readOf h
  mem_ready : ∀ r, (readOf h, r) ∈ t.ready → (readOf h, r) ∈ s.ready
  buffer : t.buffer (bufferOf h) = s.buffer (bufferOf h)
  unwritten : t.unwritten (bufferOf h) = s.unwritten (bufferOf h)
  closes : .readEnded h ∈ t.closes → .readEnded h ∈ s.closes
  sent : (t.peer (source h)).sent = (s.peer (source h)).sent ++ bytes
  unread : (t.peer (source h)).unread = (s.peer (source h)).unread ++ bytes
  ended : (s.peer (source h)).ended = true → bytes = [] ∧ (t.peer (source h)).ended = true
  log : relayedBytes (t.peer (destination h)).log = relayedBytes (s.peer (destination h)).log

/-- What the source writes keeps the invariant of a direction, and so does everything that concerns
the other one. -/
lemma DirectionInv.grows {s t : State} {h : ReadHandler} {bytes : Bytes} (hi : DirectionInv s h)
    (hg : Grows h bytes s t) : DirectionInv t h := by
  have hstream : t.stream h = s.stream h ++ bytes := by
    rw [State.stream, State.stream, hg.handover, hg.sent, List.drop_append_of_le_length hi.sent_le,
      List.append_assoc]
  have hwritten : t.written h = s.written h := by
    rw [State.written, State.written, hg.handover, hg.log]
  have hflight : t.inFlight h = s.inFlight h := by
    rw [State.inFlight, State.inFlight, hg.reads, hg.ready]
  have hreading : readOf h ∈ t.reads → readOf h ∈ s.reads := by
    rw [← List.count_pos_iff, ← List.count_pos_iff, hg.reads]
    exact id
  constructor
  · rw [hflight]
    exact hi.oneRead
  · rw [hg.handover, hg.sent, List.length_append]
    exact hi.sent_le.trans (Nat.le_add_right _ _)
  · rw [hg.handover, hg.log]
    exact hi.log_le
  · intro hop
    obtain ⟨heq, hfalse⟩ := hi.reading (hreading hop)
    rw [hstream, hwritten, hg.unread, heq, List.append_assoc, hg.unwritten]
    exact ⟨rfl, hfalse⟩
  · intro n hn
    rw [hstream, hwritten, hg.unread, hg.buffer, hi.read n (hg.mem_ready _ hn)]
    simp only [List.append_assoc]
  · intro heof
    obtain ⟨heq, hended⟩ := hi.eof (hg.mem_ready _ heof)
    obtain ⟨rfl, hended'⟩ := hg.ended hended
    rw [hstream, hwritten, List.append_nil]
    exact ⟨heq, hended'⟩
  · rw [hwritten, hstream]
    exact hi.prefix_written.trans (List.prefix_append _ _)
  · intro hclosed
    obtain ⟨heq, hended, hzero⟩ := hi.closed (hg.closes hclosed)
    obtain ⟨rfl, hended'⟩ := hg.ended hended
    rw [hstream, hwritten, List.append_nil, hflight]
    exact ⟨heq, hended', hzero⟩

/-! ## What concerns the other direction only -/

section Other

variable {s : State} {g h : ReadHandler}

/-- A peer writes, ends its stream or gets lost. -/
lemma grows_updatePeer {p : Peer} {f : Socket → Socket} {bytes : Bytes}
    (hsent : (f (s.peer p)).sent = (s.peer p).sent ++ bytes)
    (hunread : (f (s.peer p)).unread = (s.peer p).unread ++ bytes)
    (hended : (s.peer p).ended = true → bytes = [] ∧ (f (s.peer p)).ended = true)
    (hlog : (f (s.peer p)).log = (s.peer p).log) :
    Grows h (if source h = p then bytes else []) s (s.updatePeer p f) := by
  refine ⟨rfl, rfl, rfl, fun _ hr => hr, rfl, rfl, id, ?_, ?_, ?_, ?_⟩
  · by_cases hp : source h = p
    · simp [State.updatePeer_peer, hp, hsent]
    · simp [State.updatePeer_peer, hp]
  · by_cases hp : source h = p
    · simp [State.updatePeer_peer, hp, hunread]
    · simp [State.updatePeer_peer, hp]
  · by_cases hp : source h = p
    · simpa [State.updatePeer_peer, hp] using hended
    · simp [State.updatePeer_peer, hp]
  · by_cases hp : destination h = p
    · simp [State.updatePeer_peer, hp, hlog]
    · simp [State.updatePeer_peer, hp]

/-- A peer ends its stream or gets lost. -/
lemma grows_updatePeer_nil {p : Peer} {f : Socket → Socket}
    (hsent : (f (s.peer p)).sent = (s.peer p).sent)
    (hunread : (f (s.peer p)).unread = (s.peer p).unread)
    (hended : (s.peer p).ended = true → (f (s.peer p)).ended = true)
    (hlog : (f (s.peer p)).log = (s.peer p).log) : Grows h [] s (s.updatePeer p f) := by
  have hg : Grows h (if source h = p then [] else []) s (s.updatePeer p f) :=
    grows_updatePeer (by simpa using hsent) (by simpa using hunread) (fun h' => ⟨rfl, hended h'⟩)
      hlog
  simpa using hg

/-- A read of the other direction fills its buffer. -/
lemma grows_fill (hne : g ≠ h) (n : ℕ) : Grows h [] s (s.fill (readOf g) n) := by
  have hsource : source h ≠ source g := fun heq => hne (source_injective heq).symm
  have hbuffer : bufferOf h ≠ bufferOf g := fun heq => hne (bufferOf_injective heq).symm
  refine ⟨rfl, rfl, rfl, fun _ hr => hr, ?_, ?_, id, ?_, ?_, ?_, ?_⟩
  · simp [State.fill, readOf, hbuffer]
  · simp [State.fill, readOf, hbuffer]
  · simp [State.fill, State.updatePeer_peer, readOf, hsource]
  · simp [State.fill, State.updatePeer_peer, readOf, hsource]
  · simp [State.fill, State.updatePeer_peer, readOf, hsource]
  · by_cases hp : destination h = source g <;>
      simp [State.fill, State.updatePeer_peer, readOf, hp, Socket.take]

/-- A read of the other direction completes. -/
lemma grows_complete (hne : g ≠ h) (result : Except ReadEnd ℕ) :
    Grows h [] s (s.complete (readOf g) result) := by
  have hop : readOf g ≠ readOf h := fun heq => hne (readOf_injective heq)
  refine ⟨rfl, ?_, ?_, fun r hr => ?_, rfl, rfl, id, by simp [State.complete],
    by simp [State.complete], fun hended => ⟨rfl, hended⟩, rfl⟩
  · exact List.count_erase_of_ne hop.symm
  · simp [State.complete, List.countP_append, hop]
  · simpa [State.complete, hop.symm] using hr

/-- A completed read of the other direction is taken up. -/
lemma grows_dequeue (hne : g ≠ h) (result : Except ReadEnd ℕ) :
    Grows h [] s (s.dequeue (readOf g) result) := by
  have hop : readOf g ≠ readOf h := fun heq => hne (readOf_injective heq)
  refine ⟨rfl, rfl, ?_, fun r hr => List.mem_of_mem_erase hr, rfl, rfl, id,
    by simp [State.dequeue], by simp [State.dequeue], fun hended => ⟨rfl, hended⟩, rfl⟩
  simp [State.dequeue, List.countP_erase, hop]

/-- The other direction writes. -/
lemma grows_write (hne : g ≠ h) (n : ℕ) (ec : WriteResult) :
    Grows h [] s (s.write (destination g) (bufferOf g) n ec) := by
  have hdestination : destination h ≠ destination g :=
    fun heq => hne (destination_injective heq).symm
  have hbuffer : bufferOf h ≠ bufferOf g := fun heq => hne (bufferOf_injective heq).symm
  refine ⟨by simp, by simp, by simp, by simp, by simp, ?_, by simp, by simp, by simp, by simp, ?_⟩
  · cases ec <;> simp [State.write, hbuffer]
  · simp [State.write_peer, hdestination]

/-- The other direction starts a read. -/
lemma grows_asyncRead (hne : g ≠ h) : Grows h [] s (s.asyncRead (readOf g)) := by
  have hop : readOf g ≠ readOf h := fun heq => hne (readOf_injective heq)
  refine ⟨rfl, ?_, rfl, fun _ hr => hr, rfl, rfl, id, by simp [State.asyncRead],
    by simp [State.asyncRead], fun hended => ⟨rfl, hended⟩, rfl⟩
  simp [State.asyncRead, hop]

/-- The bridge is closed, but not because this direction's stream has ended. -/
lemma grows_close {cause : CloseCause} (hne : cause ≠ .readEnded h) :
    Grows h [] s (s.close cause) := by
  refine ⟨rfl, rfl, rfl, fun _ hr => hr, rfl, rfl, ?_, by simp, by simp, by simp, by simp⟩
  simp [hne.symm]

end Other

/-! ## A read of the direction itself -/

namespace DirectionInv

variable {s : State} {h : ReadHandler}

/-- An outstanding read is the only one in flight. -/
lemma inFlight_eq (hi : DirectionInv s h) (hop : readOf h ∈ s.reads) :
    s.reads.count (readOf h) = 1 ∧ (s.ready.countP fun r => r.1 = readOf h) = 0 := by
  have hone := hi.oneRead
  have hpos := List.count_pos_iff.mpr hop
  rw [State.inFlight] at hone
  omega

/-- A completed read is the only one in flight. -/
lemma inFlight_ready_eq (hi : DirectionInv s h) {result : Except ReadEnd ℕ}
    (hready : (readOf h, result) ∈ s.ready) :
    s.reads.count (readOf h) = 0 ∧ (s.ready.countP fun r => r.1 = readOf h) = 1 := by
  have hone := hi.oneRead
  have hpos : 0 < s.ready.countP fun r => r.1 = readOf h :=
    List.countP_pos_iff.mpr ⟨_, hready, by simp⟩
  rw [State.inFlight] at hone
  omega

/-- With a read in flight, the direction has not closed the bridge. -/
lemma not_closed (hi : DirectionInv s h) (hflight : s.inFlight h ≠ 0) :
    .readEnded h ∉ s.closes :=
  fun hclosed => hflight (hi.closed hclosed).2.2

/-- The only outstanding read completes, possibly after bytes were moved to its buffer: what is to
be shown of its result. -/
lemma complete {t : State} (hi : DirectionInv s h) (hop : readOf h ∈ s.reads)
    (hbridge : t.reads = s.reads ∧ t.ready = s.ready ∧ t.closes = s.closes ∧
      t.handover = s.handover)
    (hpeer : ∀ p, (t.peer p).sent = (s.peer p).sent ∧ (t.peer p).log = (s.peer p).log)
    {result : Except ReadEnd ℕ}
    (hok : ∀ n, result = .ok n → s.stream h =
      s.written h ++ ((t.buffer (bufferOf h)).take n ++ (t.peer (source h)).unread))
    (heof : result = .error .eof → s.written h = s.stream h ∧ (t.peer (source h)).ended = true) :
    DirectionInv (t.complete (readOf h) result) h := by
  obtain ⟨hreads, hready, hcloses, hhandover⟩ := hbridge
  obtain ⟨hcount, hcountP⟩ := hi.inFlight_eq hop
  have hnone : ∀ r, (readOf h, r) ∉ s.ready := by
    intro r hr
    have := List.countP_eq_zero.mp hcountP _ hr
    simp at this
  have hstream : (t.complete (readOf h) result).stream h = s.stream h := by
    simp [State.stream, State.complete, hhandover, hpeer]
  have hwritten : (t.complete (readOf h) result).written h = s.written h := by
    simp [State.written, State.complete, hhandover, hpeer]
  constructor
  · simp [State.inFlight, State.complete, hreads, hready, hcount, hcountP, List.countP_append]
  · simpa [State.complete, hhandover, hpeer] using hi.sent_le
  · simpa [State.complete, hhandover, hpeer] using hi.log_le
  · intro hmem
    have hzero : (t.complete (readOf h) result).reads.count (readOf h) = 0 := by
      simp [State.complete, hreads, hcount]
    exact absurd hmem (List.count_eq_zero.mp hzero)
  · intro n hn
    rw [hstream, hwritten]
    refine hok n ?_
    simpa [State.complete, hready, hnone, eq_comm] using hn
  · intro hmem
    rw [hstream, hwritten]
    refine heof ?_
    simpa [State.complete, hready, hnone, eq_comm] using hmem
  · rw [hstream, hwritten]
    exact hi.prefix_written
  · intro hclosed
    have hclosed' : .readEnded h ∈ s.closes := by simpa [State.complete, hcloses] using hclosed
    refine absurd hclosed' (hi.not_closed ?_)
    rw [State.inFlight, hcount]
    omega

/-- Bytes taken from the source stand in the buffer. -/
lemma fill_complete (hi : DirectionInv s h) (hop : readOf h ∈ s.reads) {n : ℕ}
    (hn : n ≤ (s.peer (source h)).unread.length) :
    DirectionInv ((s.fill (readOf h) n).complete (readOf h) (.ok n)) h := by
  obtain ⟨heq, -⟩ := hi.reading hop
  have hunread : ((s.fill (readOf h) n).peer (source h)).unread =
      (s.peer (source h)).unread.drop n := by
    simp [State.fill, State.updatePeer_peer, readOf, Socket.take]
  have hbuffer : ((s.fill (readOf h) n).buffer (bufferOf h)).take n =
      (s.peer (source h)).unread.take n := by
    have htake := Bytes.take_overwrite_zero (s.buffer (bufferOf h))
      ((s.peer (source h)).unread.take n)
    rw [List.length_take_of_le hn] at htake
    simpa [State.fill, readOf] using htake
  refine hi.complete hop ?_ ?_ ?_ ?_
  · exact ⟨rfl, rfl, rfl, rfl⟩
  · intro p
    by_cases hp : p = source h <;>
      simp [State.fill, State.updatePeer_peer, readOf, Socket.take, hp]
  · intro m hm
    obtain rfl : n = m := by simpa using hm
    rw [hunread, hbuffer, List.take_append_drop]
    exact heq
  · simp

/-- The completed read is taken up: nothing is in flight then. -/
lemma dequeue (hi : DirectionInv s h) {result : Except ReadEnd ℕ}
    (hready : (readOf h, result) ∈ s.ready) :
    DirectionInv (s.dequeue (readOf h) result) h ∧
      (s.dequeue (readOf h) result).inFlight h = 0 := by
  obtain ⟨hcount, hcountP⟩ := hi.inFlight_ready_eq hready
  have hzero : (s.dequeue (readOf h) result).inFlight h = 0 := by
    simp [State.inFlight, State.dequeue, hcount, List.countP_erase, hready, hcountP]
  refine ⟨⟨hzero.trans_le zero_le_one, hi.sent_le, hi.log_le, hi.reading,
    fun n hn => hi.read n (List.mem_of_mem_erase hn), fun he => hi.eof (List.mem_of_mem_erase he),
    hi.prefix_written, fun hclosed => ?_⟩, hzero⟩
  refine absurd hclosed (hi.not_closed ?_)
  rw [State.inFlight, hcount, hcountP]
  omega

/-- With nothing in flight, nothing outstanding or completed is known. -/
lemma not_mem_of_inFlight_eq_zero (hzero : s.inFlight h = 0) :
    readOf h ∉ s.reads ∧ ∀ r, (readOf h, r) ∉ s.ready := by
  obtain ⟨hcount, hcountP⟩ := Nat.add_eq_zero_iff.mp hzero
  refine ⟨List.count_eq_zero.mp hcount, fun r hr => ?_⟩
  have := List.countP_eq_zero.mp hcountP _ hr
  simp at this

/-- What a write in this direction adds to what was written. -/
lemma relayedBytes_write (n : ℕ) (ec : WriteResult) :
    relayedBytes ((s.write (destination h) (bufferOf h) n ec).peer (destination h)).log =
      relayedBytes (s.peer (destination h)).log ++
        ec.transferred ((s.buffer (bufferOf h)).take n) := by
  simp [State.write_peer, relayedBytes]

/-- A write in this direction extends what was written. -/
lemma written_write (hi : DirectionInv s h) (n : ℕ) (ec : WriteResult) :
    (s.write (destination h) (bufferOf h) n ec).written h =
      s.written h ++ ec.transferred ((s.buffer (bufferOf h)).take n) := by
  rw [State.written, relayedBytes_write, State.write_handover,
    List.drop_append_of_le_length hi.log_le]
  rfl

/-- The bytes in the buffer are written, all of them or, when the write fails, a part. -/
lemma write (hi : DirectionInv s h) (hzero : s.inFlight h = 0) {n : ℕ}
    (hn : s.stream h =
      s.written h ++ ((s.buffer (bufferOf h)).take n ++ (s.peer (source h)).unread))
    (hopen : .readEnded h ∉ s.closes) (ec : WriteResult) :
    DirectionInv (s.write (destination h) (bufferOf h) n ec) h := by
  obtain ⟨hreads, hready⟩ := not_mem_of_inFlight_eq_zero hzero
  have hstream : (s.write (destination h) (bufferOf h) n ec).stream h = s.stream h := by
    simp [State.stream]
  refine ⟨hi.oneRead, by simpa using hi.sent_le, ?_, fun hop => absurd hop hreads,
    fun m hm => absurd hm (hready _), fun he => absurd he (hready _), ?_,
    fun hclosed => absurd hclosed hopen⟩
  · rw [relayedBytes_write, State.write_handover, List.length_append]
    exact hi.log_le.trans (Nat.le_add_right _ _)
  · rw [hi.written_write, hstream, hn]
    have hpre := ec.prefix_transferred ((s.buffer (bufferOf h)).take n)
    exact (List.prefix_append_right_inj _).mpr (hpre.trans (List.prefix_append _ _))

/-- Everything in the buffer is written, and the next read is started. -/
lemma write_asyncRead (hi : DirectionInv s h) (hzero : s.inFlight h = 0) {n : ℕ}
    (hn : s.stream h =
      s.written h ++ ((s.buffer (bufferOf h)).take n ++ (s.peer (source h)).unread))
    (hopen : .readEnded h ∉ s.closes) :
    DirectionInv ((s.write (destination h) (bufferOf h) n .ok).asyncRead (readOf h)) h := by
  have hi' := hi.write hzero hn hopen .ok
  have hzero' : (s.write (destination h) (bufferOf h) n .ok).inFlight h = 0 := hzero
  have hstream : (s.write (destination h) (bufferOf h) n .ok).stream h = s.stream h := by
    simp [State.stream]
  obtain ⟨hcount, hcountP⟩ := Nat.add_eq_zero_iff.mp hzero'
  refine ⟨?_, hi'.sent_le, hi'.log_le, fun _ => ⟨?_, ?_⟩, hi'.read, hi'.eof, hi'.prefix_written,
    fun hclosed => absurd hclosed hopen⟩
  · rw [State.inFlight, State.asyncRead, List.count_append, hcount, hcountP]
    simp
  · change (s.write (destination h) (bufferOf h) n .ok).stream h =
      (s.write (destination h) (bufferOf h) n .ok).written h ++
        ((s.write (destination h) (bufferOf h) n .ok).peer (source h)).unread
    rw [hstream, hi.written_write, State.write_peer_unread, hn, List.append_assoc]
    rfl
  · simp [State.asyncRead, State.write]

/-- The bridge is closed with nothing in flight: what is to be shown when this is because of the end
of the stream. -/
lemma close (hi : DirectionInv s h) (hzero : s.inFlight h = 0) {cause : CloseCause}
    (hend : cause = .readEnded h → s.written h = s.stream h ∧ (s.peer (source h)).ended = true) :
    DirectionInv (s.close cause) h := by
  have hstream : (s.close cause).stream h = s.stream h := by simp [State.stream]
  have hwritten : (s.close cause).written h = s.written h := by simp [State.written]
  obtain ⟨hreads, hready⟩ := not_mem_of_inFlight_eq_zero hzero
  refine ⟨hi.oneRead, by simpa using hi.sent_le, by simpa using hi.log_le,
    fun hop => absurd hop hreads, fun n hn => absurd hn (hready _), fun he => absurd he (hready _),
    ?_, fun hclosed => ?_⟩
  · rw [hwritten, hstream]
    exact hi.prefix_written
  · rw [hwritten, hstream, State.close_peer_ended]
    rcases List.mem_append.mp hclosed with hclosed | hclosed
    · exact hi.closed hclosed
    · obtain ⟨heq, hended⟩ := hend (List.mem_singleton.mp hclosed).symm
      exact ⟨heq, hended, hzero⟩

end DirectionInv

/-! ## Every reachable state -/

/-- What holds of every reachable bridge. -/
structure Inv (s : State) : Prop where
  /-- The outstanding reads are those of the two directions. -/
  reads : ∀ op ∈ s.reads, op = readOf op.handler
  /-- So are the completed ones. -/
  ready : ∀ r ∈ s.ready, r.1 = readOf r.1.handler
  /-- Each direction is in order. -/
  direction : ∀ h, DirectionInv s h

/-- The invariant of a bridge that has just been started. -/
lemma inv_started (one two : Socket) : Inv (State.started one two) := by
  refine ⟨?_, by simp [State.started, start], fun h => ?_⟩
  · simp [State.started, start, readOf, readPeerOne, readPeerTwo, source, bufferOf]
  · have hpeer : ∀ p, (State.started one two).handover p = (State.started one two).peer p := by
      intro p
      cases p <;> rfl
    have hclosed : (State.started one two).closes = [] := rfl
    have hready : (State.started one two).ready = [] := rfl
    have hwritten : (State.started one two).written h = [] := by
      rw [State.written, hpeer, List.drop_length]
    have hstream : (State.started one two).stream h =
        ((State.started one two).peer (source h)).unread := by
      rw [State.stream, hpeer, List.drop_length, List.append_nil]
    refine ⟨?_, by rw [hpeer], by rw [hpeer], fun _ => ⟨by rw [hstream, hwritten]; rfl, rfl⟩,
      ?_, ?_, ?_, ?_⟩
    · cases h <;> simp [State.inFlight, State.started, start, readOf, readPeerOne, readPeerTwo,
        source, bufferOf]
    · simp [hready]
    · simp [hready]
    · simp [hwritten]
    · simp [hclosed]

/-- Running the handler of a completed read keeps both directions in order. -/
lemma Inv.handle_direction {s : State} (hi : Inv s) {g : ReadHandler}
    {result : Except ReadEnd ℕ} (hready : (readOf g, result) ∈ s.ready) (ec : WriteResult)
    (h : ReadHandler) :
    DirectionInv ((s.dequeue (readOf g) result).handle g result ec) h := by
  by_cases hne : g = h
  · subst hne
    have hd := hi.direction g
    obtain ⟨hdequeue, hzero⟩ := hd.dequeue hready
    have hopen : .readEnded g ∉ s.closes := hd.not_closed fun hflight => by
      have := (hd.inFlight_ready_eq hready).2
      rw [State.inFlight] at hflight
      omega
    match result, ec with
    | .ok n, .ok =>
      rw [State.handle_ok]
      exact hdequeue.write_asyncRead hzero (hd.read n hready) hopen
    | .ok n, .failed k =>
      rw [State.handle_failed]
      exact (hdequeue.write hzero (hd.read n hready) hopen _).close hzero nofun
    | .error .eof, _ =>
      rw [State.handle_eof]
      exact hdequeue.close hzero fun _ => hd.eof hready
    | .error .error, _ =>
      rw [State.handle_error]
      exact hdequeue.close hzero nofun
  · have hdequeue := (hi.direction h).grows (grows_dequeue hne result)
    match result, ec with
    | .ok n, .ok =>
      rw [State.handle_ok]
      exact (hdequeue.grows (grows_write hne n _)).grows (grows_asyncRead hne)
    | .ok n, .failed k =>
      rw [State.handle_failed]
      exact (hdequeue.grows (grows_write hne n _)).grows (grows_close (by simp))
    | .error .eof, _ =>
      rw [State.handle_eof]
      exact hdequeue.grows (grows_close (by simpa using hne))
    | .error .error, _ =>
      rw [State.handle_error]
      exact hdequeue.grows (grows_close (by simp))

/-- A handler that runs starts no read but its own. -/
lemma handle_ops (s : State) (g : ReadHandler) (result : Except ReadEnd ℕ) (ec : WriteResult) :
    (∀ op ∈ (s.handle g result ec).reads, op ∈ s.reads ∨ op = readOf g) ∧
      (s.handle g result ec).ready = s.ready := by
  match result, ec with
  | .ok n, .ok => simp [State.handle_ok, State.asyncRead]
  | .ok n, .failed k => simpa [State.handle_failed] using fun op hop => Or.inl hop
  | .error .eof, _ => simpa [State.handle_eof] using fun op hop => Or.inl hop
  | .error .error, _ => simpa [State.handle_error] using fun op hop => Or.inl hop

/-- A handler reads nothing; all it does to a peer's log is to add what it relays. -/
lemma handle_peer (s : State) (g : ReadHandler) (result : Except ReadEnd ℕ) (ec : WriteResult)
    (p : Peer) :
    ((s.handle g result ec).peer p).sent = (s.peer p).sent ∧
      ((s.handle g result ec).peer p).unread = (s.peer p).unread ∧
      ∃ blocks : List Bytes,
        ((s.handle g result ec).peer p).log = (s.peer p).log ++ blocks.map .relayed := by
  have hwrite : ∀ (q : Peer) (b : BufferName) (n : ℕ) (ec : WriteResult), ∃ blocks : List Bytes,
      ((s.write q b n ec).peer p).log = (s.peer p).log ++ blocks.map .relayed := by
    intro q b n ec
    by_cases hp : p = q
    · exact ⟨[ec.transferred ((s.buffer b).take n)], by simp [State.write_peer, hp]⟩
    · exact ⟨[], by simp [State.write_peer, hp]⟩
  match result, ec with
  | .ok n, .ok =>
    rw [State.handle_ok]
    exact ⟨State.write_peer_sent .., State.write_peer_unread .., hwrite ..⟩
  | .ok n, .failed k =>
    rw [State.handle_failed, State.close_peer_sent, State.close_peer_unread, State.close_peer_log]
    exact ⟨State.write_peer_sent .., State.write_peer_unread .., hwrite ..⟩
  | .error .eof, _ =>
    rw [State.handle_eof, State.close_peer_sent, State.close_peer_unread, State.close_peer_log]
    exact ⟨rfl, rfl, [], by simp⟩
  | .error .error, _ =>
    rw [State.handle_error, State.close_peer_sent, State.close_peer_unread, State.close_peer_log]
    exact ⟨rfl, rfl, [], by simp⟩

/-- Completing a read starts none. -/
lemma Inv.complete {s t : State} {op : ReadOp} (hi : Inv s) (hop : op ∈ s.reads)
    (hreads : t.reads = s.reads) (hready : t.ready = s.ready) {result : Except ReadEnd ℕ}
    (hdirection : ∀ h, DirectionInv (t.complete op result) h) : Inv (t.complete op result) := by
  refine ⟨fun op' hop' => ?_, fun r hr => ?_, hdirection⟩
  · refine hi.reads op' ?_
    rw [← hreads]
    exact List.mem_of_mem_erase hop'
  · rcases List.mem_append.mp hr with hr | hr
    · exact hi.ready r (hready ▸ hr)
    · rw [List.mem_singleton.mp hr]
      exact hi.reads op hop

/-- Every step keeps the invariant. -/
theorem Inv.step {s t : State} {l : Label} (hi : Inv s) (hs : Step s l t) : Inv t := by
  cases hs with
  | peerWrites p bytes hended =>
    refine ⟨hi.reads, hi.ready, fun h => (hi.direction h).grows (grows_updatePeer rfl rfl ?_ rfl)⟩
    simp [hended]
  | peerEnds p =>
    exact ⟨hi.reads, hi.ready,
      fun h => (hi.direction h).grows (grows_updatePeer_nil rfl rfl (fun _ => rfl) rfl)⟩
  | peerDisconnects p =>
    exact ⟨hi.reads, hi.ready,
      fun h => (hi.direction h).grows (grows_updatePeer_nil rfl rfl id rfl)⟩
  | readCompletes op n hop hopen hpos hn hmax hesc =>
    obtain ⟨g, rfl⟩ : ∃ g, op = readOf g := ⟨_, hi.reads op hop⟩
    refine hi.complete (t := s.fill (readOf g) n) hop rfl rfl fun h => ?_
    by_cases hne : g = h
    · subst hne
      exact (hi.direction g).fill_complete hop hn
    · exact ((hi.direction h).grows (grows_fill hne n)).grows (grows_complete hne _)
  | readEnds op hop hopen hunread hended hesc =>
    obtain ⟨g, rfl⟩ : ∃ g, op = readOf g := ⟨_, hi.reads op hop⟩
    refine hi.complete hop rfl rfl fun h => ?_
    by_cases hne : g = h
    · subst hne
      have hunread' : (s.peer (source g)).unread = [] := hunread
      have heq := ((hi.direction g).reading hop).1
      rw [hunread', List.append_nil] at heq
      exact (hi.direction g).complete hop ⟨rfl, rfl, rfl, rfl⟩ (fun _ => ⟨rfl, rfl⟩) (by simp)
        fun _ => ⟨heq.symm, hended⟩
    · exact (hi.direction h).grows (grows_complete hne _)
  | readFails op hop hesc =>
    obtain ⟨g, rfl⟩ : ∃ g, op = readOf g := ⟨_, hi.reads op hop⟩
    refine hi.complete hop rfl rfl fun h => ?_
    by_cases hne : g = h
    · subst hne
      exact (hi.direction g).complete hop ⟨rfl, rfl, rfl, rfl⟩ (fun _ => ⟨rfl, rfl⟩) (by simp)
        (by simp)
    · exact (hi.direction h).grows (grows_complete hne _)
  | handle op result ec hready hesc hec =>
    obtain ⟨g, rfl⟩ : ∃ g, op = readOf g := ⟨_, hi.ready _ hready⟩
    obtain ⟨hreads, hready'⟩ := handle_ops (s.dequeue (readOf g) result) g result ec
    refine ⟨fun op hop => ?_, fun r hr => ?_, hi.handle_direction hready ec⟩
    · rcases hreads op hop with hop | rfl
      · exact hi.reads op hop
      · rfl
    · exact hi.ready r (List.mem_of_mem_erase (hready' ▸ hr))

/-- The invariant holds along every run of a started bridge. -/
theorem inv_of_run {one two : Socket} {s : State} {ls : List Label}
    (hrun : Transition.Run Step (State.started one two) ls s) : Inv s :=
  hrun.invariant (inv_started one two) fun _ _ _ hI hs => hI.step hs

/-- What a bridge guarantees in each direction. -/
structure Relays (s : State) (h : ReadHandler) : Prop where
  /-- The bytes written to the destination are a prefix of the source's stream since the
  handover. -/
  prefix_stream : s.written h <+: s.stream h
  /-- At most one read of the source is outstanding or waits for its handler. -/
  oneRead : s.inFlight h ≤ 1
  /-- An outstanding read fills a buffer whose previous contents have all been written. -/
  not_refilled : ∀ op ∈ s.reads, op.handler = h → op = readOf h ∧ s.unwritten op.buffer = false
  /-- While a read is outstanding, nothing is missing but what was not read. -/
  reading : readOf h ∈ s.reads → s.stream h = s.written h ++ (s.peer (source h)).unread
  /-- While a completed read waits for its handler, what it has read is missing, too. -/
  read : ∀ n, (readOf h, .ok n) ∈ s.ready →
    s.stream h = s.written h ++ ((s.buffer (bufferOf h)).take n ++ (s.peer (source h)).unread)
  /-- When the end of the source's stream made the bridge close, all of the stream was written. -/
  complete : .readEnded h ∈ s.closes → s.written h = s.stream h

/-- In every reachable state of a started bridge both directions are relayed. -/
theorem relays {one two : Socket} {s : State} {ls : List Label}
    (hrun : Transition.Run Step (State.started one two) ls s) (h : ReadHandler) : Relays s h := by
  have hi := inv_of_run hrun
  refine ⟨(hi.direction h).prefix_written, (hi.direction h).oneRead, fun op hop hh => ?_,
    fun hreading => ((hi.direction h).reading hreading).1, (hi.direction h).read,
    fun hclosed => ((hi.direction h).closed hclosed).1⟩
  subst hh
  have hop' := hi.reads op hop
  refine ⟨hop', ?_⟩
  have hunwritten := ((hi.direction op.handler).reading (hop' ▸ hop)).2
  rw [hop']
  exact hunwritten

/-- Bytes that were waiting at the handover are relayed first. -/
theorem relays_waiting :
    let two := { Socket.accepted with sent := [72, 105], unread := [72, 105] }
    let s := (((State.started .accepted two).fill readPeerTwo 2).complete readPeerTwo (.ok 2))
    let t := (s.dequeue readPeerTwo (.ok 2)).handle .handleUpstreamRead (.ok 2) .ok
    Relays t .handleUpstreamRead ∧ t.written .handleUpstreamRead = [72, 105] := by
  intro two s t
  have hcompletes : Step (State.started .accepted two) (.readCompletes readPeerTwo 2) s :=
    Step.readCompletes _ readPeerTwo 2 (by simp [State.started, start]) rfl two_pos le_rfl
      (by decide) rfl
  have hhandle : Step s (.handle readPeerTwo (.ok 2) .ok) t :=
    Step.handle s readPeerTwo (.ok 2) .ok (by simp [s, State.complete]) rfl nofun
  exact ⟨relays ((Transition.Run.single hcompletes).snoc hhandle) _, by decide +kernel⟩

end Bridge

end ScreenViewer
