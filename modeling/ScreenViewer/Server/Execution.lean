import Mathlib
import ScreenViewer.Json.StringObjects
import ScreenViewer.Server

/-!
# Executing a server

The steps of a server leave open what its peers, the transport and the scheduler do.  An `Event`
fixes one such choice, and `exec` computes the step that the choice leads to, if there is one;
`replay` does this for a list of events.  What is computed is a run of the server (`run_of_replay`),
so that runs can be exhibited by evaluating them.
-/

namespace ScreenViewer

open SocketBase AuthenticatedSession

namespace Bridge

instance (ec : WriteResult) (s : Socket) : Decidable (WritePossible ec s) :=
  inferInstanceAs (Decidable (s.connectivity ≠ .connected → ec = .failed 0))

/-- The step of a bridge with a given label, if it is possible. -/
def exec (s : State) : Label → Option State
  | .peerWrites p bytes =>
    if (s.peer p).ended = false then some (s.updatePeer p (·.peerWrites bytes)) else none
  | .peerEnds p => some (s.updatePeer p Socket.peerEnds)
  | .peerDisconnects p => some (s.updatePeer p Socket.peerDisconnects)
  | .readCompletes op n =>
    if op ∈ s.reads ∧ (s.peer op.peer).isOpen ∧ 0 < n ∧ n ≤ (s.peer op.peer).unread.length ∧
        n ≤ maxDataLength ∧ s.escaped = none then
      some ((s.fill op n).complete op (.ok n))
    else none
  | .readEnds op =>
    if op ∈ s.reads ∧ (s.peer op.peer).isOpen ∧ (s.peer op.peer).unread = [] ∧
        (s.peer op.peer).ended = true ∧ s.escaped = none then
      some (s.complete op (.error .eof))
    else none
  | .readFails op =>
    if op ∈ s.reads ∧ s.escaped = none then some (s.complete op (.error .error)) else none
  | .handle op result ec =>
    if (op, result) ∈ s.ready ∧ s.escaped = none ∧
        WritePossible ec (s.peer (destination op.handler)) then
      some ((s.dequeue op result).handle op.handler result ec)
    else none

/-- What is computed is a step of the bridge. -/
theorem exec_sound {s t : State} {l : Label} (h : exec s l = some t) : Step s l t := by
  cases l with
  | peerWrites p bytes =>
    obtain ⟨hended, h⟩ := Option.ite_none_right_eq_some.mp h
    cases h
    exact Step.peerWrites s p bytes hended
  | peerEnds p =>
    cases h
    exact Step.peerEnds s p
  | peerDisconnects p =>
    cases h
    exact Step.peerDisconnects s p
  | readCompletes op n =>
    obtain ⟨⟨hop, hopen, hpos, hn, hmax, hesc⟩, h⟩ := Option.ite_none_right_eq_some.mp h
    cases h
    exact Step.readCompletes s op n hop hopen hpos hn hmax hesc
  | readEnds op =>
    obtain ⟨⟨hop, hopen, hunread, hended, hesc⟩, h⟩ := Option.ite_none_right_eq_some.mp h
    cases h
    exact Step.readEnds s op hop hopen hunread hended hesc
  | readFails op =>
    obtain ⟨⟨hop, hesc⟩, h⟩ := Option.ite_none_right_eq_some.mp h
    cases h
    exact Step.readFails s op hop hesc
  | handle op result ec =>
    obtain ⟨⟨hready, hesc, hec⟩, h⟩ := Option.ite_none_right_eq_some.mp h
    cases h
    exact Step.handle s op result ec hready hesc hec

end Bridge

namespace Server

/-! ## Decidable conditions -/

section Decidable

variable (s : Server)

instance (c : ConnId) : Decidable (s.Connected c) :=
  inferInstanceAs (Decidable ((s.conn c).socket.connectivity = .connected))

instance : (a : Action) → Decidable (s.CanPerform a)
  | .sendChunk session _ => inferInstanceAs (Decidable (s.Connected session))
  | .asyncReadMessage _ _ maxMessageSize =>
    inferInstanceAs (Decidable (maxMessageSize ≤ bufferSize))
  | .startBridge sender receiver =>
    inferInstanceAs (Decidable (s.Connected sender ∧ s.Connected receiver))
  | .shutdown session => inferInstanceAs (Decidable (s.Connected session))
  | .close _ => inferInstanceAs (Decidable True)

instance [SizeLayout] (what : Bytes) (written : ℕ) :
    (a : Action) → Decidable (s.CanThrow a what written)
  | .sendChunk _ message => inferInstanceAs (Decidable (written < (sendChunk message).length))
  | .asyncReadMessage _ _ maxMessageSize =>
    inferInstanceAs (Decidable (bufferSize < maxMessageSize ∧
      what = maxMessageSizeError maxMessageSize))
  | .startBridge sender receiver =>
    inferInstanceAs (Decidable (¬ (s.Connected sender ∧ s.Connected receiver)))
  | .shutdown session => inferInstanceAs (Decidable (¬ s.Connected session))
  | .close _ => inferInstanceAs (Decidable False)

instance (c : ConnId) : Decidable (s.Referenced c) :=
  inferInstanceAs (Decidable ((s.conn c).reads ≠ [] ∨
    ServerSessionsManager.waiting s.sendersSessions c ≠ 0 ∨
    (∃ j ∈ s.bridges, j.sender = c ∨ j.receiver = c) ∨
    (s.plan ≠ [] ∧ s.self = c) ∨ ∃ a ∈ s.plan, c ∈ a.sessions))

instance : (l : Bridge.Label) → Decidable (OwnLabel l)
  | .readCompletes .. | .readEnds .. | .readFails .. | .handle .. =>
    inferInstanceAs (Decidable True)
  | .peerWrites .. | .peerEnds .. | .peerDisconnects .. => inferInstanceAs (Decidable False)

end Decidable

/-! ## Events -/

/-- What decides the next step of a server. -/
inductive Event
  | accept (c : ConnId) (handshake : Bool)
  | peerWrites (c : ConnId) (bytes : Bytes)
  | peerEnds (c : ConnId)
  | peerDisconnects (c : ConnId)
  | headerCompletes (c : ConnId)
  | bodyCompletes (c : ConnId) (usersManager : Option Authenticator) (now : Time)
  | readFails (c : ConnId)
  | performs
  | throws (what : Bytes) (written : ℕ)
  | terminateTimeoutClients (overflow : DurationOverflow) (clientTimeout : Seconds)
      (now : ℕ → Time)
  | reset
  | destroys (c : ConnId)
  | bridge (i : ℕ) (l : Bridge.Label)

section Execution

variable [SizeLayout] [JsonLibrary] (sessionClass : SessionClass)

/-- The move that an event leads to, if it is possible. -/
def move (s : Server) : Event → Option (Label × Server)
  | .accept c handshake =>
    if s.plan = [] ∧ (s.conn c).accepted = false then
      match handshake with
      | true => some (.accept c true,
          { s.updateConn c fun k => { k with accepted := true } with
            self := c
            plan := [.asyncReadMessage c .authenticateCallback firstMessageMaxSize]
            guarded := true })
      | false => some (.accept c false,
          s.updateConn c fun k => { k with accepted := true, socket := k.socket.close })
    else none
  | .peerWrites c bytes =>
    if (s.conn c).accepted = true ∧ (s.conn c).socket.ended = false then
      some (.peerWrites c bytes, s.updateSocket c (·.peerWrites bytes))
    else none
  | .peerEnds c =>
    if (s.conn c).accepted = true then some (.peerEnds c, s.updateSocket c Socket.peerEnds)
    else none
  | .peerDisconnects c =>
    if (s.conn c).accepted = true then
      some (.peerDisconnects c, s.updateSocket c Socket.peerDisconnects)
    else none
  | .headerCompletes c =>
    match (s.conn c).reads with
    | .header messageHandler maxMessageSize :: _ =>
      if s.plan = [] ∧ MessageHeader.size ≤ (s.conn c).socket.unread.length then
        match MessageHeader.deserialize ((s.conn c).socket.unread.take MessageHeader.size)
            MessageHeader.size maxMessageSize with
        | .ok header => some (.headerCompletes c,
            (s.completeRead c (.header messageHandler maxMessageSize) MessageHeader.size).asyncRead
              c (.body messageHandler header))
        | .error what => some (.headerCompletes c,
            ((s.completeRead c (.header messageHandler maxMessageSize) MessageHeader.size).record
              [(c, .rejectedHeader ((s.conn c).socket.unread.take MessageHeader.size))]
            ).safeDisconnect c (Bytes.ofString what))
      else none
    | _ => none
  | .bodyCompletes c usersManager now =>
    match (s.conn c).reads with
    | .body messageHandler header :: _ =>
      if s.plan = [] ∧ header.messageSize.toNat ≤ (s.conn c).socket.unread.length then
        some (.bodyCompletes c,
          (s.completeRead c (.body messageHandler header) header.messageSize.toNat).runHandler c
            (invoke sessionClass usersManager s.sendersSessions c now messageHandler
              { type := header.type
                content := (s.conn c).socket.unread.take header.messageSize.toNat }))
      else none
    | _ => none
  | .readFails c =>
    match (s.conn c).reads with
    | read :: _ => if s.plan = [] then some (.readFails c, s.completeRead c read 0) else none
    | [] => none
  | .performs =>
    match s.plan with
    | a :: rest =>
      if s.CanPerform a then some (.performs a, { s.perform a with plan := rest }) else none
    | [] => none
  | .throws what written =>
    match s.plan with
    | a :: _ =>
      if s.CanThrow a what written then
        some (.throws a, (s.performPartly a written).catchException what)
      else none
    | [] => none
  | .terminateTimeoutClients overflow clientTimeout now =>
    some (.terminateTimeoutClients, s.letGo
      (ServerSessionsManager.terminateTimeoutClients overflow s.sendersSessions clientTimeout now))
  | .reset => some (.reset, s.letGo (ServerSessionsManager.reset s.sendersSessions))
  | .destroys c =>
    if (s.conn c).accepted = true ∧ ¬ s.Referenced c then
      some (.destroys c, s.updateSocket c Socket.close)
    else none
  | .bridge i l =>
    match s.bridges.drop i with
    | j :: post =>
      if s.plan = [] ∧ OwnLabel l then
        (Bridge.exec (s.bridgeState j) l).map fun b =>
          (.bridge j.sender j.receiver l, s.putBack (s.bridges.take i) j post b)
      else none
    | [] => none

/-- The step that an event leads to, if it is possible. -/
def exec (s : Server) (e : Event) : Option (Label × Server) :=
  if s.escaped = none then s.move sessionClass e else none

/-- Replays events one after another. -/
def replay : Server → List Event → Option (List Label × Server)
  | s, [] => some ([], s)
  | s, e :: es =>
    (exec sessionClass s e).bind fun r =>
      (replay r.2 es).map fun r' => (r.1 :: r'.1, r'.2)

variable {sessionClass}

/-- What is computed is a move of the server. -/
lemma move_sound {s t : Server} {e : Event} {l : Label}
    (h : s.move sessionClass e = some (l, t)) : Move sessionClass s l t := by
  cases e with
  | accept c handshake =>
    obtain ⟨⟨hidle, hnew⟩, h⟩ := Option.ite_none_right_eq_some.mp h
    cases handshake <;> cases h
    · exact Move.acceptFails s c hidle hnew
    · exact Move.accept s c hidle hnew
  | peerWrites c bytes =>
    obtain ⟨⟨hnew, hopen⟩, h⟩ := Option.ite_none_right_eq_some.mp h
    cases h
    exact Move.peerWrites s c bytes hnew hopen
  | peerEnds c =>
    obtain ⟨hnew, h⟩ := Option.ite_none_right_eq_some.mp h
    cases h
    exact Move.peerEnds s c hnew
  | peerDisconnects c =>
    obtain ⟨hnew, h⟩ := Option.ite_none_right_eq_some.mp h
    cases h
    exact Move.peerDisconnects s c hnew
  | headerCompletes c =>
    simp only [move] at h
    split at h
    next messageHandler maxMessageSize rest hreads =>
      obtain ⟨⟨hidle, hlen⟩, h⟩ := Option.ite_none_right_eq_some.mp h
      have hread : .header messageHandler maxMessageSize ∈ (s.conn c).reads := by simp [hreads]
      split at h
      next header hheader =>
        cases h
        exact Move.headerAccepted s c _ _ header hidle hread hlen hheader
      next what hheader =>
        cases h
        exact Move.headerRejected s c _ _ what hidle hread hlen hheader
    next => cases h
  | bodyCompletes c usersManager now =>
    simp only [move] at h
    split at h
    next messageHandler header rest hreads =>
      obtain ⟨⟨hidle, hlen⟩, h⟩ := Option.ite_none_right_eq_some.mp h
      have hread : .body messageHandler header ∈ (s.conn c).reads := by simp [hreads]
      cases h
      exact Move.bodyCompletes s c _ _ usersManager now hidle hread hlen
    next => cases h
  | readFails c =>
    simp only [move] at h
    split at h
    next read rest hreads =>
      obtain ⟨hidle, h⟩ := Option.ite_none_right_eq_some.mp h
      cases h
      exact Move.readFails s c read hidle (by simp [hreads])
    next => cases h
  | performs =>
    simp only [move] at h
    split at h
    next a rest hplan =>
      obtain ⟨hcan, h⟩ := Option.ite_none_right_eq_some.mp h
      cases h
      exact Move.performs s a rest hplan hcan
    next => cases h
  | throws what written =>
    simp only [move] at h
    split at h
    next a rest hplan =>
      obtain ⟨hcan, h⟩ := Option.ite_none_right_eq_some.mp h
      cases h
      exact Move.throws s a rest what written hplan hcan
    next => cases h
  | terminateTimeoutClients overflow clientTimeout now =>
    cases h
    exact Move.terminateTimeoutClients s overflow clientTimeout now
  | reset =>
    cases h
    exact Move.reset s
  | destroys c =>
    obtain ⟨⟨hnew, hfree⟩, h⟩ := Option.ite_none_right_eq_some.mp h
    cases h
    exact Move.destroys s c hnew hfree
  | bridge i l =>
    simp only [move] at h
    split at h
    next j post hj =>
      obtain ⟨⟨hidle, hown⟩, h⟩ := Option.ite_none_right_eq_some.mp h
      obtain ⟨b, hb, h⟩ := Option.map_eq_some_iff.mp h
      cases h
      have hbridges : s.bridges = s.bridges.take i ++ j :: post := by
        rw [← hj, List.take_append_drop]
      exact Move.bridge s _ j post l b hidle hbridges hown (Bridge.exec_sound hb)
    next => cases h

/-- What is computed is a step of the server. -/
theorem exec_sound {s t : Server} {e : Event} {l : Label}
    (h : exec sessionClass s e = some (l, t)) : Step sessionClass s l t := by
  obtain ⟨hesc, h⟩ := Option.ite_none_right_eq_some.mp h
  exact ⟨hesc, move_sound h⟩

/-- What is replayed is a run of the server. -/
theorem run_of_replay {s t : Server} {es : List Event} {ls : List Label}
    (h : replay sessionClass s es = some (ls, t)) :
    Transition.Run (Step sessionClass) s ls t := by
  induction es generalizing s ls with
  | nil =>
    cases h
    exact Transition.Run.nil _
  | cons e es ih =>
    obtain ⟨⟨l, r⟩, hexec, h⟩ := Option.bind_eq_some_iff.mp h
    obtain ⟨⟨ms, t'⟩, hrest, h⟩ := Option.map_eq_some_iff.mp h
    cases h
    exact Transition.Run.cons (exec_sound hexec) (ih hrest)

/-- Events that can be replayed with a result that passes a test are a run that passes it. -/
theorem exists_run_of_replay (sessionClass : SessionClass) {s : Server} (es : List Event)
    (p : List Label → Server → Bool)
    (h : (replay sessionClass s es).any (fun r => p r.1 r.2) = true) :
    ∃ ls t, Transition.Run (Step sessionClass) s ls t ∧ p ls t = true := by
  obtain ⟨⟨ls, t⟩, hreplay, hp⟩ := (Option.any_eq_true _ _).mp h
  exact ⟨ls, t, run_of_replay hreplay, hp⟩

/-- A peer writes a message, and its header and body are read. -/
def writes (c : ConnId) (usersManager : Option Authenticator) (now : Time) (message : Message) :
    List Event :=
  [.peerWrites c (sendChunk message), .headerCompletes c, .bodyCompletes c usersManager now]

/-- A connection is accepted and logs in with credentials that are right. -/
def logsIn (c : ConnId) : List Event :=
  [.accept c true, .performs] ++
    writes c (some fun _ _ => .ok true) 0
      { type := .login, content := Bytes.ofString "\x7b\"email\":\"a\",\"password\":\"b\"\x7d" } ++
    [.performs, .performs]

end Execution

end Server

end ScreenViewer
