import Mathlib
import ScreenViewer.Server.View

/-!
# One socket at a time

A view leaves out what only the bridges ask for: whether a peer has ended its stream, and where the
streamer came from that a request has found.  `moved_of_move` says of every move that is no step of
the bridge over a connection what it does to the connection's socket, `relayed_of_move` does so for
the others.
-/

namespace ScreenViewer

open SocketBase AuthenticatedSession ServerSessionsManager

namespace Server

/-- The label is of a step of a bridge over the connection. -/
def IsRelaying (c : ConnId) : Label → Prop
  | .bridge sender receiver _ => c = sender ∨ c = receiver
  | _ => False

/-- The socket `k` of the connection `c` after a move from `s`: the peer has written `bytes`, a read
has taken `n` bytes, and `extra` was added to the log. -/
structure Moved (s : Server) (c : ConnId) (k : Socket) (bytes : Bytes) (n : ℕ)
    (extra : List Entry) : Prop where
  sent : k.sent = (s.conn c).socket.sent ++ bytes
  unread : k.unread = (s.conn c).socket.unread.drop n ++ bytes
  ended : (s.conn c).socket.ended = true → bytes = [] ∧ k.ended = true
  closed : (s.conn c).socket.connectivity = .closed → k.connectivity = .closed
  log : k.log = (s.conn c).socket.log ++ extra
  /-- Only a pending read takes anything. -/
  reads : (s.conn c).reads = [] → n = 0
  /-- Only a bridge relays. -/
  relayed : ∀ block, .relayed block ∉ extra
  /-- A request finds streamers in the registry only. -/
  found : ∀ code streamer, .found code streamer ∈ extra →
    ∃ node, s.sendersSessions.lookup code = some node ∧ node.clientSession = streamer

section Moved

variable {s : Server} {c d : ConnId}

/-- The entries that are added by a move that neither relays nor finds. -/
def IsPlain : Entry → Prop
  | .relayed _ | .found .. => False
  | _ => True

/-- A socket that only gets plain entries. -/
lemma moved_of_log {k : Socket} (extra : List Entry) (hsent : k.sent = (s.conn c).socket.sent)
    (hunread : k.unread = (s.conn c).socket.unread)
    (hended : (s.conn c).socket.ended = true → k.ended = true)
    (hclosed : (s.conn c).socket.connectivity = .closed → k.connectivity = .closed)
    (hlog : k.log = (s.conn c).socket.log ++ extra) (hextra : ∀ e ∈ extra, IsPlain e) :
    ∃ bytes n extra, Moved s c k bytes n extra :=
  ⟨[], 0, extra, by simpa using hsent, by simpa using hunread, fun h => ⟨rfl, hended h⟩, hclosed,
    hlog, fun _ => rfl, fun block hmem => hextra _ hmem,
    fun code streamer hmem => (hextra _ hmem).elim⟩

/-- A socket that is left alone. -/
lemma moved_self : ∃ bytes n extra, Moved s c (s.conn c).socket bytes n extra :=
  moved_of_log [] rfl rfl id id (List.append_nil _).symm (by simp)

/-- The socket of a connection after one connection was changed. -/
lemma moved_updateConn (d : ConnId) (f : Connection → Connection)
    (h : c = d → ∃ bytes n extra, Moved s c (f (s.conn c)).socket bytes n extra) :
    ∃ bytes n extra, Moved s c ((s.updateConn d f).conn c).socket bytes n extra := by
  by_cases hc : c = d
  · subst hc
    simpa [updateConn] using h rfl
  · simpa [updateConn, hc] using moved_self

/-- A socket that only gets plain entries, after one socket was changed. -/
lemma moved_updateSocket (d : ConnId) (f : Socket → Socket) (extra : List Entry)
    (hsent : ∀ k, (f k).sent = k.sent) (hunread : ∀ k, (f k).unread = k.unread)
    (hended : ∀ k, k.ended = true → (f k).ended = true)
    (hclosed : ∀ k, k.connectivity = .closed → (f k).connectivity = .closed)
    (hlog : ∀ k, (f k).log = k.log ++ extra) (hextra : ∀ e ∈ extra, IsPlain e) :
    ∃ bytes n extra, Moved s c ((s.updateSocket d f).conn c).socket bytes n extra :=
  moved_updateConn d _ fun _ =>
    moved_of_log extra (hsent _) (hunread _) (hended _) (hclosed _) (hlog _) hextra

/-- Adding nothing to the logs. -/
lemma record_nil (s : Server) : s.record [] = s := by
  unfold record
  simp only [entriesOf_nil, List.append_nil]

/-- A read has completed, and entries have been added to the logs. -/
lemma moved_completeRead {d : ConnId} {read : PendingRead} (count : ℕ)
    (marks : List (ConnId × Entry)) (hread : read ∈ (s.conn d).reads)
    (hrelayed : ∀ block, .relayed block ∉ entriesOf c marks)
    (hfound : ∀ code streamer, .found code streamer ∈ entriesOf c marks →
      ∃ node, s.sendersSessions.lookup code = some node ∧ node.clientSession = streamer) :
    ∃ bytes n extra,
      Moved s c (((s.completeRead d read count).record marks).conn c).socket bytes n extra := by
  by_cases hc : c = d
  · subst hc
    refine ⟨[], count, entriesOf c marks, ?_, ?_, ?_, ?_, ?_, ?_, hrelayed, hfound⟩
    · simp [record, completeRead, updateConn, Socket.take]
    · simp [record, completeRead, updateConn, Socket.take]
    · simp [record, completeRead, updateConn, Socket.take]
    · simp [record, completeRead, updateConn, Socket.take]
    · simp [record, completeRead, updateConn, Socket.take]
    · intro hreads
      simp [hreads] at hread
  · refine ⟨[], 0, entriesOf c marks, ?_, ?_, ?_, ?_, ?_, fun _ => rfl, hrelayed, hfound⟩
    · simp [record, completeRead, updateConn, hc]
    · simp [record, completeRead, updateConn, hc]
    · simp [record, completeRead, updateConn, hc]
    · simp [record, completeRead, updateConn, hc]
    · simp [record, completeRead, updateConn, hc]

/-- Performing an operation. -/
lemma moved_perform (a : Action) :
    ∃ bytes n extra, Moved s c ((s.perform a).conn c).socket bytes n extra := by
  cases a with
  | sendChunk session message =>
    exact moved_updateSocket session (·.record (.frame message)) [.frame message] (fun _ => rfl)
      (fun _ => rfl) (fun _ => id) (fun _ => id) (fun _ => rfl) (by simp [IsPlain])
  | asyncReadMessage session messageHandler maxMessageSize =>
    exact moved_updateConn session
      (fun k => { k with reads := k.reads ++ [.header messageHandler maxMessageSize] })
      fun _ => moved_self
  | startBridge sender receiver => exact moved_self
  | shutdown session => exact moved_self
  | close session =>
    exact moved_updateSocket session Socket.close [] (fun _ => rfl) (fun _ => rfl) (fun _ => id)
      (fun _ _ => rfl) (fun k => (List.append_nil k.log).symm) (by simp)

/-- An operation throws. -/
lemma moved_performPartly (a : Action) (written : ℕ) :
    ∃ bytes n extra, Moved s c ((s.performPartly a written).conn c).socket bytes n extra := by
  cases a with
  | sendChunk session message =>
    exact moved_updateSocket session (·.record (.torn message written)) [.torn message written]
      (fun _ => rfl) (fun _ => rfl) (fun _ => id) (fun _ => id) (fun _ => rfl) (by simp [IsPlain])
  | startBridge sender receiver =>
    have hclose : ∀ (d : ConnId) (r : Server), ∃ x,
        ((r.updateSocket d Socket.close).conn c).socket =
          { (r.conn c).socket with connectivity := x } ∧
        ((r.conn c).socket.connectivity = .closed → x = .closed) := by
      intro d r
      by_cases hc : c = d
      · subst hc
        exact ⟨.closed, by simp [updateSocket, updateConn, Socket.close], fun _ => rfl⟩
      · exact ⟨(r.conn c).socket.connectivity, by simp [updateSocket, updateConn, hc], id⟩
    obtain ⟨x, hx, hclosed⟩ := hclose sender s
    obtain ⟨y, hy, hclosed'⟩ := hclose receiver (s.updateSocket sender Socket.close)
    rw [hx] at hclosed'
    have heq : ((s.performPartly (.startBridge sender receiver) written).conn c).socket =
        { (s.conn c).socket with connectivity := y } := by
      rw [performPartly, hy, hx]
    rw [heq]
    exact moved_of_log [] rfl rfl id (fun h => hclosed' (hclosed h)) (List.append_nil _).symm
      (by simp)
  | asyncReadMessage session messageHandler maxMessageSize => exact moved_self
  | shutdown session => exact moved_self
  | close session => exact moved_self

/-- The registry lets go of sessions. -/
lemma moved_letGo (r : Registry × List ConnId) :
    ∃ bytes n extra, Moved s c ((s.letGo r).conn c).socket bytes n extra := by
  refine moved_of_log (entriesOf c (r.2.map (·, .dropped))) rfl rfl id id rfl ?_
  rw [entriesOf_map_dropped]
  intro e he
  rw [List.eq_of_mem_replicate he]
  trivial

end Moved

section Moves

variable [SizeLayout] [JsonLibrary] {sessionClass : SessionClass} {s t : Server} {c : ConnId}

omit [SizeLayout] in
/-- The marks of a handler relay nothing, and the streamer found is one of the registry. -/
lemma marks_of_handled {self : ConnId} {now : Time} {message : Message}
    {messageHandler : MessageHandler} {e : Effect}
    (he : Handled sessionClass s.sendersSessions self now message messageHandler e) :
    (∀ block, .relayed block ∉ entriesOf c e.marks) ∧
      ∀ code streamer, .found code streamer ∈ entriesOf c e.marks →
        ∃ node, s.sendersSessions.lookup code = some node ∧ node.clientSession = streamer := by
  have hentries : ∀ {e' : Entry} {marks : List (ConnId × Entry)}, e' ∈ entriesOf c marks →
      (c, e') ∈ marks := by
    intro e' marks hmem
    obtain ⟨mark, hfilter, rfl⟩ := List.mem_map.mp hmem
    obtain rfl : mark.1 = c := by simpa using (List.mem_filter.mp hfilter).2
    exact List.mem_of_mem_filter hfilter
  cases he with
  | login email password h =>
    exact ⟨fun block hmem => by simpa using hentries hmem,
      fun code streamer hmem => by simpa using hentries hmem⟩
  | refused checks plan h hplan =>
    rcases h with rfl | ⟨email, password, result, -, rfl⟩ <;>
      exact ⟨fun block hmem => by simpa using hentries hmem,
        fun code streamer hmem => by simpa using hentries hmem⟩
  | thrown checks what h =>
    rcases h with rfl | ⟨email, password, result, -, rfl⟩ <;>
      exact ⟨fun block hmem => by simpa using hentries hmem,
        fun code streamer hmem => by simpa using hentries hmem⟩
  | answered isRegistered h =>
    exact ⟨fun block hmem => by simpa using hentries hmem,
      fun code streamer hmem => by simpa using hentries hmem⟩
  | registered isRegistered hclass h =>
    exact ⟨fun block hmem => by simpa using hentries hmem,
      fun code streamer hmem => by simpa using hentries hmem⟩
  | found streamer hclass h hlookup =>
    refine ⟨fun block hmem => by simpa using hentries hmem, fun code streamer' hmem => ?_⟩
    obtain ⟨-, rfl, rfl⟩ : c = self ∧ code = message.content ∧
        streamer' = streamer.clientSession := by simpa using hentries hmem
    exact ⟨streamer, hlookup, rfl⟩

/-- What a move does to a socket when it is no step of a bridge over it. -/
theorem moved_of_move {l : Label} (h : Move sessionClass s l t) (hl : ¬ IsRelaying c l) :
    ∃ bytes n extra, Moved s c (t.conn c).socket bytes n extra := by
  have hquiet : ∀ (d : ConnId) (f : Socket → Socket), (∀ k, (f k).sent = k.sent) →
      (∀ k, (f k).unread = k.unread) → (∀ k, k.ended = true → (f k).ended = true) →
      (∀ k, k.connectivity = .closed → (f k).connectivity = .closed) → (∀ k, (f k).log = k.log) →
      ∃ bytes n extra, Moved s c ((s.updateSocket d f).conn c).socket bytes n extra := by
    intro d f hsent hunread hended hclosed hlog
    exact moved_updateSocket d f [] hsent hunread hended hclosed (by simpa using hlog) (by simp)
  cases h with
  | accept d hidle hnew =>
    exact moved_updateConn d (fun k => { k with accepted := true }) fun _ => moved_self
  | acceptFails d hidle hnew =>
    exact moved_updateConn d _ fun _ =>
      moved_of_log [] rfl rfl id (fun _ => rfl) (List.append_nil _).symm (by simp)
  | peerWrites d bytes hnew hopen =>
    refine moved_updateConn d _ fun hc => ⟨bytes, 0, [], rfl, rfl, ?_, id,
      (List.append_nil _).symm, fun _ => rfl, by simp, by simp⟩
    subst hc
    simp [hopen]
  | peerEnds d hnew =>
    exact hquiet d _ (fun _ => rfl) (fun _ => rfl) (fun _ _ => rfl) (fun _ => id) fun _ => rfl
  | peerDisconnects d hnew =>
    refine hquiet d _ (fun _ => rfl) (fun _ => rfl) (fun _ => id) (fun k hk => ?_) fun _ => rfl
    simp [Socket.peerDisconnects, hk]
  | headerAccepted d messageHandler maxMessageSize header hidle hread hlen hheader =>
    have hmoved := moved_completeRead (s := s) (c := c) MessageHeader.size [] hread
      (by simp) (by simp)
    rw [record_nil] at hmoved
    have heq : ∀ r : Server, ((r.asyncRead d (.body messageHandler header)).conn c).socket =
        (r.conn c).socket := by
      intro r
      by_cases hc : c = d
      · subst hc
        simp [asyncRead, updateConn]
      · simp [asyncRead, updateConn, hc]
    rw [heq]
    exact hmoved
  | headerRejected d messageHandler maxMessageSize what hidle hread hlen hheader =>
    refine moved_completeRead _ [(d, .rejectedHeader _)] hread (fun block hmem => ?_)
      fun code streamer hmem => ?_
    · by_cases hc : c = d
      · subst hc
        simp at hmem
      · simp [entriesOf_cons_of_ne _ _ hc] at hmem
    · by_cases hc : c = d
      · subst hc
        simp at hmem
      · simp [entriesOf_cons_of_ne _ _ hc] at hmem
  | bodyCompletes d messageHandler header usersManager now hidle hread hlen =>
    have he : ∀ message, Handled sessionClass s.sendersSessions d now message messageHandler
        (invoke sessionClass usersManager s.sendersSessions d now messageHandler message) :=
      fun _ => handled_invoke usersManager messageHandler
    obtain ⟨hrelayed, hfound⟩ := marks_of_handled (c := c) (he _)
    rw [conn_runHandler]
    exact moved_completeRead _ _ hread hrelayed hfound
  | readFails d read hidle hread =>
    have hmoved := moved_completeRead (s := s) (c := c) 0 [] hread (by simp) (by simp)
    rw [record_nil] at hmoved
    exact hmoved
  | performs a rest hplan hcan => exact moved_perform a
  | throws a rest what written hplan hcan =>
    rw [conn_catchException]
    exact moved_performPartly a written
  | terminateTimeoutClients overflow clientTimeout now => exact moved_letGo _
  | reset => exact moved_letGo _
  | destroys d hnew hfree =>
    exact hquiet d _ (fun _ => rfl) (fun _ => rfl) (fun _ => id) (fun _ _ => rfl) fun _ => rfl
  | bridge pre j post l b hidle hj hown hb =>
    obtain ⟨hsender, hreceiver⟩ : c ≠ j.sender ∧ c ≠ j.receiver := not_or.mp hl
    have heq : ((s.putBack pre j post b).conn c) = s.conn c := by
      simp [putBack, updateSocket, updateConn, hsender, hreceiver]
    rw [heq]
    exact moved_self

omit [SizeLayout] [JsonLibrary] in
/-- The socket of a connection that a bridge was put back over. -/
lemma socket_putBack (pre : List Joined) (j : Joined) (post : List Joined) (b : Bridge.State)
    (hc : c = j.sender ∨ c = j.receiver) :
    ∃ p, ((s.putBack pre j post b).conn c).socket = b.peer p ∧
      (s.conn c).socket = (s.bridgeState j).peer p := by
  by_cases hreceiver : c = j.receiver
  · subst hreceiver
    exact ⟨.two, by simp [putBack, updateSocket, updateConn], rfl⟩
  · obtain rfl : c = j.sender := hc.resolve_right hreceiver
    exact ⟨.one, by simp [putBack, updateSocket, updateConn, hreceiver], rfl⟩

/-- What a step of the bridge over a socket does to it. -/
theorem relayed_of_move {l : Label} (h : Move sessionClass s l t) (hl : IsRelaying c l) :
    ∃ (n : ℕ) (blocks : List Bytes), (t.conn c).socket.sent = (s.conn c).socket.sent ∧
      (t.conn c).socket.unread = (s.conn c).socket.unread.drop n ∧
      (t.conn c).socket.log = (s.conn c).socket.log ++ blocks.map .relayed := by
  cases h with
  | bridge pre j post l b hidle hj hown hb =>
    obtain ⟨p, ht, hs⟩ := socket_putBack (s := s) pre j post b hl
    obtain ⟨hsent, n, blocks, hunread, hlog⟩ := bridgeStep_peer hown hb p
    rw [ht, hs]
    exact ⟨n, blocks, hsent, hunread, hlog⟩
  | _ => exact hl.elim

end Moves

end Server

end ScreenViewer
