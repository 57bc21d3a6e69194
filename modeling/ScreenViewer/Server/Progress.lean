import Mathlib
import ScreenViewer.Lib.Progress
import ScreenViewer.Server.Acknowledgement
import ScreenViewer.Server.Bridges

/-!
# The server comes to rest

What the server does by itself is to complete reads, to run the handlers of what has been read, and
to relay.  It never does so forever: a completed read has taken bytes that are not read again, a
handler has finitely many operations and fails at most twice, and a bridge reads again only when it
has relayed something.  And as long as there is anything left to do it can go on, because an
operation that cannot be performed throws.  So it comes to rest, whatever has happened before
(`comes_to_rest`): no handler is running, and every read waits for a peer that may still write.
-/

namespace ScreenViewer

open SocketBase AuthenticatedSession

/-- The peer may still write. -/
def Socket.Live (k : Socket) : Prop := k.connectivity = .connected ∧ k.ended = false

instance (k : Socket) : Decidable k.Live := inferInstanceAs (Decidable (_ ∧ _))

/-- What is left to do for a completed read of a bridge, which may be followed by another read. -/
def Bridge.readyWork (r : ReadOp × Except ReadEnd ℕ) : ℕ := if r.2.isOk then 3 else 1

/-- What is left to do for the reads of a bridge. -/
def Bridge.work (b : Bridge) : ℕ := 2 * b.reads.length + (b.ready.map Bridge.readyWork).sum

/-- A step of a bridge in which no network operation fails and no stream ends. -/
def Bridge.Label.IsClean : Bridge.Label → Prop
  | .readCompletes .. | .handle _ (.ok _) .ok => True
  | _ => False

instance : DecidablePred Bridge.Label.IsClean := fun l => by
  unfold Bridge.Label.IsClean
  split <;> infer_instance

/-- The read of a body. -/
def PendingRead.isBody : PendingRead → Bool
  | .header .. => false
  | .body .. => true

/-- What is left to take from a connection: its bytes, and the messages whose bodies are read. -/
def View.inbox (v : View) : ℕ := v.unread.length + v.reads.countP PendingRead.isBody

namespace Server

/-- A step that the server makes by itself. -/
def Label.IsOwn : Label → Prop
  | .headerCompletes _ | .bodyCompletes _ | .readFails _ | .performs _ | .throws _ | .bridge .. =>
    True
  | _ => False

/-- The connection that a step accepts. -/
def Label.accepts : Label → Option ConnId
  | .accept c _ => some c
  | _ => none

/-- What the server is waiting for: no handler is running, and every read that is outstanding waits
for a peer that may still write. -/
structure Resting (s : Server) : Prop where
  plan : s.plan = []
  header : ∀ c messageHandler maxMessageSize, .header messageHandler maxMessageSize ∈
    (s.conn c).reads → (s.conn c).socket.Live ∧
      (s.conn c).socket.unread.length < MessageHeader.size
  body : ∀ c messageHandler header, .body messageHandler header ∈ (s.conn c).reads →
    (s.conn c).socket.Live ∧ (s.conn c).socket.unread.length < header.messageSize.toNat
  ready : ∀ j ∈ s.bridges, j.bridge.ready = []
  reads : ∀ j ∈ s.bridges, ∀ op ∈ j.bridge.reads,
    ((s.bridgeState j).peer op.peer).Live ∧ ((s.bridgeState j).peer op.peer).unread = []

/-- A step in which no network operation of the server fails, and no stream that a bridge relays
ends. -/
def Label.IsClean : Label → Prop
  | .throws _ | .readFails _ => False
  | .bridge _ _ l => l.IsClean
  | _ => True

instance : DecidablePred Label.IsClean := fun l => by
  unfold Label.IsClean
  split <;> infer_instance

/-- No network operation of the server has to fail now. -/
structure Sound (s : Server) : Prop where
  plan : ∀ a rest, s.plan = a :: rest → s.CanPerform a
  reads : ∀ c, (s.conn c).reads ≠ [] → (s.conn c).socket.Live
  bridges : ∀ j ∈ s.bridges, ∀ p, ((s.bridgeState j).peer p).Live
  ready : ∀ j ∈ s.bridges, ∀ r ∈ j.bridge.ready, ∃ n, r.2 = .ok n

/-- What is left to do on the connections `cs`: first of all what is to be taken from them, then
whether the running handler may still fail twice, and then the reads and the operations. -/
def work (cs : Finset ConnId) (s : Server) : ℕ ×ₗ (ℕ ×ₗ ℕ) :=
  toLex (∑ c ∈ cs, (s.view c).inbox, toLex (if s.guarded then 0 else 1,
    ∑ c ∈ cs, (s.view c).reads.length + 5 * s.plan.length +
      (s.bridges.map fun j => j.bridge.work).sum))

section Progress

variable [SizeLayout] [JsonLibrary] {sessionClass : SessionClass} {s t : Server} {l : Label}
  {cs : Finset ConnId}

omit [SizeLayout] [JsonLibrary] in
/-- There is less to take. -/
lemma work_lt_of_inbox (h : ∑ c ∈ cs, (t.view c).inbox < ∑ c ∈ cs, (s.view c).inbox) :
    work cs t < work cs s :=
  Prod.Lex.toLex_lt_toLex.mpr (Or.inl h)

omit [SizeLayout] [JsonLibrary] in
/-- There is less to take from one connection, and not more from the others. -/
lemma work_lt_of_mem {c : ConnId} (hc : c ∈ cs)
    (hle : ∀ d, d ≠ c → (t.view d).inbox ≤ (s.view d).inbox)
    (hlt : (t.view c).inbox < (s.view c).inbox) : work cs t < work cs s := by
  refine work_lt_of_inbox (Finset.sum_lt_sum (fun d _ => ?_) ⟨c, hc, hlt⟩)
  by_cases hd : d = c
  · exact hd ▸ hlt.le
  · exact hle d hd

omit [SizeLayout] [JsonLibrary] in
/-- There are fewer operations, or they fail less often. -/
lemma work_lt_of_rest (hinbox : ∀ c, (t.view c).inbox ≤ (s.view c).inbox)
    (h : (s.guarded = false ∧ t.guarded = true) ∨ (t.guarded = s.guarded ∧
      ∑ c ∈ cs, (t.view c).reads.length + 5 * t.plan.length +
          (t.bridges.map fun j => j.bridge.work).sum <
        ∑ c ∈ cs, (s.view c).reads.length + 5 * s.plan.length +
          (s.bridges.map fun j => j.bridge.work).sum)) : work cs t < work cs s := by
  refine Prod.Lex.toLex_lt_toLex.mpr ?_
  rcases (Finset.sum_le_sum fun c (_ : c ∈ cs) => hinbox c).lt_or_eq with hlt | heq
  · exact Or.inl hlt
  · refine Or.inr ⟨heq, Prod.Lex.toLex_lt_toLex.mpr ?_⟩
    rcases h with ⟨hs, ht⟩ | ⟨hguarded, hlt⟩
    · exact Or.inl (by simp [hs, ht])
    · exact Or.inr ⟨by rw [hguarded], hlt⟩

/-! ## A step leaves less to do -/

omit [SizeLayout] [JsonLibrary] in
/-- A read of a bridge that fails is not made again. -/
lemma work_complete_lt {b : Bridge.State} {op : ReadOp} (hop : op ∈ b.reads) {e : ReadEnd} :
    (b.complete op (.error e)).work < b.work := by
  have hlen := List.length_erase_of_mem hop
  have hpos := List.length_pos_of_mem hop
  simp [Bridge.work, Bridge.State.complete, hlen, Bridge.readyWork, Except.isOk, Except.toBool]
  omega

omit [SizeLayout] [JsonLibrary] in
/-- A step of a bridge takes bytes from a peer and none from the other one, or it takes none and
leaves it less to do. -/
lemma bridgeStep_work {b b' : Bridge.State} {l : Bridge.Label} (hown : OwnLabel l)
    (h : Bridge.Step b l b') :
    (∃ p, (b'.peer p).unread.length < (b.peer p).unread.length) ∨ b'.work < b.work := by
  cases h with
  | peerWrites => exact hown.elim
  | peerEnds => exact hown.elim
  | peerDisconnects => exact hown.elim
  | readCompletes op n hop hopen hpos hn hmax hesc =>
    refine Or.inl ⟨op.peer, ?_⟩
    simp only [Bridge.State.complete, Bridge.State.fill, Bridge.State.updatePeer_peer, if_true,
      Socket.take, List.length_drop]
    omega
  | readEnds op hop hopen hunread hended hesc => exact Or.inr (work_complete_lt hop)
  | readFails op hop hesc => exact Or.inr (work_complete_lt hop)
  | handle op result ec hready hesc hec =>
    have herase := ((List.perm_cons_erase hready).map Bridge.readyWork).sum_eq
    refine Or.inr ?_
    cases result with
    | ok n =>
      cases ec with
      | ok =>
        rw [Bridge.State.handle_ok]
        simp [Bridge.work, Bridge.State.dequeue, Bridge.State.asyncRead, Bridge.readyWork,
          Except.isOk, Except.toBool] at herase ⊢
        omega
      | failed k =>
        rw [Bridge.State.handle_failed]
        simp [Bridge.work, Bridge.State.dequeue, Bridge.readyWork, Except.isOk, Except.toBool]
          at herase ⊢
        omega
    | error e =>
      cases e with
      | eof =>
        rw [Bridge.State.handle_eof]
        simp [Bridge.work, Bridge.State.dequeue, Bridge.readyWork, Except.isOk, Except.toBool]
          at herase ⊢
        omega
      | error =>
        rw [Bridge.State.handle_error]
        simp [Bridge.work, Bridge.State.dequeue, Bridge.readyWork, Except.isOk, Except.toBool]
          at herase ⊢
        omega

/-- What a connection has left to be taken does not grow, unless its peer writes. -/
lemma inbox_le {c : ConnId} {failed : Bool} {v v' : View}
    (h : View.Move sessionClass c failed v v') (hsent : v'.sent = v.sent) : v'.inbox ≤ v.inbox := by
  have herase : ∀ read : PendingRead,
      (v.reads.erase read).countP PendingRead.isBody ≤ v.reads.countP PendingRead.isBody :=
    fun read => List.erase_sublist.countP_le
  have hdrop : ∀ (n : ℕ) (read : PendingRead),
      (v.unread.drop n).length + (v.reads.erase read).countP PendingRead.isBody ≤
        v.unread.length + v.reads.countP PendingRead.isBody :=
    fun n read => Nat.add_le_add (by simp) (herase read)
  have hsize : MessageHeader.size = 9 := rfl
  unfold View.inbox
  cases h with
  | peerWrites _ bytes hnew =>
    obtain rfl : bytes = [] := by simpa using hsent
    simp
  | headerAccepted _ messageHandler maxMessageSize header hidle hread hlen hheader =>
    have hle := herase (.header messageHandler maxMessageSize)
    have hbody : (PendingRead.body messageHandler header).isBody = true := rfl
    rw [List.countP_append, List.countP_singleton, if_pos hbody, List.length_drop]
    omega
  | arms => simp [PendingRead.isBody]
  | readFails _ read hread => exact Nat.add_le_add_left (herase read) _
  | headerRejected | login | refused | answered | registered | found => exact hdrop _ _
  | relays => simp
  | _ => exact le_rfl

omit [SizeLayout] [JsonLibrary] in
/-- What a change keeps of its connection, it keeps of every connection. -/
lemma updateConn_keeps {β : Type} (F : Connection → β) {c : ConnId} {f : Connection → Connection}
    (hf : F (f (s.conn c)) = F (s.conn c)) (d : ConnId) :
    F ((s.updateConn c f).conn d) = F (s.conn d) := by
  by_cases hd : d = c
  · subst hd
    simpa [updateConn] using hf
  · simp [updateConn, hd]

omit [SizeLayout] [JsonLibrary] in
/-- Changing a socket starts and ends no read. -/
lemma reads_updateSocket (c : ConnId) (f : Socket → Socket) (d : ConnId) :
    ((s.updateSocket c f).conn d).reads = (s.conn d).reads :=
  updateConn_keeps Connection.reads rfl d

omit [SizeLayout] [JsonLibrary] in
/-- By itself a bridge takes bytes from its peers and adds to their logs; it closes them only when
something fails or a stream ends. -/
lemma bridgeStep_peer_eq {b b' : Bridge.State} {l : Bridge.Label} (hown : OwnLabel l)
    (h : Bridge.Step b l b') (p : Peer) :
    ∃ unread log connectivity, b'.peer p = { b.peer p with unread, log, connectivity } ∧
      (l.IsClean → connectivity = (b.peer p).connectivity) := by
  have hclose : ∀ (b₁ : Bridge.State) (cause : CloseCause) log,
      b₁.peer p = { b.peer p with log } →
      ∃ connectivity, (b₁.close cause).peer p = { b.peer p with log, connectivity } := by
    intro b₁ cause log heq
    obtain ⟨connectivity, hclosed⟩ := b₁.close_peer p cause
    exact ⟨connectivity, by rw [hclosed, heq]⟩
  cases h with
  | peerWrites => exact hown.elim
  | peerEnds => exact hown.elim
  | peerDisconnects => exact hown.elim
  | readCompletes op n hop hopen hpos hn hmax hesc =>
    refine ⟨((b.fill op n).peer p).unread, (b.peer p).log, (b.peer p).connectivity, ?_,
      fun _ => rfl⟩
    change (b.fill op n).peer p = _
    rw [Bridge.State.fill, Bridge.State.updatePeer_peer]
    split <;> rfl
  | readEnds op hop hopen hunread hended hesc => exact ⟨_, _, _, rfl, fun _ => rfl⟩
  | readFails op hop hesc => exact ⟨_, _, _, rfl, fun _ => rfl⟩
  | handle op result ec hready hesc hec =>
    cases result with
    | ok n =>
      have hwrite := (b.dequeue op (.ok n)).write_peer (Bridge.destination op.handler) p
        (Bridge.bufferOf op.handler) n ec
      cases ec with
      | ok =>
        rw [Bridge.State.handle_ok]
        exact ⟨_, _, _, hwrite, fun _ => rfl⟩
      | failed written =>
        rw [Bridge.State.handle_failed]
        obtain ⟨connectivity, hclosed⟩ := hclose _ _ _ hwrite
        exact ⟨_, _, connectivity, hclosed, fun hclean => hclean.elim⟩
    | error e =>
      cases e with
      | eof =>
        rw [Bridge.State.handle_eof]
        obtain ⟨connectivity, hclosed⟩ := hclose (b.dequeue op (.error .eof)) _ _ rfl
        exact ⟨_, _, connectivity, hclosed, fun hclean => hclean.elim⟩
      | error =>
        rw [Bridge.State.handle_error]
        obtain ⟨connectivity, hclosed⟩ := hclose (b.dequeue op (.error .error)) _ _ rfl
        exact ⟨_, _, connectivity, hclosed, fun hclean => hclean.elim⟩

/-- By itself the server reads, writes to logs and closes sockets; it does not close the socket of
`c`, unless something fails or it means to. -/
lemma keeps_of_own {β : Type} (F : Connection → β) {c : ConnId} (h : Move sessionClass s l t)
    (hown : l.IsOwn)
    (hF : ∀ (k : Connection) unread log reads,
      F { k with socket := { k.socket with unread, log }, reads } = F k)
    (hclose : (∀ (k : Connection) connectivity,
      F { k with socket := { k.socket with connectivity } } = F k) ∨
        (l.IsClean ∧ l ≠ .performs (.close c))) : F (t.conn c) = F (s.conn c) := by
  have hasync : ∀ (r : Server) (d : ConnId) (read : PendingRead),
      F ((r.asyncRead d read).conn c) = F (r.conn c) := fun r d read =>
    updateConn_keeps F (hF (r.conn d) (r.conn d).socket.unread (r.conn d).socket.log _) c
  have hcomplete : ∀ (d : ConnId) (read : PendingRead) (n : ℕ),
      F ((s.completeRead d read n).conn c) = F (s.conn c) := fun d read n =>
    updateConn_keeps F (hF (s.conn d) _ (s.conn d).socket.log _) c
  have hmarks : ∀ (r : Server) (marks : List (ConnId × Entry)),
      F ((r.record marks).conn c) = F (r.conn c) := fun r marks =>
    hF (r.conn c) (r.conn c).socket.unread _ (r.conn c).reads
  have hentry : ∀ (d : ConnId) (e : Entry),
      F ((s.updateSocket d (·.record e)).conn c) = F (s.conn c) := fun d e =>
    updateConn_keeps F (hF (s.conn d) (s.conn d).socket.unread _ (s.conn d).reads) c
  cases h with
  | headerAccepted => exact (hasync _ _ _).trans (hcomplete _ _ _)
  | headerRejected => exact (hmarks _ _).trans (hcomplete _ _ _)
  | bodyCompletes =>
    rw [conn_runHandler]
    exact (hmarks _ _).trans (hcomplete _ _ _)
  | readFails => exact hcomplete _ _ _
  | performs a rest hplan hcan =>
    cases a with
    | sendChunk session message => exact hentry session (.frame message)
    | asyncReadMessage session messageHandler maxMessageSize => exact hasync s session _
    | close session =>
      change F ((s.updateSocket session Socket.close).conn c) = _
      rcases hclose with hclose | ⟨-, hne⟩
      · exact updateConn_keeps F (hclose (s.conn session) .closed) c
      · have hc : c ≠ session := fun heq => hne (heq ▸ rfl)
        simp [updateSocket, updateConn, hc]
    | _ => rfl
  | throws a rest what written hplan hcan =>
    have hkeep := hclose.resolve_right fun hclean => hclean.1
    rw [conn_catchException]
    cases a with
    | sendChunk session message => exact hentry session (.torn message written)
    | startBridge sender receiver =>
      change F (((s.updateSocket sender Socket.close).updateSocket receiver Socket.close).conn c) =
        _
      exact (updateConn_keeps F (hkeep _ .closed) c).trans
        (updateConn_keeps F (hkeep (s.conn sender) .closed) c)
    | _ => rfl
  | bridge pre j post l b hidle hj hbridge hb =>
    have hpeer : ∀ p, F { s.conn (j.connOf p) with socket := b.peer p } =
        F (s.conn (j.connOf p)) := by
      intro p
      obtain ⟨unread, log, connectivity, heq, hconn⟩ := bridgeStep_peer_eq hbridge hb p
      rw [bridgeState_peer] at heq hconn
      rw [heq]
      rcases hclose with hclose | ⟨hclean, -⟩
      · exact (hclose { s.conn (j.connOf p) with
          socket := { (s.conn (j.connOf p)).socket with unread, log } } connectivity).trans
            (hF _ unread log (s.conn (j.connOf p)).reads)
      · rw [hconn hclean]
        exact hF (s.conn (j.connOf p)) unread log (s.conn (j.connOf p)).reads
    let r := s.updateSocket j.sender fun _ => b.peer .one
    have hfirst : ∀ d, F (r.conn d) = F (s.conn d) := updateConn_keeps F (hpeer .one)
    have hsecond : F { r.conn j.receiver with socket := b.peer .two } = F (r.conn j.receiver) := by
      have hsame : ({ r.conn j.receiver with socket := b.peer .two } : Connection) =
          { s.conn j.receiver with socket := b.peer .two } :=
        updateConn_keeps (fun k => ({ k with socket := b.peer .two } : Connection)) rfl j.receiver
      rw [hsame, hfirst]
      exact hpeer .two
    exact (updateConn_keeps F (f := fun k => { k with socket := b.peer .two }) hsecond c).trans
      (hfirst c)
  | _ => exact hown.elim

/-- The server's own steps accept no connection and write nothing for a peer. -/
lemma accepted_sent_of_own (h : Move sessionClass s l t) (hown : l.IsOwn) (c : ConnId) :
    (t.conn c).accepted = (s.conn c).accepted ∧
      (t.conn c).socket.sent = (s.conn c).socket.sent :=
  Prod.mk.inj (keeps_of_own (fun k => (k.accepted, k.socket.sent)) h hown (fun _ _ _ _ => rfl)
    (Or.inl fun _ _ => rfl))

omit [SizeLayout] [JsonLibrary] in
/-- A read that has completed with `n` bytes leaves less to take if it was the read of a body, or if
it has taken more bytes than it starts further reads. -/
lemma inbox_completed {c : ConnId} {read : PendingRead} (hread : read ∈ (s.conn c).reads) {n : ℕ}
    (hn : n ≤ (s.conn c).socket.unread.length) (extra : List PendingRead)
    (h : extra.length < n + if read.isBody then 1 else 0) :
    ((s.conn c).socket.unread.drop n).length +
        ((s.conn c).reads.erase read ++ extra).countP PendingRead.isBody <
      (s.view c).inbox := by
  have hextra : extra.countP PendingRead.isBody ≤ extra.length := List.countP_le_length
  have hcount := (List.perm_cons_erase hread).countP_eq PendingRead.isBody
  have hinbox : (s.view c).inbox = (s.conn c).socket.unread.length +
      (s.conn c).reads.countP PendingRead.isBody := rfl
  rw [List.countP_cons] at hcount
  rw [hinbox, List.countP_append, List.length_drop, hcount]
  omega

omit [SizeLayout] [JsonLibrary] in
/-- An operation leaves less to do than the operation itself is worth. -/
lemma reads_perform_le (cs : Finset ConnId) (a : Action) :
    ∑ c ∈ cs, ((s.perform a).view c).reads.length +
        ((s.perform a).bridges.map fun j => j.bridge.work).sum ≤
      ∑ c ∈ cs, (s.view c).reads.length + (s.bridges.map fun j => j.bridge.work).sum + 4 := by
  cases a with
  | sendChunk session message =>
    have hreads : ∀ c, ((s.perform (.sendChunk session message)).view c).reads = (s.view c).reads :=
      reads_updateSocket session (·.record (.frame message))
    simp only [hreads]
    exact Nat.le_add_right _ _
  | asyncReadMessage session messageHandler maxMessageSize =>
    have hreads : ∀ c, ((s.perform (.asyncReadMessage session messageHandler
        maxMessageSize)).view c).reads.length ≤
          (s.view c).reads.length + if c = session then 1 else 0 := by
      intro c
      by_cases hc : c = session
      · subst hc
        simp [perform, view_asyncRead_self]
      · simp [perform, view_asyncRead_of_ne _ hc]
    have hsum := Finset.sum_le_sum fun c (_ : c ∈ cs) => hreads c
    have hone : ∑ c ∈ cs, (if c = session then 1 else 0) ≤ 1 := by
      rw [Finset.sum_ite_eq']
      split <;> simp
    rw [Finset.sum_add_distrib] at hsum
    have hbridges : (s.perform (.asyncReadMessage session messageHandler maxMessageSize)).bridges =
      s.bridges := rfl
    rw [hbridges]
    omega
  | startBridge sender receiver =>
    have hstart : (Bridge.start (s.conn sender).socket (s.conn receiver).socket).work = 4 := rfl
    simp only [perform, List.map_append, List.map_cons, List.map_nil, List.sum_append,
      List.sum_cons, List.sum_nil, hstart]
    exact le_of_eq (by rfl)
  | shutdown session => exact Nat.le_add_right _ _
  | close session =>
    have hreads : ∀ c, ((s.perform (.close session)).view c).reads = (s.view c).reads :=
      reads_updateSocket session Socket.close
    simp only [hreads]
    exact Nat.le_add_right _ _

omit [SizeLayout] [JsonLibrary] in
/-- An operation that throws starts no read. -/
lemma reads_performPartly (a : Action) (written : ℕ) (c : ConnId) :
    ((s.performPartly a written).conn c).reads = (s.conn c).reads := by
  cases a with
  | sendChunk session message =>
    exact reads_updateSocket session (·.record (.torn message written)) c
  | startBridge sender receiver =>
    exact (reads_updateSocket receiver _ c).trans (reads_updateSocket sender _ c)
  | _ => rfl

/-- Every step that the server makes by itself leaves it less to do. -/
theorem work_lt (hi : Inv sessionClass s) (hcs : ∀ c, (s.conn c).accepted = true → c ∈ cs)
    (h : Move sessionClass s l t) (hown : l.IsOwn) : work cs t < work cs s := by
  have hinbox : ∀ c, (t.view c).inbox ≤ (s.view c).inbox :=
    fun c => inbox_le (view_move hi.tidy h c) (accepted_sent_of_own h hown c).2
  have hmem : ∀ {c read}, read ∈ (s.conn c).reads → c ∈ cs :=
    fun hread => hcs _ ((hi.session _).accepted_of_owners (SessionInv.owners_of_mem_reads hread))
  have hsize : MessageHeader.size = 9 := rfl
  cases h with
  | headerAccepted c messageHandler maxMessageSize header hidle hread hlen hheader =>
    refine work_lt_of_mem (hmem hread) (fun d _ => hinbox d) ?_
    have hlt := inbox_completed hread hlen [.body messageHandler header]
      (by simp [hsize, PendingRead.isBody])
    rw [view_asyncRead_self, view_completeRead_self]
    exact hlt
  | headerRejected c messageHandler maxMessageSize what hidle hread hlen hheader =>
    refine work_lt_of_mem (hmem hread) (fun d _ => hinbox d) ?_
    have hlt := inbox_completed hread hlen [] (by simp [hsize, PendingRead.isBody])
    rw [List.append_nil] at hlt
    rw [view_safeDisconnect, view_record, view_completeRead_self]
    exact hlt
  | bodyCompletes c messageHandler header usersManager now hidle hread hlen =>
    refine work_lt_of_mem (hmem hread) (fun d _ => hinbox d) ?_
    have hlt := inbox_completed hread hlen [] (by simp [PendingRead.isBody])
    rw [List.append_nil] at hlt
    rw [view_runHandler, view_completeRead_self]
    exact hlt
  | readFails c read hidle hread =>
    have hreads : ∀ d, ((s.completeRead c read 0).view d).reads.length ≤
        (s.view d).reads.length := by
      intro d
      by_cases hd : d = c
      · subst hd
        rw [view_completeRead_self]
        exact List.erase_sublist.length_le
      · rw [view_completeRead_of_ne _ hd]
    have hlt : ((s.completeRead c read 0).view c).reads.length < (s.view c).reads.length := by
      rw [view_completeRead_self]
      have hpos := List.length_pos_of_mem hread
      have hlen := List.length_erase_of_mem hread
      change ((s.conn c).reads.erase read).length < (s.conn c).reads.length
      omega
    have hsum := Finset.sum_lt_sum (fun d (_ : d ∈ cs) => hreads d) ⟨c, hmem hread, hlt⟩
    refine work_lt_of_rest hinbox (Or.inr ⟨rfl, ?_⟩)
    exact Nat.add_lt_add_right (Nat.add_lt_add_right hsum _) _
  | performs a rest hplan hcan =>
    have hle := reads_perform_le cs (s := s) a
    refine work_lt_of_rest hinbox (Or.inr ⟨by cases a <;> rfl, ?_⟩)
    rw [hplan, List.length_cons]
    change ∑ c ∈ cs, ((s.perform a).view c).reads.length + 5 * rest.length +
      ((s.perform a).bridges.map fun j => j.bridge.work).sum < _
    omega
  | throws a rest what written hplan hcan =>
    cases hguarded : s.guarded with
    | false =>
      refine work_lt_of_rest hinbox (Or.inl ⟨hguarded, ?_⟩)
      exact guarded_catchException ..
    | true =>
      have hcatch : (s.performPartly a written).catchException what =
          { s.performPartly a written with plan := [] } := by
        have hpartly : (s.performPartly a written).guarded = true := by
          cases a <;> exact hguarded
        rw [catchException, if_pos hpartly]
      have hreads : ∀ c, ((s.performPartly a written).view c).reads.length =
          (s.view c).reads.length := fun c => congrArg List.length (reads_performPartly a written c)
      have hbridges : (s.performPartly a written).bridges = s.bridges := by cases a <;> rfl
      refine work_lt_of_rest hinbox (Or.inr ?_)
      rw [hcatch, hplan]
      refine ⟨by cases a <;> rfl, ?_⟩
      change ∑ c ∈ cs, ((s.performPartly a written).view c).reads.length + 5 * 0 +
        ((s.performPartly a written).bridges.map fun j => j.bridge.work).sum < _
      rw [hbridges, List.length_cons]
      simp only [hreads]
      omega
  | bridge pre j post l b hidle hj hbridge hb =>
    have hmem : j ∈ s.bridges := by simp [hj]
    have hjoins := fun p => mem_joins hmem p
    obtain ⟨stage, -, hin⟩ := (hi.session (j.connOf .one)).inStage
    have hapart : j.sender ≠ j.receiver := (hin.joins _ (hjoins .one)).1
    have hreads : ∀ d, ((s.putBack pre j post b).view d).reads = (s.view d).reads :=
      fun d => (reads_updateSocket j.receiver (fun _ => b.peer .two) d).trans
        (reads_updateSocket j.sender (fun _ => b.peer .one) d)
    rcases bridgeStep_work hbridge hb with ⟨p, hlt⟩ | hlt
    · have haccepted : (s.conn (j.connOf p)).accepted = true :=
        ((hi.session (j.connOf p)).of_joins (List.ne_nil_of_mem (hjoins p))).1
      refine work_lt_of_mem (hcs _ haccepted) (fun d _ => hinbox d) ?_
      have hnow := bridgeState_peer (s := s.putBack pre j post b)
        (j := { j with bridge := b.toBridge }) p
      rw [bridgeState_putBack pre post b hapart] at hnow
      rw [bridgeState_peer] at hlt
      have hunread : ((s.putBack pre j post b).view (j.connOf p)).unread = (b.peer p).unread :=
        congrArg Socket.unread hnow.symm
      rw [View.inbox, View.inbox, hreads, hunread]
      exact Nat.add_lt_add_right hlt _
    · refine work_lt_of_rest hinbox (Or.inr ⟨rfl, ?_⟩)
      have hbridges : (s.putBack pre j post b).bridges =
          pre ++ { j with bridge := b.toBridge } :: post := rfl
      simp only [hreads, hbridges, hj, List.map_append, List.map_cons, List.sum_append,
        List.sum_cons]
      have hplan : (s.putBack pre j post b).plan = s.plan := rfl
      have hwork : (s.bridgeState j).work = j.bridge.work := rfl
      rw [hplan]
      omega
  | accept => exact hown.elim
  | acceptFails => exact hown.elim
  | peerWrites => exact hown.elim
  | peerEnds => exact hown.elim
  | peerDisconnects => exact hown.elim
  | terminateTimeoutClients => exact hown.elim
  | reset => exact hown.elim
  | destroys => exact hown.elim

/-! ## While there is something left to do, the server goes on -/

omit [JsonLibrary] in
/-- An operation that cannot be performed throws. -/
lemma exists_canThrow {a : Action} (h : ¬ s.CanPerform a) :
    ∃ what written, CanThrow s a what written := by
  cases a with
  | sendChunk session message =>
    refine ⟨[], 0, ?_⟩
    change 0 < (sendChunk message).length
    simp [sendChunk, MessageHeader.size]
  | asyncReadMessage session messageHandler maxMessageSize =>
    exact ⟨_, 0, not_le.mp h, rfl⟩
  | startBridge sender receiver => exact ⟨[], 0, h⟩
  | shutdown session => exact ⟨[], 0, h⟩
  | close session => exact absurd trivial h

/-- A server that is not at rest goes on, and no network operation fails that need not. -/
theorem exists_own (hescaped : s.escaped = none) :
    s.Resting ∨ ∃ l t, l.IsOwn ∧ Step sessionClass s l t ∧ (s.Sound → l.IsClean) := by
  by_contra hno
  rw [not_or] at hno
  obtain ⟨hrest, hstuck⟩ := hno
  have hgo : ∀ {l t}, l.IsOwn → Move sessionClass s l t → ¬ (s.Sound → l.IsClean) :=
    fun hown hmove hclean => hstuck ⟨_, _, hown, ⟨hescaped, hmove⟩, hclean⟩
  have hplan : s.plan = [] := by
    cases hplan : s.plan with
    | nil => rfl
    | cons a rest =>
      by_cases hcan : s.CanPerform a
      · exact absurd (fun _ => trivial)
          (hgo (l := .performs a) trivial (.performs s a rest hplan hcan))
      · obtain ⟨what, written, hthrow⟩ := exists_canThrow hcan
        exact absurd (fun hs => hcan (hs.plan a rest hplan))
          (hgo (l := .throws a) trivial (.throws s a rest what written hplan hthrow))
  have hlive : ∀ c read, read ∈ (s.conn c).reads → (s.conn c).socket.Live := by
    intro c read hread
    by_contra hlive
    exact hgo (l := .readFails c) trivial (.readFails s c read hplan hread)
      fun hs => hlive (hs.reads c (List.ne_nil_of_mem hread))
  have hbridge : ∀ {j l b}, j ∈ s.bridges → OwnLabel l → Bridge.Step (s.bridgeState j) l b →
      ¬ (s.Sound → Label.IsClean (.bridge j.sender j.receiver l)) := by
    intro j l b hj hown hb
    obtain ⟨pre, post, hbridges⟩ := List.append_of_mem hj
    exact hgo (l := .bridge j.sender j.receiver l) trivial
      (.bridge s pre j post l b hplan hbridges hown hb)
  refine hrest ⟨hplan, fun c messageHandler maxMessageSize hread => ⟨hlive c _ hread, ?_⟩,
    fun c messageHandler header hread => ⟨hlive c _ hread, ?_⟩, fun j hj => ?_,
    fun j hj op hop => ?_⟩
  · by_contra hlen
    rw [not_lt] at hlen
    cases hheader : MessageHeader.deserialize
        ((s.conn c).socket.unread.take MessageHeader.size) MessageHeader.size maxMessageSize with
    | ok header =>
      exact hgo (l := .headerCompletes c) trivial (.headerAccepted s c messageHandler
        maxMessageSize header hplan hread hlen hheader) fun _ => trivial
    | error what =>
      exact hgo (l := .headerCompletes c) trivial (.headerRejected s c messageHandler
        maxMessageSize what hplan hread hlen hheader) fun _ => trivial
  · by_contra hlen
    exact hgo (l := .bodyCompletes c) trivial (.bodyCompletes s c messageHandler header none 0
      hplan hread (not_lt.mp hlen)) fun _ => trivial
  · refine List.eq_nil_iff_forall_not_mem.mpr fun ⟨op, result⟩ hready => ?_
    -- A write to a peer that is connected succeeds.
    by_cases hconnected : ((s.bridgeState j).peer (Bridge.destination op.handler)).connectivity =
        .connected
    · refine hbridge (l := .handle op result .ok) hj trivial
        (.handle _ op result .ok hready hescaped fun h => absurd hconnected h) fun hs => ?_
      obtain ⟨n, rfl⟩ : ∃ n, result = .ok n := hs.ready j hj _ hready
      exact trivial
    · exact hbridge (l := .handle op result (.failed 0)) hj trivial
        (.handle _ op result (.failed 0) hready hescaped fun _ => rfl)
        fun hs => absurd (hs.bridges j hj _).1 hconnected
  · have hpeer : ((s.bridgeState j).peer op.peer).Live := by
      by_contra hpeer
      exact hbridge (l := .readFails op) hj trivial (.readFails _ op hop hescaped)
        fun hs => hpeer (hs.bridges j hj op.peer)
    refine ⟨hpeer, ?_⟩
    by_contra hunread
    have hlen : 0 < ((s.bridgeState j).peer op.peer).unread.length :=
      List.length_pos_iff.mpr hunread
    have hmax : 0 < Bridge.maxDataLength := by decide
    have hopen : ((s.bridgeState j).peer op.peer).isOpen = true := by
      simp [Socket.isOpen, hpeer.1]
    exact hbridge (l := .readCompletes op _) hj trivial (.readCompletes _ op
      (min ((s.bridgeState j).peer op.peer).unread.length Bridge.maxDataLength) hop hopen
      (lt_min hlen hmax) (min_le_left _ _) (min_le_right _ _) hescaped) fun _ => trivial

/-! ## The server comes to rest -/

/-- A connection is accepted in a step that says so. -/
lemma accepted_of_move (h : Move sessionClass s l t) {c : ConnId}
    (hc : (t.conn c).accepted = true) : (s.conn c).accepted = true ∨ l.accepts = some c := by
  have hupdate : ∀ (d : ConnId) (f : Connection → Connection),
      ((s.updateConn d f).conn c).accepted = true → (s.conn c).accepted = true ∨ d = c := by
    intro d f hc
    by_cases hcd : c = d
    · exact Or.inr hcd.symm
    · exact Or.inl (by simpa [updateConn, hcd] using hc)
  have hkeep : ∀ (d : ConnId) (f : Connection → Connection),
      (f (s.conn d)).accepted = (s.conn d).accepted →
      ((s.updateConn d f).conn c).accepted = true → (s.conn c).accepted = true := by
    intro d f hf hc
    exact (updateConn_keeps Connection.accepted hf c) ▸ hc
  by_cases hown : l.IsOwn
  · exact Or.inl ((accepted_sent_of_own h hown c).1 ▸ hc)
  · cases h with
    | accept d =>
      exact (hupdate d (fun k => { k with accepted := true }) hc).imp id (congrArg some)
    | acceptFails d => exact (hupdate d _ hc).imp id (congrArg some)
    | peerWrites d => exact Or.inl (hkeep d _ rfl hc)
    | peerEnds d => exact Or.inl (hkeep d _ rfl hc)
    | peerDisconnects d => exact Or.inl (hkeep d _ rfl hc)
    | destroys d => exact Or.inl (hkeep d _ rfl hc)
    | terminateTimeoutClients => exact Or.inl hc
    | reset => exact Or.inl hc
    | _ => exact absurd trivial hown

/-- The connections of a server are those that it has accepted. -/
lemma accepted_of_run {ls : List Label} (hrun : Transition.Run (Step sessionClass) init ls s)
    {c : ConnId} (hc : (s.conn c).accepted = true) : c ∈ ls.filterMap Label.accepts := by
  refine hrun.invariant_with_history
    (I := fun ls s => ∀ c, (s.conn c).accepted = true → c ∈ ls.filterMap Label.accepts)
    (fun c hc => by cases hc) ?_ c hc
  intro ls t l r _ hacc hs c hc
  rw [List.filterMap_append, List.mem_append]
  refine (accepted_of_move hs.2 hc).imp (hacc c) fun hl => ?_
  simp [hl]

/-- While the connections `cs` are all there are, the steps that the server makes by itself use up
what is left to do. -/
lemma settles (cs : Finset ConnId) : Transition.Settles (Step sessionClass)
    (fun s => Inv sessionClass s ∧ ∀ c, (s.conn c).accepted = true → c ∈ cs) Label.IsOwn
    (work cs) where
  keeps := by
    rintro s l t ⟨hi, hcs⟩ hown hs
    refine ⟨hi.step hs, fun c hc => hcs c ?_⟩
    rwa [(accepted_sent_of_own hs.2 hown c).1] at hc
  decreases := by
    rintro s l t ⟨hi, hcs⟩ hown hs
    exact work_lt hi hcs hs.2 hown

/-- Whatever has happened, the server does not go on forever by itself, and it comes to rest by
itself, unless an exception ends it. -/
theorem comes_to_rest {ls : List Label} (hrun : Transition.Run (Step sessionClass) init ls s) :
    (¬ ∃ (f : ℕ → Server) (l : ℕ → Label), f 0 = s ∧
      ∀ n, (l n).IsOwn ∧ Step sessionClass (f n) (l n) (f (n + 1))) ∧
    ∃ ms t, Transition.Run (Step sessionClass) s ms t ∧ (∀ l ∈ ms, l.IsOwn) ∧
      (t.Resting ∨ t.escaped ≠ none) := by
  obtain ⟨cs, hcs⟩ : ∃ cs : Finset ConnId, ∀ c, (s.conn c).accepted = true → c ∈ cs :=
    ⟨_, fun _ hc => List.mem_toFinset.mpr (accepted_of_run hrun hc)⟩
  have hI := And.intro (inv_of_run hrun) hcs
  refine ⟨(settles cs).not_infinite hI, ?_⟩
  have hprogress : ∀ r : Server, Inv sessionClass r ∧ (∀ c, (r.conn c).accepted = true → c ∈ cs) →
      (r.Resting ∨ r.escaped ≠ none) ∨ ∃ l t, l.IsOwn ∧ Step sessionClass r l t := by
    intro r _
    by_cases hescaped : r.escaped = none
    · rcases exists_own hescaped with hrest | ⟨l, t, hown, hs, -⟩
      · exact Or.inl (Or.inl hrest)
      · exact Or.inr ⟨l, t, hown, hs⟩
    · exact Or.inl (Or.inr hescaped)
  obtain ⟨ms, t, hrun', hown, -, hrest⟩ := (settles cs).exists_run_to_rest hprogress hI
  exact ⟨ms, t, hrun', hown, hrest⟩

end Progress

/-- A server comes to rest that has still to acknowledge a request. -/
theorem comes_to_rest_acknowledging :
    letI := littleEndian
    letI := Json.stringObjects
    ∃ s : Server, s.plan ≠ [] ∧ (¬ ∃ (f : ℕ → Server) (l : ℕ → Label), f 0 = s ∧
      ∀ n, (l n).IsOwn ∧ Step .proxySession (f n) (l n) (f (n + 1))) ∧
      ∃ ms t, Transition.Run (Step .proxySession) s ms t ∧ (∀ l ∈ ms, l.IsOwn) ∧
        (t.Resting ∨ t.escaped ≠ none) := by
  let := littleEndian
  let := Json.stringObjects
  obtain ⟨ls, s, hrun, hs⟩ := exists_run_of_replay .proxySession (s := init) acknowledges
    (fun _ s => s.plan ≠ []) (by decide +kernel)
  exact ⟨s, of_decide_eq_true hs, comes_to_rest hrun⟩

end Server

end ScreenViewer
