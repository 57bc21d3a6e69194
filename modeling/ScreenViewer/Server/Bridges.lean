import Mathlib
import ScreenViewer.Server.Invariant
import ScreenViewer.Server.Sockets

/-!
# The bridges of a server

A bridge was studied alone, with two peers that do nothing but write, end their streams and get
lost.  In a server this is what happens to the two sockets between the steps of their bridge: nobody
else reads from them or relays to them.  So the invariant of a bridge holds of every bridge of a
server (`bridgeInv_of_run`), together with what the sockets were like when they were handed over:
all that had been read from them were the frames of the conversation.
-/

namespace ScreenViewer

open SocketBase AuthenticatedSession ServerSessionsManager

/-- The connection at an end of a bridge. -/
def Joined.connOf (j : Joined) : Peer → ConnId
  | .one => j.sender
  | .two => j.receiver

/-- The bridge takes its own steps only: the start of a bridge is remembered for ever. -/
lemma Bridge.handover_of_step {b b' : Bridge.State} {l : Bridge.Label} (h : Bridge.Step b l b') :
    b'.handover = b.handover := by
  cases h with
  | handle op result ec hready hesc hec =>
    match result, ec with
    | .ok n, .ok => rw [Bridge.State.handle_ok]; rfl
    | .ok n, .failed k => rw [Bridge.State.handle_failed]; rfl
    | .error .eof, _ => rw [Bridge.State.handle_eof]; rfl
    | .error .error, _ => rw [Bridge.State.handle_error]; rfl
  | _ => rfl

section Views

variable [SizeLayout] [JsonLibrary] {sessionClass : SessionClass} {c : ConnId} {v : View}

/-- A bridge is the only owner of its sockets. -/
lemma SessionInv.of_joins (hi : SessionInv sessionClass c v) (h : v.joins ≠ []) :
    v.accepted = true ∧ v.reads = [] ∧ v.waiting = 0 ∧ claims v.todo = 0 ∧ v.joins.length = 1 := by
  have howners := hi.owners_le
  have hpos := List.length_pos_iff.mpr h
  rw [View.owners] at howners
  refine ⟨hi.accepted_of_owners ?_, List.length_eq_zero_iff.mp (by omega), by omega, by omega,
    by omega⟩
  rw [View.owners]
  omega

end Views

namespace Server

/-- How a socket was when a bridge took it over, given how it is now: only the frames of the
conversation had been read from it, and nothing had been relayed to it. -/
structure Handed [SizeLayout] (before now : Socket) : Prop where
  sent : before.sent = consumed now.log ++ before.unread
  sent_le : before.sent <+: now.sent
  relayed : relayedBytes before.log = []

/-- What holds of every bridge of a server. -/
structure BridgeInv [SizeLayout] (s : Server) (j : Joined) : Prop where
  bridge : Bridge.Inv (s.bridgeState j)
  handed : ∀ p, Handed (j.bridge.handover p) ((s.bridgeState j).peer p)

section Bridges

variable [SizeLayout] [JsonLibrary] {sessionClass : SessionClass} {s t : Server} {j : Joined}

omit [SizeLayout] [JsonLibrary] in
/-- The sockets of a bridge are those of its connections. -/
lemma bridgeState_peer (p : Peer) : (s.bridgeState j).peer p = (s.conn (j.connOf p)).socket := by
  cases p <;> rfl

omit [SizeLayout] [JsonLibrary] in
/-- A bridge is seen from its ends. -/
lemma mem_joins (hj : j ∈ s.bridges) (p : Peer) :
    (j.sender, j.receiver) ∈ (s.view (j.connOf p)).joins := by
  simp only [view, List.mem_filter, List.mem_map]
  refine ⟨⟨j, hj, rfl⟩, ?_⟩
  cases p <;> simp [Joined.connOf]

/-- What a move leaves as it was of the conversation on a connection that a bridge has taken
over. -/
lemma consumed_of_joined (hs : Inv sessionClass s) {l : Label} (h : Move sessionClass s l t)
    {c : ConnId} (hc : (s.view c).joins ≠ []) :
    consumed (t.conn c).socket.log = consumed (s.conn c).socket.log := by
  obtain ⟨haccepted, hreads, hwaiting, -⟩ := (hs.session c).of_joins hc
  have htalk := ((view_move hs.tidy h c).operation haccepted hreads hwaiting).talk_eq
  have hconsumed := congrArg consumed htalk
  rwa [consumed_talk, consumed_talk] at hconsumed

/-- A bridge keeps its invariant while others move. -/
lemma BridgeInv.keep (hi : BridgeInv s j) (hs : Inv sessionClass s) (hj : j ∈ s.bridges) {l : Label}
    (h : Move sessionClass s l t) (hl : ∀ p, ¬ IsRelaying (j.connOf p) l) : BridgeInv t j := by
  have hjoins : ∀ p, (s.view (j.connOf p)).joins ≠ [] :=
    fun p => List.ne_nil_of_mem (mem_joins hj p)
  choose bytes n extra hmoved using fun p => moved_of_move h (hl p)
  have hn : ∀ p, n p = 0 := fun p => (hmoved p).reads ((hs.session _).of_joins (hjoins p)).2.1
  have hrelayed : ∀ p, relayedBytes (extra p) = [] := by
    intro p
    refine List.flatMap_eq_nil_iff.mpr fun e he => ?_
    cases e with
    | relayed block => exact absurd he ((hmoved p).relayed block)
    | _ => rfl
  refine ⟨⟨hi.bridge.reads, hi.bridge.ready, fun g => ?_⟩, fun p => ?_⟩
  · have hgrows : Bridge.Grows g (bytes (Bridge.source g)) (s.bridgeState j) (t.bridgeState j) := by
      refine ⟨rfl, rfl, rfl, fun _ => id, rfl, rfl, id, ?_, ?_, ?_, ?_⟩
      · rw [bridgeState_peer, bridgeState_peer]
        exact (hmoved _).sent
      · have hunread := (hmoved (Bridge.source g)).unread
        rw [hn, List.drop_zero] at hunread
        rw [bridgeState_peer, bridgeState_peer]
        exact hunread
      · rw [bridgeState_peer, bridgeState_peer]
        exact (hmoved _).ended
      · rw [bridgeState_peer, bridgeState_peer, (hmoved _).log, relayedBytes_append, hrelayed,
          List.append_nil]
    exact (hi.bridge.direction g).grows hgrows
  · have hold := hi.handed p
    rw [bridgeState_peer] at hold ⊢
    refine ⟨?_, ?_, hold.relayed⟩
    · rw [consumed_of_joined hs h (hjoins p)]
      exact hold.sent
    · rw [(hmoved p).sent]
      exact hold.sent_le.trans (List.prefix_append _ _)

omit [SizeLayout] [JsonLibrary] in
/-- After a step of a bridge, its state is what the step has made of it. -/
lemma bridgeState_putBack (pre post : List Joined) (b : Bridge.State)
    (hapart : j.sender ≠ j.receiver) :
    (s.putBack pre j post b).bridgeState { j with bridge := b.toBridge } = b := by
  have hpeer : ∀ p, ((s.putBack pre j post b).bridgeState { j with bridge := b.toBridge }).peer p =
      b.peer p := by
    intro p
    cases p with
    | one => simp [bridgeState, putBack, updateSocket, updateConn, hapart]
    | two => simp [bridgeState, putBack, updateSocket, updateConn]
  obtain ⟨bridge, peer, escaped⟩ := b
  simp only [bridgeState, putBack] at hpeer ⊢
  congr
  funext p
  exact hpeer p

/-- A bridge keeps its invariant when it makes a step. -/
lemma BridgeInv.own (hi : BridgeInv s j) (hs : Inv sessionClass s) {pre post : List Joined}
    {l : Bridge.Label} {b : Bridge.State} (hidle : s.plan = []) (hj : s.bridges = pre ++ j :: post)
    (hown : OwnLabel l) (hb : Bridge.Step (s.bridgeState j) l b) (hapart : j.sender ≠ j.receiver) :
    BridgeInv (s.putBack pre j post b) { j with bridge := b.toBridge } := by
  have hmem : j ∈ s.bridges := by simp [hj]
  have hstate := bridgeState_putBack (s := s) pre post b hapart
  have hmove : Move sessionClass s (.bridge j.sender j.receiver l) (s.putBack pre j post b) :=
    Move.bridge s pre j post l b hidle hj hown hb
  refine ⟨hstate.symm ▸ hi.bridge.step hb, fun p => ?_⟩
  have hold := hi.handed p
  have hsent : (b.peer p).sent = ((s.bridgeState j).peer p).sent := (bridgeStep_peer hown hb p).1
  have hconsumed := consumed_of_joined hs hmove (List.ne_nil_of_mem (mem_joins hmem p))
  have hnow : ((s.putBack pre j post b).conn (j.connOf p)).socket = b.peer p := by
    have := bridgeState_peer (s := s.putBack pre j post b) (j := { j with bridge := b.toBridge }) p
    rw [hstate] at this
    exact this.symm
  have hhandover : b.handover = j.bridge.handover := Bridge.handover_of_step hb
  rw [hstate]
  change Handed (b.handover p) (b.peer p)
  rw [hnow, ← bridgeState_peer] at hconsumed
  rw [hhandover]
  exact ⟨hconsumed ▸ hold.sent, hsent ▸ hold.sent_le, hold.relayed⟩

/-- A bridge that is started has its invariant. -/
lemma bridgeInv_start (hs : Inv sessionClass s) (hescaped : s.escaped = none)
    {streamer receiver : ConnId}
    {rest : Plan} (hplan : s.plan = .startBridge streamer receiver :: rest) :
    BridgeInv ({ s.perform (.startBridge streamer receiver) with plan := rest } : Server)
      { sender := streamer, receiver
        bridge := Bridge.start (s.conn streamer).socket (s.conn receiver).socket } := by
  have hstate :
      ({ s.perform (.startBridge streamer receiver) with plan := rest } : Server).bridgeState
      { sender := streamer, receiver
        bridge := Bridge.start (s.conn streamer).socket (s.conn receiver).socket } =
      Bridge.State.started (s.conn streamer).socket (s.conn receiver).socket := by
    unfold bridgeState Bridge.State.started
    rw [Bridge.State.mk.injEq]
    exact ⟨rfl, rfl, hescaped⟩
  refine ⟨hstate.symm ▸ Bridge.inv_started _ _, fun p => ?_⟩
  have hhanded : ∀ c, c = streamer ∨ c = receiver →
      Handed (s.conn c).socket (s.conn c).socket := by
    intro c hc
    have hi := hs.session c
    have hclaims : claims (s.view c).todo ≠ 0 := by
      have hmem : .startBridge streamer receiver ∈ (s.view c).todo := by
        simp only [view, about, hplan, List.mem_filter]
        exact ⟨List.mem_cons_self, by simpa [Action.sessions] using hc⟩
      rw [claims, ← Nat.pos_iff_ne_zero, List.countP_pos_iff]
      exact ⟨_, hmem, rfl⟩
    have howners := hi.owners_le
    rw [View.owners] at howners
    have hjoins : (s.view c).joins = [] := List.length_eq_zero_iff.mp (by omega)
    have hreads : (s.view c).reads = [] := List.length_eq_zero_iff.mp (by omega)
    have hsent := hi.sent_eq (by rw [View.owners]; omega) hjoins
    rw [hreads] at hsent
    refine ⟨hsent, List.prefix_refl _, List.flatMap_eq_nil_iff.mpr fun e he => ?_⟩
    cases e with
    | relayed bytes => exact absurd he (hi.relayed hjoins bytes)
    | _ => rfl
  cases p with
  | one => exact hhanded streamer (Or.inl rfl)
  | two => exact hhanded receiver (Or.inr rfl)

/-- An exception escapes only from a bridge. -/
lemma escaped_of_move {l : Label} (h : Move sessionClass s l t)
    (hl : ∀ sender receiver bl, l ≠ .bridge sender receiver bl) : t.escaped = s.escaped := by
  cases h with
  | bodyCompletes => exact escaped_runHandler ..
  | performs a rest hplan hcan => cases a <;> rfl
  | throws a rest what written hplan hcan =>
    rw [escaped_catchException]
    cases a <;> rfl
  | bridge pre j post l b hidle hj hown hb => exact absurd rfl (hl j.sender j.receiver l)
  | _ => rfl

/-- What a move does to the bridges: nothing, or one is started, or one makes a step. -/
lemma bridges_of_move {l : Label} (h : Move sessionClass s l t) :
    ((∀ c, ¬ IsRelaying c l) ∧ t.bridges = s.bridges) ∨
      ((∀ c, ¬ IsRelaying c l) ∧ ∃ streamer receiver rest,
        s.plan = .startBridge streamer receiver :: rest ∧
          t = { s.perform (.startBridge streamer receiver) with plan := rest }) ∨
      ∃ pre j post bl b, s.plan = [] ∧ s.bridges = pre ++ j :: post ∧ OwnLabel bl ∧
        Bridge.Step (s.bridgeState j) bl b ∧ l = .bridge j.sender j.receiver bl ∧
        t = s.putBack pre j post b := by
  cases h with
  | bodyCompletes c messageHandler header usersManager now hidle hread hlen =>
    exact Or.inl ⟨fun _ => id, bridges_runHandler _ _ _⟩
  | performs a rest hplan hcan =>
    cases a with
    | startBridge streamer receiver =>
      exact Or.inr (Or.inl ⟨fun _ => id, streamer, receiver, rest, hplan, rfl⟩)
    | _ => exact Or.inl ⟨fun _ => id, rfl⟩
  | throws a rest what written hplan hcan =>
    refine Or.inl ⟨fun _ => id, (bridges_catchException _ _).trans ?_⟩
    cases a <;> rfl
  | bridge pre j post bl b hidle hj hown hb =>
    exact Or.inr (Or.inr ⟨pre, j, post, bl, b, hidle, hj, hown, hb, rfl, rfl⟩)
  | _ => exact Or.inl ⟨fun _ => id, rfl⟩

/-- No two bridges share a connection. -/
lemma connOf_ne (hs : Inv sessionClass s) {pre post : List Joined} {i : Joined}
    (hj : s.bridges = pre ++ j :: post) (hi : i ∈ pre ∨ i ∈ post) (p : Peer) :
    i.connOf p ≠ j.sender ∧ i.connOf p ≠ j.receiver := by
  rw [← not_or]
  intro hshared
  have hmem : i ∈ s.bridges := by
    rw [hj]
    rcases hi with hi | hi <;> simp [hi]
  have hlen := ((hs.session (i.connOf p)).of_joins (List.ne_nil_of_mem (mem_joins hmem p))).2.2.2.2
  obtain ⟨sees, hsees⟩ : ∃ sees : Joined → Bool, sees = fun k =>
      decide (k.sender = i.connOf p ∨ k.receiver = i.connOf p) := ⟨_, rfl⟩
  have hcount : (s.view (i.connOf p)).joins.length = s.bridges.countP sees := by
    simp only [view, List.filter_map, List.length_map, List.countP_eq_length_filter, hsees]
    rfl
  have hother : (j :: post).countP sees = post.countP sees + 1 :=
    List.countP_cons_of_pos (by simpa [hsees] using hshared.imp Eq.symm Eq.symm)
  have hself : sees i = true := by
    cases p <;> simp [hsees, Joined.connOf]
  rw [hcount, hj, List.countP_append, hother] at hlen
  rcases hi with hi | hi
  · have hpos : 0 < pre.countP sees := List.countP_pos_iff.mpr ⟨i, hi, hself⟩
    omega
  · have hpos : 0 < post.countP sees := List.countP_pos_iff.mpr ⟨i, hi, hself⟩
    omega

/-- Every step keeps the invariants of all bridges. -/
lemma bridgeInv_step (hi : ∀ j ∈ s.bridges, BridgeInv s j) (hs : Inv sessionClass s) {l : Label}
    (h : Step sessionClass s l t) : ∀ j ∈ t.bridges, BridgeInv t j := by
  rcases bridges_of_move h.2 with ⟨hl, hbridges⟩ | ⟨hl, streamer, receiver, rest, hplan, rfl⟩ |
    ⟨pre, j, post, bl, b, hidle, hj, hown, hb, rfl, rfl⟩
  · intro j hmem
    rw [hbridges] at hmem
    exact (hi j hmem).keep hs hmem h.2 fun _ => hl _
  · intro j hmem
    rcases List.mem_append.mp hmem with hmem | hmem
    · exact (hi j hmem).keep hs hmem h.2 fun _ => hl _
    · rw [List.mem_singleton.mp hmem]
      exact bridgeInv_start hs h.1 hplan
  · have hkeep : ∀ i, i ∈ pre ∨ i ∈ post → BridgeInv (s.putBack pre j post b) i := by
      intro i hmem
      have hmem' : i ∈ s.bridges := by
        rw [hj]
        rcases hmem with hmem | hmem <;> simp [hmem]
      exact (hi i hmem').keep hs hmem' h.2 fun p => not_or.mpr (connOf_ne hs hj hmem p)
    intro i hmem
    rcases List.mem_append.mp hmem with hmem | hmem
    · exact hkeep i (Or.inl hmem)
    · rcases List.mem_cons.mp hmem with rfl | hmem
      · have hmem' : j ∈ s.bridges := by simp [hj]
        obtain ⟨stage, -, hin⟩ := (hs.session j.sender).inStage
        have hapart := (hin.joins _ (mem_joins hmem' .one)).1
        exact (hi j hmem').own hs hidle hj hown hb hapart
      · exact hkeep i (Or.inr hmem)

/-- Every bridge of a reachable server has its invariant. -/
theorem bridgeInv_of_run {ls : List Label} (h : Transition.Run (Step sessionClass) init ls s) :
    ∀ j ∈ s.bridges, BridgeInv s j := by
  have hboth : Inv sessionClass s ∧ ∀ j ∈ s.bridges, BridgeInv s j := by
    refine h.invariant (I := fun s => Inv sessionClass s ∧ ∀ j ∈ s.bridges, BridgeInv s j)
      ⟨inv_init, by simp [init]⟩ ?_
    rintro r l r' ⟨hr, hi⟩ hs
    exact ⟨hr.step hs, bridgeInv_step hi hr hs⟩
  exact hboth.2

end Bridges

end Server

end ScreenViewer
