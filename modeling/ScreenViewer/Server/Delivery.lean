import Mathlib
import ScreenViewer.Server.Outbound
import ScreenViewer.Server.Progress

/-!
# At rest nothing is owed

What a proxy has done when it has come to rest, and no network operation has failed.  Every session
that has logged in still has an owner (`View.Kept`), and every bridge has one read in flight in each
direction (`Bridge.Armed`); at rest these reads are outstanding, and what they have not read is no
whole message.  So every endpoint has been sent all that its conversation calls for, and between
partners everything has been relayed (`settled_of_rest`).
-/

namespace ScreenViewer

open SocketBase AuthenticatedSession ServerSessionsManager

/-! ## Sessions have an owner -/

section Kept

variable [SizeLayout] [JsonLibrary] {sessionClass : SessionClass} {c : ConnId} {v v' : View}

/-- Nobody has lost a session that has logged in: somebody owns its socket, unless a header was
rejected or the registry has let go of it. -/
def View.Kept (v : View) : Prop :=
  LoggedIn v.log → (∀ header, .rejectedHeader header ∉ v.log) → .dropped ∉ v.log → v.owners = 1

omit [SizeLayout] [JsonLibrary] in
/-- Entries are added to the log, and the owner passes the socket on. -/
lemma View.Kept.append (h : v.Kept) {extra : List Entry} (hlog : v'.log = v.log ++ extra)
    (hchecks : ∀ email password, .credentialCheck email password (.ok true) ∉ extra)
    (howners : v.owners = 1 → v'.owners = 1) : v'.Kept := by
  intro hin hrejected hdropped
  rw [hlog] at hin hrejected hdropped
  exact howners (h (hin.of_append hchecks)
    (fun header hmem => hrejected header (List.mem_append_left _ hmem))
    fun hmem => hdropped (List.mem_append_left _ hmem))

/-- A session is kept, unless its read fails. -/
lemma View.Kept.move (h : v.Kept) (hi : SessionInv sessionClass c v)
    (hmove : v.Move sessionClass c false v')
    (hreads : v'.log = v.log → v.unread.length ≤ v'.unread.length →
      v.reads.length ≤ v'.reads.length) : v'.Kept := by
  have hlen : ∀ {read}, read ∈ v.reads → (v.reads.erase read).length + 1 = v.reads.length := by
    intro read hread
    have hpos := List.length_pos_of_mem hread
    rw [List.length_erase_of_mem hread]
    omega
  have hwaiting : ∀ {read}, read ∈ v.reads → v.waiting = 0 :=
    fun hread => (hi.of_mem_reads hread).2.1
  -- The handler of a completed read gives the socket to the registry, to a bridge or to a new read.
  have hcompleted : ∀ {read}, read ∈ v.reads → ∀ (log : List Entry) (unread : Bytes) (todo : Plan)
      (waiting : ℕ), waiting + claims todo = 1 →
      View.owners { v with unread, reads := v.reads.erase read, log, todo, waiting } = 1 := by
    intro read hread log unread todo waiting hone
    obtain ⟨hsingle, -, -, hjoins⟩ := hi.of_mem_reads hread
    simp only [View.owners, hsingle, List.erase_cons_head, List.length_nil, hjoins]
    omega
  cases hmove with
  | accepts _ hidle hnew =>
    intro hin
    have hnil : v.log = [] := (hi.fresh hnew).2.2.1
    obtain ⟨email, password, hmem⟩ := hin
    rw [hnil] at hmem
    cases hmem
  | headerAccepted _ messageHandler maxMessageSize header hidle hread hlen' hheader =>
    refine h.append (List.append_nil _).symm (by simp) fun hone => ?_
    have := hlen hread
    simp only [View.owners, List.length_append, List.length_singleton] at hone ⊢
    omega
  | headerRejected =>
    exact fun _ hno _ => absurd (List.mem_append_right _ List.mem_cons_self) (hno _)
  | login _ header message email password hidle hread hlen' hmessage hlogin =>
    exact fun _ _ _ => hcompleted hread _ _ _ _
      (by rw [hwaiting hread, sendACK, claims_reply])
  | refused _ header message checks todo hidle hread hlen' hmessage hchecks htodo =>
    obtain ⟨-, -, hnil, -⟩ | ⟨hhandler, -⟩ := hi.stage_of_body hread
    · exact fun hin => absurd hin (not_loggedIn_of_refusal hchecks (not_loggedIn_of_talk hnil))
    · cases hhandler
  | answered _ header message isRegistered hidle hread hlen' hmessage hcontinues =>
    exact fun _ _ _ => hcompleted hread _ _ _ _ (by rw [hwaiting hread, claims_reply])
  | registered _ header message isRegistered hidle hread hlen' hmessage hclass htype =>
    exact fun _ _ _ => hcompleted hread _ _ _ _ (by rw [hwaiting hread, claims_sendPlan])
  | found _ header message streamer hidle hread hlen' hmessage hclass htype hne =>
    exact fun _ _ _ => hcompleted hread _ _ _ _ (by rw [hwaiting hread]; rfl)
  | claimed _ waiting receiver hidle hwaiting hne =>
    refine h.append rfl (by simp) fun hone => ?_
    obtain ⟨-, hreads, hclaims, hjoins⟩ := hi.of_waiting (by omega)
    have hnew : claims [.sendChunk c { type := .startStream, content := [] },
      .startBridge c receiver] = 1 := rfl
    simp only [View.owners, hreads, hjoins, hclaims, hnew] at hone ⊢
    omega
  | dropped _ n waiting hwaiting =>
    cases n with
    | zero =>
      have hlog : v.log ++ List.replicate 0 .dropped = v.log ++ [] := rfl
      refine h.append hlog (by simp) fun hone => ?_
      simpa only [View.owners, hwaiting, Nat.add_zero] using hone
    | succ n =>
      exact fun _ _ hno => absurd (List.mem_append_right _ (by simp)) hno
  | sends _ message rest htodo =>
    refine h.append rfl (by simp) fun hone => ?_
    simpa [View.owners, htodo, claims] using hone
  | arms _ messageHandler maxMessageSize rest htodo =>
    refine h.append (List.append_nil _).symm (by simp) fun hone => ?_
    simp [View.owners, htodo, claims] at hone ⊢
    omega
  | joins _ sender receiver rest htodo =>
    refine h.append (List.append_nil _).symm (by simp) fun hone => ?_
    simp [View.owners, htodo, claims] at hone ⊢
    omega
  | closes _ a rest htodo ha =>
    refine h.append (List.append_nil _).symm (by simp) fun hone => ?_
    rcases ha with rfl | rfl <;> simpa [View.owners, htodo, claims] using hone
  | readFails _ read hread =>
    have hle := hreads rfl le_rfl
    have := hlen hread
    dsimp only at hle
    omega
  | relays _ n blocks hjoins => exact h.append rfl (by simp) id
  | _ => exact h

end Kept

/-! ## Bridges read on -/

/-- A bridge has one read in flight in each direction, and none of them has failed. -/
structure Bridge.Armed (b : Bridge) : Prop where
  inFlight : ∀ h, b.reads.count (Bridge.readOf h) +
    b.ready.countP (fun r => r.1 = Bridge.readOf h) = 1
  ok : ∀ r ∈ b.ready, ∃ n, r.2 = .ok n

namespace Bridge

/-- A bridge that is started reads in both directions. -/
lemma armed_start (peerOne peerTwo : Socket) : (start peerOne peerTwo).Armed := by
  refine ⟨fun h => ?_, by simp [start]⟩
  cases h <;> rfl

/-- A bridge reads on, as long as none of its operations fails. -/
lemma Armed.step {s t : State} {l : Label} (h : s.toBridge.Armed) (hi : Inv s) (hs : Step s l t)
    (hclean : l.IsClean) : t.toBridge.Armed := by
  cases hs with
  | readCompletes op n hop hopen hpos hn hmax hesc =>
    obtain ⟨g, rfl⟩ : ∃ g, op = readOf g := ⟨_, hi.reads op hop⟩
    have hcount := List.count_pos_iff.mpr hop
    constructor
    · intro g'
      have hone := h.inFlight g'
      change (s.reads.erase (readOf g)).count (readOf g') +
        (s.ready ++ [(readOf g, Except.ok n)]).countP
          (fun r : ReadOp × Except ReadEnd ℕ => r.1 = readOf g') = 1
      by_cases hne : g = g'
      · subst hne
        simp only [List.count_erase_self, List.countP_append, List.countP_singleton,
          decide_true, if_true]
        omega
      · have hop' : readOf g' ≠ readOf g := fun heq => hne (readOf_injective heq).symm
        simpa [List.count_erase_of_ne hop', List.countP_append, hop'.symm] using hone
    · intro r hr
      rcases List.mem_append.mp hr with hr | hr
      · exact h.ok r hr
      · exact ⟨n, by rw [List.mem_singleton.mp hr]⟩
  | handle op result ec hready hesc hec =>
    obtain ⟨g, rfl⟩ : ∃ g, op = readOf g := ⟨_, hi.ready _ hready⟩
    obtain ⟨n, rfl⟩ := h.ok _ hready
    cases ec with
    | failed written => exact hclean.elim
    | ok =>
      rw [State.handle_ok]
      constructor
      · intro g'
        have hone := h.inFlight g'
        have hperm := (List.perm_cons_erase hready).countP_eq fun r => r.1 = readOf g'
        rw [List.countP_cons] at hperm
        change (s.reads ++ [readOf g]).count (readOf g') +
          (s.ready.erase (readOf g, Except.ok n)).countP (fun r => r.1 = readOf g') = 1
        rw [List.count_append, List.count_singleton']
        by_cases hne : readOf g = readOf g'
        · simp only [hne, decide_true, if_true] at hperm ⊢
          omega
        · simp only [hne, decide_false, Bool.false_eq_true, if_false] at hperm ⊢
          simpa [hperm] using hone
      · intro r hr
        exact h.ok r (List.mem_of_mem_erase hr)
  | _ => exact hclean.elim

end Bridge

namespace Server

section Delivery

variable [SizeLayout] [JsonLibrary] {s t : Server} {l : Label}

omit [SizeLayout] [JsonLibrary] in
/-- When nothing fails, no operation throws. -/
lemma Label.IsClean.isFailure (h : l.IsClean) : IsFailure l = false := by
  cases l <;> first | rfl | exact h.elim

/-- A read of a session ends only when it completes or fails; when it completes, bytes are taken and
perhaps handled. -/
lemma reads_le_of_move {c : ConnId} (h : Move .proxySession s l t) (hl : l ≠ .readFails c)
    (hlog : (t.view c).log = (s.view c).log)
    (hunread : (s.view c).unread.length ≤ (t.view c).unread.length) :
    (s.view c).reads.length ≤ (t.view c).reads.length := by
  have hupdate : ∀ (d : ConnId) (f : Connection → Connection),
      (f (s.conn d)).reads = (s.conn d).reads →
      (s.view c).reads.length ≤ ((s.updateConn d f).view c).reads.length := fun d f hf =>
    (congrArg List.length (updateConn_keeps Connection.reads hf c)).ge
  cases h with
  | accept d => exact hupdate d (fun k => { k with accepted := true }) rfl
  | acceptFails d => exact hupdate d _ rfl
  | peerWrites d => exact hupdate d _ rfl
  | peerEnds d => exact hupdate d _ rfl
  | peerDisconnects d => exact hupdate d _ rfl
  | destroys d => exact hupdate d _ rfl
  | headerAccepted d messageHandler maxMessageSize header hidle hread hlen hheader =>
    by_cases hd : c = d
    · subst hd
      have hlength := List.length_erase_of_mem hread
      have hpos := List.length_pos_of_mem hread
      rw [view_asyncRead_self, view_completeRead_self]
      change (s.conn c).reads.length ≤ ((s.conn c).reads.erase _ ++ [_]).length
      rw [List.length_append, hlength, List.length_singleton]
      omega
    · rw [view_asyncRead_of_ne _ hd, view_completeRead_of_ne _ hd]
  | headerRejected d messageHandler maxMessageSize what hidle hread hlen hheader =>
    by_cases hd : c = d
    · subst hd
      rw [view_safeDisconnect, view_record, view_completeRead_self, entriesOf_cons_self] at hlog
      exact absurd hlog (by simp)
    · rw [view_safeDisconnect, view_record, view_completeRead_of_ne _ hd]
  | bodyCompletes d messageHandler header usersManager now hidle hread hlen =>
    by_cases hd : c = d
    · subst hd
      rw [view_runHandler, view_completeRead_self] at hlog
      refine absurd hlog ?_
      generalize hinvoke : invoke .proxySession usersManager s.sendersSessions c now messageHandler
        _ = effect
      have hhandled : Handled .proxySession s.sendersSessions c now _ messageHandler effect :=
        hinvoke ▸ handled_invoke usersManager messageHandler
      cases hhandled <;> simp
    · rw [view_runHandler, view_completeRead_of_ne _ hd]
  | readFails d read hidle hread =>
    have hd : c ≠ d := fun heq => hl (heq ▸ rfl)
    rw [view_completeRead_of_ne _ hd]
  | performs a rest hplan hcan =>
    cases a with
    | sendChunk session message =>
      exact (congrArg List.length (reads_updateSocket session (·.record (.frame message)) c)).ge
    | asyncReadMessage session messageHandler maxMessageSize =>
      by_cases hc : c = session
      · subst hc
        change _ ≤ ((s.asyncRead c (.header messageHandler maxMessageSize)).view c).reads.length
        rw [view_asyncRead_self]
        simp
      · change _ ≤ ((s.asyncRead session _).view c).reads.length
        rw [view_asyncRead_of_ne _ hc]
    | close session => exact (congrArg List.length (reads_updateSocket session Socket.close c)).ge
    | _ => exact le_rfl
  | throws a rest what written hplan hcan =>
    change _ ≤ (((s.performPartly a written).catchException what).conn c).reads.length
    rw [conn_catchException, reads_performPartly]
    exact le_rfl
  | terminateTimeoutClients => exact le_rfl
  | reset => exact le_rfl
  | bridge pre j post l b hidle hj hown hb =>
    have hreads := (reads_updateSocket (s := s.updateSocket j.sender fun _ => b.peer .one)
      j.receiver (fun _ => b.peer .two) c).trans
      (reads_updateSocket j.sender (fun _ => b.peer .one) c)
    exact (congrArg List.length hreads).ge

/-- What holds of a proxy in which nothing has failed. -/
structure CleanInv (s : Server) : Prop where
  pairing : PairingInv s
  kept : ∀ c, (s.view c).Kept
  armed : ∀ j ∈ s.bridges, j.bridge.Armed

/-- The invariant of a server that has just been started. -/
lemma cleanInv_init : CleanInv init := by
  refine ⟨pairingInv_init, fun c hin => ?_, by simp [init]⟩
  obtain ⟨email, password, hmem⟩ := hin
  cases hmem

/-- A step in which nothing fails keeps the invariant. -/
lemma CleanInv.step (hi : CleanInv s) (h : Step .proxySession s l t) (hl : l.IsClean) :
    CleanInv t where
  pairing := hi.pairing.step h hl.isFailure
  kept c := by
    have hmove := view_move hi.pairing.inv.tidy h.2 c
    rw [hl.isFailure] at hmove
    refine (hi.kept c).move (hi.pairing.inv.session c) hmove (reads_le_of_move h.2 ?_)
    rintro rfl
    exact hl
  armed := by
    rcases bridges_of_move h.2 with ⟨-, heq⟩ | ⟨-, streamer, receiver, rest, -, rfl⟩ |
      ⟨pre, j, post, bl, b, -, hj, -, hb, rfl, rfl⟩
    · rw [heq]
      exact hi.armed
    · intro i hmem
      rcases List.mem_append.mp hmem with hold | hnew
      · exact hi.armed i hold
      · rw [List.mem_singleton.mp hnew]
        exact Bridge.armed_start _ _
    · have hmem : j ∈ s.bridges := by simp [hj]
      have harmed : b.toBridge.Armed := Bridge.Armed.step (s := s.bridgeState j)
        (hi.armed j hmem) (hi.pairing.bridges j hmem).bridge hb hl
      intro i hi'
      have hcases : i ∈ pre ++ { j with bridge := b.toBridge } :: post := hi'
      rcases List.mem_append.mp hcases with hpre | hpost
      · exact hi.armed i (by simp [hj, hpre])
      · rcases List.mem_cons.mp hpost with rfl | hpost
        · exact harmed
        · exact hi.armed i (by simp [hj, hpost])

/-- The invariant of a run in which nothing fails. -/
lemma cleanInv_of_run {ls : List Label} (hrun : Transition.Run (Step .proxySession) init ls s)
    (hclean : ∀ l ∈ ls, l.IsClean) : CleanInv s :=
  hrun.invariant_of_labels hclean cleanInv_init fun _ _ _ hl hi hs => hi.step hs hl

/-! ## At rest -/

omit [SizeLayout] [JsonLibrary] in
/-- A connection is paired with the partner of its stage. -/
lemma eq_of_pairs {c d d' : ConnId} {e e' : Ending} (h : e.Pairs c d e')
    (hstage : e.stage = .claimed d' ∨ e.stage = .found d') : d = d' := by
  rcases hstage with hstage | hstage
  · obtain ⟨request, isRegistered, rfl⟩ := Ending.exists_claimed hstage
    cases e' <;> first | exact h.elim | exact (Option.some.inj h.1).symm
  · obtain ⟨request, rfl⟩ := Ending.exists_found hstage
    cases e' <;> first | exact h.elim | exact h.1.symm

variable {c : ConnId} {k : Conversation}

/-- What has become of a session that has had the conversation `k`, once there is nothing left to
do. -/
structure Settled (s : Server) (c : ConnId) (k : Conversation) : Prop where
  /-- Its peer has been sent all frames of the conversation, and what was relayed behind them. -/
  received : received (s.conn c).socket.log =
    k.frames.map .frame ++ (blocks (s.conn c).socket.log).map .relayed
  /-- What the peer has written behind requests that go on is no whole frame. -/
  unfinished : k.ending = .unfinished →
    decodeFrame bufferSize ((s.conn c).socket.sent.drop k.bytes.length) = none
  /-- All that its partner has written behind its own conversation has been relayed. -/
  relayed : ∀ d, k.ending.stage = .claimed d ∨ k.ending.stage = .found d →
    ∃ k', s.Says d k' ∧ k.ending.Pairs c d k'.ending ∧
      (blocks (s.conn c).socket.log).flatten = (s.conn d).socket.sent.drop k'.bytes.length

/-- Where nothing has failed, a session that is served or linked to a partner has an owner. -/
lemma CleanInv.owners_eq_one (hi : CleanInv s) (hlogin : LoggedIn (s.conn c).socket.log)
    {stage : Stage} (htalk : Talk .proxySession c (talk (s.view c).log) stage)
    (hstage : stage = .serving ∨ ∃ d, stage = .claimed d ∨ stage = .found d) :
    (s.view c).owners = 1 := by
  refine hi.kept c hlogin (fun header hmem => ?_)
    ((hi.pairing.inv.session c).not_dropped htalk ?_)
  · rcases htalk.stage_of_rejected (List.mem_filter.mpr ⟨hmem, rfl⟩) with rfl | rfl <;>
      rcases hstage with h | ⟨d, h | h⟩ <;> cases h
  · rintro rfl
    rcases hstage with h | ⟨d, h | h⟩ <;> cases h

omit [SizeLayout] [JsonLibrary] in
/-- At rest, nothing is to be done on any connection. -/
lemma Resting.todo_eq (hrest : s.Resting) (c : ConnId) : (s.view c).todo = [] := by
  rw [view, hrest.plan]
  rfl

/-- At rest, no whole frame is left of what the peer of a session has written behind its
requests. -/
lemma CleanInv.decodeFrame_eq_none (hi : CleanInv s) (hrest : s.Resting) (hk : s.Says c k)
    (htalk : Talk .proxySession c (talk (s.view c).log) .serving)
    (hin : (s.view c).InStage c .serving) :
    decodeFrame bufferSize ((s.conn c).socket.sent.drop k.bytes.length) = none := by
  have hsession := hi.pairing.inv.session c
  have howners := hi.owners_eq_one hk.loggedIn htalk (Or.inl rfl)
  have hjoins : (s.view c).joins = [] := hin.joins_eq_nil fun _ _ h => by
    rcases h.2 with ⟨-, h⟩ | ⟨-, h⟩ <;> cases h
  obtain ⟨read, hreads⟩ : ∃ read, (s.view c).reads = [read] := by
    refine List.length_eq_one_iff.mp ?_
    rw [View.owners, hin.waiting_eq_zero Stage.noConfusion, hrest.todo_eq, hjoins] at howners
    exact howners
  have hread : read ∈ (s.view c).reads := by simp [hreads]
  have hsent := hsession.sent_eq (SessionInv.owners_of_mem_reads hread) hjoins
  change (s.conn c).socket.sent = consumed (s.conn c).socket.log ++ _ at hsent
  rw [hsent, hk.consumed_eq, List.drop_left]
  refine hsession.decodeFrame_eq_none hread ?_
  cases read with
  | header messageHandler maxMessageSize => exact (hrest.header c _ _ hread).2
  | body messageHandler header => exact (hrest.body c _ _ hread).2

/-- At rest, a bridge has relayed all that was written to it. -/
lemma CleanInv.relayed_eq (hi : CleanInv s) (hrest : s.Resting) {j : Joined} (hj : j ∈ s.bridges)
    (g : ReadHandler) :
    relayedBytes ((s.bridgeState j).peer (Bridge.destination g)).log =
      ((s.bridgeState j).peer (Bridge.source g)).sent.drop
        (consumed ((s.bridgeState j).peer (Bridge.source g)).log).length := by
  have hbridge := hi.pairing.bridges j hj
  have hone := (hi.armed j hj).inFlight g
  rw [hrest.ready j hj, List.countP_nil, Nat.add_zero] at hone
  have hread : Bridge.readOf g ∈ j.bridge.reads := List.count_pos_iff.mp (by omega)
  have hunread : ((s.bridgeState j).peer (Bridge.source g)).unread = [] :=
    (hrest.reads j hj _ hread).2
  have hstream := ((hbridge.bridge.direction g).reading hread).1
  rw [hunread, List.append_nil] at hstream
  rw [← hbridge.written_eq, ← hbridge.stream_eq, hstream]

/-- At rest, partners have been relayed all that they have written to each other. -/
lemma CleanInv.flatten_blocks_eq (hi : CleanInv s) (hrest : s.Resting) (hk : s.Says c k)
    (htalk : Talk .proxySession c (talk (s.view c).log) k.ending.stage)
    (hin : (s.view c).InStage c k.ending.stage) {d : ConnId}
    (hstage : k.ending.stage = .claimed d ∨ k.ending.stage = .found d) :
    ∃ k', s.Says d k' ∧ k.ending.Pairs c d k'.ending ∧
      (blocks (s.conn c).socket.log).flatten = (s.conn d).socket.sent.drop k'.bytes.length := by
  have howners := hi.owners_eq_one hk.loggedIn htalk (Or.inr ⟨d, hstage⟩)
  have hreads : (s.view c).reads = [] := by
    refine hin.reads_eq_nil fun read => ?_
    rcases hstage with h | h <;> rw [h] <;> cases read <;> exact id
  have hwaiting : (s.view c).waiting = 0 := by
    refine hin.waiting_eq_zero ?_
    rcases hstage with h | h <;> rw [h] <;> exact Stage.noConfusion
  have hjoins : (s.view c).joins ≠ [] := by
    intro hnil
    rw [View.owners, hreads, hwaiting, hrest.todo_eq, hnil] at howners
    cases howners
  obtain ⟨j, hj, hc⟩ := exists_bridge_of_joins hjoins
  obtain ⟨g, k', hdestination, hk', hpairs⟩ := hi.pairing.exists_partner hj hin rfl hc
  obtain rfl : j.connOf (Bridge.source g) = d := eq_of_pairs hpairs hstage
  refine ⟨k', hk', hpairs, ?_⟩
  rw [flatten_blocks, ← hk'.consumed_eq, ← hdestination, ← bridgeState_peer, ← bridgeState_peer]
  exact hi.relayed_eq hrest hj g

/-- At rest, a session that has logged in is settled. -/
lemma CleanInv.exists_settled (hi : CleanInv s) (hrest : s.Resting)
    (hlogin : LoggedIn (s.conn c).socket.log) : ∃ k, s.Says c k ∧ s.Settled c k := by
  obtain ⟨stage, htalk, hin⟩ := (hi.pairing.inv.session c).inStage
  obtain ⟨k, hk, rfl⟩ := hi.pairing.exists_says htalk (hlogin.not_outside htalk)
  refine ⟨k, hk, ?_, fun hend => ?_, fun d => hi.flatten_blocks_eq hrest hk htalk hin⟩
  · have hscript := ((hi.pairing.script c).script hlogin).trans hk.script_eq
    rw [hrest.todo_eq, queued, List.filterMap_nil, List.append_nil] at hscript
    rw [← hscript]
    exact (hi.pairing.script c).received
  · rw [hend] at htalk hin
    exact hi.decodeFrame_eq_none hrest hk htalk hin

/-- When a proxy is at rest none of whose network operations has failed, nothing is owed to a
session that has logged in. -/
theorem settled_of_rest {ls : List Label} (hrun : Transition.Run (Step .proxySession) init ls s)
    (hclean : ∀ l ∈ ls, l.IsClean) (hrest : s.Resting) (c : ConnId)
    (hlogin : LoggedIn (s.conn c).socket.log) : ∃ k, s.Says c k ∧ s.Settled c k :=
  (cleanInv_of_run hrun hclean).exists_settled hrest hlogin

/-- At rest, partners have been relayed all that they have written to each other. -/
lemma relayedBytes_eq_of_rest {ls : List Label}
    (hrun : Transition.Run (Step .proxySession) init ls s) (hclean : ∀ l ∈ ls, l.IsClean)
    (hrest : s.Resting) {d : ConnId} (h : .claimed d ∈ (s.conn c).socket.log ∨
      ∃ code, .found code d ∈ (s.conn c).socket.log) :
    relayedBytes (s.conn c).socket.log =
      (s.conn d).socket.sent.drop (consumed (s.conn d).socket.log).length := by
  have hi := cleanInv_of_run hrun hclean
  obtain ⟨stage, htalk, hin⟩ := (hi.pairing.inv.session c).inStage
  have hstage : stage = .claimed d ∨ stage = .found d := by
    rcases h with hmem | ⟨code, hmem⟩
    · exact Or.inl (htalk.stage_of_claimed (List.mem_filter.mpr ⟨hmem, rfl⟩))
    · exact Or.inr (htalk.stage_of_found (List.mem_filter.mpr ⟨hmem, rfl⟩))
  have hinside : ¬ stage.Outside := by rcases hstage with rfl | rfl <;> exact id
  obtain ⟨k, hk, rfl⟩ := hi.pairing.exists_says htalk hinside
  obtain ⟨k', hk', -, heq⟩ := hi.flatten_blocks_eq hrest hk htalk hin hstage
  rw [← flatten_blocks, heq, hk'.consumed_eq]

/-- A server is at rest that waits only for what its bridges read. -/
lemma resting_of_reads {ls : List Label} (hrun : Transition.Run (Step .proxySession) init ls s)
    (hplan : s.plan = []) (hreads : ∀ c ∈ ls.filterMap Label.accepts, (s.conn c).reads = [])
    (hbridges : ∀ j ∈ s.bridges, j.bridge.ready = [] ∧ ∀ op ∈ j.bridge.reads,
      ((s.bridgeState j).peer op.peer).Live ∧ ((s.bridgeState j).peer op.peer).unread = []) :
    s.Resting := by
  have hnone : ∀ c read, read ∉ (s.conn c).reads := by
    intro c read hread
    have hmem := accepted_of_run hrun (((inv_of_run hrun).session c).accepted_of_owners
      (SessionInv.owners_of_mem_reads hread))
    rw [hreads c hmem] at hread
    cases hread
  exact ⟨hplan, fun c _ _ hread => absurd hread (hnone c _),
    fun c _ _ hread => absurd hread (hnone c _), fun j hj => (hbridges j hj).1,
    fun j hj => (hbridges j hj).2⟩

end Delivery

/-- What a streamer has written behind its registration has been relayed to the receiver when the
proxy is at rest. -/
theorem settled_of_rest_relayed :
    letI := littleEndian
    letI := Json.stringObjects
    ∃ ls s, Transition.Run (Step .proxySession) init ls s ∧ s.Resting ∧
      (∃ k, s.Says 1 k ∧ s.Settled 1 k) ∧
      received (s.conn 1).socket.log =
        [.frame ackMessage, .frame ackMessage, .relayed [72, 105]] := by
  let := littleEndian
  let := Json.stringObjects
  obtain ⟨ls, s, hrun, hs⟩ := exists_run_of_replay .proxySession (s := init)
    (acknowledges ++ [.peerWrites 0 [72, 105], .performs, .performs,
      .bridge 0 (.readCompletes Bridge.readPeerOne 2),
      .bridge 0 (.handle Bridge.readPeerOne (.ok 2) .ok)])
    (fun ls s => (∀ l ∈ ls, l.IsClean) ∧ s.plan = [] ∧
      (∀ c ∈ ls.filterMap Label.accepts, (s.conn c).reads = []) ∧
      (∀ j ∈ s.bridges, j.bridge.ready = [] ∧ ∀ op ∈ j.bridge.reads,
        ((s.bridgeState j).peer op.peer).Live ∧ ((s.bridgeState j).peer op.peer).unread = []) ∧
      .credentialCheck [97] [98] (.ok true) ∈ (s.conn 1).socket.log ∧
      received (s.conn 1).socket.log =
        [.frame ackMessage, .frame ackMessage, .relayed [72, 105]])
    (by decide +kernel)
  obtain ⟨hclean, hplan, hreads, hbridges, hlogin, hreceived⟩ := of_decide_eq_true hs
  have hrest := resting_of_reads hrun hplan hreads hbridges
  exact ⟨ls, s, hrun, hrest, settled_of_rest hrun hclean hrest 1 ⟨_, _, hlogin⟩, hreceived⟩

end Server

end ScreenViewer
