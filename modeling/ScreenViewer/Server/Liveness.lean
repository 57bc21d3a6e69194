import Mathlib
import ScreenViewer.Server.Delivery

/-!
# What is owed is delivered

A proxy does not have to wait for luck to come to a rest at which nothing is owed.  As long as the
connections that it uses are live (`UsesLive`), each of its operations can be performed, a handler
closes only connections that nobody owns, as the last thing it does, and no bridge closes.  So the
proxy uses live connections only, whatever it does by itself, and comes to rest without a failure
(`comes_to_clean_rest`).

The writes of the server are synchronous, and a peer that is connected but does not read keeps them
from returning.  Which writes return is up to the peers: it is a parameter, and that the writes to
connected peers do is assumed.
-/

namespace ScreenViewer

open SocketBase AuthenticatedSession ServerSessionsManager

/-! ## Closing comes last -/

/-- Closing a socket is the last operation of a plan. -/
def ClosesLast : Plan → Prop
  | [] => True
  | .close _ :: rest => rest = []
  | _ :: rest => ClosesLast rest

/-- What is left of a plan closes last, too. -/
lemma ClosesLast.tail {a : Action} {rest : Plan} (h : ClosesLast (a :: rest)) :
    ClosesLast rest := by
  cases a with
  | close session =>
    have hnil : rest = [] := h
    rw [hnil]
    trivial
  | _ => exact h

/-- Before a plan that closes last, a message may be sent. -/
lemma ClosesLast.sendPlan_append {plan : Plan} (h : ClosesLast plan) (session : ConnId)
    (message : Message) : ClosesLast (sendPlan session message ++ plan) := by
  unfold sendPlan
  induction chunks message with
  | nil => exact h
  | cons m ms ih => exact ih

lemma closesLast_sendPlan (session : ConnId) (message : Message) :
    ClosesLast (sendPlan session message) := by
  have hnil : ClosesLast [] := trivial
  have h := hnil.sendPlan_append session message
  rwa [List.append_nil] at h

/-- Disconnecting ends with the closing. -/
lemma closesLast_disconnect (session : ConnId) (disconnectMsg : Option Bytes) :
    ClosesLast (disconnect session disconnectMsg) := by
  have hend : ClosesLast [.shutdown session, .close session] := rfl
  cases disconnectMsg with
  | none => exact hend
  | some msg => exact hend.sendPlan_append session _

/-- The plan of every handler closes last. -/
lemma closesLast_invoke [JsonLibrary] {sessionClass : SessionClass}
    {usersManager : Option Authenticator} {sendersSessions : Registry} {self : ConnId} {now : Time}
    {messageHandler : MessageHandler} {message : Message} {plan : Plan}
    (h : (invoke sessionClass usersManager sendersSessions self now messageHandler message).plan =
      .ok plan) : ClosesLast plan := by
  have hnext : ClosesLast (scheduleNewAsyncRead self) := trivial
  cases messageHandler with
  | authenticateCallback =>
    change (authenticateCallback usersManager self message).2 = .ok plan at h
    unfold AuthenticatedSession.authenticateCallback at h
    split at h
    · cases h
      exact closesLast_disconnect _ _
    · split at h <;> cases h
      · exact hnext.sendPlan_append _ _
      · exact closesLast_sendPlan _ _
  | handleRead =>
    have hhandled : Handled sessionClass sendersSessions self now message .handleRead
      (invoke sessionClass usersManager sendersSessions self now .handleRead message) :=
      handled_handleRead usersManager
    generalize invoke sessionClass usersManager sendersSessions self now .handleRead message =
      effect at h hhandled
    cases hhandled <;> cases h
    · exact hnext.sendPlan_append _ _
    · exact closesLast_sendPlan _ _
    · trivial

namespace Server

section Plans

variable [SizeLayout] [JsonLibrary] {sessionClass : SessionClass} {s t : Server} {l : Label}

omit [SizeLayout] [JsonLibrary] in
/-- What a catch clause plans closes last. -/
lemma closesLast_catchException (what : Bytes) : ClosesLast (s.catchException what).plan := by
  unfold catchException
  split
  · trivial
  · exact closesLast_disconnect s.self (some what)

/-- Whatever happens, the server closes last. -/
lemma closesLast_of_move (h : Move sessionClass s l t) (hs : ClosesLast s.plan) :
    ClosesLast t.plan := by
  cases h with
  | accept => trivial
  | headerRejected c messageHandler maxMessageSize what =>
    exact closesLast_disconnect c (some (Bytes.ofString what))
  | bodyCompletes c messageHandler header usersManager now hidle hread hlen =>
    unfold runHandler
    cases hplan : (invoke sessionClass usersManager s.sendersSessions c now messageHandler _).plan
      with
    | ok plan => exact closesLast_invoke hplan
    | error what => exact closesLast_catchException what
  | performs a rest hplan hcan =>
    rw [hplan] at hs
    exact hs.tail
  | throws a rest what written hplan hcan => exact closesLast_catchException what
  | _ => exact hs

end Plans

end Server

/-! ## Connections in use -/

section Uses

variable [SizeLayout] [JsonLibrary] {sessionClass : SessionClass} {c : ConnId} {v v' : View}

/-- Somebody owns the socket of the connection, or is about to do something with it. -/
def View.Uses (v : View) : Prop := v.owners ≠ 0 ∨ v.todo ≠ []

/-- A move makes use of no other connection, unless it accepts one. -/
lemma View.Move.uses (h : v.Move sessionClass c false v') (haccepted : v'.accepted = v.accepted)
    (huses : v'.Uses) : v.Uses := by
  have hread : ∀ {read}, read ∈ v.reads → v.Uses :=
    fun hmem => Or.inl (SessionInv.owners_of_mem_reads hmem)
  have htodo : ∀ {a rest}, v.todo = a :: rest → v.Uses :=
    fun heq => Or.inr (heq ▸ List.cons_ne_nil _ _)
  cases h with
  | accepts _ hidle hnew =>
    rw [hnew] at haccepted
    cases haccepted
  | headerAccepted _ messageHandler maxMessageSize header hidle hmem => exact hread hmem
  | headerRejected _ messageHandler maxMessageSize what hidle hmem => exact hread hmem
  | login _ header message email password hidle hmem => exact hread hmem
  | refused _ header message checks todo hidle hmem => exact hread hmem
  | answered _ header message isRegistered hidle hmem => exact hread hmem
  | registered _ header message isRegistered hidle hmem => exact hread hmem
  | found _ header message streamer hidle hmem => exact hread hmem
  | claimed _ waiting receiver hidle hwaiting hne =>
    refine Or.inl ?_
    rw [View.owners, hwaiting]
    omega
  | dropped _ n waiting hwaiting =>
    refine huses.imp (fun howners => ?_) id
    simp only [View.owners] at howners ⊢
    omega
  | sends _ message rest heq => exact htodo heq
  | arms _ messageHandler maxMessageSize rest heq => exact htodo heq
  | joins _ sender receiver rest heq => exact htodo heq
  | closes _ a rest heq => exact htodo heq
  | readFails _ read hmem => exact hread hmem
  | _ => exact huses

/-- A handler closes only a socket that nobody owns. -/
def View.Leaves (c : ConnId) (v : View) : Prop := .close c ∈ v.todo → v.owners = 0

/-- A move keeps it so. -/
lemma View.Leaves.move (h : v.Leaves c) (hi : SessionInv sessionClass c v)
    (hmove : v.Move sessionClass c false v') : v'.Leaves c := by
  -- A session that takes its leave does not read, and is not registered.
  have hfarewell : ∀ {read}, read ∈ v.reads → ∀ (unread : Bytes) (log : List Entry) (todo : Plan),
      claims todo = 0 →
      View.owners { v with unread, reads := v.reads.erase read, log, todo } = 0 := by
    intro read hread unread log todo hclaims
    obtain ⟨hsingle, hwaiting, -, hjoins⟩ := hi.of_mem_reads hread
    simp only [View.owners, hsingle, List.erase_cons_head, List.length_nil, hwaiting, hclaims,
      hjoins]
  have hreply : ∀ {message : Message} {rest : Plan}, .close c ∉ rest →
      .close c ∉ sendPlan c message ++ rest := by
    intro message rest hrest hmem
    rcases List.mem_append.mp hmem with hmem | hmem
    · obtain ⟨m, heq, -⟩ := mem_sendPlan hmem
      cases heq
    · exact hrest hmem
  have hnext : .close c ∉ scheduleNewAsyncRead c := by simp [scheduleNewAsyncRead]
  have hrest : ∀ {a rest}, v.todo = a :: rest → .close c ∈ rest → v.owners = 0 :=
    fun heq hmem => h (heq ▸ List.mem_cons_of_mem _ hmem)
  cases hmove with
  | accepts _ hidle hnew => exact fun hmem => by simp at hmem
  | headerAccepted _ messageHandler maxMessageSize header hidle hread =>
    intro hmem
    change _ ∈ v.todo at hmem
    rw [hidle] at hmem
    cases hmem
  | headerRejected _ messageHandler maxMessageSize what hidle hread =>
    exact fun _ => hfarewell hread _ _ _ (claims_farewell fun a => farewell_disconnect)
  | login _ header message email password hidle hread =>
    exact fun hmem => absurd hmem (hreply hnext)
  | refused _ header message checks todo hidle hread hlen hmessage hchecks htodo =>
    exact fun _ => hfarewell hread _ _ _ (claims_farewell htodo)
  | answered _ header message isRegistered hidle hread =>
    exact fun hmem => absurd hmem (hreply hnext)
  | registered _ header message isRegistered hidle hread =>
    intro hmem
    obtain ⟨m, heq, -⟩ := mem_sendPlan hmem
    cases heq
  | found _ header message streamer hidle hread => exact fun hmem => by simp at hmem
  | claimed _ waiting receiver hidle hwaiting hne => exact fun hmem => by simp at hmem
  | dropped _ n waiting hwaiting =>
    intro hmem
    have howners := h hmem
    simp only [View.owners] at howners ⊢
    omega
  | sends _ message rest htodo =>
    intro hmem
    simpa [View.owners, htodo, claims] using hrest htodo hmem
  | arms _ messageHandler maxMessageSize rest htodo =>
    intro hmem
    have howners := hrest htodo hmem
    simp [View.owners, htodo, claims] at howners
  | joins _ sender receiver rest htodo =>
    intro hmem
    have howners := hrest htodo hmem
    simp [View.owners, htodo, claims] at howners
  | closes _ a rest htodo ha =>
    intro hmem
    rcases ha with rfl | rfl <;> simpa [View.owners, htodo, claims] using hrest htodo hmem
  | readFails _ read hread =>
    exact fun hmem => absurd (h hmem) (SessionInv.owners_of_mem_reads hread)
  | _ => exact h

end Uses

/-! ## Live connections stay live -/

/-- As long as nothing fails, no exception escapes from a bridge. -/
lemma Bridge.Step.escaped_eq {b b' : Bridge.State} {l : Bridge.Label} (h : Bridge.Step b l b')
    (hclean : l.IsClean) : b'.escaped = b.escaped := by
  cases h with
  | readCompletes => rfl
  | handle op result ec hready hesc hec =>
    cases result with
    | error e => exact hclean.elim
    | ok n =>
      cases ec with
      | failed written => exact hclean.elim
      | ok => rw [Bridge.State.handle_ok]; rfl
  | _ => exact hclean.elim

namespace Server

section Liveness

variable [SizeLayout] [JsonLibrary] {sessionClass : SessionClass} {s t : Server} {l : Label}

/-- As long as nothing fails, no exception escapes. -/
lemma escaped_of_clean (h : Move sessionClass s l t) (hclean : l.IsClean) :
    t.escaped = s.escaped := by
  by_cases hbridge : ∃ sender receiver bl, l = .bridge sender receiver bl
  · obtain ⟨sender, receiver, bl, rfl⟩ := hbridge
    cases h with
    | bridge pre j post l b hidle hj hown hb => exact hb.escaped_eq hclean
  · exact escaped_of_move h fun sender receiver bl heq => hbridge ⟨sender, receiver, bl, heq⟩

/-- The server by itself makes no connection less live, as long as nothing fails and it does not
close the connection. -/
lemma live_of_own (h : Move sessionClass s l t) (hown : l.IsOwn) (hclean : l.IsClean) {c : ConnId}
    (hl : l ≠ .performs (.close c)) (hlive : (s.conn c).socket.Live) :
    (t.conn c).socket.Live := by
  have hkept := keeps_of_own (fun k => (k.socket.connectivity, k.socket.ended)) h hown
    (fun _ _ _ _ => rfl) (Or.inr ⟨hclean, hl⟩)
  exact ⟨(congrArg Prod.fst hkept).trans hlive.1, (congrArg Prod.snd hkept).trans hlive.2⟩

/-! ## Writes that return -/

/-- The connection to which a step without a failure writes. -/
def Label.writesTo : Label → Option ConnId
  | .performs (.sendChunk session _) => some session
  | .bridge sender receiver (.handle op (.ok _) .ok) =>
    match Bridge.destination op.handler with
    | .one => some sender
    | .two => some receiver
  | _ => none

/-- The steps of a proxy whose writes return only where `returns` says so: `boost::asio::write` goes
on until the peer has taken everything. -/
def ReturningStep (returns : Server → ConnId → Prop) (s : Server) (l : Label) (t : Server) : Prop :=
  Step .proxySession s l t ∧ ∀ c ∈ l.writesTo, returns s c

/-- What is written to without a failure is connected. -/
lemma connected_of_writesTo (h : Move sessionClass s l t) {c : ConnId} (hc : c ∈ l.writesTo) :
    s.Connected c := by
  cases h with
  | performs a rest hplan hcan =>
    cases a with
    | sendChunk session message =>
      obtain rfl : session = c := Option.some.inj hc
      exact hcan
    | _ => cases hc
  | bridge pre j post l b hidle hj hown hb =>
    cases hb with
    | handle op result ec hready hesc hec =>
      have hconnected : ec = .ok → s.Connected (j.connOf (Bridge.destination op.handler)) := by
        rintro rfl
        rw [bridgeState_peer] at hec
        by_contra hlost
        cases hec hlost
      cases result with
      | error e => cases hc
      | ok n =>
        cases ec with
        | failed written => cases hc
        | ok =>
          have hend := hconnected rfl
          cases hp : Bridge.destination op.handler <;>
            simp only [Label.writesTo, hp, Option.mem_def, Option.some.injEq] at hc <;>
            rw [hp] at hend <;> exact hc ▸ hend
    | _ => cases hc
  | _ => cases hc

/-! ## A proxy that uses live connections only -/

/-- What holds of a proxy in which nothing has failed, whatever its peers do. -/
structure Orderly (s : Server) : Prop where
  clean : CleanInv s
  escaped : s.escaped = none
  last : ClosesLast s.plan
  leaves : ∀ c, (s.view c).Leaves c

/-- It holds at the start. -/
lemma orderly_init : Orderly init :=
  ⟨cleanInv_init, rfl, trivial, fun c hmem => by cases hmem⟩

/-- It is kept by every step in which nothing fails. -/
lemma Orderly.step (hi : Orderly s) (h : Step .proxySession s l t) (hclean : l.IsClean) :
    Orderly t where
  clean := hi.clean.step h hclean
  escaped := (escaped_of_clean h.2 hclean).trans hi.escaped
  last := closesLast_of_move h.2 hi.last
  leaves c := by
    have hmove := view_move hi.clean.pairing.inv.tidy h.2 c
    rw [hclean.isFailure] at hmove
    exact (hi.leaves c).move (hi.clean.pairing.inv.session c) hmove

/-- It holds in every run in which nothing fails. -/
lemma orderly_of_run {ls : List Label} (hrun : Transition.Run (Step .proxySession) init ls s)
    (hclean : ∀ l ∈ ls, l.IsClean) : Orderly s :=
  hrun.invariant_of_labels hclean orderly_init fun _ _ _ hl hi hs => hi.step hs hl

/-- All connections that the server uses are live. -/
def UsesLive (s : Server) : Prop := ∀ c, (s.view c).Uses → (s.conn c).socket.Live

/-- The server by itself uses live connections only, as long as nothing fails. -/
lemma UsesLive.step (hlive : s.UsesLive) (hi : Orderly s) (h : Step .proxySession s l t)
    (hown : l.IsOwn) (hclean : l.IsClean) : t.UsesLive := by
  intro c huses
  by_cases hl : l = .performs (.close c)
  · -- A connection that is closed is not used any more.
    subst hl
    obtain ⟨-, hmove⟩ := h
    cases hmove with
    | performs a rest hplan hcan =>
      have hmem : .close c ∈ (s.view c).todo := by
        refine List.mem_filter.mpr ⟨hplan ▸ List.mem_cons_self, by simp [Action.sessions]⟩
      have howners := hi.leaves c hmem
      have hlast := hi.last
      rw [hplan] at hlast
      obtain rfl : rest = [] := hlast
      have hreads : ((s.updateSocket c Socket.close).conn c).reads = (s.conn c).reads :=
        reads_updateSocket c Socket.close c
      rcases huses with howned | htodo
      · refine absurd ?_ howned
        change ((s.updateSocket c Socket.close).conn c).reads.length +
          waiting s.sendersSessions c + 0 + (s.view c).joins.length = 0
        rw [hreads]
        change (s.conn c).reads.length + waiting s.sendersSessions c + _ +
          (s.view c).joins.length = 0 at howners
        omega
      · exact absurd rfl htodo
  · have hmove := view_move hi.clean.pairing.inv.tidy h.2 c
    rw [hclean.isFailure] at hmove
    exact live_of_own h.2 hown hclean hl
      (hlive c (hmove.uses (accepted_sent_of_own h.2 hown c).1 huses))

/-- No operation of such a proxy has to fail. -/
lemma Orderly.sound (hi : Orderly s) (hlive : s.UsesLive) : s.Sound where
  plan a rest hplan := by
    have hmem : ∀ c ∈ a.sessions, a ∈ (s.view c).todo := fun c hc =>
      List.mem_filter.mpr ⟨hplan ▸ List.mem_cons_self, by simpa using hc⟩
    have hsession : ∀ c ∈ a.sessions, s.Connected c := fun c hc =>
      (hlive c (Or.inr (List.ne_nil_of_mem (hmem c hc)))).1
    cases a with
    | sendChunk session message => exact hsession session (by simp [Action.sessions])
    | asyncReadMessage session messageHandler maxMessageSize =>
      obtain ⟨stage, -, hin⟩ := (hi.clean.pairing.inv.session session).inStage
      have hawaits := hin.todo _ (hmem session (by simp [Action.sessions]))
      cases stage with
      | greeting => exact hawaits.2.trans_le (by decide)
      | serving => exact hawaits.2.le
      | _ => exact hawaits.elim
    | startBridge sender receiver =>
      exact ⟨hsession sender (by simp [Action.sessions]),
        hsession receiver (by simp [Action.sessions])⟩
    | shutdown session => exact hsession session (by simp [Action.sessions])
    | close session => trivial
  reads c hreads := by
    obtain ⟨read, hread⟩ := List.exists_mem_of_ne_nil _ hreads
    exact hlive c (Or.inl (SessionInv.owners_of_mem_reads hread))
  bridges j hj p := by
    rw [bridgeState_peer]
    refine hlive _ (Or.inl ?_)
    have hpos := List.length_pos_of_mem (mem_joins hj p)
    rw [View.owners]
    omega
  ready j hj := (hi.clean.armed j hj).ok

/-- The steps that such a proxy makes by itself without a failure use up what is left to do. -/
lemma settles_clean (cs : Finset ConnId) : Transition.Settles (Step .proxySession)
    (fun s => (Inv .proxySession s ∧ ∀ c, (s.conn c).accepted = true → c ∈ cs) ∧ Orderly s ∧
      s.UsesLive) (fun l => l.IsOwn ∧ l.IsClean) (work cs) where
  keeps := by
    rintro s l t ⟨hI, hi, hlive⟩ ⟨hown, hclean⟩ hs
    exact ⟨(settles cs).keeps hI hown hs, hi.step hs hclean, hlive.step hi hs hown hclean⟩
  decreases := by
    rintro s l t ⟨hI, -⟩ ⟨hown, -⟩ hs
    exact (settles cs).decreases hI hown hs

/-- As long as it uses live connections only, and the writes to connected peers return, a proxy in
which nothing has failed comes to rest by itself and without a failure, and owes nothing then to a
session that has logged in. -/
theorem comes_to_clean_rest {returns : Server → ConnId → Prop}
    (hreturns : ∀ r c, r.Connected c → returns r c) {ls : List Label}
    (hrun : Transition.Run (Step .proxySession) init ls s) (hclean : ∀ l ∈ ls, l.IsClean)
    (hlive : s.UsesLive) :
    ∃ ms t, Transition.Run (ReturningStep returns) s ms t ∧ (∀ l ∈ ms, l.IsOwn ∧ l.IsClean) ∧
      t.Resting ∧ ∀ c, LoggedIn (t.conn c).socket.log → ∃ k, t.Says c k ∧ t.Settled c k := by
  let cs := (ls.filterMap Label.accepts).toFinset
  have hcs : ∀ c, (s.conn c).accepted = true → c ∈ cs :=
    fun c hc => List.mem_toFinset.mpr (accepted_of_run hrun hc)
  have hI := And.intro (And.intro (inv_of_run hrun) hcs)
    (And.intro (orderly_of_run hrun hclean) hlive)
  have hprogress : ∀ r : Server, ((Inv .proxySession r ∧ ∀ c, (r.conn c).accepted = true → c ∈ cs) ∧
      Orderly r ∧ r.UsesLive) → r.Resting ∨ ∃ l t, (l.IsOwn ∧ l.IsClean) ∧
        Step .proxySession r l t := by
    rintro r ⟨-, hi, hr⟩
    rcases exists_own hi.escaped with hrest | ⟨l, t, hown, hs, hsound⟩
    · exact Or.inl hrest
    · exact Or.inr ⟨l, t, ⟨hown, hsound (hi.sound hr)⟩, hs⟩
  obtain ⟨ms, t, hrun', hown, ⟨-, hi, -⟩, hrest⟩ :=
    (settles_clean cs).exists_run_to_rest hprogress hI
  have hreturning : Transition.Run (ReturningStep returns) s ms t :=
    hrun'.mono fun r l r' hs => ⟨hs, fun c hc => hreturns r c (connected_of_writesTo hs.2 hc)⟩
  exact ⟨ms, t, hreturning, hown, hrest, fun c hlogin => hi.clean.exists_settled hrest hlogin⟩

end Liveness

/-- A proxy that has still to tell a streamer to start relays what the streamer has written, to a
receiver that reads whatever it is sent. -/
theorem comes_to_clean_rest_acknowledging :
    letI := littleEndian
    letI := Json.stringObjects
    ∃ s : Server, s.plan ≠ [] ∧ (s.conn 0).socket.unread = [72, 105] ∧
      ∃ ms t, Transition.Run (ReturningStep Connected) s ms t ∧ (∀ l ∈ ms, l.IsOwn ∧ l.IsClean) ∧
        t.Resting ∧ ∀ c, LoggedIn (t.conn c).socket.log → ∃ k, t.Says c k ∧ t.Settled c k := by
  let := littleEndian
  let := Json.stringObjects
  obtain ⟨ls, s, hrun, hs⟩ := exists_run_of_replay .proxySession (s := init)
    (acknowledges ++ [.peerWrites 0 [72, 105]])
    (fun ls s => (∀ l ∈ ls, l.IsClean) ∧ ls.filterMap Label.accepts = [0, 1] ∧
      (s.conn 0).socket.Live ∧ (s.conn 1).socket.Live ∧ s.plan ≠ [] ∧
      (s.conn 0).socket.unread = [72, 105])
    (by decide +kernel)
  obtain ⟨hclean, haccepts, hzero, hone, hplan, hunread⟩ := of_decide_eq_true hs
  have hlive : s.UsesLive := by
    intro c huses
    have hsession := (inv_of_run hrun).session c
    have haccepted : (s.conn c).accepted = true := by
      by_contra hnew
      obtain ⟨howners, htodo, -⟩ := hsession.fresh (Bool.eq_false_iff.mpr hnew)
      exact huses.elim (absurd howners) (absurd htodo)
    have hmem := accepted_of_run hrun haccepted
    rw [haccepts] at hmem
    obtain rfl | rfl : c = 0 ∨ c = 1 := by simpa using hmem
    · exact hzero
    · exact hone
  exact ⟨s, hplan, hunread, comes_to_clean_rest (fun _ _ h => h) hrun hclean hlive⟩

end Server

end ScreenViewer
