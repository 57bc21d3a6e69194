import Mathlib
import ScreenViewer.Server.Pairing
import ScreenViewer.Server.Refinement

/-!
# Who gets whose bytes

A server hands the bytes of one peer to another one, and to nobody else.  The matchmaker that it
refines says who is paired with whom: partners are two different sessions that have logged in, one
of which has found the other, and nobody has two partners.  The bridges say what is relayed between
them.  Together this is the isolation of the sessions, in every run, whatever fails
(`isolated_of_run`).
-/

namespace ScreenViewer

open SocketBase AuthenticatedSession ServerSessionsManager Matchmaking

/-- A session that has found a streamer has said under which code. -/
lemma Talk.exists_found [JsonLibrary] {sessionClass : SessionClass} {c : ConnId} {l : List Entry}
    {streamer : ConnId} (h : Talk sessionClass c l (.found streamer)) :
    ∃ code, .found code streamer ∈ l := by
  cases h with
  | found message streamer hl hclass h hne => exact ⟨message.content, by simp⟩

/-- Every session registers under the same code. -/
lemma Talk.eq_sessionId [JsonLibrary] {sessionClass : SessionClass} {c : ConnId} {l : List Entry}
    {stage : Stage} (h : Talk sessionClass c l stage) {code : Code} (hmem : .registered code ∈ l) :
    code = sessionId := by
  induction h with
  | greeting => simp at hmem
  | rejectedFirst header => simp at hmem
  | refused message checks h =>
    rcases h with rfl | ⟨email, password, result, -, rfl⟩ <;> simp at hmem
  | login message email password h hlen => simp at hmem
  | answered message isRegistered hl h ih => exact ih (by simpa using hmem)
  | rejected header hl ih => exact ih (by simpa using hmem)
  | registered message isRegistered hl hclass h ih =>
    rcases List.mem_append.mp hmem with hmem | hmem
    · exact ih hmem
    · simpa using hmem
  | claimed receiver hl hne ih => exact ih (by simpa using hmem)
  | found message streamer hl hclass h hne ih => exact ih (by simpa using hmem)

/-- A session was not dropped, unless it is registered. -/
lemma SessionInv.not_dropped [SizeLayout] [JsonLibrary] {sessionClass : SessionClass} {c : ConnId}
    {v : View} (hi : SessionInv sessionClass c v) {stage : Stage}
    (htalk : Talk sessionClass c (talk v.log) stage) (hstage : stage ≠ .registered) :
    .dropped ∉ v.log := by
  have hregistered := Server.count_registered_talk htalk
  rw [talk, List.count_filter rfl] at hregistered
  have hregistrations := hi.registrations
  rw [hregistered] at hregistrations
  generalize hn : List.countP _ _ = n at hregistrations
  refine List.count_eq_zero.mp ?_
  cases stage with
  | registered => exact absurd rfl hstage
  | claimed receiver =>
    -- Its only registration was claimed.
    have hclaimed : 0 < n := by
      rw [← hn]
      exact List.countP_pos_iff.mpr ⟨_, List.mem_of_mem_filter (htalk.claimed_mem rfl), rfl⟩
    change 1 = _ at hregistrations
    omega
  | _ =>
    change 0 = _ at hregistrations
    omega

namespace Server

/-- One of two sessions has found the other one. -/
def Partners (s : Server) (c d : ConnId) : Prop :=
  ∃ code, .found code d ∈ (s.conn c).socket.log ∨ .found code c ∈ (s.conn d).socket.log

/-- Partners are partners of each other. -/
lemma Partners.symm {s : Server} {c d : ConnId} (h : s.Partners c d) : s.Partners d c :=
  h.imp fun _ => Or.symm

/-- The sessions of a server are isolated from each other. -/
structure Isolated [SizeLayout] (s : Server) : Prop where
  /-- Partners are two, and have logged in. -/
  partners : ∀ c d, s.Partners c d →
    c ≠ d ∧ LoggedIn (s.conn c).socket.log ∧ LoggedIn (s.conn d).socket.log
  /-- Nobody has two partners. -/
  partner_unique : ∀ c d d', s.Partners c d → s.Partners c d' → d = d'
  /-- A streamer is found under a code that it has registered, and once. -/
  found : ∀ code streamer c, .found code streamer ∈ (s.conn c).socket.log →
    .registered code ∈ (s.conn streamer).socket.log ∧
      ∀ code' streamer', .found code' streamer' ∈ (s.conn c).socket.log →
        code' = code ∧ streamer' = streamer
  /-- What is relayed to a session was written by its partner, behind the frames that the partner's
  own session has read. -/
  relayed : ∀ c, relayedBytes (s.conn c).socket.log ≠ [] →
    ∃ d, s.Partners c d ∧ relayedBytes (s.conn c).socket.log <+:
      (s.conn d).socket.sent.drop (consumed (s.conn d).socket.log).length

section Partners

variable {s : Server} {c d : ConnId} {es : List (Matchmaking.Event ConnId Code)}

/-- Partners stand as hosts and guests. -/
lemma partners_iff (ht : s.Traces es) (htold : Told es s.matchmaker) :
    s.Partners c d ↔
      s.matchmaker.standing c = .guest d ∨ s.matchmaker.standing d = .guest c := by
  rw [htold.guest_iff, htold.guest_iff, Partners, exists_or]
  simp only [ht.pair]

end Partners

section Isolation

variable [SizeLayout] [JsonLibrary] {sessionClass : SessionClass} {s : Server} {c : ConnId}

/-- The ends of a bridge are partners. -/
lemma partners_of_mem_bridges (hi : Inv sessionClass s) {j : Joined} (hj : j ∈ s.bridges) :
    s.Partners j.receiver j.sender := by
  obtain ⟨stage, htalk, hin⟩ := (hi.session j.receiver).inStage
  obtain ⟨hapart, hstage⟩ := hin.joins _ (mem_joins hj .two)
  obtain rfl := (hstage.resolve_left fun h => hapart h.1.symm).2
  obtain ⟨code, hmem⟩ := htalk.exists_found
  exact ⟨code, Or.inl (List.mem_of_mem_filter hmem)⟩

/-- Bytes are relayed to the ends of bridges only. -/
lemma exists_bridge_of_relayed (hi : Inv sessionClass s)
    (hne : relayedBytes (s.conn c).socket.log ≠ []) :
    ∃ j ∈ s.bridges, ∃ p, c = j.connOf p := by
  have hjoins : (s.view c).joins ≠ [] := by
    intro hnil
    refine hne (List.flatMap_eq_nil_iff.mpr fun e he => ?_)
    cases e with
    | relayed bytes => exact absurd he ((hi.session c).relayed hnil bytes)
    | _ => rfl
  obtain ⟨j, hj, rfl | rfl⟩ := exists_bridge_of_joins hjoins
  · exact ⟨j, hj, .one, rfl⟩
  · exact ⟨j, hj, .two, rfl⟩

/-- A run tells a matchmaker's story. -/
lemma exists_told {ls : List Label} (hrun : Transition.Run (Step sessionClass) init ls s) :
    ∃ es, s.Traces es ∧ Matchmaking.Inv s.matchmaker ∧ Told es s.matchmaker := by
  obtain ⟨es, hrun', ht⟩ := exists_run_of_run inv_init traces_init hrun
  exact ⟨es, ht, inv_and_told_of_run hrun'⟩

/-- Nobody has two partners. -/
lemma partner_unique {ls : List Label} (hrun : Transition.Run (Step sessionClass) init ls s)
    {d d' : ConnId} (h : s.Partners c d) (h' : s.Partners c d') : d = d' := by
  obtain ⟨es, ht, him, htold⟩ := exists_told hrun
  rw [partners_iff ht htold, ← him.host_iff c d] at h
  rw [partners_iff ht htold, ← him.host_iff c d'] at h'
  rcases h with h | h <;> rcases h' with h' | h' <;> rw [h] at h' <;> cases h' <;> rfl

/-- A streamer and whom it was handed to are partners. -/
lemma partners_of_claimed {ls : List Label} (hrun : Transition.Run (Step sessionClass) init ls s)
    {d : ConnId} (htalk : Talk sessionClass c (talk (s.view c).log) (.claimed d)) :
    s.Partners c d := by
  obtain ⟨es, ht, him, htold⟩ := exists_told hrun
  have hdropped : .dropped ∉ (s.view c).log :=
    ((inv_of_run hrun).session c).not_dropped htalk Stage.noConfusion
  have hhost : s.matchmaker.standing c = .host d := by
    change standing (s.view c).log = _
    rw [← standing_talk hdropped, htalk.standing_eq]
    rfl
  exact (partners_iff ht htold).mpr (Or.inr ((him.host_iff c d).mp hhost))

/-- What is relayed to a session was written by a partner. -/
lemma exists_partner_of_relayed {ls : List Label}
    (hrun : Transition.Run (Step sessionClass) init ls s)
    (hne : relayedBytes (s.conn c).socket.log ≠ []) :
    ∃ d, s.Partners c d ∧ relayedBytes (s.conn c).socket.log <+:
      (s.conn d).socket.sent.drop (consumed (s.conn d).socket.log).length := by
  have hi := inv_of_run hrun
  have hbridges := bridgeInv_of_run hrun
  obtain ⟨j, hj, p, rfl⟩ := exists_bridge_of_relayed hi hne
  cases p with
  | one =>
    exact ⟨j.receiver, (partners_of_mem_bridges hi hj).symm,
      (hbridges j hj).relayed .handleUpstreamRead⟩
  | two =>
    exact ⟨j.sender, partners_of_mem_bridges hi hj,
      (hbridges j hj).relayed .handleDownstreamRead⟩

/-- A streamer is found under a code that it has registered. -/
lemma registered_of_found {ls : List Label} (hrun : Transition.Run (Step sessionClass) init ls s)
    {code : Code} {streamer : ConnId} (h : .found code streamer ∈ (s.conn c).socket.log) :
    .registered code ∈ (s.conn streamer).socket.log := by
  obtain ⟨es, ht, him, htold⟩ := exists_told hrun
  exact (ht.offer streamer code).mp
    (htold.of_pair code streamer c ((ht.pair code streamer c).mpr h)).1

/-- In every run the sessions are isolated from each other. -/
theorem isolated_of_run {ls : List Label} (hrun : Transition.Run (Step sessionClass) init ls s) :
    s.Isolated := by
  obtain ⟨es, ht, him, htold⟩ := exists_told hrun
  have hfound : ∀ {code streamer c}, .found code streamer ∈ (s.conn c).socket.log →
      s.matchmaker.standing c = .guest streamer :=
    fun h => (htold.guest_iff _ _).mpr ⟨_, (ht.pair _ _ _).mpr h⟩
  refine ⟨fun c d h => ?_, fun c d d' => partner_unique hrun, fun code streamer c h => ?_,
    fun c => exists_partner_of_relayed hrun⟩
  · have hboth : ∀ c d, s.matchmaker.standing c = .guest d →
        c ≠ d ∧ LoggedIn (s.conn c).socket.log ∧ LoggedIn (s.conn d).socket.log := by
      intro c d hguest
      obtain ⟨code, hpair⟩ := (htold.guest_iff d c).mp hguest
      obtain ⟨hoffer, henter⟩ := htold.of_pair code d c hpair
      exact ⟨(him.host_ne ((him.host_iff d c).mpr hguest)).symm, (ht.enter c).mp henter,
        (ht.enter d).mp (htold.enter_of_offer d code hoffer)⟩
    rcases (partners_iff ht htold).mp h with hguest | hguest
    · exact hboth c d hguest
    · obtain ⟨hne, hd, hc⟩ := hboth d c hguest
      exact ⟨hne.symm, hc, hd⟩
  · refine ⟨registered_of_found hrun h, fun code' streamer' h' => ?_⟩
    have hguest' := hfound h'
    rw [hfound h] at hguest'
    cases hguest'
    exact ⟨htold.pair_unique code' code streamer streamer c ((ht.pair _ _ _).mpr h')
      ((ht.pair _ _ _).mpr h), rfl⟩

/-- A session that is paired, or that has left, stands like this for ever. -/
theorem settled_sessions {t : Server} {ls ms : List Label}
    (hrun : Transition.Run (Step sessionClass) init ls s)
    (hrun' : Transition.Run (Step sessionClass) s ms t) (c : ConnId)
    (hsettled : (standing (s.conn c).socket.log).Settled) :
    standing (t.conn c).socket.log = standing (s.conn c).socket.log := by
  obtain ⟨es, hes, ht⟩ := exists_run_of_run inv_init traces_init hrun
  obtain ⟨fs, hfs, -⟩ := exists_run_of_run (inv_of_run hrun) ht hrun'
  exact settled_of_run hfs (inv_and_told_of_run hes).1 hsettled

end Isolation

/-- A receiver gets what its streamer has written behind the registration. -/
theorem isolated_of_run_relayed :
    letI := littleEndian
    letI := Json.stringObjects
    ∃ s : Server, s.Isolated ∧ relayedBytes (s.conn 1).socket.log = [72, 105] := by
  let := littleEndian
  let := Json.stringObjects
  obtain ⟨ls, s, hrun, hs⟩ := exists_run_of_replay .proxySession (s := init)
    (acknowledges ++ [.peerWrites 0 [72, 105], .performs, .performs,
      .bridge 0 (.readCompletes Bridge.readPeerOne 2),
      .bridge 0 (.handle Bridge.readPeerOne (.ok 2) .ok)])
    (fun _ s => relayedBytes (s.conn 1).socket.log = [72, 105])
    (by decide +kernel)
  exact ⟨s, isolated_of_run hrun, of_decide_eq_true hs⟩

/-- A streamer that was found stays the host of its receiver when another one registers. -/
theorem settled_sessions_host :
    letI := littleEndian
    letI := Json.stringObjects
    ∃ t : Server, standing (t.conn 0).socket.log = .host 1 ∧
      standing (t.conn 2).socket.log = .offering := by
  let := littleEndian
  let := Json.stringObjects
  obtain ⟨ls, s, hrun, hs⟩ := exists_run_of_replay .proxySession (s := init)
    (acknowledges ++ [.performs, .performs])
    (fun _ s => standing (s.conn 0).socket.log = .host 1 ∧
      (replay .proxySession s (logsIn 2 ++
        writes 2 none 0 { type := .registerStreamer, content := [] })).any
          (fun r => standing (r.2.conn 2).socket.log = .offering))
    (by decide +kernel)
  obtain ⟨hhost, hlater⟩ := of_decide_eq_true hs
  obtain ⟨ms, t, hrun', ht⟩ := exists_run_of_replay .proxySession _
    (fun _ t => standing (t.conn 2).socket.log = .offering) hlater
  exact ⟨t, (settled_sessions hrun hrun' 0 (hhost ▸ trivial)).trans hhost, of_decide_eq_true ht⟩

end Server

end ScreenViewer
