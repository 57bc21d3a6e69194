import Mathlib
import ScreenViewer.Lib.Matchmaking
import ScreenViewer.Server.Ownership
import ScreenViewer.Server.Script

/-!
# The server as a matchmaker

Seen from afar, a server lets parties in, keeps the offer of one of them under a code, and pairs it
with whoever asks for the code: this is a matchmaker.  `Server.matchmaker` reads the standing of
each connection off its log and the offers off the registry.  Every step of a server is a run of the
matchmaker (`exists_run_of_step`), whatever fails and whenever the cleaner comes by, so that every
run of a server refines one of the matchmaker, in which the parties are let in, make offers and are
paired exactly when the logs say so (`refines_matchmaking`).
-/

namespace ScreenViewer

open SocketBase AuthenticatedSession ServerSessionsManager Matchmaking

/-! ## How the sessions stand -/

/-- What an entry says of the standing of its session. -/
def Entry.standing? : Entry → Option (Standing ConnId)
  | .authenticateCallback _ | .rejectedHeader _ | .dropped => some .left
  | .credentialCheck _ _ (.ok true) => some .admitted
  | .registered _ => some .offering
  | .claimed receiver => some (.host receiver)
  | .found _ streamer => some (.guest streamer)
  | _ => none

/-- How a session stands: the last entry that says so decides. -/
def standing (log : List Entry) : Standing ConnId :=
  ((log.filterMap Entry.standing?).getLast?).getD .stranger

/-- How a session stands in a stage, as long as the registry has not let go of it. -/
def Stage.standing : Stage → Standing ConnId
  | .greeting => .stranger
  | .refused | .rejected => .left
  | .serving => .admitted
  | .registered => .offering
  | .claimed receiver => .host receiver
  | .found streamer => .guest streamer

section Standing

variable {log extra : List Entry}

lemma standing_append (log extra : List Entry) :
    standing (log ++ extra) =
      ((extra.filterMap Entry.standing?).getLast?).getD (standing log) := by
  rw [standing, List.filterMap_append, List.getLast?_append]
  cases (extra.filterMap Entry.standing?).getLast? <;> rfl

/-- Entries that are neither part of the conversation nor lets-go change nothing. -/
lemma standing_append_of_quiet (h : ∀ e ∈ extra, e.isTalk = false ∧ e ≠ .dropped) :
    standing (log ++ extra) = standing log := by
  have hnone : extra.filterMap Entry.standing? = [] := by
    refine List.filterMap_eq_nil_iff.mpr fun e he => ?_
    obtain ⟨htalk, hdropped⟩ := h e he
    cases e <;> first | rfl | exact absurd rfl hdropped | cases htalk
  rw [standing_append, hnone]
  rfl

/-- A session that the registry lets go of has left. -/
lemma standing_append_dropped (n : ℕ) :
    standing (log ++ List.replicate n .dropped) = if n = 0 then standing log else .left := by
  have hleft : (List.replicate n Entry.dropped).filterMap Entry.standing? =
      List.replicate n .left := by
    rw [List.filterMap_replicate]
    rfl
  rw [standing_append, hleft, List.getLast?_replicate]
  split <;> rfl

/-- Only the conversation tells how a session stands that the registry has not let go of. -/
lemma standing_talk (h : .dropped ∉ log) : standing (talk log) = standing log := by
  have heq : (talk log).filterMap Entry.standing? = log.filterMap Entry.standing? := by
    rw [talk, List.filterMap_filter]
    refine List.filterMap_congr fun e he => ?_
    cases e <;> first | rfl | exact absurd he h
  rw [standing, heq]
  rfl

/-- A conversation that leads to a stage tells the standing. -/
lemma Talk.standing_eq [JsonLibrary] {sessionClass : SessionClass} {c : ConnId} {stage : Stage}
    (h : Talk sessionClass c log stage) : standing log = stage.standing := by
  induction h with
  | greeting => rfl
  | rejectedFirst header => rfl
  | refused message checks h =>
    rcases h with rfl | ⟨email, password, result, hresult, rfl⟩
    · rfl
    · match result with
      | .ok true => exact absurd rfl hresult
      | .ok false => rfl
      | .error what => rfl
  | login message email password h hlen => rfl
  | answered message isRegistered hl h ih => rw [standing_append, ih]; rfl
  | rejected header hl ih => rw [standing_append]; rfl
  | registered message isRegistered hl hclass h ih => rw [standing_append]; rfl
  | claimed receiver hl hne ih => rw [standing_append]; rfl
  | found message streamer hl hclass h hne ih => rw [standing_append]; rfl

end Standing

section Views

variable [SizeLayout] [JsonLibrary] {sessionClass : SessionClass} {c : ConnId} {v : View}

/-- The registry lets go of registered sessions only. -/
lemma SessionInv.dropped_notMem (hi : SessionInv sessionClass c v) {stage : Stage}
    (htalk : Talk sessionClass c (talk v.log) stage)
    (hstage : Server.Stage.registrations stage = 0) : .dropped ∉ v.log := by
  have hcount := Server.count_registered_talk htalk
  rw [talk, List.count_filter rfl, hstage] at hcount
  have hregistrations := hi.registrations
  refine List.count_eq_zero.mp ?_
  omega

/-- How a session stands whose header is read. -/
lemma SessionInv.standing_of_reads (hi : SessionInv sessionClass c v) {read : PendingRead}
    (hread : read ∈ v.reads) : standing v.log = .stranger ∨ standing v.log = .admitted := by
  obtain ⟨stage, htalk, hin⟩ := hi.inStage
  have hawaits := hin.reads _ hread
  have hstanding : Server.Stage.registrations stage = 0 → standing v.log = stage.standing := by
    intro hstage
    rw [← standing_talk (hi.dropped_notMem htalk hstage), htalk.standing_eq]
  cases stage with
  | greeting => exact Or.inl (hstanding rfl)
  | serving => exact Or.inr (hstanding rfl)
  | _ => cases read <;> exact hawaits.elim

/-- How a session stands whose first message is read. -/
lemma SessionInv.standing_of_first (hi : SessionInv sessionClass c v) {header : MessageHeader}
    (hread : .body .authenticateCallback header ∈ v.reads) : standing v.log = .stranger := by
  obtain ⟨stage, htalk, hin⟩ := hi.inStage
  have hawaits := hin.reads _ hread
  cases stage with
  | greeting =>
    rw [← standing_talk (hi.dropped_notMem htalk rfl), htalk.standing_eq]
    rfl
  | serving => cases hawaits.1
  | _ => exact hawaits.elim

/-- How a session stands whose later message is read. -/
lemma SessionInv.standing_of_later (hi : SessionInv sessionClass c v) {header : MessageHeader}
    (hread : .body .handleRead header ∈ v.reads) : standing v.log = .admitted := by
  obtain ⟨stage, htalk, hin⟩ := hi.inStage
  have hawaits := hin.reads _ hread
  cases stage with
  | greeting => cases hawaits.1
  | serving =>
    rw [← standing_talk (hi.dropped_notMem htalk rfl), htalk.standing_eq]
    rfl
  | _ => exact hawaits.elim

end Views

/-! ## Letting go of sessions -/

/-- The registry is left by some entries, and their sessions are let go of. -/
def LetsGo (sendersSessions : Registry) (r : Registry × List ConnId) (codes : Finset Code) : Prop :=
  (∀ code, r.1.lookup code = if code ∈ codes then none else sendersSessions.lookup code) ∧
    ∀ c, r.2.count c = 0 ↔
      ¬ ∃ code ∈ codes, (sendersSessions.lookup code).map (·.clientSession) = some c

section LetsGo

variable (sendersSessions : Registry)

variable {sendersSessions} in
/-- The entries of a map are those that are kept and those that are erased. -/
lemma letsGo_of_perm {r : Registry × List ConnId} {erased : List (Sigma fun _ : Code =>
    TimedClientSession)} (hperm : (r.1.entries ++ erased).Perm sendersSessions.entries)
    (hdropped : r.2 = erased.map fun it => it.2.clientSession) :
    LetsGo sendersSessions r (erased.map Sigma.fst).toFinset := by
  have hlookup : ∀ code node, sendersSessions.lookup code = some node ↔
      ⟨code, node⟩ ∈ r.1.entries ++ erased := by
    intro code node
    rw [hperm.mem_iff]
    exact AList.mem_lookup_iff
  have hnodup : ((r.1.entries ++ erased).map Sigma.fst).Nodup :=
    (hperm.map Sigma.fst).nodup_iff.mpr sendersSessions.nodupKeys
  rw [List.map_append, List.nodup_append] at hnodup
  refine ⟨fun code => ?_, fun c => ?_⟩
  · by_cases hcode : code ∈ erased.map Sigma.fst
    · rw [if_pos (List.mem_toFinset.mpr hcode)]
      refine AList.lookup_eq_none.mpr fun hmem => ?_
      exact hnodup.2.2 code hmem code hcode rfl
    · rw [if_neg (mt List.mem_toFinset.mp hcode)]
      refine Option.ext fun node => ?_
      have hnot : (⟨code, node⟩ : Sigma fun _ : Code => TimedClientSession) ∉ erased :=
        fun hmem => hcode (List.mem_map.mpr ⟨_, hmem, rfl⟩)
      rw [hlookup, List.mem_append, or_iff_left hnot]
      exact AList.mem_lookup_iff
  · rw [List.count_eq_zero, hdropped, not_iff_not]
    simp only [List.mem_map, List.mem_toFinset]
    constructor
    · rintro ⟨⟨code, node⟩, hmem, rfl⟩
      refine ⟨code, ⟨_, hmem, rfl⟩, ?_⟩
      rw [(hlookup code node).mpr (List.mem_append_right _ hmem)]
      rfl
    · rintro ⟨code, ⟨⟨code', node⟩, hmem, rfl⟩, hc⟩
      rw [(hlookup code' node).mpr (List.mem_append_right _ hmem)] at hc
      exact ⟨_, hmem, Option.some_injective _ hc⟩

/-- The cleaner lets go of what it erases. -/
lemma letsGo_terminateTimeoutClients (overflow : DurationOverflow) (clientTimeout : Seconds)
    (now : ℕ → Time) :
    ∃ codes, LetsGo sendersSessions
      (terminateTimeoutClients overflow sendersSessions clientTimeout now) codes :=
  ⟨_, letsGo_of_perm (terminateLoop_perm overflow clientTimeout now 0 sendersSessions.entries) rfl⟩

/-- `reset` lets go of everything. -/
lemma letsGo_reset : ∃ codes, LetsGo sendersSessions (reset sendersSessions) codes :=
  ⟨_, letsGo_of_perm (List.Perm.refl _) rfl⟩

/-- Registering lets go of the streamer that was registered under the code. -/
lemma letsGo_registerStreamer (sender : ConnId) (now : Time) :
    (∀ code, (registerStreamer sendersSessions sender now).2.1.lookup code =
      if code = sessionId then some { clientSession := sender, timePoint := now }
      else sendersSessions.lookup code) ∧
    ∀ c, (registerStreamer sendersSessions sender now).2.2.count c = 0 ↔
      (sendersSessions.lookup sessionId).map (·.clientSession) ≠ some c := by
  unfold registerStreamer
  cases hlookup : sendersSessions.lookup sessionId with
  | some node =>
    refine ⟨fun code => ?_, fun c => ?_⟩
    · by_cases hcode : code = sessionId
      · rw [hcode, if_pos rfl]
        exact AList.lookup_insert _
      · rw [if_neg hcode]
        exact (AList.lookup_insert_ne hcode).trans (AList.lookup_erase_ne hcode)
    · simp [List.count_singleton]
  | none =>
    refine ⟨fun code => ?_, fun c => by simp⟩
    by_cases hcode : code = sessionId
    · rw [hcode, if_pos rfl]
      exact AList.lookup_insert _
    · rw [if_neg hcode]
      exact AList.lookup_insert_ne hcode

end LetsGo

namespace Server

/-! ## What a move leaves in the logs -/

section Moves

variable [SizeLayout] [JsonLibrary] {sessionClass : SessionClass} {s t : Server}

/-- What a move adds to the logs, and what it does to the registry. -/
inductive Marked (sessionClass : SessionClass) (s t : Server) (extra : ConnId → List Entry) : Prop
  /-- Nothing happens that the conversations are about. -/
  | quiet (hextra : ∀ c, ∀ e ∈ extra c, e.isTalk = false ∧ e ≠ .dropped)
      (hsessions : t.sendersSessions = s.sendersSessions)
  /-- A header is rejected. -/
  | rejected (c : ConnId) (read : PendingRead) (header : Bytes) (hread : read ∈ (s.conn c).reads)
      (hextra : ∀ d, extra d = entriesOf d [(c, .rejectedHeader header)])
      (hsessions : t.sendersSessions = s.sendersSessions)
  /-- A handler runs as far as its locked step. -/
  | handled (c : ConnId) (messageHandler : MessageHandler) (header : MessageHeader)
      (message : Message) (now : Time) (e : Effect)
      (hread : .body messageHandler header ∈ (s.conn c).reads)
      (he : Handled sessionClass s.sendersSessions c now message messageHandler e)
      (hextra : ∀ d, extra d = entriesOf d e.marks)
      (hsessions : t.sendersSessions = e.sendersSessions)
  /-- The registry lets go of sessions. -/
  | letGo (r : Registry × List ConnId) (codes : Finset Code)
      (h : LetsGo s.sendersSessions r codes)
      (hextra : ∀ d, extra d = List.replicate (r.2.count d) .dropped)
      (hsessions : t.sendersSessions = r.1)

omit [SizeLayout] in
/-- A move that changes one socket and adds nothing of interest to its log. -/
lemma marked_of_log {entries : ConnId → List Entry}
    (hlog : ∀ c, (t.conn c).socket.log = (s.conn c).socket.log ++ entries c)
    (hentries : ∀ c, ∀ e ∈ entries c, e.isTalk = false ∧ e ≠ .dropped)
    (hsessions : t.sendersSessions = s.sendersSessions) :
    ∃ extra : ConnId → List Entry,
      (∀ c, (t.conn c).socket.log = (s.conn c).socket.log ++ extra c) ∧
        Marked sessionClass s t extra :=
  ⟨entries, hlog, Marked.quiet hentries hsessions⟩

omit [SizeLayout] in
/-- The logs stay as they are. -/
lemma marked_of_log_eq (hlog : ∀ c, (t.conn c).socket.log = (s.conn c).socket.log)
    (hsessions : t.sendersSessions = s.sendersSessions) :
    ∃ extra : ConnId → List Entry,
      (∀ c, (t.conn c).socket.log = (s.conn c).socket.log ++ extra c) ∧
        Marked sessionClass s t extra :=
  marked_of_log (fun c => (hlog c).trans (List.append_nil _).symm) (by simp) hsessions

omit [SizeLayout] [JsonLibrary] in
/-- A connection is changed apart from its log. -/
lemma log_updateConn (c : ConnId) (f : Connection → Connection)
    (hf : (f (s.conn c)).socket.log = (s.conn c).socket.log) (d : ConnId) :
    ((s.updateConn c f).conn d).socket.log = (s.conn d).socket.log := by
  by_cases hd : d = c
  · subst hd
    simpa [updateConn] using hf
  · simp [updateConn, hd]

omit [SizeLayout] [JsonLibrary] in
/-- An entry is added to a log. -/
lemma log_updateSocket_record (c : ConnId) (e : Entry) (d : ConnId) :
    ((s.updateSocket c (·.record e)).conn d).socket.log =
      (s.conn d).socket.log ++ if d = c then [e] else [] := by
  by_cases hd : d = c
  · subst hd
    simp [updateSocket, updateConn, Socket.record]
  · simp [updateSocket, updateConn, hd]

/-- Every move is of one of the kinds. -/
lemma marked_of_move {l : Label} (h : Move sessionClass s l t) :
    ∃ extra : ConnId → List Entry,
      (∀ c, (t.conn c).socket.log = (s.conn c).socket.log ++ extra c) ∧
        Marked sessionClass s t extra := by
  have hsingle : ∀ {c : ConnId} {e : Entry}, e.isTalk = false → e ≠ .dropped →
      ∀ d, ∀ e' ∈ (if d = c then [e] else []), e'.isTalk = false ∧ e' ≠ .dropped := by
    intro c e htalk hdropped d e' he'
    split at he'
    · rw [List.mem_singleton.mp he']
      exact ⟨htalk, hdropped⟩
    · cases he'
  cases h with
  | headerRejected c messageHandler maxMessageSize what hidle hread hlen hheader =>
    refine ⟨_, fun d => ?_, Marked.rejected c _ ((s.conn c).socket.unread.take MessageHeader.size)
      hread (fun d => rfl) rfl⟩
    exact congrArg (· ++ _) (log_updateConn c _ rfl d)
  | bodyCompletes c messageHandler header usersManager now hidle hread hlen =>
    refine ⟨_, fun d => ?_, Marked.handled c messageHandler header _ now _ hread
      (handled_invoke usersManager messageHandler) (fun d => rfl)
      (sendersSessions_runHandler _ _ _)⟩
    rw [conn_runHandler]
    exact congrArg (· ++ _) (log_updateConn c _ rfl d)
  | performs a rest hplan hcan =>
    cases a with
    | sendChunk session message =>
      exact marked_of_log (log_updateSocket_record session (.frame message))
        (hsingle rfl (by simp)) rfl
    | asyncReadMessage session messageHandler maxMessageSize =>
      exact marked_of_log_eq
        (log_updateConn session (fun k => { k with reads := k.reads ++ [_] }) rfl) rfl
    | startBridge sender receiver => exact marked_of_log_eq (fun _ => rfl) rfl
    | shutdown session => exact marked_of_log_eq (fun _ => rfl) rfl
    | close session =>
      exact marked_of_log_eq
        (log_updateConn session (fun k => { k with socket := k.socket.close }) rfl) rfl
  | throws a rest what written hplan hcan =>
    have hsessions : ((s.performPartly a written).catchException what).sendersSessions =
        s.sendersSessions := by
      rw [sendersSessions_catchException]
      cases a <;> rfl
    cases a with
    | sendChunk session message =>
      have hlog := log_updateSocket_record (s := s) session (.torn message written)
      rw [← conn_catchException _ what] at hlog
      exact marked_of_log hlog (hsingle rfl (by simp)) hsessions
    | startBridge sender receiver =>
      refine marked_of_log_eq (fun d => ?_) hsessions
      have hsender := log_updateConn (s := s) sender
        (fun k => { k with socket := k.socket.close }) rfl d
      have hreceiver := log_updateConn (s := s.updateSocket sender Socket.close) receiver
        (fun k => { k with socket := k.socket.close }) rfl d
      rw [conn_catchException]
      exact hreceiver.trans hsender
    | _ => exact marked_of_log_eq (fun d => by rw [conn_catchException]; rfl) hsessions
  | terminateTimeoutClients overflow clientTimeout now =>
    obtain ⟨codes, hcodes⟩ :=
      letsGo_terminateTimeoutClients s.sendersSessions overflow clientTimeout now
    exact ⟨_, fun d => rfl, Marked.letGo _ codes hcodes (fun d => entriesOf_map_dropped _) rfl⟩
  | reset =>
    obtain ⟨codes, hcodes⟩ := letsGo_reset s.sendersSessions
    exact ⟨_, fun d => rfl, Marked.letGo _ codes hcodes (fun d => entriesOf_map_dropped _) rfl⟩
  | bridge pre j post l b hidle hj hown hb =>
    have hmove : Move sessionClass s (.bridge j.sender j.receiver l) (s.putBack pre j post b) :=
      Move.bridge s pre j post l b hidle hj hown hb
    have hblocks : ∀ c, ∃ blocks : List Bytes, ((s.putBack pre j post b).conn c).socket.log =
        (s.conn c).socket.log ++ blocks.map .relayed := by
      intro c
      by_cases hc : c = j.sender ∨ c = j.receiver
      · obtain ⟨n, blocks, -, -, hlog⟩ := relayed_of_move (c := c) hmove hc
        exact ⟨blocks, hlog⟩
      · obtain ⟨hsender, hreceiver⟩ := not_or.mp hc
        exact ⟨[], by simp [putBack, updateSocket, updateConn, hsender, hreceiver]⟩
    choose blocks hlog using hblocks
    refine marked_of_log hlog (fun c e he => ?_) rfl
    obtain ⟨block, -, rfl⟩ := List.mem_map.mp he
    exact ⟨rfl, by simp⟩
  | accept c hidle hnew =>
    exact marked_of_log_eq (log_updateConn c (fun k => { k with accepted := true }) rfl) rfl
  | acceptFails c hidle hnew => exact marked_of_log_eq (log_updateConn c _ rfl) rfl
  | headerAccepted c messageHandler maxMessageSize header hidle hread hlen hheader =>
    exact marked_of_log_eq
      (fun d => (log_updateConn c _ rfl d).trans (log_updateConn c _ rfl d)) rfl
  | peerWrites c | peerEnds c | peerDisconnects c | readFails c | destroys c =>
    exact marked_of_log_eq (log_updateConn c _ rfl) rfl

end Moves

/-! ## The matchmaker -/

/-- The matchmaker that a server is. -/
def matchmaker (s : Server) : Matchmaking.State ConnId Code where
  standing c := standing (s.conn c).socket.log
  offers code := (s.sendersSessions.lookup code).map TimedClientSession.clientSession

/-- The logs of a server tell what has happened to the matchmaker. -/
structure Traces (s : Server) (es : List (Matchmaking.Event ConnId Code)) : Prop where
  enter : ∀ c, .enter c ∈ es ↔ LoggedIn (s.conn c).socket.log
  offer : ∀ c code, .offer c code ∈ es ↔ .registered code ∈ (s.conn c).socket.log
  pair : ∀ code host guest, .pair code host guest ∈ es ↔
    .found code host ∈ (s.conn guest).socket.log

section Matchmaker

variable {s t : Server} {extra : ConnId → List Entry}

/-- What happens in a move is what it adds to the logs. -/
lemma Traces.append {es fs : List (Matchmaking.Event ConnId Code)} (h : s.Traces es)
    (hlog : ∀ c, (t.conn c).socket.log = (s.conn c).socket.log ++ extra c)
    (henter : ∀ c, .enter c ∈ fs ↔ LoggedIn (extra c))
    (hoffer : ∀ c code, .offer c code ∈ fs ↔ .registered code ∈ extra c)
    (hpair : ∀ code host guest, .pair code host guest ∈ fs ↔ .found code host ∈ extra guest) :
    t.Traces (es ++ fs) where
  enter c := by
    rw [List.mem_append, h.enter, henter, hlog]
    simp only [LoggedIn, List.mem_append, exists_or]
  offer c code := by rw [List.mem_append, h.offer, hoffer, hlog, List.mem_append]
  pair code host guest := by rw [List.mem_append, h.pair, hpair, hlog, List.mem_append]

/-- Only one session comes to stand differently. -/
lemma matchmaker_eq_put (hlog : ∀ c, (t.conn c).socket.log = (s.conn c).socket.log ++ extra c)
    (hsessions : t.sendersSessions = s.sendersSessions) (c : ConnId) (x : Standing ConnId)
    (hself : ((extra c).filterMap Entry.standing?).getLast? = some x)
    (hother : ∀ d, d ≠ c → extra d = []) : t.matchmaker = s.matchmaker.put c x := by
  refine Matchmaking.State.ext (funext fun d => ?_) ?_
  · change standing (t.conn d).socket.log = Function.update s.matchmaker.standing c x d
    rw [hlog, standing_append]
    by_cases hd : d = c
    · rw [hd, hself, Function.update_self]
      rfl
    · rw [hother d hd, Function.update_of_ne hd]
      rfl
  · simp only [matchmaker, hsessions, Matchmaking.State.put]

/-- The registry lets go of sessions. -/
lemma matchmaker_eq_withdraw {codes : Finset Code} {r : Registry × List ConnId}
    (hlog : ∀ c, (t.conn c).socket.log = (s.conn c).socket.log ++
      List.replicate (r.2.count c) .dropped)
    (hsessions : t.sendersSessions = r.1) (h : LetsGo s.sendersSessions r codes) :
    t.matchmaker = s.matchmaker.withdraw codes := by
  refine Matchmaking.State.ext (funext fun d => ?_) (funext fun code => ?_)
  · change standing (t.conn d).socket.log = if _ then _ else _
    rw [hlog, standing_append_dropped]
    by_cases hd : r.2.count d = 0
    · rw [if_pos hd]
      exact (if_neg ((h.2 d).mp hd)).symm
    · rw [if_neg hd]
      exact (if_pos (not_not.mp (mt (h.2 d).mpr hd))).symm
  · change (t.sendersSessions.lookup code).map _ = if _ then _ else _
    rw [hsessions, h.1]
    split <;> rfl

end Matchmaker

section Simulation

variable [SizeLayout] [JsonLibrary] {sessionClass : SessionClass} {s t : Server}
  {extra : ConnId → List Entry} {c : ConnId}

/-- What the simulation of a move asks for. -/
def Simulated (s t : Server) : Prop :=
  ∃ fs, Transition.Run Matchmaking.Step s.matchmaker fs t.matchmaker ∧
    ∀ es, s.Traces es → t.Traces (es ++ fs)

omit [SizeLayout] [JsonLibrary] in
/-- Nothing happens to the matchmaker. -/
lemma simulated_of_eq (hlog : ∀ d, (t.conn d).socket.log = (s.conn d).socket.log ++ extra d)
    (heq : t.matchmaker = s.matchmaker) (hcheck : ∀ d, ¬ LoggedIn (extra d))
    (hregistered : ∀ d code, .registered code ∉ extra d)
    (hfound : ∀ d code host, .found code host ∉ extra d) : Simulated s t := by
  refine ⟨[], heq ▸ Transition.Run.nil _, fun es hes => hes.append hlog ?_ ?_ ?_⟩
  · exact fun d => iff_of_false (by simp) (hcheck d)
  · exact fun d code => iff_of_false (by simp) (hregistered d code)
  · exact fun code host guest => iff_of_false (by simp) (hfound guest code host)

omit [SizeLayout] [JsonLibrary] in
/-- A session is let in, or leaves. -/
lemma simulated_of_put (hlog : ∀ d, (t.conn d).socket.log = (s.conn d).socket.log ++ extra d)
    (hsessions : t.sendersSessions = s.sendersSessions) (entries : List Entry)
    (hextra : ∀ d, extra d = entriesOf d (entries.map (c, ·))) {x : Standing ConnId}
    {e : Matchmaking.Event ConnId Code}
    (hlast : (entries.filterMap Entry.standing?).getLast? = some x)
    (hstep : Matchmaking.Step s.matchmaker e (s.matchmaker.put c x))
    (henter : ∀ d, e = .enter d ↔ d = c ∧ LoggedIn entries)
    (hoffer : ∀ d code, e ≠ .offer d code) (hpair : ∀ code host guest, e ≠ .pair code host guest)
    (hentries : ∀ a ∈ entries, (∀ code, a ≠ .registered code) ∧ ∀ code host, a ≠ .found code host) :
    Simulated s t := by
  have hself : extra c = entries := (hextra c).trans (entriesOf_map_self _)
  have hother : ∀ d, d ≠ c → extra d = [] := by
    intro d hd
    rw [hextra, entriesOf_map_of_ne _ hd]
  have hmem : ∀ {d a}, a ∈ extra d → a ∈ entries := by
    intro d a ha
    by_cases hd : d = c
    · rwa [hd, hself] at ha
    · rw [hother d hd] at ha
      cases ha
  have heq : t.matchmaker = s.matchmaker.put c x :=
    matchmaker_eq_put hlog hsessions c x (by rw [hself, hlast]) hother
  refine ⟨[e], heq ▸ Transition.Run.single hstep, fun es hes => hes.append hlog (fun d => ?_)
    (fun d code => ?_) fun code host guest => ?_⟩
  · rw [List.mem_singleton, eq_comm, henter]
    constructor
    · rintro ⟨rfl, hin⟩
      rwa [hself]
    · intro hin
      by_cases hd : d = c
      · subst hd
        exact ⟨rfl, hself ▸ hin⟩
      · obtain ⟨email, password, hcheck⟩ := hin
        rw [hother d hd] at hcheck
        cases hcheck
  · refine iff_of_false (by simpa using (hoffer d code).symm) fun ha => ?_
    exact (hentries _ (hmem ha)).1 code rfl
  · refine iff_of_false (by simpa using (hpair code host guest).symm) fun ha => ?_
    exact (hentries _ (hmem ha)).2 code host rfl

omit [SizeLayout] [JsonLibrary] in
/-- A session leaves. -/
lemma simulated_of_left (hlog : ∀ d, (t.conn d).socket.log = (s.conn d).socket.log ++ extra d)
    (hsessions : t.sendersSessions = s.sendersSessions) (entries : List Entry)
    (hextra : ∀ d, extra d = entriesOf d (entries.map (c, ·)))
    (hlast : (entries.filterMap Entry.standing?).getLast? = some .left)
    (hstanding : s.matchmaker.standing c = .stranger ∨ s.matchmaker.standing c = .admitted)
    (hcheck : ¬ LoggedIn entries)
    (hentries : ∀ a ∈ entries, (∀ code, a ≠ .registered code) ∧ ∀ code host, a ≠ .found code host) :
    Simulated s t :=
  simulated_of_put hlog hsessions entries hextra hlast (Step.leave _ c hstanding) (by simp [hcheck])
    (by simp) (by simp) hentries

omit [SizeLayout] [JsonLibrary] in
/-- A first message is not let in. -/
lemma simulated_of_refusal (hlog : ∀ d, (t.conn d).socket.log = (s.conn d).socket.log ++ extra d)
    (hsessions : t.sendersSessions = s.sendersSessions) {message : Message} {checks : List Entry}
    (hextra : ∀ d, extra d =
      entriesOf d ((.authenticateCallback message :: checks).map (c, ·)))
    (h : Refusal checks) (hstanding : s.matchmaker.standing c = .stranger) : Simulated s t := by
  have hnil : ¬ LoggedIn [] := not_loggedIn_of_talk rfl
  have hnot : ¬ LoggedIn (.authenticateCallback message :: checks) :=
    not_loggedIn_of_refusal h hnil
  refine simulated_of_left hlog hsessions _ hextra ?_ (Or.inl hstanding) hnot ?_
  · rcases h with rfl | ⟨email, password, result, hresult, rfl⟩
    · rfl
    · match result with
      | .ok true => exact absurd rfl hresult
      | .ok false => rfl
      | .error what => rfl
  · rcases h with rfl | ⟨email, password, result, hresult, rfl⟩ <;> simp

omit [SizeLayout] [JsonLibrary] in
/-- A session registers. -/
lemma simulated_of_registered {now : Time} {message : Message} {isRegistered : Bool}
    (hlog : ∀ d, (t.conn d).socket.log = (s.conn d).socket.log ++ extra d)
    (hsessions : t.sendersSessions = (registerStreamer s.sendersSessions c now).2.1)
    (hextra : ∀ d, extra d = entriesOf d ((c, .handleRead message isRegistered) ::
      ((registerStreamer s.sendersSessions c now).2.2.map (·, .dropped) ++
        [(c, .registered sessionId)])))
    (hstanding : s.matchmaker.standing c = .admitted) : Simulated s t := by
  obtain ⟨hlookup, hcount⟩ := letsGo_registerStreamer s.sendersSessions c now
  have hself : extra c = .handleRead message isRegistered ::
      (List.replicate ((registerStreamer s.sendersSessions c now).2.2.count c) .dropped ++
        [.registered sessionId]) := by
    rw [hextra]
    simp
  have hother : ∀ d, d ≠ c → extra d =
      List.replicate ((registerStreamer s.sendersSessions c now).2.2.count d) .dropped := by
    intro d hd
    rw [hextra, entriesOf_cons_of_ne _ _ hd, entriesOf_append, entriesOf_map_dropped,
      entriesOf_cons_of_ne _ _ hd]
    exact List.append_nil _
  have heq : t.matchmaker = s.matchmaker.offer c sessionId := by
    refine Matchmaking.State.ext (funext fun d => ?_) (funext fun code => ?_)
    · change ScreenViewer.standing (t.conn d).socket.log =
        Function.update (s.matchmaker.withdraw {sessionId}).standing c .offering d
      rw [hlog]
      by_cases hd : d = c
      · rw [hd, Function.update_self, hself, ← List.cons_append, ← List.append_assoc,
          standing_append]
        rfl
      · rw [hother d hd, Function.update_of_ne hd, standing_append_dropped]
        have hiff : (∃ k ∈ ({sessionId} : Finset Code), s.matchmaker.offers k = some d) ↔
            ¬ (registerStreamer s.sendersSessions c now).2.2.count d = 0 := by
          rw [hcount d, not_not]
          simp [matchmaker]
        by_cases hd' : (registerStreamer s.sendersSessions c now).2.2.count d = 0
        · rw [if_pos hd']
          exact (if_neg (mt hiff.mp (not_not.mpr hd'))).symm
        · rw [if_neg hd']
          exact (if_pos (hiff.mpr hd')).symm
    · change (t.sendersSessions.lookup code).map _ =
        Function.update (s.matchmaker.withdraw {sessionId}).offers sessionId (some c) code
      rw [hsessions, hlookup]
      by_cases hcode : code = sessionId
      · subst hcode
        simp
      · simp [hcode, Matchmaking.State.withdraw, matchmaker]
  refine ⟨[.offer c sessionId], ?_, fun es hes => hes.append hlog (fun d => ?_)
    (fun d code => ?_) fun code host guest => ?_⟩
  · rw [heq]
    exact Transition.Run.single (Step.offer _ c sessionId hstanding)
  · refine iff_of_false (by simp) ?_
    rintro ⟨email, password, hcheck⟩
    by_cases hd : d = c
    · subst hd
      simp [hself] at hcheck
    · simp [hother d hd] at hcheck
  · by_cases hd : d = c
    · subst hd
      simp [hself]
    · simp [hother d hd, hd]
  · refine iff_of_false (by simp) fun hfound => ?_
    by_cases hd : guest = c
    · subst hd
      simp [hself] at hfound
    · simp [hother guest hd] at hfound

omit [SizeLayout] [JsonLibrary] in
/-- A session finds a streamer. -/
lemma simulated_of_found {message : Message} {streamer : TimedClientSession}
    (hlog : ∀ d, (t.conn d).socket.log = (s.conn d).socket.log ++ extra d)
    (hsessions : t.sendersSessions = s.sendersSessions.erase message.content)
    (hlookup : s.sendersSessions.lookup message.content = some streamer)
    (hextra : ∀ d, extra d = entriesOf d [(c, .handleRead message true),
      (c, .found message.content streamer.clientSession), (streamer.clientSession, .claimed c)])
    (hne : streamer.clientSession ≠ c)
    (hstanding : s.matchmaker.standing c = .admitted) : Simulated s t := by
  have hself : extra c =
      [.handleRead message true, .found message.content streamer.clientSession] := by
    rw [hextra]
    simp [entriesOf_cons_of_ne _ _ hne.symm]
  have hhost : extra streamer.clientSession = [.claimed c] := by
    rw [hextra]
    simp [entriesOf_cons_of_ne _ _ hne]
  have hother : ∀ d, d ≠ c → d ≠ streamer.clientSession → extra d = [] := by
    intro d hd hd'
    rw [hextra]
    simp [entriesOf_cons_of_ne _ _ hd, entriesOf_cons_of_ne _ _ hd']
  have heq : t.matchmaker = s.matchmaker.pair message.content streamer.clientSession c := by
    refine Matchmaking.State.ext (funext fun d => ?_) (funext fun code => ?_)
    · change ScreenViewer.standing (t.conn d).socket.log =
        Function.update (Function.update s.matchmaker.standing streamer.clientSession (.host c)) c
          (.guest streamer.clientSession) d
      rw [hlog, standing_append]
      by_cases hd : d = c
      · rw [hd, hself, Function.update_self]
        rfl
      · rw [Function.update_of_ne hd]
        by_cases hd' : d = streamer.clientSession
        · rw [hd', hhost, Function.update_self]
          rfl
        · rw [hother d hd hd', Function.update_of_ne hd']
          rfl
    · change (t.sendersSessions.lookup code).map _ =
        Function.update s.matchmaker.offers message.content none code
      rw [hsessions]
      by_cases hcode : code = message.content
      · rw [hcode, Function.update_self, AList.lookup_erase]
        rfl
      · rw [Function.update_of_ne hcode, AList.lookup_erase_ne hcode]
        rfl
  have hoffer : s.matchmaker.offers message.content = some streamer.clientSession := by
    simp [matchmaker, hlookup]
  refine ⟨[.pair message.content streamer.clientSession c], ?_, fun es hes => hes.append hlog
    (fun d => ?_) (fun d code => ?_) fun code host guest => ?_⟩
  · rw [heq]
    exact Transition.Run.single (Step.pair _ message.content _ c hoffer hstanding)
  · refine iff_of_false (by simp) ?_
    rintro ⟨email, password, hcheck⟩
    by_cases hd : d = c
    · subst hd
      simp [hself] at hcheck
    · by_cases hd' : d = streamer.clientSession
      · subst hd'
        simp [hhost] at hcheck
      · simp [hother d hd hd'] at hcheck
  · refine iff_of_false (by simp) fun hregistered => ?_
    by_cases hd : d = c
    · subst hd
      simp [hself] at hregistered
    · by_cases hd' : d = streamer.clientSession
      · subst hd'
        simp [hhost] at hregistered
      · simp [hother d hd hd'] at hregistered
  · by_cases hd : guest = c
    · subst hd
      simp [hself]
    · by_cases hd' : guest = streamer.clientSession
      · subst hd'
        simp [hhost, hd]
      · simp [hother guest hd hd', hd]

/-- Every move of a server in order is one of its matchmaker, or none. -/
theorem simulated_of_move (hs : Inv sessionClass s) {l : Label} (h : Move sessionClass s l t) :
    Simulated s t := by
  obtain ⟨extra, hlog, hmarked⟩ := marked_of_move h
  cases hmarked with
  | quiet hextra hsessions =>
    refine simulated_of_eq hlog ?_ (fun d => ?_) (fun d code hmem => ?_) fun d code host hmem => ?_
    · refine Matchmaking.State.ext (funext fun d => ?_) ?_
      · change ScreenViewer.standing (t.conn d).socket.log = _
        rw [hlog, standing_append_of_quiet (hextra d)]
        rfl
      · simp only [matchmaker, hsessions]
    · rintro ⟨email, password, hmem⟩
      cases (hextra d _ hmem).1
    · cases (hextra d _ hmem).1
    · cases (hextra d _ hmem).1
  | rejected c read header hread hextra hsessions =>
    exact simulated_of_left hlog hsessions [.rejectedHeader header] hextra rfl
      ((hs.session c).standing_of_reads hread) (by simp [LoggedIn]) (by simp)
  | letGo r codes hcodes hextra hsessions =>
    have heq : t.matchmaker = s.matchmaker.withdraw codes :=
      matchmaker_eq_withdraw (fun d => by rw [hlog, hextra]) hsessions hcodes
    refine ⟨[.withdraw codes], heq ▸ Transition.Run.single (Step.withdraw _ codes), fun es hes =>
      hes.append hlog (fun d => ?_) (fun d code => ?_) fun code host guest => ?_⟩
    · exact iff_of_false (by simp) (by simp [hextra, LoggedIn])
    · exact iff_of_false (by simp) (by simp [hextra])
    · exact iff_of_false (by simp) (by simp [hextra])
  | handled c messageHandler header message now e hread he hextra hsessions =>
    have hfree : waiting s.sendersSessions c = 0 :=
      hs.tidy.waiting_eq c (List.ne_nil_of_mem hread)
    cases he with
    | login email password h =>
      refine simulated_of_put hlog hsessions
        [.authenticateCallback message, .credentialCheck email password (.ok true)] hextra rfl
        (Step.enter _ c ((hs.session c).standing_of_first hread)) (fun d => ?_) (by simp) (by simp)
        (by simp)
      simp [LoggedIn, eq_comm]
    | refused checks plan h hplan =>
      exact simulated_of_refusal hlog hsessions hextra h ((hs.session c).standing_of_first hread)
    | thrown checks what h =>
      exact simulated_of_refusal hlog hsessions hextra h ((hs.session c).standing_of_first hread)
    | answered isRegistered h =>
      have hquiet : ∀ d, ∀ e ∈ extra d, e = .handleRead message isRegistered := by
        intro d e he
        rw [hextra] at he
        by_cases hd : d = c
        · subst hd
          simpa using he
        · simp [entriesOf_cons_of_ne _ _ hd] at he
      refine simulated_of_eq hlog ?_ (fun d => ?_) (fun d code hmem => ?_)
        fun d code host hmem => ?_
      · refine Matchmaking.State.ext (funext fun d => ?_) ?_
        · have hnone : (extra d).filterMap Entry.standing? = [] := by
            refine List.filterMap_eq_nil_iff.mpr fun e he => ?_
            rw [hquiet d e he]
            rfl
          change ScreenViewer.standing (t.conn d).socket.log = _
          rw [hlog, standing_append, hnone]
          rfl
        · simp only [matchmaker, hsessions]
      · rintro ⟨email, password, hmem⟩
        cases hquiet d _ hmem
      · cases hquiet d _ hmem
      · cases hquiet d _ hmem
    | registered isRegistered hclass h =>
      exact simulated_of_registered hlog hsessions hextra ((hs.session c).standing_of_later hread)
    | found streamer hclass h hlookup =>
      refine simulated_of_found hlog hsessions hlookup hextra (fun heq => ?_)
        ((hs.session c).standing_of_later hread)
      have hpos := AList.valueCount_pos (p := fun node => node.clientSession = c) hlookup heq
      rw [waiting] at hfree
      omega

omit [SizeLayout] [JsonLibrary] in
/-- Nothing has happened to a server that has just been started. -/
lemma traces_init : init.Traces [] := by
  constructor <;> simp [init, Socket.accepted, LoggedIn]

/-- Runs of a server in order are runs of its matchmaker. -/
lemma exists_run_of_run (hi : Inv sessionClass s) {es : List (Matchmaking.Event ConnId Code)}
    (hes : s.Traces es) {ls : List Label} (hrun : Transition.Run (Step sessionClass) s ls t) :
    ∃ fs, Transition.Run Matchmaking.Step s.matchmaker fs t.matchmaker ∧ t.Traces (es ++ fs) := by
  obtain ⟨fs, m, hrun', -, rfl, htraces⟩ : ∃ fs m,
      Transition.Run Matchmaking.Step s.matchmaker fs m ∧
        Inv sessionClass t ∧ t.matchmaker = m ∧ t.Traces (es ++ fs) := by
    refine hrun.simulate
      (R := fun r fs m => Inv sessionClass r ∧ r.matchmaker = m ∧ r.Traces (es ++ fs))
      ⟨hi, rfl, (List.append_nil es).symm ▸ hes⟩ ?_
    rintro r fs r' l q - ⟨hr, rfl, htraces⟩ hs
    obtain ⟨gs, hgs, hnext⟩ := simulated_of_move hr hs.2
    exact ⟨gs, _, hgs, hr.step hs, rfl, List.append_assoc es fs gs ▸ hnext _ htraces⟩
  exact ⟨fs, hrun', htraces⟩

/-- Every run of a server refines a run of a matchmaker, and the logs tell which one; from any state
reached, the matchmaker goes on as the server does. -/
theorem refines_matchmaking {ls ms : List Label}
    (hrun : Transition.Run (Step sessionClass) init ls s)
    (hrun' : Transition.Run (Step sessionClass) s ms t) :
    ∃ es fs, Transition.Run Matchmaking.Step Matchmaking.State.init es s.matchmaker ∧
      s.Traces es ∧ Transition.Run Matchmaking.Step s.matchmaker fs t.matchmaker ∧
      t.Traces (es ++ fs) := by
  obtain ⟨es, hes, htraces⟩ := exists_run_of_run inv_init traces_init hrun
  obtain ⟨fs, hfs, htraces'⟩ := exists_run_of_run (inv_of_run hrun) htraces hrun'
  exact ⟨es, fs, hes, htraces, hfs, htraces'⟩

end Simulation

/-- A streamer registers, and a receiver finds it. -/
theorem refines_matchmaking_paired :
    letI := littleEndian
    letI := Json.stringObjects
    ∃ s : Server, (∃ es fs, Transition.Run Matchmaking.Step Matchmaking.State.init es s.matchmaker ∧
        s.Traces es ∧ Transition.Run Matchmaking.Step s.matchmaker fs s.matchmaker ∧
        s.Traces (es ++ fs)) ∧
      s.matchmaker.standing 0 = .host 1 ∧ s.matchmaker.standing 1 = .guest 0 := by
  let := littleEndian
  let := Json.stringObjects
  obtain ⟨ls, s, hrun, hs⟩ := exists_run_of_replay .proxySession (s := init) acknowledges
    (fun _ s => standing (s.conn 0).socket.log = .host 1 ∧
      standing (s.conn 1).socket.log = .guest 0)
    (by decide +kernel)
  exact ⟨s, refines_matchmaking hrun (Transition.Run.nil s), of_decide_eq_true hs⟩

end Server

end ScreenViewer
