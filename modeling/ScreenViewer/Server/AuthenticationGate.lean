import Mathlib
import ScreenViewer.Server.Execution
import ScreenViewer.Server.Invariant

/-!
# The authentication gate

A session does nothing for its peer before the peer has logged in.  The gate is no flag of the code:
it follows from which handler a read is armed with, and the invariant of the connections has it in
the stages of a conversation.  `authentication_gate` puts it in terms of the bytes sent, the log,
the registry and the bridges.
-/

namespace ScreenViewer

open SocketBase AuthenticatedSession ServerSessionsManager

section Talk

variable [JsonLibrary] {sessionClass : SessionClass} {c : ConnId} {l : List Entry} {stage : Stage}

/-- The entries made for a message to a session that has logged in, or for a registration. -/
def Entry.IsService : Entry → Prop
  | .handleRead .. | .registered _ | .claimed _ | .found .. => True
  | _ => False

/-- Whether an entry is a check of credentials. -/
def Entry.isCheck : Entry → Bool
  | .credentialCheck .. => true
  | _ => false

/-- A conversation that is past the login begins with one. -/
lemma Talk.login_of_not_outside (h : Talk sessionClass c l stage) (hstage : ¬ stage.Outside) :
    ∃ message email password rest, IsLogin message email password ∧
      message.content.length ≤ firstMessageMaxSize ∧
      l = .authenticateCallback message :: .credentialCheck email password (.ok true) :: rest := by
  induction h with
  | greeting => exact absurd trivial hstage
  | rejectedFirst header => exact absurd trivial hstage
  | refused message checks h => exact absurd trivial hstage
  | login message email password h hlen => exact ⟨message, email, password, [], h, hlen, rfl⟩
  | answered message isRegistered hl h ih =>
    obtain ⟨m, email, password, rest, hm, hlen, rfl⟩ := ih id
    exact ⟨m, email, password, _, hm, hlen, rfl⟩
  | rejected header hl ih =>
    obtain ⟨m, email, password, rest, hm, hlen, rfl⟩ := ih id
    exact ⟨m, email, password, _, hm, hlen, rfl⟩
  | registered message isRegistered hl hclass h ih =>
    obtain ⟨m, email, password, rest, hm, hlen, rfl⟩ := ih id
    exact ⟨m, email, password, _, hm, hlen, rfl⟩
  | claimed receiver hl hne ih =>
    obtain ⟨m, email, password, rest, hm, hlen, rfl⟩ := ih id
    exact ⟨m, email, password, _, hm, hlen, rfl⟩
  | found message streamer hl hclass h hne ih =>
    obtain ⟨m, email, password, rest, hm, hlen, rfl⟩ := ih id
    exact ⟨m, email, password, _, hm, hlen, rfl⟩

/-- Outside, no service is given. -/
lemma Talk.not_isService (h : Talk sessionClass c l stage) (hstage : stage.Outside) :
    ∀ e ∈ l, ¬ e.IsService := by
  cases h with
  | greeting => simp
  | rejectedFirst header => simp [Entry.IsService]
  | refused message checks h =>
    rcases h with rfl | ⟨email, password, result, -, rfl⟩ <;> simp [Entry.IsService]
  | _ => exact hstage.elim

/-- Outside, no check has succeeded. -/
lemma Talk.not_check (h : Talk sessionClass c l stage) (hstage : stage.Outside)
    (email password : Bytes) : .credentialCheck email password (.ok true) ∉ l := by
  cases h with
  | greeting => simp
  | rejectedFirst header => simp
  | refused message checks h =>
    rcases h with rfl | ⟨email', password', result, hresult, rfl⟩
    · simp
    · simp [Ne.symm hresult]
  | _ => exact hstage.elim

/-- Credentials are checked once at most. -/
lemma Talk.countP_isCheck_le (h : Talk sessionClass c l stage) : l.countP Entry.isCheck ≤ 1 := by
  induction h with
  | greeting => simp
  | rejectedFirst header => simp [Entry.isCheck]
  | refused message checks h =>
    rcases h with rfl | ⟨email, password, result, -, rfl⟩ <;> simp [Entry.isCheck]
  | login message email password h hlen => simp [Entry.isCheck]
  | answered message isRegistered hl h ih => simpa [Entry.isCheck] using ih
  | rejected header hl ih => simpa [Entry.isCheck] using ih
  | registered message isRegistered hl hclass h ih => simpa [Entry.isCheck] using ih
  | claimed receiver hl hne ih => simpa [Entry.isCheck] using ih
  | found message streamer hl hclass h hne ih => simpa [Entry.isCheck] using ih

end Talk

section Checks

variable [JsonLibrary] {sessionClass : SessionClass} {usersManager : Option Authenticator}
  {sendersSessions : Registry} {self : ConnId} {now : Time} {messageHandler : MessageHandler}
  {message : Message} {email password : Bytes} {result : Except Bytes Bool}

/-- What `authenticate` notes is what the users manager has answered. -/
lemma eq_of_mem_authenticate {content : Bytes}
    (h : .credentialCheck email password result ∈ (authenticate usersManager content).1) :
    ∃ manager, usersManager = some manager ∧ manager email password = result := by
  unfold authenticate at h
  cases hcredentials : credentials content with
  | error what => simp [hcredentials] at h
  | ok emailPassword =>
    cases usersManager with
    | none => simp [hcredentials] at h
    | some manager =>
      obtain ⟨rfl, rfl, rfl⟩ : email = emailPassword.1 ∧ password = emailPassword.2 ∧
          result = manager emailPassword.1 emailPassword.2 := by simpa [hcredentials] using h
      exact ⟨manager, rfl, rfl⟩

/-- The checks that a handler notes are those of `authenticate`, whose answers the users manager
gives. -/
lemma eq_of_mem_marks {c : ConnId} (h : (c, .credentialCheck email password result) ∈
      (invoke sessionClass usersManager sendersSessions self now messageHandler message).marks) :
    ∃ manager, usersManager = some manager ∧ manager email password = result := by
  cases messageHandler with
  | authenticateCallback =>
    have hmem : .credentialCheck email password result ∈
        (authenticateCallback usersManager self message).1 := by
      obtain ⟨-, hmem⟩ : self = c ∧ .credentialCheck email password result ∈
          (authenticateCallback usersManager self message).1 := by
        simpa [invoke, and_comm] using h
      exact hmem
    unfold AuthenticatedSession.authenticateCallback at hmem
    split at hmem
    · cases hmem
    · have hcheck : .credentialCheck email password result ∈
          (authenticate usersManager message.content).1 := by
        split at hmem <;> simp_all
      exact eq_of_mem_authenticate hcheck
  | handleRead =>
    have hhandled : Handled sessionClass sendersSessions self now message .handleRead
      (invoke sessionClass usersManager sendersSessions self now .handleRead message) :=
      handled_handleRead usersManager
    generalize invoke sessionClass usersManager sendersSessions self now .handleRead message =
      effect at h hhandled
    cases hhandled <;> simp at h

end Checks

section Views

variable [SizeLayout] [JsonLibrary] {sessionClass : SessionClass} {c : ConnId} {v v' : View}

/-- A connection that is served for its peer: the session handles messages, is or was registered or
found, is sent something else than `DISCONNECT` and `NACK`, or a bridge owns the socket. -/
def View.Served (v : View) : Prop :=
  (∃ e ∈ v.log, e.IsService) ∨
    (∃ message, ¬ Parting message ∧
      (.frame message ∈ v.log ∨ ∃ written, .torn message written ∈ v.log)) ∨
    v.waiting ≠ 0 ∨ v.joins ≠ [] ∨ ∃ bytes, .relayed bytes ∈ v.log

/-- The first complete frame on the connection is a login message within the limit, and its
credentials have been checked with success. -/
def View.Admitted (v : View) : Prop :=
  ∃ message email password, sendChunk message <+: v.sent ∧
    message.content.length ≤ firstMessageMaxSize ∧ IsLogin message email password ∧
    .credentialCheck email password (.ok true) ∈ v.log

/-- A session past the login has been admitted. -/
lemma SessionInv.admitted (hi : SessionInv sessionClass c v) {stage : Stage}
    (htalk : Talk sessionClass c (talk v.log) stage) (hstage : ¬ stage.Outside) : v.Admitted := by
  obtain ⟨message, email, password, rest, hlogin, hlen, heq⟩ := htalk.login_of_not_outside hstage
  refine ⟨message, email, password, ?_, hlen, hlogin, ?_⟩
  · have hpre := hi.prefix_consumed
    rw [← consumed_talk, heq] at hpre
    exact (List.prefix_append _ _).trans hpre
  · have hmem : .credentialCheck email password (.ok true) ∈ talk v.log := by simp [heq]
    exact List.mem_of_mem_filter hmem

/-- Outside, nothing is done for the peer, and nothing has been checked with success. -/
lemma SessionInv.not_served (hi : SessionInv sessionClass c v) {stage : Stage}
    (htalk : Talk sessionClass c (talk v.log) stage) (hin : v.InStage c stage)
    (hstage : stage.Outside) : ¬ v.Served ∧ ¬ v.Admitted := by
  have hjoins : v.joins = [] := by
    refine List.eq_nil_iff_forall_not_mem.mpr fun j hj => ?_
    rcases (hin.joins j hj).2 with ⟨-, rfl⟩ | ⟨-, rfl⟩ <;> exact hstage
  constructor
  · rintro (⟨e, he, hservice⟩ | ⟨message, hmessage, hframe⟩ | hwaiting | hne | ⟨bytes, hbytes⟩)
    · refine htalk.not_isService hstage e (List.mem_filter.mpr ⟨he, ?_⟩) hservice
      cases e <;> first | rfl | exact hservice.elim
    · rcases hframe with hframe | ⟨written, hframe⟩
      · exact hmessage (hin.log _ hframe hstage)
      · exact hmessage (hin.log _ hframe hstage)
    · rw [hin.waiting hwaiting] at hstage
      exact hstage
    · exact hne hjoins
    · exact hi.relayed hjoins bytes hbytes
  · rintro ⟨message, email, password, -, -, -, hmem⟩
    exact htalk.not_check hstage email password (List.mem_filter.mpr ⟨hmem, rfl⟩)

/-- Nothing but the peer's own writing happens any more to a connection that nobody owns. -/
lemma View.Move.finished {failed : Bool} (h : View.Move sessionClass c failed v v')
    (haccepted : v.accepted = true) (hzero : v.owners = 0) :
    v'.accepted = true ∧ v'.owners = 0 ∧ talk v'.log = talk v.log := by
  have hzero' := hzero
  simp only [View.owners] at hzero'
  have hclaims : claims v.todo = 0 := by omega
  have hop := h.operation haccepted (List.length_eq_zero_iff.mp (by omega)) (by omega)
  refine ⟨?_, ?_, hop.talk_eq⟩
  · cases hop <;> exact haccepted
  · rw [← hzero]
    cases hop with
    | rests => rfl
    | sends _ message rest htodo => simp [View.owners, htodo, claims]
    | arms _ _ _ rest htodo => simp [htodo, claims] at hclaims
    | joins _ _ _ rest htodo => simp [htodo, claims] at hclaims
    | closes _ a rest htodo ha =>
      rcases ha with rfl | rfl <;> simp [View.owners, htodo, claims]
    | fails _ torn todo htorn htodo => simp [View.owners, hclaims, claims_farewell htodo]

/-- A session that has not been let in owns nothing any more. -/
lemma SessionInv.owners_of_refused (hi : SessionInv sessionClass c v) {stage : Stage}
    (htalk : Talk sessionClass c (talk v.log) stage) (hin : v.InStage c stage)
    (hstage : stage.Outside) (hne : talk v.log ≠ []) : v.accepted = true ∧ v.owners = 0 := by
  have hrefused : stage = .refused := by
    cases stage with
    | greeting => exact absurd htalk.eq_nil hne
    | refused => rfl
    | _ => exact hstage.elim
  subst hrefused
  constructor
  · refine hi.accepted_of_log fun hnil => hne ?_
    rw [hnil]
    rfl
  · have hreads : v.reads = [] := by
      refine hin.reads_eq_nil fun read => ?_
      cases read <;> exact id
    have hjoins : v.joins = [] := by
      refine hin.joins_eq_nil fun sender receiver hjoin => ?_
      rcases hjoin.2 with ⟨-, h⟩ | ⟨-, h⟩ <;> cases h
    have hwaiting : v.waiting = 0 := hin.waiting_eq_zero (by simp)
    have hclaims : claims v.todo = 0 := by
      refine List.countP_eq_zero.mpr fun a ha => ?_
      have := hin.todo a ha
      cases a with
      | asyncReadMessage session messageHandler maxMessageSize => exact this.elim
      | startBridge sender receiver =>
        rcases this.2 with ⟨-, h⟩ | ⟨-, h⟩ <;> cases h
      | _ => simp
    simp [View.owners, hreads, hjoins, hwaiting, hclaims]

end Views

namespace Server

variable [SizeLayout] [JsonLibrary] {sessionClass : SessionClass} {s : Server}

/-- What the gate guarantees for a connection. -/
structure Gate (sessionClass : SessionClass) (s : Server) (c : ConnId) : Prop where
  /-- Only an admitted connection is served. -/
  served : (s.view c).Served → (s.view c).Admitted
  /-- The registry and the bridges are left alone by the messages of any other. -/
  bodyCompletes : ∀ t, Step sessionClass s (.bodyCompletes c) t → ¬ (t.view c).Admitted →
    t.sendersSessions = s.sendersSessions ∧ t.bridges = s.bridges
  /-- A check that a handler notes is the answer of the users manager that there is then. -/
  answered : ∀ usersManager now messageHandler message email password result,
    (c, .credentialCheck email password result) ∈
        (invoke sessionClass usersManager s.sendersSessions c now messageHandler message).marks →
      ∃ manager, usersManager = some manager ∧ manager email password = result
  /-- Credentials are checked once at most. -/
  oneCheck : (s.view c).log.countP Entry.isCheck ≤ 1
  /-- After any other first frame the session has no pending read for ever, and all it is sent is
  `DISCONNECT` or `NACK`. -/
  refused : talk (s.view c).log ≠ [] → ¬ (s.view c).Admitted →
    ∀ ls t, Transition.Run (Step sessionClass) s ls t →
      (t.view c).reads = [] ∧ ¬ (t.view c).Admitted ∧ ¬ (t.view c).Served

/-- A connection that is served has been admitted. -/
lemma Inv.admitted_of_served (hi : Inv sessionClass s) {c : ConnId} (h : (s.view c).Served) :
    (s.view c).Admitted := by
  obtain ⟨stage, htalk, hin⟩ := (hi.session c).inStage
  by_cases hstage : stage.Outside
  · exact absurd h ((hi.session c).not_served htalk hin hstage).1
  · exact (hi.session c).admitted htalk hstage

/-- The message of a session that is not admitted leaves the registry and the bridges alone. -/
lemma Inv.bodyCompletes (hi : Inv sessionClass s) {c : ConnId} {t : Server}
    (h : Step sessionClass s (.bodyCompletes c) t) (hnot : ¬ (t.view c).Admitted) :
    t.sendersSessions = s.sendersSessions ∧ t.bridges = s.bridges := by
  have hit := hi.step h
  obtain ⟨-, hmove⟩ := h
  cases hmove with
  | bodyCompletes _ messageHandler header usersManager now hidle hread hlen =>
    cases messageHandler with
    | authenticateCallback =>
      exact ⟨sendersSessions_runHandler _ _ _, bridges_runHandler _ _ _⟩
    | handleRead =>
      have hservice : ∀ (r : Server) (message : Message),
          ∃ e ∈ ((r.runHandler c (invoke sessionClass usersManager s.sendersSessions c now
            .handleRead message)).view c).log, e.IsService := by
        intro r message
        rw [view_runHandler]
        simp only [invoke, entriesOf_cons_self]
        exact ⟨_, List.mem_append_right _ List.mem_cons_self, trivial⟩
      exact absurd (hit.admitted_of_served (Or.inl (hservice _ _))) hnot

/-- Once the first message has not been let in, the session never reads again and gives no
service. -/
lemma Inv.refused (hi : Inv sessionClass s) {c : ConnId} (hne : talk (s.view c).log ≠ [])
    (hnot : ¬ (s.view c).Admitted) {ls : List Label} {t : Server}
    (hrun : Transition.Run (Step sessionClass) s ls t) :
    (t.view c).reads = [] ∧ ¬ (t.view c).Admitted ∧ ¬ (t.view c).Served := by
  obtain ⟨stage, htalk, hin⟩ := (hi.session c).inStage
  have hstage : stage.Outside := by
    by_contra h
    exact hnot ((hi.session c).admitted htalk h)
  obtain ⟨hit, -, hzero, heq⟩ : Inv sessionClass t ∧ (t.view c).accepted = true ∧
      (t.view c).owners = 0 ∧ talk (t.view c).log = talk (s.view c).log := by
    obtain ⟨haccepted, hzero⟩ := (hi.session c).owners_of_refused htalk hin hstage hne
    refine hrun.invariant (I := fun t => Inv sessionClass t ∧ (t.view c).accepted = true ∧
      (t.view c).owners = 0 ∧ talk (t.view c).log = talk (s.view c).log)
        ⟨hi, haccepted, hzero, rfl⟩ ?_
    rintro r l r' ⟨hir, haccepted, hzero, heq⟩ hs
    obtain ⟨haccepted', hzero', heq'⟩ := (view_move hir.tidy hs.2 c).finished haccepted hzero
    exact ⟨hir.step hs, haccepted', hzero', heq'.trans heq⟩
  have hnot' : ¬ (t.view c).Admitted := by
    rintro ⟨message, email, password, -, -, -, hmem⟩
    refine htalk.not_check hstage email password ?_
    rw [← heq]
    exact List.mem_filter.mpr ⟨hmem, rfl⟩
  refine ⟨?_, hnot', fun hserved => hnot' (hit.admitted_of_served hserved)⟩
  rw [View.owners] at hzero
  exact List.length_eq_zero_iff.mp (by omega)

/-- The authentication gate holds in every reachable state, for the sessions of both classes. -/
theorem authentication_gate {ls : List Label}
    (hrun : Transition.Run (Step sessionClass) init ls s) (c : ConnId) : Gate sessionClass s c := by
  have hi := inv_of_run hrun
  obtain ⟨stage, htalk, hin⟩ := (hi.session c).inStage
  refine ⟨hi.admitted_of_served, fun t => hi.bodyCompletes,
    fun _ _ _ _ _ _ _ => eq_of_mem_marks, ?_,
    fun hne hnot _ _ => hi.refused hne hnot⟩
  have hcount : (s.view c).log.countP Entry.isCheck =
      (talk (s.view c).log).countP Entry.isCheck := by
    rw [talk, List.countP_filter]
    refine List.countP_congr fun e _ => ?_
    cases e <;> simp [Entry.isCheck, Entry.isTalk]
  rw [hcount]
  exact htalk.countP_isCheck_le

omit [SizeLayout] [JsonLibrary] in
/-- A connection that asks for a streamer instead of logging in is sent a `DISCONNECT`. -/
theorem authentication_gate_refused :
    letI := littleEndian
    letI := Json.stringObjects
    ∃ ls s, Transition.Run (Step .proxySession) init ls s ∧ Gate .proxySession s 0 ∧
      (s.view 0).log = [.authenticateCallback { type := .findStreamer, content := sessionId },
        .frame { type := .disconnect, content := Bytes.ofString "You have to login first." }] := by
  let := littleEndian
  let := Json.stringObjects
  obtain ⟨ls, s, hrun, hlog⟩ := exists_run_of_replay .proxySession (s := init)
    ([.accept 0 true, .performs] ++
      writes 0 none 0 { type := .findStreamer, content := sessionId } ++ [.performs])
    (fun _ s => (s.view 0).log = [.authenticateCallback
        { type := .findStreamer, content := sessionId },
      .frame { type := .disconnect, content := Bytes.ofString "You have to login first." }])
    (by decide +kernel)
  exact ⟨ls, s, hrun, authentication_gate hrun 0, of_decide_eq_true hlog⟩

end Server

end ScreenViewer
