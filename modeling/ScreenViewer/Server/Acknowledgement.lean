import Mathlib
import ScreenViewer.Server.Execution
import ScreenViewer.Server.Invariant
import ScreenViewer.Server.Sockets

/-!
# What stands behind the acknowledgement of a request

A request that finds its streamer is answered with an `ACK` before the streamer is told to start and
before the bridge is constructed.  The receiver takes the `ACK` as the beginning of the stream, so
every acknowledged request should be backed by a bridge; it is, as long as neither of the two later
operations throws.

The plan of such a request is followed from both ends: `Answering` says how far it has got on the
connection of the receiver, `Starting` how far on that of the streamer.
-/

namespace ScreenViewer

open SocketBase AuthenticatedSession ServerSessionsManager

/-- The answer to a request that finds its streamer. -/
def ackMessage : Message := { type := .ack, content := [] }

/-- What a streamer is told when its receiver has come. -/
def startStreamMessage : Message := { type := .startStream, content := [] }

/-- The plan of a request that finds its streamer. -/
def findPlan (streamer receiver : ConnId) : Plan :=
  [.sendChunk receiver ackMessage, .sendChunk streamer startStreamMessage,
    .startBridge streamer receiver]

/-- After its request had found the streamer registered under `code`, the session was sent an `ACK`,
according to its log. -/
def Acknowledged (log : List Entry) (code : Code) (streamer : ConnId) : Prop :=
  ∃ l₁ l₂, log = l₁ ++ .found code streamer :: l₂ ∧ .frame ackMessage ∈ l₂

/-- After it had been found by the receiver, the session was sent a `START_STREAM`, according to its
log. -/
def Started (log : List Entry) (receiver : ConnId) : Prop :=
  ∃ l₁ l₂, log = l₁ ++ .claimed receiver :: l₂ ∧ .frame startStreamMessage ∈ l₂

/-- Every acknowledged request is backed: its streamer had registered under the code, and it was
told to start and joined with the receiver by a bridge, unless the handler of the request is still
about to do so. -/
def Server.Backed (s : Server) : Prop :=
  ∀ receiver code streamer, Acknowledged (s.conn receiver).socket.log code streamer →
    .registered code ∈ (s.conn streamer).socket.log ∧
      ((Started (s.conn streamer).socket.log receiver ∧
          ∃ j ∈ s.bridges, j.sender = streamer ∧ j.receiver = receiver) ∨
        .startBridge streamer receiver ∈ s.plan)

/-- The operations that come after the `ACK`. -/
def Action.IsJoining : Action → Prop
  | .sendChunk _ message => message.type = .startStream
  | .startBridge .. => True
  | _ => False

instance : (a : Action) → Decidable a.IsJoining
  | .sendChunk _ message => inferInstanceAs (Decidable (message.type = .startStream))
  | .startBridge .. => inferInstanceAs (Decidable True)
  | .asyncReadMessage .. | .shutdown _ | .close _ => inferInstanceAs (Decidable False)

/-- A label under which an operation after the `ACK` throws. -/
def Server.Breaks : Server.Label → Prop
  | .throws a => a.IsJoining
  | _ => False

instance : (l : Server.Label) → Decidable (Server.Breaks l)
  | .throws a => inferInstanceAs (Decidable a.IsJoining)
  | .accept .. | .peerWrites .. | .peerEnds _ | .peerDisconnects _ | .headerCompletes _
  | .bodyCompletes _ | .readFails _ | .performs _ | .terminateTimeoutClients | .reset
  | .destroys _ | .bridge .. => inferInstanceAs (Decidable False)

section Split

variable {α : Type*} {l extra l₁ l₂ : List α} {a b : α}

/-- What is not among the elements added at the end of a list stands where it stood. -/
lemma split_of_append (h : l ++ extra = l₁ ++ a :: l₂) (ha : a ∉ extra) :
    ∃ m, l = l₁ ++ a :: m ∧ l₂ = m ++ extra := by
  rcases List.append_eq_append_iff.mp h with ⟨m, rfl, h'⟩ | ⟨m, rfl, h'⟩
  · rw [h'] at ha
    exact absurd (List.mem_append_right _ List.mem_cons_self) ha
  · cases m with
    | nil =>
      rw [List.nil_append] at h'
      exact absurd (h' ▸ List.mem_cons_self) ha
    | cons b m =>
      obtain ⟨rfl, rfl⟩ := List.cons_eq_cons.mp h'
      exact ⟨m, rfl, rfl⟩

/-- What is not among the earlier elements of a list can only stand at its end. -/
lemma split_of_concat (h : l ++ [b] = l₁ ++ a :: l₂) (ha : a ∉ l) : a = b ∧ l₂ = [] := by
  rcases List.append_eq_append_iff.mp h with ⟨m, rfl, h'⟩ | ⟨m, rfl, h'⟩
  · cases m with
    | nil => exact List.cons_eq_cons.mp h'.symm
    | cons b' m => simp at h'
  · cases m with
    | nil => exact List.cons_eq_cons.mp h'
    | cons b' m =>
      obtain ⟨rfl, -⟩ := List.cons_eq_cons.mp h'
      simp at ha

end Split

section Stages

variable [JsonLibrary] {sessionClass : SessionClass} {c : ConnId} {l : List Entry} {stage : Stage}

/-- A conversation in which the session has found a streamer ends with that. -/
lemma Talk.stage_of_found (h : Talk sessionClass c l stage) {code : Code} {streamer : ConnId}
    (hmem : .found code streamer ∈ l) : stage = .found streamer := by
  induction h with
  | greeting => simp at hmem
  | rejectedFirst header => simp at hmem
  | refused message checks h =>
    rcases h with rfl | ⟨email, password, result, -, rfl⟩ <;> simp at hmem
  | login message email password h hlen => simp at hmem
  | answered message isRegistered hl h ih => cases ih (by simpa using hmem)
  | rejected header hl ih => cases ih (by simpa using hmem)
  | registered message isRegistered hl hclass h ih => cases ih (by simpa using hmem)
  | claimed receiver hl hne ih => cases ih (by simpa using hmem)
  | found message streamer' hl hclass h hne ih =>
    rcases List.mem_append.mp hmem with hmem | hmem
    · cases ih hmem
    · obtain ⟨-, rfl⟩ : code = message.content ∧ streamer = streamer' := by simpa using hmem
      rfl

/-- A conversation in which the session was found ends with that. -/
lemma Talk.stage_of_claimed (h : Talk sessionClass c l stage) {receiver : ConnId}
    (hmem : .claimed receiver ∈ l) : stage = .claimed receiver := by
  induction h with
  | greeting => simp at hmem
  | rejectedFirst header => simp at hmem
  | refused message checks h =>
    rcases h with rfl | ⟨email, password, result, -, rfl⟩ <;> simp at hmem
  | login message email password h hlen => simp at hmem
  | answered message isRegistered hl h ih => cases ih (by simpa using hmem)
  | rejected header hl ih => cases ih (by simpa using hmem)
  | registered message isRegistered hl hclass h ih => cases ih (by simpa using hmem)
  | claimed receiver' hl hne ih =>
    rcases List.mem_append.mp hmem with hmem | hmem
    · cases ih hmem
    · obtain rfl : receiver = receiver' := by simpa using hmem
      rfl
  | found message streamer hl hclass h hne ih => cases ih (by simpa using hmem)

/-- A session that was found had been. -/
lemma Talk.claimed_mem (h : Talk sessionClass c l stage) {receiver : ConnId}
    (hstage : stage = .claimed receiver) : .claimed receiver ∈ l := by
  cases h <;> cases hstage
  simp

end Stages

/-! ## The two ends of a plan -/

/-- How far the plan of a request has got, as its receiver sees it: an `ACK` is sent first, then the
bridge is started; where this was broken off, no `ACK` was sent and none will be. -/
def Answering (c : ConnId) (v : View) : Prop :=
  ∀ l₁ code streamer l₂, v.log = l₁ ++ .found code streamer :: l₂ →
    (v.todo = [.sendChunk c ackMessage, .startBridge streamer c] ∧ .frame ackMessage ∉ l₂) ∨
      v.todo = [.startBridge streamer c] ∨ (streamer, c) ∈ v.joins ∨
      (.frame ackMessage ∉ l₂ ∧ .sendChunk c ackMessage ∉ v.todo)

/-- How far the plan of a request has got, as the streamer sees it: a `START_STREAM` is sent first,
then the bridge is started; where this was broken off, no bridge will be. -/
def Starting (c : ConnId) (v : View) : Prop :=
  ∀ l₁ receiver l₂, v.log = l₁ ++ .claimed receiver :: l₂ →
    (v.todo = [.sendChunk c startStreamMessage, .startBridge c receiver] ∧ v.joins = []) ∨
      .frame startStreamMessage ∈ l₂ ∨ (v.joins = [] ∧ claims v.todo = 0)

section Views

variable [SizeLayout] [JsonLibrary] {sessionClass : SessionClass} {c : ConnId} {v v' : View}

/-- A session that has found a streamer reads no more and is not registered. -/
lemma SessionInv.of_found (hi : SessionInv sessionClass c v) {code : Code} {streamer : ConnId}
    (hmem : .found code streamer ∈ v.log) :
    v.accepted = true ∧ v.reads = [] ∧ v.waiting = 0 := by
  obtain ⟨stage, htalk, hin⟩ := hi.inStage
  obtain rfl := htalk.stage_of_found (List.mem_filter.mpr ⟨hmem, rfl⟩)
  refine ⟨hi.accepted_of_log (List.ne_nil_of_mem hmem), hin.reads_eq_nil ?_,
    hin.waiting_eq_zero (by simp)⟩
  intro read
  cases read <;> exact id

/-- A session that was found reads no more and is not registered. -/
lemma SessionInv.of_claimed (hi : SessionInv sessionClass c v) {receiver : ConnId}
    (hmem : .claimed receiver ∈ v.log) : v.accepted = true ∧ v.reads = [] ∧ v.waiting = 0 := by
  obtain ⟨stage, htalk, hin⟩ := hi.inStage
  obtain rfl := htalk.stage_of_claimed (List.mem_filter.mpr ⟨hmem, rfl⟩)
  refine ⟨hi.accepted_of_log (List.ne_nil_of_mem hmem), hin.reads_eq_nil ?_,
    hin.waiting_eq_zero (by simp)⟩
  intro read
  cases read <;> exact id

omit [SizeLayout] [JsonLibrary] in
/-- An operation keeps what the receiver sees of its plan in order, unless it breaks the plan off
between the `ACK` and the bridge. -/
lemma Answering.operation (h : Answering c v) {failed : Bool} (hop : v.Operation c failed v')
    (hok : failed = true → ∀ streamer, v.todo ≠ [.startBridge streamer c]) : Answering c v' := by
  intro l₁ code streamer l₂ hlog
  cases hop with
  | rests _ bytes n blocks hblocks =>
    obtain ⟨m, hm, rfl⟩ := split_of_append hlog (by simp)
    have hmem : .frame ackMessage ∉ m → .frame ackMessage ∉ m ++ blocks.map .relayed := by simp
    exact (h l₁ code streamer m hm).imp (And.imp_right hmem)
      (Or.imp_right (Or.imp_right (And.imp_left hmem)))
  | sends _ message rest htodo =>
    obtain ⟨m, hm, rfl⟩ := split_of_append hlog (by simp)
    rcases h l₁ code streamer m hm with ⟨htodo', hack⟩ | htodo' | hjoined | ⟨hack, htodo'⟩
    · obtain ⟨-, rfl⟩ := List.cons_eq_cons.mp (htodo.symm.trans htodo')
      exact Or.inr (Or.inl rfl)
    · exact absurd (List.cons_eq_cons.mp (htodo.symm.trans htodo')).1 nofun
    · exact Or.inr (Or.inr (Or.inl hjoined))
    · rw [htodo, List.mem_cons, not_or] at htodo'
      refine Or.inr (Or.inr (Or.inr ⟨?_, htodo'.2⟩))
      have hne : ackMessage ≠ message := fun heq => htodo'.1 (heq ▸ rfl)
      simp [hack, hne]
  | arms _ messageHandler maxMessageSize rest htodo =>
    rcases h l₁ code streamer l₂ hlog with ⟨htodo', -⟩ | htodo' | hjoined | ⟨hack, htodo'⟩
    · exact absurd (List.cons_eq_cons.mp (htodo.symm.trans htodo')).1 nofun
    · exact absurd (List.cons_eq_cons.mp (htodo.symm.trans htodo')).1 nofun
    · exact Or.inr (Or.inr (Or.inl hjoined))
    · rw [htodo, List.mem_cons, not_or] at htodo'
      exact Or.inr (Or.inr (Or.inr ⟨hack, htodo'.2⟩))
  | joins _ sender receiver rest htodo =>
    rcases h l₁ code streamer l₂ hlog with ⟨htodo', -⟩ | htodo' | hjoined | ⟨hack, htodo'⟩
    · exact absurd (List.cons_eq_cons.mp (htodo.symm.trans htodo')).1 nofun
    · obtain ⟨heq, -⟩ := List.cons_eq_cons.mp (htodo.symm.trans htodo')
      cases heq
      exact Or.inr (Or.inr (Or.inl (List.mem_append_right _ List.mem_cons_self)))
    · exact Or.inr (Or.inr (Or.inl (List.mem_append_left _ hjoined)))
    · rw [htodo, List.mem_cons, not_or] at htodo'
      exact Or.inr (Or.inr (Or.inr ⟨hack, htodo'.2⟩))
  | closes _ a rest htodo ha =>
    have hne : a ≠ .sendChunk c ackMessage ∧ a ≠ .startBridge streamer c := by
      rcases ha with rfl | rfl <;> exact ⟨nofun, nofun⟩
    rcases h l₁ code streamer l₂ hlog with ⟨htodo', -⟩ | htodo' | hjoined | ⟨hack, htodo'⟩
    · exact absurd (List.cons_eq_cons.mp (htodo.symm.trans htodo')).1 hne.1
    · exact absurd (List.cons_eq_cons.mp (htodo.symm.trans htodo')).1 hne.2
    · exact Or.inr (Or.inr (Or.inl hjoined))
    · rw [htodo, List.mem_cons, not_or] at htodo'
      exact Or.inr (Or.inr (Or.inr ⟨hack, htodo'.2⟩))
  | fails _ torn todo htorn hfarewell =>
    obtain ⟨m, hm, rfl⟩ := split_of_append hlog (by simp)
    have hnoack : .sendChunk c ackMessage ∉ todo := by
      intro hmem
      rcases hfarewell _ hmem with ⟨message, heq, htype⟩ | heq | heq
      · cases heq
        rcases htype with htype | htype <;> cases htype
      · cases heq
      · cases heq
    have hmem : .frame ackMessage ∉ m →
        .frame ackMessage ∉ m ++ torn.map fun t => .torn t.1 t.2 := by
      simp
    rcases h l₁ code streamer m hm with ⟨-, hack⟩ | htodo' | hjoined | ⟨hack, -⟩
    · exact Or.inr (Or.inr (Or.inr ⟨hmem hack, hnoack⟩))
    · exact absurd htodo' (hok rfl streamer)
    · exact Or.inr (Or.inr (Or.inl hjoined))
    · exact Or.inr (Or.inr (Or.inr ⟨hmem hack, hnoack⟩))

omit [SizeLayout] [JsonLibrary] in
/-- An operation keeps what the streamer sees of its plan in order. -/
lemma Starting.operation (h : Starting c v) {failed : Bool} (hop : v.Operation c failed v') :
    Starting c v' := by
  intro l₁ receiver l₂ hlog
  cases hop with
  | rests _ bytes n blocks hblocks =>
    obtain ⟨m, hm, rfl⟩ := split_of_append hlog (by simp)
    exact (h l₁ receiver m hm).imp_right (Or.imp_left (List.mem_append_left _))
  | sends _ message rest htodo =>
    obtain ⟨m, hm, rfl⟩ := split_of_append hlog (by simp)
    rcases h l₁ receiver m hm with ⟨htodo', -⟩ | hstart | ⟨hjoins, hclaims⟩
    · obtain ⟨heq, -⟩ := List.cons_eq_cons.mp (htodo.symm.trans htodo')
      cases heq
      exact Or.inr (Or.inl (List.mem_append_right _ List.mem_cons_self))
    · exact Or.inr (Or.inl (List.mem_append_left _ hstart))
    · refine Or.inr (Or.inr ⟨hjoins, ?_⟩)
      simpa [htodo, claims] using hclaims
  | arms _ messageHandler maxMessageSize rest htodo =>
    rcases h l₁ receiver l₂ hlog with ⟨htodo', -⟩ | hstart | ⟨-, hclaims⟩
    · simp [htodo] at htodo'
    · exact Or.inr (Or.inl hstart)
    · simp [htodo, claims] at hclaims
  | joins _ sender receiver' rest htodo =>
    rcases h l₁ receiver l₂ hlog with ⟨htodo', -⟩ | hstart | ⟨-, hclaims⟩
    · simp [htodo] at htodo'
    · exact Or.inr (Or.inl hstart)
    · simp [htodo, claims] at hclaims
  | closes _ a rest htodo ha =>
    rcases h l₁ receiver l₂ hlog with ⟨htodo', -⟩ | hstart | ⟨hjoins, hclaims⟩
    · obtain ⟨rfl, -⟩ := List.cons_eq_cons.mp (htodo.symm.trans htodo')
      rcases ha with ha | ha <;> cases ha
    · exact Or.inr (Or.inl hstart)
    · refine Or.inr (Or.inr ⟨hjoins, ?_⟩)
      rcases ha with rfl | rfl <;> simpa [htodo, claims] using hclaims
  | fails _ torn todo htorn hfarewell =>
    obtain ⟨m, hm, rfl⟩ := split_of_append hlog (by simp)
    rcases h l₁ receiver m hm with ⟨-, hjoins⟩ | hstart | ⟨hjoins, -⟩
    · exact Or.inr (Or.inr ⟨hjoins, claims_farewell hfarewell⟩)
    · exact Or.inr (Or.inl (List.mem_append_left _ hstart))
    · exact Or.inr (Or.inr ⟨hjoins, claims_farewell hfarewell⟩)

/-- Every move keeps what the receiver sees of its plan in order, unless it breaks the plan off
between the `ACK` and the bridge. -/
lemma Answering.move (hi : SessionInv sessionClass c v) (h : Answering c v) {failed : Bool}
    (hmove : v.Move sessionClass c failed v')
    (hok : failed = true → ∀ streamer, v.todo ≠ [.startBridge streamer c]) : Answering c v' := by
  by_cases hfound : ∃ code streamer, .found code streamer ∈ v.log
  · obtain ⟨code, streamer, hmem⟩ := hfound
    obtain ⟨haccepted, hreads, hwaiting⟩ := hi.of_found hmem
    exact h.operation (hmove.operation haccepted hreads hwaiting) hok
  · intro l₁ code streamer l₂ hlog
    have hnone : ∀ code streamer, .found code streamer ∉ v.log := by simpa using hfound
    have hmem : .found code streamer ∈ v'.log := by simp [hlog]
    cases hmove with
    | found _ header message streamer' hidle hread hlen hmessage hclass htype hne =>
      have hlog' : (v.log ++ [.handleRead message true]) ++ [.found message.content streamer'] =
          l₁ ++ .found code streamer :: l₂ := by simpa using hlog
      obtain ⟨heq, rfl⟩ := split_of_concat hlog' (by simp [hnone])
      cases heq
      exact Or.inl ⟨rfl, by simp⟩
    | refused _ header message checks todo hidle hread hlen hmessage hchecks htodo =>
      rcases hchecks with rfl | ⟨email, password, result, -, rfl⟩ <;> simp [hnone] at hmem
    | _ => simp [hnone] at hmem

/-- Every move keeps what the streamer sees of its plan in order. -/
lemma Starting.move (hi : SessionInv sessionClass c v) (h : Starting c v) {failed : Bool}
    (hmove : v.Move sessionClass c failed v') : Starting c v' := by
  by_cases hclaimed : ∃ receiver, .claimed receiver ∈ v.log
  · obtain ⟨receiver, hmem⟩ := hclaimed
    obtain ⟨haccepted, hreads, hwaiting⟩ := hi.of_claimed hmem
    exact h.operation (hmove.operation haccepted hreads hwaiting)
  · intro l₁ receiver l₂ hlog
    have hnone : ∀ receiver, .claimed receiver ∉ v.log := by simpa using hclaimed
    have hmem : .claimed receiver ∈ v'.log := by simp [hlog]
    cases hmove with
    | claimed _ waiting receiver' hidle hwaiting hne =>
      obtain ⟨heq, rfl⟩ := split_of_concat hlog (hnone _)
      cases heq
      exact Or.inl ⟨rfl, (hi.of_waiting (by omega)).2.2.2⟩
    | refused _ header message checks todo hidle hread hlen hmessage hchecks htodo =>
      rcases hchecks with rfl | ⟨email, password, result, -, rfl⟩ <;> simp [hnone] at hmem
    | _ => simp [hnone] at hmem

end Views

/-! ## The server -/

namespace Server

section Plans

variable [SizeLayout] [JsonLibrary] {sessionClass : SessionClass} {s t : Server}

/-- A bridge that is still to be started is the end of the plan of a request. -/
def PlanInv (s : Server) : Prop :=
  ∀ streamer receiver, .startBridge streamer receiver ∈ s.plan →
    s.plan <:+ findPlan streamer receiver

omit [SizeLayout] [JsonLibrary] in
/-- A plan that starts no bridge needs no explanation. -/
lemma planInv_of_claims {s : Server}
    (h : ∀ streamer receiver, .startBridge streamer receiver ∉ s.plan) : s.PlanInv :=
  fun streamer receiver hmem => absurd hmem (h streamer receiver)

omit [SizeLayout] [JsonLibrary] in
/-- Taking leave starts no bridge. -/
lemma startBridge_notMem_of_farewell {c : ConnId} {plan : Plan} (h : ∀ a ∈ plan, Farewell c a)
    (streamer receiver : ConnId) : .startBridge streamer receiver ∉ plan := by
  intro hmem
  rcases h _ hmem with ⟨m, heq, -⟩ | heq | heq <;> cases heq

omit [SizeLayout] [JsonLibrary] in
/-- Sending and waiting for a message start no bridge. -/
lemma startBridge_notMem_of_reply (c : ConnId) (message : Message) (streamer receiver : ConnId) :
    .startBridge streamer receiver ∉ sendPlan c message ++ scheduleNewAsyncRead c := by
  intro hmem
  rcases List.mem_append.mp hmem with hmem | hmem
  · obtain ⟨m, heq, -⟩ := mem_sendPlan hmem
    cases heq
  · cases List.mem_singleton.mp hmem

omit [SizeLayout] in
/-- Running a handler leaves its plan to be explained, or that of the disconnecting. -/
lemma planInv_runHandler {c : ConnId} {now : Time} {message : Message}
    {messageHandler : MessageHandler} {e : Effect}
    (he : Handled sessionClass s.sendersSessions c now message messageHandler e) (r : Server) :
    (r.runHandler c e).PlanInv := by
  cases he with
  | login email password h => exact planInv_of_claims (startBridge_notMem_of_reply c _)
  | refused checks plan h hplan => exact planInv_of_claims (startBridge_notMem_of_farewell hplan)
  | thrown checks what h =>
    exact planInv_of_claims (startBridge_notMem_of_farewell fun a => farewell_disconnect)
  | answered isRegistered h => exact planInv_of_claims (startBridge_notMem_of_reply c _)
  | registered isRegistered hclass h =>
    refine planInv_of_claims fun streamer receiver hmem => ?_
    obtain ⟨m, heq, -⟩ := mem_sendPlan hmem
    cases heq
  | found streamer hclass h hlookup =>
    intro streamer' receiver hmem
    obtain ⟨rfl, rfl⟩ : streamer' = streamer.clientSession ∧ receiver = c := by
      simpa [runHandler] using hmem
    exact List.suffix_refl _

/-- Every move keeps the plan explained. -/
lemma PlanInv.move (hi : s.PlanInv) {l : Label} (h : Move sessionClass s l t) : t.PlanInv := by
  cases h with
  | accept c hidle hnew => exact planInv_of_claims (by simp)
  | headerRejected c messageHandler maxMessageSize what hidle hread hlen hheader =>
    exact planInv_of_claims (startBridge_notMem_of_farewell fun a => farewell_disconnect)
  | bodyCompletes c messageHandler header usersManager now hidle hread hlen =>
    exact planInv_runHandler (handled_invoke usersManager messageHandler) _
  | performs a rest hplan hcan =>
    intro streamer receiver hmem
    have hsuffix := hi streamer receiver (hplan ▸ List.mem_cons_of_mem a hmem)
    rw [hplan] at hsuffix
    exact (List.suffix_cons a rest).trans hsuffix
  | throws a rest what written hplan hcan =>
    unfold catchException
    split
    · exact planInv_of_claims (by simp)
    · exact planInv_of_claims (startBridge_notMem_of_farewell fun a => farewell_disconnect)
  | _ => exact hi

/-- A plan that is not broken off between the `ACK` and the bridge leaves no bridge alone on it. -/
lemma PlanInv.todo_ne (hi : s.PlanInv) {l : Label} (h : Move sessionClass s l t)
    (hl : ¬ Breaks l) (hfailed : IsFailure l = true) (c streamer : ConnId) :
    (s.view c).todo ≠ [.startBridge streamer c] := by
  intro htodo
  have hmem : .startBridge streamer c ∈ s.plan := by
    refine List.mem_of_mem_filter (p := fun a => c ∈ a.sessions) ?_
    change _ ∈ (s.view c).todo
    rw [htodo]
    exact List.mem_cons_self
  have hsuffix := hi streamer c hmem
  cases h with
  | throws a rest what written hplan hcan =>
    rw [hplan] at hsuffix
    rcases List.suffix_cons_iff.mp hsuffix with heq | hsuffix
    · have htodo' : (s.view c).todo = about c (findPlan streamer c) := by
        rw [view, hplan, heq]
        rfl
      rw [htodo', findPlan, about, List.filter_cons_of_pos (by simp [Action.sessions])] at htodo
      cases (List.cons_eq_cons.mp htodo).1
    · rcases List.suffix_cons_iff.mp hsuffix with heq | hsuffix
      · obtain ⟨rfl, -⟩ := List.cons_eq_cons.mp heq
        exact hl rfl
      · rcases List.suffix_cons_iff.mp hsuffix with heq | hsuffix
        · obtain ⟨rfl, -⟩ := List.cons_eq_cons.mp heq
          exact hl trivial
        · cases List.suffix_nil.mp hsuffix
  | _ => cases hfailed

end Plans

section Codes

variable [SizeLayout] [JsonLibrary] {sessionClass : SessionClass} {s t : Server}

/-- Codes lead to the sessions that have registered under them. -/
structure CodesInv (s : Server) : Prop where
  /-- In the registry. -/
  registry : ∀ code node, s.sendersSessions.lookup code = some node →
    .registered code ∈ (s.conn node.clientSession).socket.log
  /-- In the logs. -/
  log : ∀ c code streamer, .found code streamer ∈ (s.conn c).socket.log →
    .registered code ∈ (s.conn streamer).socket.log

omit [SizeLayout] [JsonLibrary] in
/-- What is left after a cleaner's pass was there before. -/
lemma lookup_of_terminateTimeoutClients {overflow : DurationOverflow} {sendersSessions : Registry}
    {clientTimeout : Seconds} {now : ℕ → Time} {code : Code} {node : TimedClientSession}
    (h : (terminateTimeoutClients overflow sendersSessions clientTimeout now).1.lookup code =
      some node) :
    sendersSessions.lookup code = some node := by
  have hmem := AList.mem_lookup_iff.mp h
  exact AList.mem_lookup_iff.mpr ((terminateLoop_sublist ..).subset hmem)

omit [SizeLayout] [JsonLibrary] in
/-- What is in the registry after a registration was there before or is the registration. -/
lemma lookup_of_registerStreamer {sendersSessions : Registry} {sender : ConnId} {now : Time}
    {code : Code} {node : TimedClientSession}
    (h : (registerStreamer sendersSessions sender now).2.1.lookup code = some node) :
    sendersSessions.lookup code = some node ∨ (code = sessionId ∧ node.clientSession = sender) := by
  by_cases hcode : code = sessionId
  · subst hcode
    have hself : (registerStreamer sendersSessions sender now).2.1.lookup sessionId =
        some { clientSession := sender, timePoint := now } := AList.lookup_insert _
    obtain rfl := Option.some_injective _ (hself.symm.trans h)
    exact Or.inr ⟨rfl, rfl⟩
  · refine Or.inl ?_
    unfold registerStreamer at h
    rw [AList.lookup_insert_ne hcode] at h
    cases hlookup : sendersSessions.lookup sessionId with
    | some other =>
      rw [hlookup] at h
      exact (AList.lookup_erase_ne hcode).symm.trans h
    | none =>
      rw [hlookup] at h
      exact h

omit [SizeLayout] in
/-- What is in the registry after a handler's locked step was there before, or has been
registered. -/
lemma lookup_of_handled {self : ConnId} {now : Time} {message : Message}
    {messageHandler : MessageHandler} {e : Effect}
    (he : Handled sessionClass s.sendersSessions self now message messageHandler e) {code : Code}
    {node : TimedClientSession} (hlookup : e.sendersSessions.lookup code = some node) :
    s.sendersSessions.lookup code = some node ∨
      .registered code ∈ entriesOf node.clientSession e.marks := by
  cases he with
  | registered isRegistered hclass h =>
    rcases lookup_of_registerStreamer hlookup with hlookup | ⟨rfl, rfl⟩
    · exact Or.inl hlookup
    · exact Or.inr (by simp)
  | found streamer hclass h hfound =>
    refine Or.inl ?_
    by_cases hcode : code = message.content
    · subst hcode
      rw [AList.lookup_erase] at hlookup
      cases hlookup
    · exact (AList.lookup_erase_ne hcode).symm.trans hlookup
  | _ => exact Or.inl hlookup

/-- What is in the registry after a move was there before, or has just been registered. -/
lemma lookup_of_move {l : Label} (h : Move sessionClass s l t) {code : Code}
    {node : TimedClientSession} (hlookup : t.sendersSessions.lookup code = some node) :
    s.sendersSessions.lookup code = some node ∨
      .registered code ∈ (t.conn node.clientSession).socket.log := by
  cases h with
  | bodyCompletes c messageHandler header usersManager now hidle hread hlen =>
    rw [sendersSessions_runHandler] at hlookup
    rw [conn_runHandler]
    exact (lookup_of_handled (handled_invoke usersManager messageHandler) hlookup).imp_right
      (List.mem_append_right _)
  | throws a rest what written hplan hcan =>
    refine Or.inl ?_
    rw [← hlookup, sendersSessions_catchException]
    cases a <;> rfl
  | performs a rest hplan hcan =>
    refine Or.inl ?_
    rw [← hlookup]
    cases a <;> rfl
  | terminateTimeoutClients overflow clientTimeout now =>
    exact Or.inl (lookup_of_terminateTimeoutClients hlookup)
  | reset => cases hlookup
  | _ => exact Or.inl hlookup

/-- Every step keeps the codes in order. -/
lemma CodesInv.step (hi : CodesInv s) (hs : Inv sessionClass s) {l : Label}
    (h : Step sessionClass s l t) : CodesInv t := by
  have hlogs : ∀ c, (s.conn c).socket.log ⊆ (t.conn c).socket.log :=
    fun c => (view_move hs.tidy h.2 c).prefix_log.subset
  refine ⟨fun code node hlookup => ?_, fun c code streamer hmem => ?_⟩
  · rcases lookup_of_move h.2 hlookup with hlookup | hmem
    · exact hlogs _ (hi.registry code node hlookup)
    · exact hmem
  · refine hlogs _ ?_
    by_cases hl : IsRelaying c l
    · obtain ⟨n, blocks, -, -, hlog⟩ := relayed_of_move h.2 hl
      rw [hlog] at hmem
      exact hi.log c code streamer (by simpa using hmem)
    · obtain ⟨bytes, n, extra, hmoved⟩ := moved_of_move h.2 hl
      rw [hmoved.log] at hmem
      rcases List.mem_append.mp hmem with hmem | hmem
      · exact hi.log c code streamer hmem
      · obtain ⟨node, hlookup, rfl⟩ := hmoved.found code streamer hmem
        exact hi.registry code node hlookup

end Codes

/-! ## Runs -/

section Runs

variable [SizeLayout] [JsonLibrary] {sessionClass : SessionClass} {s t : Server}

/-- What holds of a server in which no plan has been broken off between the `ACK` and the bridge. -/
structure AcknowledgementInv (sessionClass : SessionClass) (s : Server) : Prop where
  inv : Inv sessionClass s
  plan : PlanInv s
  codes : CodesInv s
  answering : ∀ c, Answering c (s.view c)
  starting : ∀ c, Starting c (s.view c)

/-- The invariant of a server that has just been started. -/
lemma acknowledgementInv_init : AcknowledgementInv sessionClass init := by
  have hlog : ∀ c, (init.view c).log = [] := fun c => rfl
  refine ⟨inv_init, planInv_of_claims (by simp [init]), ⟨?_, ?_⟩, fun c l₁ code streamer l₂ h => ?_,
    fun c l₁ receiver l₂ h => ?_⟩
  · intro code node hlookup
    cases hlookup
  · intro c code streamer hmem
    cases hmem
  · rw [hlog] at h
    simp at h
  · rw [hlog] at h
    simp at h

/-- A step that does not break a plan off between the `ACK` and the bridge keeps the invariant. -/
lemma AcknowledgementInv.step (hi : AcknowledgementInv sessionClass s) {l : Label}
    (h : Step sessionClass s l t) (hl : ¬ Breaks l) : AcknowledgementInv sessionClass t where
  inv := hi.inv.step h
  plan := hi.plan.move h.2
  codes := hi.codes.step hi.inv h
  answering c := (hi.answering c).move (hi.inv.session c) (view_move hi.inv.tidy h.2 c)
    fun hfailed streamer => hi.plan.todo_ne h.2 hl hfailed c streamer
  starting c := (hi.starting c).move (hi.inv.session c) (view_move hi.inv.tidy h.2 c)

omit [SizeLayout] [JsonLibrary] in
/-- The bridges of a view are bridges of the server. -/
lemma exists_of_mem_joins {c sender receiver : ConnId} (h : (sender, receiver) ∈ (s.view c).joins) :
    ∃ j ∈ s.bridges, j.sender = sender ∧ j.receiver = receiver := by
  obtain ⟨j, hj, heq⟩ := List.mem_map.mp (List.mem_of_mem_filter h)
  exact ⟨j, hj, congrArg Prod.fst heq, congrArg Prod.snd heq⟩

/-- The streamer of a bridge was told to start. -/
lemma AcknowledgementInv.started (hi : AcknowledgementInv sessionClass s) {j : Joined}
    (hj : j ∈ s.bridges) : Started (s.conn j.sender).socket.log j.receiver := by
  have hjoins : (j.sender, j.receiver) ∈ (s.view j.sender).joins := by
    simp only [view, List.mem_filter, List.mem_map]
    exact ⟨⟨j, hj, rfl⟩, by simp⟩
  have hne : (s.view j.sender).joins ≠ [] := List.ne_nil_of_mem hjoins
  obtain ⟨stage, htalk, hin⟩ := (hi.inv.session j.sender).inStage
  have hstage : stage = .claimed j.receiver := by
    obtain ⟨hapart, ⟨-, hstage⟩ | ⟨heq, -⟩⟩ := hin.joins _ hjoins
    · exact hstage
    · exact absurd heq hapart
  have hmem : .claimed j.receiver ∈ (s.view j.sender).log :=
    List.mem_of_mem_filter (htalk.claimed_mem hstage)
  obtain ⟨l₁, l₂, hlog⟩ := List.append_of_mem hmem
  rcases hi.starting j.sender l₁ j.receiver l₂ hlog with ⟨-, hnil⟩ | hstart | ⟨hnil, -⟩
  · exact absurd hnil hne
  · exact ⟨l₁, l₂, hlog, hstart⟩
  · exact absurd hnil hne

/-- Under the invariant every acknowledged request is backed. -/
lemma AcknowledgementInv.backed (hi : AcknowledgementInv sessionClass s) : s.Backed := by
  rintro receiver code streamer ⟨l₁, l₂, hlog, hack⟩
  refine ⟨hi.codes.log receiver code streamer (by simp [hlog]), ?_⟩
  rcases hi.answering receiver l₁ code streamer l₂ hlog with ⟨-, hnone⟩ | htodo | hjoined |
    ⟨hnone, -⟩
  · exact absurd hack hnone
  · refine Or.inr (List.mem_of_mem_filter (p := fun a => receiver ∈ a.sessions) ?_)
    change _ ∈ (s.view receiver).todo
    rw [htodo]
    exact List.mem_cons_self
  · obtain ⟨j, hj, rfl, rfl⟩ := exists_of_mem_joins hjoined
    exact Or.inl ⟨hi.started hj, j, hj, rfl, rfl⟩
  · exact absurd hack hnone

/-- In a run in which no sending of a `START_STREAM` and no construction of a bridge throws, every
acknowledged request is backed, in every state reached. -/
theorem backed_of_run {ls : List Label} (hrun : Transition.Run (Step sessionClass) init ls s)
    (hok : ∀ l ∈ ls, ¬ Breaks l) : s.Backed := by
  have hinv : AcknowledgementInv sessionClass s :=
    hrun.invariant_of_labels hok acknowledgementInv_init fun _ _ _ hl hi hs => hi.step hs hl
  exact hinv.backed

end Runs

/-- The events of a registration and of a request that finds it, up to the `ACK`. -/
def acknowledges [SizeLayout] : List Event :=
  logsIn 0 ++ logsIn 1 ++
    writes 0 none 0 { type := .registerStreamer, content := [] } ++ [.performs] ++
    writes 1 none 0 { type := .findStreamer, content := sessionId } ++ [.performs]

/-- The end of the receiver's log after these events. -/
def acknowledgedLog (log : List Entry) : Prop :=
  log.drop (log.length - 2) = [.found sessionId 0, .frame ackMessage]

instance : DecidablePred acknowledgedLog :=
  fun log => inferInstanceAs (Decidable (log.drop (log.length - 2) = _))

/-- The request is acknowledged then. -/
lemma acknowledged_of_acknowledgedLog {log : List Entry} (h : acknowledgedLog log) :
    Acknowledged log sessionId 0 := by
  refine ⟨log.take (log.length - 2), [.frame ackMessage], ?_, List.mem_singleton_self _⟩
  rw [← h, List.take_append_drop]

/-- The streamer is told to start, and the bridge is constructed. -/
theorem backed_of_run_joined :
    letI := littleEndian
    letI := Json.stringObjects
    ∃ ls s, Transition.Run (Step .proxySession) init ls s ∧ s.Backed ∧ s.plan = [] ∧
      Acknowledged (s.conn 1).socket.log sessionId 0 := by
  let := littleEndian
  let := Json.stringObjects
  obtain ⟨ls, s, hrun, hs⟩ := exists_run_of_replay .proxySession (s := init)
    (acknowledges ++ [.performs, .performs])
    (fun ls s => (∀ l ∈ ls, ¬ Breaks l) ∧ s.plan = [] ∧
      acknowledgedLog (s.conn 1).socket.log)
    (by decide +kernel)
  obtain ⟨hok, hplan, hlog⟩ := of_decide_eq_true hs
  exact ⟨ls, s, hrun, backed_of_run hrun hok, hplan, acknowledged_of_acknowledgedLog hlog⟩

/-- The streamer has died: the request is acknowledged, but sending the `START_STREAM` throws. -/
theorem not_backed_deadStreamer :
    letI := littleEndian
    letI := Json.stringObjects
    ∃ ls s, Transition.Run (Step .proxySession) init ls s ∧ ¬ s.Backed := by
  let := littleEndian
  let := Json.stringObjects
  obtain ⟨ls, s, hrun, hs⟩ := exists_run_of_replay .proxySession (s := init)
    (acknowledges ++ [.peerDisconnects 0, .throws [] 0])
    (fun _ s => s.bridges.length = 0 ∧ .startBridge 0 1 ∉ s.plan ∧
      acknowledgedLog (s.conn 1).socket.log)
    (by decide +kernel)
  obtain ⟨hbridges, hplan, hlog⟩ := of_decide_eq_true hs
  refine ⟨ls, s, hrun, fun hbacked => ?_⟩
  rcases (hbacked 1 sessionId 0 (acknowledged_of_acknowledgedLog hlog)).2 with ⟨-, j, hj, -⟩ | hmem
  · rw [List.length_eq_zero_iff.mp hbridges] at hj
    cases hj
  · exact hplan hmem

end Server

end ScreenViewer
