import Mathlib
import ScreenViewer.Server.Acknowledgement
import ScreenViewer.Server.AuthenticationGate

/-!
# The script of a conversation

What the server sends on a connection of its own accord is decided by the conversation: every entry
calls for certain frames, and together they are the script.  As long as no network operation of the
server fails, the frames written so far and those that the running handler has still to write make
up the script of what has been said (`ScriptInv`), and a bridge takes the socket over only after the
last of them.
-/

namespace ScreenViewer

open SocketBase AuthenticatedSession ServerSessionsManager

/-! ## What is written to a peer -/

/-- Whether an entry says that something was written to the peer. -/
def Entry.isWritten : Entry → Bool
  | .frame _ | .torn .. | .relayed _ => true
  | _ => false

/-- The entries of a log that say what was written to the peer. -/
def received (log : List Entry) : List Entry := log.filter Entry.isWritten

/-- The frames that were written to the peer. -/
def frames (log : List Entry) : List Message :=
  log.filterMap fun
    | .frame message => some message
    | _ => none

/-- The blocks of bytes that a bridge wrote to the peer. -/
def blocks (log : List Entry) : List Bytes :=
  log.filterMap fun
    | .relayed bytes => some bytes
    | _ => none

/-- The frames that a plan has still to write. -/
def queued (todo : Plan) : List Message :=
  todo.filterMap fun
    | .sendChunk _ message => some message
    | _ => none

section Lists

variable (l m : List Entry) (p q : Plan)

@[simp] lemma received_append : received (l ++ m) = received l ++ received m :=
  List.filter_append l m

@[simp] lemma frames_append : frames (l ++ m) = frames l ++ frames m := List.filterMap_append

@[simp] lemma blocks_append : blocks (l ++ m) = blocks l ++ blocks m := List.filterMap_append

@[simp] lemma queued_append : queued (p ++ q) = queued p ++ queued q := List.filterMap_append

/-- A plan that sends a message writes its chunks. -/
@[simp] lemma queued_sendPlan (c : ConnId) (message : Message) :
    queued (sendPlan c message) = chunks message := by
  simp [queued, sendPlan, List.filterMap_map]

/-- The blocks are the bytes relayed. -/
lemma flatten_blocks : (blocks l).flatten = relayedBytes l := by
  induction l with
  | nil => rfl
  | cons e l ih =>
    have hcons : relayedBytes (e :: l) = relayedBytes [e] ++ relayedBytes l :=
      relayedBytes_append [e] l
    rw [hcons, ← ih]
    cases e <;> simp [blocks, relayedBytes]

variable {l} in
/-- Entries that say nothing of the kind add nothing to what was written. -/
lemma written_eq_nil (h : ∀ e ∈ l, e.isWritten = false) :
    received l = [] ∧ frames l = [] ∧ blocks l = [] := by
  refine ⟨List.filter_eq_nil_iff.mpr fun e he => by simp [h e he],
    List.filterMap_eq_nil_iff.mpr fun e he => ?_, List.filterMap_eq_nil_iff.mpr fun e he => ?_⟩
  · have := h e he
    cases e <;> first | rfl | cases this
  · have := h e he
    cases e <;> first | rfl | cases this

@[simp] lemma received_map_relayed (bs : List Bytes) :
    received (bs.map .relayed) = bs.map .relayed := by
  simp [received, Entry.isWritten]

@[simp] lemma frames_map_relayed (bs : List Bytes) : frames (bs.map .relayed) = [] := by
  simp [frames]

@[simp] lemma blocks_map_relayed (bs : List Bytes) : blocks (bs.map .relayed) = bs := by
  simp [blocks, List.filterMap_map]

end Lists

/-! ## Texts are short -/

/-- A text has at most four bytes for each character. -/
lemma Bytes.length_ofString_le (text : String) :
    (Bytes.ofString text).length ≤ 4 * text.length := by
  have hsize : (Bytes.ofString text).length = text.utf8ByteSize := rfl
  have hlen : ∀ cs : List Char, String.utf8Len cs ≤ 4 * cs.length := by
    intro cs
    induction cs with
    | nil => exact le_rfl
    | cons c cs ih =>
      have := c.utf8Size_le_four
      rw [String.utf8Len_cons, List.length_cons]
      omega
  obtain ⟨cs, rfl⟩ : ∃ cs, text = String.ofList cs := ⟨text.toList, String.ofList_toList.symm⟩
  rw [hsize, String.utf8ByteSize_ofList, String.length_ofList]
  exact hlen cs

section Rejection

variable [SizeLayout]

/-- The error texts of a header are short. -/
lemma length_le_of_deserialize_eq_error {header : Bytes} {what : String}
    (h : MessageHeader.deserialize header MessageHeader.size bufferSize = .error what) :
    (Bytes.ofString what).length ≤ bufferSize := by
  have hnat : ∀ n : UInt64, (toString n).length ≤ 20 := by
    intro n
    refine (Nat.length_repr_le_iff (by decide)).mpr ?_
    have := n.toNat_lt
    omega
  have hbyte : ∀ n : Byte, (toString n).length ≤ 3 := by
    intro n
    refine (Nat.length_repr_le_iff (by decide)).mpr ?_
    have := n.toNat_lt
    omega
  have htext : what.length ≤ 1000 → (Bytes.ofString what).length ≤ bufferSize := by
    intro hle
    have := Bytes.length_ofString_le what
    rw [bufferSize]
    omega
  refine htext ?_
  unfold MessageHeader.deserialize at h
  simp only [lt_irrefl, if_false] at h
  split at h
  · cases h
    have := hnat (SizeLayout.ofBytes (header.take 8))
    have hmax : (toString bufferSize).length = 7 := by decide +kernel
    simp only [String.length_append, hmax]
    have h₁ : (toString "Message is too long (").length = 21 := by decide +kernel
    have h₂ : (toString " > ").length = 3 := by decide +kernel
    have h₃ : (toString ").").length = 2 := by decide +kernel
    omega
  · split at h
    · cases h
    · cases h
      have := hbyte (header.getD 8 0)
      have h₁ : (toString "Got unknown message type (").length = 26 := by decide +kernel
      have h₂ : (toString ").").length = 2 := by decide +kernel
      simp only [String.length_append]
      omega

/-- The text with which a session rejects a header after its login. -/
def rejection (header : Bytes) : Bytes :=
  match MessageHeader.deserialize header MessageHeader.size bufferSize with
  | .error what => Bytes.ofString what
  | .ok _ => []

end Rejection

/-! ## The script -/

section Script

variable [SizeLayout]

/-- The answer to a request that is neither a registration nor finds its streamer. -/
def replies (message : Message) (isRegistered : Bool) : List Message :=
  if message.type = .registerStreamer ∨ (message.type = .findStreamer ∧ isRegistered) then []
  else [answer .proxySession message]

/-- The frames that an entry of a conversation calls for, once the session has logged in. -/
def Entry.calls : Entry → List Message
  | .credentialCheck _ _ (.ok true) => [ackMessage]
  | .handleRead message isRegistered => replies message isRegistered
  | .rejectedHeader header => [{ type := .disconnect, content := rejection header }]
  | .registered code => [{ type := .id, content := code }]
  | .claimed _ => [startStreamMessage]
  | .found .. => [ackMessage]
  | _ => []

/-- The frames that an entry calls for in a session of the class. -/
def Entry.callsOf (sessionClass : SessionClass) : Entry → List Message
  | .handleRead message isRegistered =>
    match sessionClass with
    | .authenticatedSession => chunks (reply message)
    | .proxySession => replies message isRegistered
  | e => e.calls

/-- The frames that a conversation calls for. -/
def script (log : List Entry) : List Message := log.flatMap Entry.calls

@[simp] lemma script_append (l m : List Entry) : script (l ++ m) = script l ++ script m :=
  List.flatMap_append

/-- The script is what the entries call for in a proxy session. -/
lemma script_eq (log : List Entry) : script log = log.flatMap (Entry.callsOf .proxySession) :=
  List.flatMap_congr fun e _ => by cases e <;> rfl

/-- Only the conversation in a log calls for anything. -/
lemma flatMap_callsOf_talk (sessionClass : SessionClass) (log : List Entry) :
    (talk log).flatMap (Entry.callsOf sessionClass) =
      log.flatMap (Entry.callsOf sessionClass) := by
  induction log with
  | nil => rfl
  | cons e log ih =>
    cases htalk : e.isTalk with
    | true =>
      rw [talk, List.filter_cons_of_pos htalk, List.flatMap_cons, List.flatMap_cons, ← ih, talk]
    | false =>
      have hnone : e.callsOf sessionClass = [] := by cases e <;> first | rfl | cases htalk
      rw [talk, List.filter_cons_of_neg (by simp [htalk]), List.flatMap_cons, hnone]
      exact ih

/-- Only the conversation in a log matters for its script. -/
lemma script_talk (log : List Entry) : script (talk log) = script log := by
  rw [script_eq, script_eq, flatMap_callsOf_talk]

omit [SizeLayout] in
/-- Every answer of a proxy session is one frame. -/
lemma chunks_answer (message : Message) :
    chunks (answer .proxySession message) = [answer .proxySession message] := by
  refine chunks_of_le ?_
  simp only [answer]
  split
  · exact Nat.zero_le _
  · unfold ProxySession.response
    cases message.type <;> decide +kernel

omit [SizeLayout] in
/-- A request of a proxy session that is answered is replied to with one frame. -/
lemma replies_of_continues {message : Message} {isRegistered : Bool}
    (h : Continues .proxySession message isRegistered) :
    replies message isRegistered = [answer .proxySession message] := by
  obtain ⟨hregister, hfind⟩ := h.resolve_left (by simp)
  unfold replies
  apply if_neg
  rintro (htype | ⟨htype, hregistered⟩)
  · exact hregister htype
  · rw [hfind htype] at hregistered
    cases hregistered

/-- An answer is what its request calls for. -/
lemma chunks_answer_eq {sessionClass : SessionClass} {message : Message} {isRegistered : Bool}
    (h : Continues sessionClass message isRegistered) :
    chunks (answer sessionClass message) =
      Entry.callsOf sessionClass (.handleRead message isRegistered) := by
  cases sessionClass with
  | authenticatedSession => rfl
  | proxySession => exact (chunks_answer message).trans (replies_of_continues h).symm

/-- Rejecting a header is one frame. -/
lemma chunks_rejection {header : Bytes} {what : String}
    (h : MessageHeader.deserialize header MessageHeader.size bufferSize = .error what) :
    chunks { type := .disconnect, content := Bytes.ofString what } =
      [{ type := .disconnect, content := rejection header }] := by
  rw [chunks_of_le (length_le_of_deserialize_eq_error h), rejection, h]

end Script

/-! ## Frames written and to be written -/

section Invariant

variable [SizeLayout] [JsonLibrary]

/-- The session has logged in, according to its log. -/
def LoggedIn (log : List Entry) : Prop :=
  ∃ email password, .credentialCheck email password (.ok true) ∈ log

/-- The frames on a connection are those that the entries of its log call for. -/
structure Follows (sessionClass : SessionClass) (v : View) : Prop where
  /-- Before anything was said, nothing is written. -/
  fresh : talk v.log = [] → frames v.log = [] ∧ queued v.todo = []
  /-- What was written and what is still to be written is what was called for. -/
  script : LoggedIn v.log →
    frames v.log ++ queued v.todo = v.log.flatMap (Entry.callsOf sessionClass)

/-- How the frames on a connection follow the script, as long as no network operation fails. -/
structure ScriptInv (v : View) : Prop where
  /-- Before anything was said, nothing is written. -/
  fresh : talk v.log = [] → frames v.log = [] ∧ queued v.todo = []
  /-- What was written and what is still to be written make up the script. -/
  script : LoggedIn v.log → frames v.log ++ queued v.todo = script v.log
  /-- Starting a bridge is the last operation of a plan. -/
  last : ∀ before sender receiver rest,
    v.todo = before ++ .startBridge sender receiver :: rest → rest = []
  /-- Nothing is to be done any more on a socket that a bridge has taken over. -/
  joined : v.joins ≠ [] → v.todo = []
  /-- What a bridge relays comes after all frames. -/
  received : received v.log = (frames v.log).map .frame ++ (blocks v.log).map .relayed

section LoggedIn

omit [SizeLayout] [JsonLibrary]

variable {log extra : List Entry}

/-- Entries that are no checks log nobody in. -/
lemma LoggedIn.of_append (h : LoggedIn (log ++ extra))
    (hextra : ∀ email password, .credentialCheck email password (.ok true) ∉ extra) :
    LoggedIn log := by
  obtain ⟨email, password, hmem⟩ := h
  rcases List.mem_append.mp hmem with hmem | hmem
  · exact ⟨email, password, hmem⟩
  · exact absurd hmem (hextra email password)

/-- Nobody has logged in before the first message. -/
lemma not_loggedIn_of_talk (h : talk log = []) : ¬ LoggedIn log := by
  rintro ⟨email, password, hmem⟩
  have : .credentialCheck email password (.ok true) ∈ talk log := List.mem_filter.mpr ⟨hmem, rfl⟩
  rw [h] at this
  cases this

/-- What is no part of the conversation logs nobody in. -/
lemma LoggedIn.of_quiet (h : LoggedIn (log ++ extra)) (hextra : talk extra = []) : LoggedIn log :=
  h.of_append fun email password hmem =>
    not_loggedIn_of_talk hextra ⟨email, password, hmem⟩

/-- Nobody who is refused has logged in. -/
lemma not_loggedIn_of_refusal {checks : List Entry} (h : Refusal checks) {message : Message}
    (hlog : ¬ LoggedIn log) : ¬ LoggedIn (log ++ .authenticateCallback message :: checks) := by
  intro hin
  refine hlog (hin.of_append fun email password hmem => ?_)
  rcases h with rfl | ⟨email', password', result, hresult, rfl⟩
  · simp at hmem
  · simp [Ne.symm hresult] at hmem

omit [SizeLayout] in
/-- Whoever has logged in is past the login. -/
lemma LoggedIn.not_outside [JsonLibrary] {sessionClass : SessionClass} {c : ConnId} {stage : Stage}
    (h : LoggedIn log) (htalk : Talk sessionClass c (talk log) stage) : ¬ stage.Outside := by
  obtain ⟨email, password, hmem⟩ := h
  exact fun houtside =>
    htalk.not_check houtside email password (List.mem_filter.mpr ⟨hmem, rfl⟩)

end LoggedIn

namespace Follows

variable {sessionClass : SessionClass} {c : ConnId} {v v' : View}

omit [JsonLibrary] in
/-- The conversation goes on: what is to be shown of the entries and of the plan. -/
lemma talks (h : Follows sessionClass v) (hidle : v.todo = []) {entries : List Entry}
    (hlog : v'.log = v.log ++ entries)
    (hlogged : LoggedIn v'.log → LoggedIn v.log ∨ talk v.log = [])
    (hframes : frames entries = []) (htalk : talk entries ≠ [])
    (hscript : LoggedIn v'.log →
      queued v'.todo = entries.flatMap (Entry.callsOf sessionClass)) :
    Follows sessionClass v' := by
  constructor
  · intro hnil
    rw [hlog, talk_append] at hnil
    exact absurd (List.append_eq_nil_iff.mp hnil).2 htalk
  · intro hin
    have hold : frames v.log = v.log.flatMap (Entry.callsOf sessionClass) := by
      rcases hlogged hin with hin | hnil
      · simpa [hidle, queued] using h.script hin
      · rw [(h.fresh hnil).1, ← flatMap_callsOf_talk, hnil]
        rfl
    rw [hlog, frames_append, hframes, List.append_nil, List.flatMap_append, hold, hscript hin]

omit [JsonLibrary] in
/-- What is no part of the conversation happens: frames that are written come from the plan. -/
lemma operates (h : Follows sessionClass v) {entries : List Entry}
    (hlog : v'.log = v.log ++ entries) (htalk : talk entries = [])
    (hqueued : queued v.todo = frames entries ++ queued v'.todo) : Follows sessionClass v' := by
  constructor
  · intro hnil
    rw [hlog, talk_append, htalk, List.append_nil] at hnil
    obtain ⟨hframes, hnone⟩ := h.fresh hnil
    rw [hqueued] at hnone
    obtain ⟨hentries, htodo⟩ := List.append_eq_nil_iff.mp hnone
    exact ⟨by rw [hlog, frames_append, hframes, hentries, List.append_nil], htodo⟩
  · intro hin
    rw [hlog] at hin
    have hnone : entries.flatMap (Entry.callsOf sessionClass) = [] := by
      rw [← flatMap_callsOf_talk, htalk]
      rfl
    rw [hlog, frames_append, List.append_assoc, ← hqueued, List.flatMap_append, hnone,
      List.append_nil]
    exact h.script (hin.of_quiet htalk)

omit [JsonLibrary] in
/-- Nothing is written, and nothing new is to be written. -/
lemma keep (h : Follows sessionClass v) (hlog : v'.log = v.log)
    (hqueued : queued v'.todo = queued v.todo) : Follows sessionClass v' :=
  h.operates (hlog.trans (List.append_nil _).symm) rfl hqueued.symm

/-- A header is rejected. -/
lemma headerRejected (h : Follows sessionClass v) (hi : SessionInv sessionClass c v)
    (hidle : v.todo = []) {messageHandler : MessageHandler} {maxMessageSize : ℕ} {what : String}
    {header : Bytes} (hread : .header messageHandler maxMessageSize ∈ v.reads)
    (hheader : MessageHeader.deserialize header MessageHeader.size maxMessageSize = .error what)
    (hlog : v'.log = v.log ++ [.rejectedHeader header])
    (htodo : v'.todo = disconnect c (some (Bytes.ofString what))) : Follows sessionClass v' := by
  have hlogged : LoggedIn v'.log → LoggedIn v.log := by
    rw [hlog]
    exact fun hin => hin.of_append (by simp)
  refine h.talks hidle hlog (fun hin => Or.inl (hlogged hin)) rfl (by simp [talk, Entry.isTalk])
    fun hin => ?_
  obtain ⟨stage, hstage, hstages⟩ := hi.inStage
  have hawaits := hstages.reads _ hread
  cases stage with
  | greeting => exact absurd (hlogged hin) (not_loggedIn_of_talk hstage.eq_nil)
  | serving =>
    obtain ⟨-, rfl⟩ := hawaits
    have hqueued : queued (disconnect c (some (Bytes.ofString what))) =
        chunks { type := .disconnect, content := Bytes.ofString what } := by
      change queued (sendPlan c _ ++ [.shutdown c, .close c]) = _
      rw [queued_append, queued_sendPlan]
      exact List.append_nil _
    rw [htodo, hqueued, chunks_rejection hheader]
    rfl
  | _ => exact hawaits.elim

/-- Every move without a failure keeps to what is called for. -/
theorem move (h : Follows sessionClass v) (hi : SessionInv sessionClass c v)
    (hmove : v.Move sessionClass c false v') : Follows sessionClass v' := by
  cases hmove with
  | accepts _ hidle hnew => exact h.keep rfl (by rw [hidle]; rfl)
  | headerRejected _ messageHandler maxMessageSize what hidle hread hlen hheader =>
    exact h.headerRejected hi hidle hread hheader rfl rfl
  | login _ header message email password hidle hread hlen hmessage hlogin =>
    obtain ⟨-, -, hnil, -⟩ | ⟨hhandler, -⟩ := hi.stage_of_body hread
    · refine h.talks hidle rfl (fun _ => Or.inr hnil) rfl (by simp [talk, Entry.isTalk]) fun _ => ?_
      rw [queued_append, sendACK, queued_sendPlan, chunks_ack]
      rfl
    · cases hhandler
  | refused _ header message checks todo hidle hread hlen hmessage hchecks htodo =>
    obtain ⟨-, -, hnil, -⟩ | ⟨hhandler, -⟩ := hi.stage_of_body hread
    · have hnot : ¬ LoggedIn (_ ++ .authenticateCallback message :: checks) :=
        not_loggedIn_of_refusal hchecks (not_loggedIn_of_talk hnil)
      refine h.talks hidle rfl (fun _ => Or.inr hnil) ?_ (by simp [talk, Entry.isTalk])
        fun hin => absurd hin hnot
      rcases hchecks with rfl | ⟨email, password, result, -, rfl⟩ <;> rfl
    · cases hhandler
  | answered _ header message isRegistered hidle hread hlen hmessage hcontinues =>
    refine h.talks hidle rfl (fun hin => Or.inl (hin.of_append (by simp))) rfl
      (by simp [talk, Entry.isTalk]) fun _ => ?_
    rw [queued_append, queued_sendPlan, chunks_answer_eq hcontinues, List.flatMap_singleton]
    exact List.append_nil _
  | registered _ header message isRegistered hidle hread hlen hmessage hclass htype =>
    refine h.talks hidle rfl (fun hin => Or.inl (hin.of_append (by simp))) rfl
      (by simp [talk, Entry.isTalk]) fun _ => ?_
    have hchunks : chunks { type := .id, content := sessionId } =
        [{ type := .id, content := sessionId }] := chunks_of_le (by decide)
    rw [queued_sendPlan, hchunks, hclass]
    simp [Entry.callsOf, Entry.calls, replies, htype]
  | found _ header message streamer hidle hread hlen hmessage hclass htype hne =>
    refine h.talks hidle rfl (fun hin => Or.inl (hin.of_append (by simp))) rfl
      (by simp [talk, Entry.isTalk]) fun _ => ?_
    rw [hclass]
    simp [queued, Entry.callsOf, Entry.calls, replies, htype, ackMessage]
  | claimed _ waiting receiver hidle hwaiting hne =>
    exact h.talks hidle rfl (fun hin => Or.inl (hin.of_append (by simp))) rfl
      (by simp [talk, Entry.isTalk]) fun _ => rfl
  | dropped _ n waiting hwaiting =>
    refine h.operates rfl (by simp [talk, Entry.isTalk]) ?_
    simp [frames]
  | sends _ message rest htodo => exact h.operates rfl rfl (by rw [htodo]; rfl)
  | arms _ messageHandler maxMessageSize rest htodo => exact h.keep rfl (by rw [htodo]; rfl)
  | joins _ sender receiver rest htodo => exact h.keep rfl (by rw [htodo]; rfl)
  | closes _ a rest htodo ha =>
    refine h.keep rfl ?_
    rw [htodo]
    rcases ha with rfl | rfl <;> rfl
  | relays _ n bs hjoins => exact h.operates rfl (by simp [talk, Entry.isTalk]) (by simp)
  | _ => exact h.keep rfl rfl

end Follows

namespace ScriptInv

variable {c : ConnId} {v v' : View}

omit [JsonLibrary] in
/-- The frames of a proxy session are those of the script. -/
lemma follows (h : ScriptInv v) : Follows .proxySession v :=
  ⟨h.fresh, fun hin => (h.script hin).trans (script_eq v.log)⟩

omit [JsonLibrary] in
/-- While something is to be done on it, no bridge has taken the socket over. -/
lemma joins_eq_nil (h : ScriptInv v) {a : Action} {rest : Plan} (htodo : v.todo = a :: rest) :
    v.joins = [] := by
  by_contra hne
  rw [h.joined hne] at htodo
  cases htodo

omit [SizeLayout] [JsonLibrary] in
/-- A plan that starts no bridge has no end to be looked at. -/
lemma last_of_notMem {todo : Plan} (h : ∀ sender receiver, .startBridge sender receiver ∉ todo)
    {before rest : Plan} {sender receiver : ConnId}
    (htodo : todo = before ++ .startBridge sender receiver :: rest) : rest = [] :=
  absurd (htodo ▸ List.mem_append_right _ List.mem_cons_self) (h sender receiver)

/-- Starting a bridge stays the last operation of a plan. -/
lemma last_move (h : ScriptInv v) (hmove : v.Move .proxySession c false v')
    (before : Plan) (sender receiver : ConnId) (rest : Plan)
    (htodo' : v'.todo = before ++ .startBridge sender receiver :: rest) : rest = [] := by
  have htail : ∀ {a : Action}, v.todo = a :: v'.todo → rest = [] := by
    intro a htodo
    refine h.last (a :: before) sender receiver rest ?_
    rw [htodo, htodo', List.cons_append]
  cases hmove with
  | accepts _ hidle hnew => exact last_of_notMem (by simp) htodo'
  | headerRejected _ messageHandler maxMessageSize what hidle hread hlen hheader =>
    exact last_of_notMem (Server.startBridge_notMem_of_farewell fun a => farewell_disconnect) htodo'
  | login => exact last_of_notMem (Server.startBridge_notMem_of_reply c _) htodo'
  | refused _ header message checks todo hidle hread hlen hmessage hchecks htodo =>
    exact last_of_notMem (Server.startBridge_notMem_of_farewell htodo) htodo'
  | answered => exact last_of_notMem (Server.startBridge_notMem_of_reply c _) htodo'
  | registered _ header message isRegistered hidle hread hlen hmessage hclass htype =>
    refine last_of_notMem (fun _ _ hmem => ?_) htodo'
    obtain ⟨m, heq, -⟩ := mem_sendPlan hmem
    cases heq
  | found | claimed => rcases before with _ | ⟨a, _ | ⟨a', before⟩⟩ <;> simp_all
  | sends _ message rest htodo => exact htail htodo
  | arms _ messageHandler maxMessageSize rest htodo => exact htail htodo
  | joins _ sender receiver rest htodo => exact htail htodo
  | closes _ a rest htodo ha => exact htail htodo
  | _ => exact h.last before sender receiver rest htodo'

/-- A bridge takes a socket over when nothing is to be done on it any more. -/
lemma joined_move (h : ScriptInv v) (hi : SessionInv .proxySession c v)
    (hmove : v.Move .proxySession c false v') (hjoins' : v'.joins ≠ []) : v'.todo = [] := by
  have hread : ∀ {read : PendingRead}, read ∈ v.reads → v.joins = [] :=
    fun hread => (hi.of_mem_reads hread).2.2.2
  cases hmove with
  | accepts _ hidle hnew =>
    obtain ⟨hzero, -⟩ := hi.fresh hnew
    rw [View.owners] at hzero
    have hjoins : v.joins = [] := List.length_eq_zero_iff.mp (by omega)
    exact absurd hjoins hjoins'
  | headerRejected _ _ _ _ _ hmem => exact absurd (hread hmem) hjoins'
  | login _ _ _ _ _ _ hmem => exact absurd (hread hmem) hjoins'
  | refused _ _ _ _ _ _ hmem => exact absurd (hread hmem) hjoins'
  | answered _ _ _ _ _ hmem => exact absurd (hread hmem) hjoins'
  | registered _ _ _ _ _ hmem => exact absurd (hread hmem) hjoins'
  | found _ _ _ _ _ hmem => exact absurd (hread hmem) hjoins'
  | claimed _ waiting receiver hidle hwaiting hne =>
    exact absurd (hi.of_waiting (by omega)).2.2.2 hjoins'
  | sends _ message rest htodo => exact absurd (h.joins_eq_nil htodo) hjoins'
  | arms _ messageHandler maxMessageSize rest htodo =>
    exact absurd (h.joins_eq_nil htodo) hjoins'
  | joins _ sender receiver rest htodo => exact h.last [] sender receiver rest htodo
  | closes _ a rest htodo ha => exact absurd (h.joins_eq_nil htodo) hjoins'
  | _ => exact h.joined hjoins'

omit [JsonLibrary] in
/-- What was received goes on in order when nothing is written but what a bridge relays. -/
lemma received_append_of (h : ScriptInv v) {entries : List Entry} {bs : List Bytes}
    (hreceived : ScreenViewer.received entries = bs.map .relayed) (hframes : frames entries = [])
    (hblocks : blocks entries = bs) :
    ScreenViewer.received (v.log ++ entries) =
      (frames (v.log ++ entries)).map .frame ++ (blocks (v.log ++ entries)).map .relayed := by
  simp [hreceived, hframes, hblocks, h.received]

/-- What a bridge relays stays behind all frames. -/
lemma received_move (h : ScriptInv v) (hi : SessionInv .proxySession c v)
    (hmove : v.Move .proxySession c false v') :
    ScreenViewer.received v'.log =
      (frames v'.log).map .frame ++ (blocks v'.log).map .relayed := by
  have hquiet : ∀ {entries : List Entry}, (∀ e ∈ entries, e.isWritten = false) →
      ScreenViewer.received (v.log ++ entries) =
        (frames (v.log ++ entries)).map .frame ++ (blocks (v.log ++ entries)).map .relayed := by
    intro entries hwritten
    obtain ⟨hreceived, hframes, hblocks⟩ := written_eq_nil hwritten
    exact h.received_append_of (hreceived.trans List.map_nil.symm) hframes hblocks
  cases hmove with
  | headerRejected | login | answered | registered | found | claimed =>
    exact hquiet (by simp [Entry.isWritten])
  | refused _ header message checks todo hidle hread hlen hmessage hchecks htodo =>
    apply hquiet
    rcases hchecks with rfl | ⟨email, password, result, -, rfl⟩ <;> simp [Entry.isWritten]
  | dropped _ n waiting hwaiting =>
    refine hquiet fun e he => ?_
    rw [List.eq_of_mem_replicate he]
    rfl
  | sends _ message rest htodo =>
    have hblocks : blocks v.log = [] := by
      refine List.filterMap_eq_nil_iff.mpr fun e he => ?_
      cases e with
      | relayed bytes => exact absurd he (hi.relayed (h.joins_eq_nil htodo) bytes)
      | _ => rfl
    rw [received_append, frames_append, blocks_append, h.received, hblocks]
    simp [ScreenViewer.received, Entry.isWritten, frames, blocks]
  | relays _ n bs hjoins =>
    exact h.received_append_of (received_map_relayed bs) (frames_map_relayed bs)
      (blocks_map_relayed bs)
  | _ => exact h.received

/-- Every move without a failure keeps to the script. -/
theorem move (h : ScriptInv v) (hi : SessionInv .proxySession c v)
    (hmove : v.Move .proxySession c false v') : ScriptInv v' where
  fresh := (h.follows.move hi hmove).fresh
  script hin := ((h.follows.move hi hmove).script hin).trans (script_eq v'.log).symm
  last := h.last_move hmove
  joined := h.joined_move hi hmove
  received := h.received_move hi hmove

end ScriptInv

end Invariant

end ScreenViewer
