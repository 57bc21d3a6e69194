import Mathlib
import ScreenViewer.Server.Script

/-!
# The sizes of what a session handles

A session passes a message to its handler only when its header has announced no more than the limit
of the read, and it notes a header as rejected only when `MessageHeader::deserialize` refuses it.
The log of a connection keeps both.
-/

namespace ScreenViewer

open SocketBase AuthenticatedSession ServerSessionsManager

variable [SizeLayout] [JsonLibrary] {c : ConnId} {v v' : View}

/-- What the log of a connection says of the sizes of the messages handled and of the headers
rejected. -/
structure Measured (v : View) : Prop where
  first : ∀ message, .authenticateCallback message ∈ v.log →
    message.content.length ≤ firstMessageMaxSize
  later : ∀ message isRegistered, .handleRead message isRegistered ∈ v.log →
    message.content.length ≤ bufferSize
  rejected : ∀ header, .rejectedHeader header ∈ v.log → LoggedIn v.log →
    header.length = MessageHeader.size ∧
      ∃ what, MessageHeader.deserialize header MessageHeader.size bufferSize = .error what

namespace Measured

omit [JsonLibrary] in
/-- Entries are added to the log. -/
lemma append (h : Measured v) {extra : List Entry} (hlog : v'.log = v.log ++ extra)
    (hfirst : ∀ message, .authenticateCallback message ∈ extra →
      message.content.length ≤ firstMessageMaxSize)
    (hlater : ∀ message isRegistered, .handleRead message isRegistered ∈ extra →
      message.content.length ≤ bufferSize)
    (hrejected : ∀ header, .rejectedHeader header ∈ extra → LoggedIn v'.log →
      header.length = MessageHeader.size ∧
        ∃ what, MessageHeader.deserialize header MessageHeader.size bufferSize = .error what)
    (hlogged : LoggedIn v'.log → LoggedIn v.log ∨ talk v.log = []) : Measured v' := by
  rw [hlog] at hlogged hrejected
  constructor <;> rw [hlog]
  · intro message hmem
    exact (List.mem_append.mp hmem).elim (h.first message) (hfirst message)
  · intro message isRegistered hmem
    exact (List.mem_append.mp hmem).elim (h.later message isRegistered)
      (hlater message isRegistered)
  · intro header hmem hin
    rcases List.mem_append.mp hmem with hmem | hmem
    · rcases hlogged hin with hin | hnil
      · exact h.rejected header hmem hin
      · have htalk : .rejectedHeader header ∈ talk v.log := List.mem_filter.mpr ⟨hmem, rfl⟩
        rw [hnil] at htalk
        cases htalk
    · exact hrejected header hmem hin

omit [JsonLibrary] in
/-- Nothing of interest is added to the log. -/
lemma append_quiet (h : Measured v) {extra : List Entry} (hlog : v'.log = v.log ++ extra)
    (hextra : talk extra = []) : Measured v' := by
  have hnone : ∀ e ∈ extra, e.isTalk = false := by
    intro e he
    by_contra htrue
    have hmem : e ∈ talk extra := List.mem_filter.mpr ⟨he, by simpa using htrue⟩
    rw [hextra] at hmem
    cases hmem
  refine h.append hlog (fun message hmem => ?_) (fun message isRegistered hmem => ?_)
    (fun header hmem => ?_) fun hin => Or.inl ?_
  · cases hnone _ hmem
  · cases hnone _ hmem
  · cases hnone _ hmem
  · rw [hlog] at hin
    exact hin.of_quiet hextra

/-- Every move keeps the sizes right. -/
theorem move (h : Measured v) (hi : SessionInv .proxySession c v) {failed : Bool}
    (hmove : v.Move .proxySession c failed v') : Measured v' := by
  have hlater : ∀ {header : MessageHeader} {message : Message},
      .body .handleRead header ∈ v.reads → header.messageSize.toNat ≤ v.unread.length →
      message = ⟨header.type, v.unread.take header.messageSize.toNat⟩ →
      message.content.length ≤ bufferSize := by
    intro header message hread hlen hmessage
    obtain ⟨hhandler, -⟩ | ⟨-, hmax, -⟩ := hi.stage_of_body hread
    · cases hhandler
    · rw [hmessage]
      exact (List.length_take_of_le hlen).trans_le hmax
  have hfirst : ∀ {header : MessageHeader} {message : Message},
      .body .authenticateCallback header ∈ v.reads →
      header.messageSize.toNat ≤ v.unread.length →
      message = ⟨header.type, v.unread.take header.messageSize.toNat⟩ →
      talk v.log = [] ∧ message.content.length ≤ firstMessageMaxSize := by
    intro header message hread hlen hmessage
    obtain ⟨-, hmax, hnil, -⟩ | ⟨hhandler, -⟩ := hi.stage_of_body hread
    · refine ⟨hnil, ?_⟩
      rw [hmessage]
      exact (List.length_take_of_le hlen).trans_le hmax
    · cases hhandler
  cases hmove with
  | headerRejected _ messageHandler maxMessageSize what hidle hread hlen hheader =>
    obtain ⟨stage, htalk, hin⟩ := hi.inStage
    have hawaits := hin.reads _ hread
    refine h.append rfl (by simp) (by simp) (fun header hmem hlogged => ?_)
      fun hlogged => Or.inl (hlogged.of_append (by simp))
    have hlogged' : LoggedIn v.log := hlogged.of_append (by simp)
    obtain rfl : header = v.unread.take MessageHeader.size := by simpa using hmem
    refine ⟨List.length_take_of_le hlen, what, ?_⟩
    cases stage with
    | greeting => exact absurd hlogged' (not_loggedIn_of_talk htalk.eq_nil)
    | serving =>
      obtain ⟨-, rfl⟩ := hawaits
      exact hheader
    | _ => exact hawaits.elim
  | login _ header message email password hidle hread hlen hmessage hlogin =>
    obtain ⟨hnil, hmax⟩ := hfirst hread hlen hmessage
    exact h.append rfl (by simpa using hmax) (by simp) (by simp) fun _ => Or.inr hnil
  | refused _ header message checks todo hidle hread hlen hmessage hchecks htodo =>
    obtain ⟨hnil, hmax⟩ := hfirst hread hlen hmessage
    refine h.append rfl ?_ ?_ ?_ fun _ => Or.inr hnil <;>
      rcases hchecks with rfl | ⟨email, password, result, -, rfl⟩ <;> simp [hmax]
  | answered _ header message isRegistered hidle hread hlen hmessage hcontinues =>
    exact h.append rfl (by simp) (by simpa using hlater hread hlen hmessage) (by simp)
      fun hin => Or.inl (hin.of_append (by simp))
  | registered _ header message isRegistered hidle hread hlen hmessage hclass htype =>
    exact h.append rfl (by simp) (by simpa using hlater hread hlen hmessage) (by simp)
      fun hin => Or.inl (hin.of_append (by simp))
  | found _ header message streamer hidle hread hlen hmessage hclass htype hne =>
    exact h.append rfl (by simp) (by simpa using hlater hread hlen hmessage) (by simp)
      fun hin => Or.inl (hin.of_append (by simp))
  | claimed _ waiting receiver hidle hwaiting hne =>
    exact h.append rfl (by simp) (by simp) (by simp) fun hin => Or.inl (hin.of_append (by simp))
  | dropped _ n waiting hwaiting => exact h.append_quiet rfl (by simp [talk, Entry.isTalk])
  | sends _ message rest htodo => exact h.append_quiet rfl rfl
  | relays _ n bs hjoins => exact h.append_quiet rfl (by simp [talk, Entry.isTalk])
  | aborted _ torn htorn => exact h.append_quiet rfl (talk_torn torn)
  | dismissed _ torn what hlog htorn => exact h.append_quiet rfl (talk_torn torn)
  | _ => exact h.append_quiet (List.append_nil _).symm rfl

end Measured

namespace Server

variable {s : Server}

omit [JsonLibrary] in
/-- Nothing has been handled yet. -/
lemma measured_init (c : ConnId) : Measured (init.view c) := by
  constructor <;> simp [view, init, Socket.accepted]

/-- In every run the sizes are right. -/
lemma measured_of_run {ls : List Label} (hrun : Transition.Run (Step .proxySession) init ls s)
    (c : ConnId) : Measured (s.view c) := by
  have hboth : Inv .proxySession s ∧ ∀ c, Measured (s.view c) := by
    refine hrun.invariant (I := fun s => Inv .proxySession s ∧ ∀ c, Measured (s.view c))
      ⟨inv_init, measured_init⟩ ?_
    rintro r l r' ⟨hi, hm⟩ hs
    exact ⟨hi.step hs, fun c => (hm c).move (hi.session c) (view_move hi.tidy hs.2 c)⟩
  exact hboth.2 c

end Server

end ScreenViewer
