import Mathlib
import ScreenViewer.Server.Conversation

/-!
# The invariant of a server

Every connection of a reachable server satisfies `SessionInv`: the projection of a move to a view
needs to know that the server is tidy, and that is what the invariant of the connections says.
-/

namespace ScreenViewer

open SocketBase AuthenticatedSession

section Views

variable [SizeLayout] [JsonLibrary] {sessionClass : SessionClass} {c : ConnId} {v v' : View}

/-- What can happen to a connection that no session reads and that is not registered; the flag says
whether a network operation of the server has failed. -/
inductive View.Operation (c : ConnId) : Bool → View → View → Prop
  /-- The peer writes, or the bridge that owns the socket reads from it or writes to it. -/
  | rests (v : View) (bytes : Bytes) (n : ℕ) (blocks : List Bytes)
      (hblocks : v.joins = [] → blocks = []) :
      View.Operation c false v
        { v with
          sent := v.sent ++ bytes
          unread := v.unread.drop n ++ bytes
          log := v.log ++ blocks.map .relayed }
  /-- A frame is written. -/
  | sends (v : View) (message : Message) (rest : Plan)
      (htodo : v.todo = .sendChunk c message :: rest) :
      View.Operation c false v { v with log := v.log ++ [.frame message], todo := rest }
  /-- The session waits for a message. -/
  | arms (v : View) (messageHandler : MessageHandler) (maxMessageSize : ℕ) (rest : Plan)
      (htodo : v.todo = .asyncReadMessage c messageHandler maxMessageSize :: rest) :
      View.Operation c false v
        { v with reads := v.reads ++ [.header messageHandler maxMessageSize], todo := rest }
  /-- A bridge takes the socket over. -/
  | joins (v : View) (sender receiver : ConnId) (rest : Plan)
      (htodo : v.todo = .startBridge sender receiver :: rest) :
      View.Operation c false v { v with joins := v.joins ++ [(sender, receiver)], todo := rest }
  /-- The socket is shut down or closed. -/
  | closes (v : View) (a : Action) (rest : Plan) (htodo : v.todo = a :: rest)
      (ha : a = .shutdown c ∨ a = .close c) : View.Operation c false v { v with todo := rest }
  /-- A handler is left because of an exception. -/
  | fails (v : View) (torn : List (Message × ℕ)) (todo : Plan)
      (htorn : ∀ t ∈ torn, .sendChunk c t.1 ∈ v.todo) (htodo : ∀ a ∈ todo, Farewell c a) :
      View.Operation c true v { v with log := v.log ++ torn.map fun t => .torn t.1 t.2, todo }

/-- Without reads and registrations, only the operations of the running handler are left. -/
lemma View.Move.operation {failed : Bool} (h : View.Move sessionClass c failed v v')
    (haccepted : v.accepted = true) (hreads : v.reads = []) (hwaiting : v.waiting = 0) :
    View.Operation c failed v v' := by
  have hread : ∀ read, read ∉ v.reads := by simp [hreads]
  cases h with
  | idle => simpa using View.Operation.rests (c := c) v [] 0 [] (fun _ => rfl)
  | accepts _ hidle hnew => simp [haccepted] at hnew
  | acceptFails _ hnew => simp [haccepted] at hnew
  | peerWrites _ bytes hnew =>
    simpa using View.Operation.rests (c := c) v bytes 0 [] (fun _ => rfl)
  | headerAccepted _ _ _ _ _ h => exact absurd h (hread _)
  | headerRejected _ _ _ _ _ h => exact absurd h (hread _)
  | login _ _ _ _ _ _ h => exact absurd h (hread _)
  | refused _ _ _ _ _ _ h => exact absurd h (hread _)
  | answered _ _ _ _ _ h => exact absurd h (hread _)
  | registered _ _ _ _ _ h => exact absurd h (hread _)
  | found _ _ _ _ _ h => exact absurd h (hread _)
  | claimed _ _ _ _ h => omega
  | dropped _ n waiting h =>
    obtain ⟨rfl, rfl⟩ : n = 0 ∧ waiting = v.waiting := by omega
    simpa using View.Operation.rests (c := c) v [] 0 [] (fun _ => rfl)
  | sends _ message rest htodo => exact View.Operation.sends v message rest htodo
  | arms _ messageHandler maxMessageSize rest htodo =>
    exact View.Operation.arms v messageHandler maxMessageSize rest htodo
  | joins _ sender receiver rest htodo => exact View.Operation.joins v sender receiver rest htodo
  | closes _ a rest htodo ha => exact View.Operation.closes v a rest htodo ha
  | readFails _ read h => exact absurd h (hread _)
  | relays _ n blocks hjoins =>
    simpa using View.Operation.rests (c := c) v [] n blocks (fun h => absurd h hjoins)
  | aborted _ torn htorn => exact View.Operation.fails v torn [] htorn (by simp)
  | dismissed _ torn what hlog htorn =>
    exact View.Operation.fails v torn _ htorn fun a => farewell_disconnect

omit [SizeLayout] [JsonLibrary] in
/-- An operation adds nothing to the conversation. -/
lemma View.Operation.talk_eq {failed : Bool} (h : View.Operation c failed v v') :
    talk v'.log = talk v.log := by
  cases h with
  | rests _ bytes n blocks hblocks => simp [talk, Entry.isTalk]
  | sends _ message rest htodo => simp [talk, Entry.isTalk]
  | fails _ torn todo htorn htodo => rw [talk_append, talk_torn, List.append_nil]
  | _ => rfl

/-- Logs only grow. -/
lemma View.Move.prefix_log {failed : Bool} (h : View.Move sessionClass c failed v v') :
    v.log <+: v'.log := by
  cases h <;> first | exact List.prefix_refl _ | exact List.prefix_append _ _

end Views

namespace Server

variable [SizeLayout] [JsonLibrary] (sessionClass : SessionClass)

/-- What holds of every reachable server. -/
structure Inv (s : Server) : Prop where
  /-- Each connection is in order. -/
  session : ∀ c, SessionInv sessionClass c (s.view c)
  /-- A handler whose exceptions are caught has been called with a message. -/
  log_ne : s.guarded = false → (s.view s.self).log ≠ []

variable {sessionClass} {s t : Server}

/-- A server in order is tidy. -/
lemma Inv.tidy (hi : Inv sessionClass s) : Tidy s where
  waiting_eq := by
    intro c hreads
    obtain ⟨read, hread⟩ := List.exists_mem_of_ne_nil _ hreads
    exact ((hi.session c).of_mem_reads hread).2.1
  log_ne := hi.log_ne

/-- The invariant of a server that has just been started. -/
lemma inv_init : Inv sessionClass init := by
  refine ⟨fun c => ⟨?_, ?_, ⟨.greeting, Talk.greeting, ?_⟩, ?_, ?_, ?_, ?_⟩, ?_⟩
  · simp [view, init, View.owners, about, claims, ServerSessionsManager.waiting, Socket.accepted]
  · simp [view, init, View.owners, about, claims, ServerSessionsManager.waiting]
  · exact ⟨by simp [view, init], by simp [view, init, about],
      by simp [view, init, ServerSessionsManager.waiting], by simp [view, init],
      by simp [view, init, Socket.accepted]⟩
  · simp [view, init, Socket.accepted, consumed]
  · simp [view, init, Socket.accepted, consumed, taken]
  · simp [view, init, Socket.accepted]
  · simp [view, init, Socket.accepted, ServerSessionsManager.waiting]
  · simp [init]

omit [SizeLayout] in
/-- A handler that is called with a message leaves a mark on its session. -/
lemma log_runHandler_ne {messageHandler : MessageHandler} {message : Message} {now : Time}
    {e : Effect} {c : ConnId}
    (he : Handled sessionClass s.sendersSessions c now message messageHandler e) (r : Server) :
      ((r.runHandler c e).view c).log ≠ [] := by
  rw [view_runHandler]
  have hmarks : entriesOf c e.marks ≠ [] := by
    cases he <;> simp
  simp [hmarks]

/-- The running handler stays the same, or is guarded, or has just been called with a message. -/
lemma guarded_of_move {l : Label} (h : Move sessionClass s l t) (hguarded : t.guarded = false) :
    (s.guarded = false ∧ t.self = s.self) ∨ (t.view t.self).log ≠ [] := by
  cases h with
  | accept => cases hguarded
  | headerRejected => cases hguarded
  | bodyCompletes c messageHandler header usersManager now hidle hread hlen =>
    refine Or.inr ?_
    rw [self_runHandler]
    exact log_runHandler_ne (handled_invoke usersManager messageHandler) _
  | throws a rest what written hplan hcan =>
    rw [guarded_catchException] at hguarded
    cases hguarded
  | performs a rest hplan hcan =>
    refine Or.inl ?_
    cases a <;> exact ⟨hguarded, rfl⟩
  | _ => exact Or.inl ⟨hguarded, rfl⟩

/-- Every step keeps the invariant. -/
theorem Inv.step (hi : Inv sessionClass s) {l : Label} (h : Step sessionClass s l t) :
    Inv sessionClass t where
  session c := (hi.session c).move (view_move hi.tidy h.2 c)
  log_ne := by
    intro hguarded
    rcases guarded_of_move h.2 hguarded with ⟨hs, hself⟩ | hne
    · rw [hself]
      have hpre := (view_move hi.tidy h.2 s.self).prefix_log
      exact fun hnil => hi.log_ne hs (List.prefix_nil.mp (hnil ▸ hpre))
    · exact hne

/-- The invariant holds along every run. -/
theorem inv_of_run {ls : List Label} (h : Transition.Run (Step sessionClass) init ls s) :
    Inv sessionClass s :=
  h.invariant inv_init fun _ _ _ hI hs => hI.step hs

end Server

end ScreenViewer
