import Mathlib
import ScreenViewer.Server

/-!
# Requests that fail

`ProxySession::handleRead` changes the registry at its locked step, before any operation that may
throw, and nothing undoes the change.  So a request that is left by an exception keeps its effect on
the registry: a registration stays, and a streamer that was found is lost.

The failures of a call are a function `fails`: operation number `i` of the plan throws if it may
throw and `fails i` holds.  `survives_of_run` carries this over to the runs of a server, where an
operation throws and the catch clauses do the rest.
-/

namespace ScreenViewer

open SocketBase ServerSessionsManager

/-- Operations that may throw: anything done with a connection, but not the closing of a socket, nor
a read whose limit fits the buffer. -/
def Action.MayThrow : Action → Prop
  | .sendChunk _ _ => True
  | .asyncReadMessage _ _ maxMessageSize => bufferSize < maxMessageSize
  | .startBridge _ _ => True
  | .shutdown _ => True
  | .close _ => False

instance (a : Action) : Decidable a.MayThrow := by
  cases a <;> unfold Action.MayThrow <;> infer_instance

/-- A handler with this effect is left by an exception. -/
def Effect.Throws (effect : Effect) (fails : ℕ → Bool) : Prop :=
  match effect.plan with
  | .ok plan => ∃ i : Fin plan.length, (plan.get i).MayThrow ∧ fails i = true
  | .error _ => True

/-- Two registries hold the same codes, for the same sessions. -/
def SameSessions (r r' : Registry) : Prop :=
  ∀ code, (r.lookup code).map (·.clientSession) = (r'.lookup code).map (·.clientSession)

/-! ## The server keeps what the locked step left -/

namespace Server

/-- What throws in a server may throw. -/
lemma mayThrow_of_canThrow [SizeLayout] {s : Server} {a : Action} {what : Bytes} {written : ℕ}
    (h : s.CanThrow a what written) : a.MayThrow := by
  cases a with
  | sendChunk session message => trivial
  | asyncReadMessage session messageHandler maxMessageSize => exact h.1
  | startBridge sender receiver => trivial
  | shutdown session => trivial
  | close session => exact h

/-- The steps by which a server carries out a plan. -/
def IsOperation : Label → Prop
  | .performs _ | .throws _ => True
  | _ => False

variable [SizeLayout] [JsonLibrary] {sessionClass : SessionClass}

/-- An operation leaves the registry alone, whether it succeeds or throws. -/
lemma sendersSessions_of_operation {s t : Server} {l : Label} (h : Step sessionClass s l t)
    (hl : IsOperation l) : t.sendersSessions = s.sendersSessions := by
  obtain ⟨-, h⟩ := h
  cases h with
  | performs a rest hplan hcan => cases a <;> rfl
  | throws a rest what written hplan hcan =>
    rw [catchException]
    split <;> cases a <;> rfl
  | _ => exact hl.elim

/-- The registry stays as the locked step left it until the handler ends. -/
lemma sendersSessions_of_operations {s t : Server} {ls : List Label}
    (h : Transition.Run (Step sessionClass) s ls t) (hls : ∀ l ∈ ls, IsOperation l) :
    t.sendersSessions = s.sendersSessions := by
  induction h with
  | nil => rfl
  | snoc hrun hstep ih =>
    rw [sendersSessions_of_operation hstep (hls _ (by simp))]
    exact ih fun l hl => hls l (List.mem_append_left _ hl)

end Server

/-! ## When a failing request leaves the registry as it was -/

namespace ProxySession

variable (sendersSessions : Registry) (self : ConnId) (now : Time) (message : Message)
  (fails : ℕ → Bool)

/-- If the request is left by an exception, the registry holds what it held before. -/
def Survives : Prop :=
  (handleRead sendersSessions self now message).Throws fails →
    SameSessions (handleRead sendersSessions self now message).sendersSessions sendersSessions

/-- Registering sends one frame. -/
lemma throws_registerStreamer (h : message.type = .registerStreamer) :
    (handleRead sendersSessions self now message).Throws fails ↔ fails 0 = true := by
  have hchunks : chunks { type := .id, content := sessionId } =
      [{ type := .id, content := sessionId }] := chunks_of_le (by decide)
  have hplan : (handleRead sendersSessions self now message).plan =
      .ok [.sendChunk self { type := .id, content := sessionId }] := by
    unfold handleRead
    simp only [h, registerStreamer, sendPlan, hchunks]
    rfl
  rw [Effect.Throws, hplan]
  simp [Action.MayThrow]

/-- A request that finds its streamer has three operations. -/
lemma throws_findStreamer (h : message.type = .findStreamer) {streamer : TimedClientSession}
    (hlookup : sendersSessions.lookup message.content = some streamer) :
    (handleRead sendersSessions self now message).Throws fails ↔
      fails 0 = true ∨ fails 1 = true ∨ fails 2 = true := by
  have hplan : (handleRead sendersSessions self now message).plan =
      .ok [.sendChunk self { type := .ack, content := [] },
        .sendChunk streamer.clientSession { type := .startStream, content := [] },
        .startBridge streamer.clientSession self] := by
    unfold handleRead
    simp only [h, createBridgeWithStreamer, hlookup, sendACK_eq, sendPlan, chunks_startStream]
    simp
  rw [Effect.Throws, hplan]
  simp [Action.MayThrow, Fin.exists_fin_succ]

/-- Registering puts the session in the place of whoever had its code. -/
lemma sameSessions_registerStreamer (h : message.type = .registerStreamer) :
    SameSessions (handleRead sendersSessions self now message).sendersSessions sendersSessions ↔
      (sendersSessions.lookup sessionId).map (·.clientSession) = some self := by
  have hregistry : (handleRead sendersSessions self now message).sendersSessions =
      (registerStreamer sendersSessions self now).2.1 := by
    unfold handleRead
    rw [h]
  have hself : (registerStreamer sendersSessions self now).2.1.lookup sessionId =
      some { clientSession := self, timePoint := now } := AList.lookup_insert _
  have hother : ∀ code, code ≠ sessionId →
      (registerStreamer sendersSessions self now).2.1.lookup code =
        sendersSessions.lookup code := by
    intro code hcode
    unfold registerStreamer
    rw [AList.lookup_insert_ne hcode]
    cases sendersSessions.lookup sessionId with
    | some node => exact AList.lookup_erase_ne hcode
    | none => rfl
  rw [hregistry]
  constructor
  · intro hsame
    rw [← hsame sessionId, hself, Option.map_some]
  · intro hcode code
    by_cases heq : code = sessionId
    · rw [heq, hself, hcode, Option.map_some]
    · rw [hother code heq]

/-- A request that finds its streamer takes its code out of the registry. -/
lemma not_sameSessions_findStreamer (h : message.type = .findStreamer)
    (hmem : message.content ∈ sendersSessions) :
    ¬ SameSessions (handleRead sendersSessions self now message).sendersSessions
      sendersSessions := by
  obtain ⟨streamer, hlookup⟩ := Option.isSome_iff_exists.mp (AList.lookup_isSome.mpr hmem)
  have hregistry : (handleRead sendersSessions self now message).sendersSessions =
      sendersSessions.erase message.content := by
    unfold handleRead
    simp only [h, createBridgeWithStreamer, hlookup]
  intro hsame
  have hcode := hsame message.content
  rw [hregistry, AList.lookup_erase, hlookup] at hcode
  cases hcode

/-- A message that is no registration and finds no streamer leaves the registry alone. -/
lemma sendersSessions_handleRead (hregister : message.type ≠ .registerStreamer)
    (hfind : message.type = .findStreamer → message.content ∉ sendersSessions) :
    (handleRead sendersSessions self now message).sendersSessions = sendersSessions := by
  unfold handleRead
  split
  · exact absurd ‹_› hregister
  · simp only [createBridgeWithStreamer, AList.lookup_eq_none.mpr (hfind ‹_›)]
  · rfl

/-- The locked step leaves the sessions as they were unless it registers a session whose code the
registry does not hold for it, or finds a streamer. -/
lemma sameSessions_handleRead :
    SameSessions (handleRead sendersSessions self now message).sendersSessions sendersSessions ↔
      (message.type = .registerStreamer →
        (sendersSessions.lookup sessionId).map (·.clientSession) = some self) ∧
      (message.type = .findStreamer → message.content ∉ sendersSessions) := by
  by_cases hregister : message.type = .registerStreamer
  · rw [sameSessions_registerStreamer _ _ _ _ hregister]
    simp [hregister]
  by_cases hfind : message.type = .findStreamer ∧ message.content ∈ sendersSessions
  · obtain ⟨htype, hmem⟩ := hfind
    simp [htype, hmem, not_sameSessions_findStreamer _ _ _ _ htype hmem]
  · have hfind' : message.type = .findStreamer → message.content ∉ sendersSessions :=
      fun htype hmem => hfind ⟨htype, hmem⟩
    rw [sendersSessions_handleRead _ _ _ _ hregister hfind']
    exact ⟨fun _ => ⟨fun h => absurd h hregister, hfind'⟩, fun _ _ => rfl⟩

/-- A failing request leaves the registry as it was unless the `ID` of a registration cannot be sent
or one of the three operations for a streamer that was found throws. -/
theorem survives_iff :
    Survives sendersSessions self now message fails ↔
      (message.type = .registerStreamer → fails 0 = true →
        (sendersSessions.lookup sessionId).map (·.clientSession) = some self) ∧
      (message.type = .findStreamer → message.content ∈ sendersSessions →
        fails 0 = false ∧ fails 1 = false ∧ fails 2 = false) := by
  rw [Survives, sameSessions_handleRead]
  by_cases hregister : message.type = .registerStreamer
  · rw [throws_registerStreamer _ _ _ _ _ hregister]
    simp [hregister]
  by_cases hfind : message.type = .findStreamer ∧ message.content ∈ sendersSessions
  · obtain ⟨htype, hmem⟩ := hfind
    obtain ⟨streamer, hlookup⟩ := Option.isSome_iff_exists.mp (AList.lookup_isSome.mpr hmem)
    rw [throws_findStreamer _ _ _ _ _ htype hlookup]
    simp [htype, hmem]
  · constructor
    · exact fun _ => ⟨fun h => absurd h hregister, fun htype hmem => absurd ⟨htype, hmem⟩ hfind⟩
    · exact fun _ _ => ⟨fun h => absurd h hregister, fun htype hmem => hfind ⟨htype, hmem⟩⟩

/-- A streamer is lost when its receiver has died before the `ACK` is sent. -/
theorem lost_streamer :
    ¬ Survives (registerStreamer ∅ 0 0).2.1 1 0 { type := .findStreamer, content := sessionId }
      (fun i => i = 0) := by
  intro h
  have hmem : sessionId ∈ (registerStreamer ∅ 0 0).2.1 := by decide
  obtain ⟨streamer, hlookup⟩ := Option.isSome_iff_exists.mp (AList.lookup_isSome.mpr hmem)
  exact not_sameSessions_findStreamer _ _ _ _ rfl hmem
    (h ((throws_findStreamer _ _ _ _ _ rfl hlookup).mpr (Or.inl rfl)))

end ProxySession

/-! ## Failing requests in the runs of a server -/

namespace Server

variable [SizeLayout] [JsonLibrary] {sessionClass : SessionClass} {s t : Server}

/-- Every operation that a handler performs is the next of its plan. -/
lemma plan_of_performs {done : List Label} (h : Transition.Run (Step sessionClass) s done t)
    (hdone : ∀ l ∈ done, ∃ a, l = .performs a) : t.plan = s.plan.drop done.length := by
  induction h with
  | nil => rfl
  | snoc hrun hstep ih =>
    have hplan := ih fun l hl => hdone l (List.mem_append_left _ hl)
    obtain ⟨a, rfl⟩ := hdone _ (List.mem_append_right _ List.mem_cons_self)
    obtain ⟨-, hmove⟩ := hstep
    cases hmove with
    | performs a rest hnext hcan =>
      rw [hnext] at hplan
      rw [List.length_append, List.length_singleton, ← List.drop_drop, ← hplan]
      rfl

/-- A handler one of whose operations throws in a run is left by an exception when the operation of
this number fails. -/
lemma throws_of_run {self : ConnId} {effect : Effect} {done : List Label} {a : Action}
    {r : Server} (hdone : ∀ l ∈ done, ∃ a, l = .performs a)
    (hrun : Transition.Run (Step sessionClass) (r.runHandler self effect) done s)
    (hthrows : Step sessionClass s (.throws a) t) :
    effect.Throws fun i => i = done.length := by
  unfold Effect.Throws
  cases hplan : effect.plan with
  | error what => trivial
  | ok plan =>
    have hdrop : s.plan = plan.drop done.length := by
      rw [plan_of_performs hrun hdone, runHandler, hplan]
    obtain ⟨-, hmove⟩ := hthrows
    cases hmove with
    | throws a rest what written hnext hcan =>
      have hget : plan[done.length]? = some a := by
        rw [← List.head?_drop, ← hdrop, hnext, List.head?_cons]
      obtain ⟨hlt, ha⟩ := List.getElem?_eq_some_iff.mp hget
      refine ⟨⟨done.length, hlt⟩, ?_, decide_eq_true rfl⟩
      rw [List.get_eq_getElem, ha]
      exact mayThrow_of_canThrow hcan

/-- A request that is left by an exception, whichever operation throws it: when its handler has
ended, the registry holds what it held before if the request survives the failure of this operation,
that is, if it neither registers its session anew nor finds a streamer. -/
theorem survives_of_run {r u : Server} {self : ConnId} {now : Time} {message : Message}
    {done rest : List Label} {a : Action} (hdone : ∀ l ∈ done, ∃ a, l = .performs a)
    (hrun : Transition.Run (Step .proxySession)
      (r.runHandler self (ProxySession.handleRead r.sendersSessions self now message)) done s)
    (hthrows : Step .proxySession s (.throws a) t)
    (hrest : Transition.Run (Step .proxySession) t rest u) (hops : ∀ l ∈ rest, IsOperation l) :
    (SameSessions u.sendersSessions r.sendersSessions ↔
      ProxySession.Survives r.sendersSessions self now message fun i => i = done.length) ∧
    (SameSessions u.sendersSessions r.sendersSessions ↔
      (message.type = .registerStreamer →
        (r.sendersSessions.lookup sessionId).map (·.clientSession) = some self) ∧
      (message.type = .findStreamer → message.content ∉ r.sendersSessions)) := by
  have hthrown := throws_of_run hdone hrun hthrows
  have hperformed : ∀ l ∈ done, IsOperation l := by
    intro l hl
    obtain ⟨b, rfl⟩ := hdone l hl
    trivial
  have hregistry : u.sendersSessions =
      (ProxySession.handleRead r.sendersSessions self now message).sendersSessions := by
    rw [sendersSessions_of_operations hrest hops, sendersSessions_of_operation hthrows trivial,
      sendersSessions_of_operations hrun hperformed, sendersSessions_runHandler]
  rw [hregistry]
  exact ⟨⟨fun h _ => h, fun h => h hthrown⟩, ProxySession.sameSessions_handleRead _ _ _ _⟩

end Server

end ScreenViewer
