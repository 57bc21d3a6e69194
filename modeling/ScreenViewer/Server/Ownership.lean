import Mathlib
import ScreenViewer.Server.Execution
import ScreenViewer.Server.Invariant

/-!
# Single ownership of connections

Between two runs of handlers every accepted connection is in exactly one situation: its session
reads, it is registered, a bridge has its socket, or it is finished.  The count of owners in the
invariant of the connections says so; what is left is to read the situations off the server's own
data.

A request for a streamer may also be left by an exception, when one of its operations throws.
`returned` is what it returns otherwise.
-/

namespace ScreenViewer

open SocketBase AuthenticatedSession ServerSessionsManager

/-- The situations of a connection between two handlers. -/
inductive Situation
  | reading
  | registered
  | bridged
  | finished
  deriving DecidableEq

namespace ServerSessionsManager

/-- What a request returns when the operation number `failure` of its plan throws, if any does:
nothing when it is left by the exception. -/
def returned (sendersSessions : Registry) (receiver : ConnId) (sessionCode : Code)
    (failure : Option ℕ) : Option Bool :=
  let r := createBridgeWithStreamer sendersSessions receiver sessionCode
  match failure with
  | some k => if k < r.2.2.2.length then none else some r.1
  | none => some r.1

end ServerSessionsManager

namespace Server

variable (s : Server) (c : ConnId)

/-- The session of a connection is not in the registry. -/
def Unregistered : Prop :=
  ∀ code node, s.sendersSessions.lookup code = some node → node.clientSession ≠ c

/-- The bridges that own the socket of a connection. -/
def bridgesOf : List Joined := s.bridges.filter fun j => j.sender = c ∨ j.receiver = c

/-- The connection is in a situation. -/
def IsIn : Situation → Prop
  | .reading => (s.conn c).reads.length = 1 ∧ s.Unregistered c ∧ s.bridgesOf c = []
  | .registered => (s.conn c).reads = [] ∧
      (∃! code, ∃ node, s.sendersSessions.lookup code = some node ∧ node.clientSession = c) ∧
      s.bridgesOf c = []
  | .bridged => (s.conn c).reads = [] ∧ s.Unregistered c ∧ (s.bridgesOf c).length = 1
  | .finished => (s.conn c).reads = [] ∧ s.Unregistered c ∧ s.bridgesOf c = []

/-- Every connection has one owner at most, and what follows for registrations, bridges and
requests. -/
structure SingleOwnership : Prop where
  /-- Between two handlers an accepted connection is in exactly one situation. -/
  situation : s.plan = [] → ∀ c, (s.conn c).accepted = true → ∃! x, s.IsIn c x
  /-- A connection registers once at most, and its registration waits, was handed to one request, or
  was dropped. -/
  registration : ∀ c, (s.conn c).socket.log.count (.registered sessionId) ≤ 1 ∧
    (s.conn c).socket.log.count (.registered sessionId) =
      waiting s.sendersSessions c +
        (s.conn c).socket.log.countP (fun e => e matches .claimed _) +
        (s.conn c).socket.log.count .dropped
  /-- At no time does a session read what a bridge owns. -/
  reads_alone : ∀ c, (s.conn c).reads ≠ [] → s.bridgesOf c = []
  /-- No connection is bridged twice. -/
  bridged_once : ∀ c, (s.bridgesOf c).length ≤ 1
  /-- No connection is bridged with itself. -/
  bridged_apart : ∀ j ∈ s.bridges, j.sender ≠ j.receiver
  /-- A request returns true only if its code is in the map, and then it returns true or is left by
  an exception; with any other code it returns false and leaves the map unchanged. -/
  find : ∀ receiver code failure,
    (returned s.sendersSessions receiver code failure = some true → code ∈ s.sendersSessions) ∧
      (code ∈ s.sendersSessions →
        returned s.sendersSessions receiver code none = some true ∧
          returned s.sendersSessions receiver code failure ≠ some false) ∧
      (code ∉ s.sendersSessions →
        returned s.sendersSessions receiver code failure = some false ∧
          (createBridgeWithStreamer s.sendersSessions receiver code).2.1 = s.sendersSessions)

/-! ## From the view to the server -/

lemma unregistered_iff : s.Unregistered c ↔ waiting s.sendersSessions c = 0 := by
  constructor
  · intro h
    by_contra hne
    obtain ⟨code, node, hlookup, hnode⟩ :=
      AList.exists_lookup_of_valueCount_pos (Nat.pos_of_ne_zero hne)
    exact h code node hlookup hnode
  · intro h code node hlookup hnode
    have hpos := AList.valueCount_pos (p := fun node => node.clientSession = c) hlookup hnode
    rw [waiting] at h
    omega

/-- A session that waits once waits under one code. -/
lemma existsUnique_code (h : waiting s.sendersSessions c = 1) :
    ∃! code, ∃ node, s.sendersSessions.lookup code = some node ∧ node.clientSession = c := by
  obtain ⟨code, node, hlookup, hnode⟩ :=
    AList.exists_lookup_of_valueCount_pos (h.symm ▸ one_pos : 0 < waiting s.sendersSessions c)
  refine ⟨code, ⟨node, hlookup, hnode⟩, ?_⟩
  rintro code' ⟨node', hlookup', hnode'⟩
  have hle : s.sendersSessions.valueCount (fun node => node.clientSession = c) ≤ 1 := h.le
  exact AList.eq_of_valueCount_le_one hle hlookup' hlookup hnode' hnode

lemma length_bridgesOf : (s.bridgesOf c).length = (s.view c).joins.length := by
  simp only [bridgesOf, view, List.filter_map, List.length_map]
  rfl

/-- What a request returns. -/
lemma returned_spec (sendersSessions : Registry) (receiver : ConnId) (code : Code)
    (failure : Option ℕ) :
    (returned sendersSessions receiver code failure = some true → code ∈ sendersSessions) ∧
      (code ∈ sendersSessions →
        returned sendersSessions receiver code none = some true ∧
          returned sendersSessions receiver code failure ≠ some false) ∧
      (code ∉ sendersSessions →
        returned sendersSessions receiver code failure = some false ∧
          (createBridgeWithStreamer sendersSessions receiver code).2.1 = sendersSessions) := by
  cases hlookup : sendersSessions.lookup code with
  | some node =>
    have hmem : code ∈ sendersSessions := AList.lookup_isSome.mp (by rw [hlookup]; rfl)
    refine ⟨fun _ => hmem, fun _ => ⟨?_, ?_⟩, fun h => absurd hmem h⟩
    · simp [returned, createBridgeWithStreamer, hlookup]
    · cases failure with
      | none => simp [returned, createBridgeWithStreamer, hlookup]
      | some k =>
        simp only [returned, createBridgeWithStreamer, hlookup]
        split <;> simp
  | none =>
    have hmem : code ∉ sendersSessions := AList.lookup_eq_none.mp hlookup
    have hfalse : returned sendersSessions receiver code failure = some false := by
      cases failure <;> simp [returned, createBridgeWithStreamer, hlookup]
    refine ⟨fun h => ?_, fun h => absurd h hmem, fun _ => ⟨hfalse, ?_⟩⟩
    · rw [hfalse] at h
      cases h
    · simp [createBridgeWithStreamer, hlookup]

section Reachable

variable [SizeLayout] [JsonLibrary] {sessionClass : SessionClass} {s}

/-- Between two handlers the owner of a connection tells the situation. -/
lemma existsUnique_situation (hi : Inv sessionClass s) (hidle : s.plan = []) :
    ∃! x, s.IsIn c x := by
  have howners := (hi.session c).owners_le
  have hclaims : claims (s.view c).todo = 0 := by
    rw [view, hidle]
    rfl
  have hcount :
      (s.conn c).reads.length + waiting s.sendersSessions c + (s.bridgesOf c).length ≤ 1 := by
    rw [View.owners, hclaims, ← length_bridgesOf] at howners
    exact howners
  have hreads : (s.conn c).reads = [] ↔ (s.conn c).reads.length = 0 := List.length_eq_zero_iff.symm
  have hbridges : s.bridgesOf c = [] ↔ (s.bridgesOf c).length = 0 := List.length_eq_zero_iff.symm
  have hunique : (∃! code, ∃ node, s.sendersSessions.lookup code = some node ∧
      node.clientSession = c) → waiting s.sendersSessions c ≠ 0 := by
    rintro ⟨code, ⟨node, hlookup, hnode⟩, -⟩ hzero
    exact (s.unregistered_iff c).mpr hzero code node hlookup hnode
  -- The three counts add up to one at most; the situation is the one that is not zero.
  have hcases : (s.conn c).reads.length = 1 ∨ waiting s.sendersSessions c = 1 ∨
      (s.bridgesOf c).length = 1 ∨ ((s.conn c).reads.length = 0 ∧
        waiting s.sendersSessions c = 0 ∧ (s.bridgesOf c).length = 0) := by
    omega
  rcases hcases with h | h | h | ⟨h₁, h₂, h₃⟩
  · refine ⟨.reading, ⟨h, (s.unregistered_iff c).mpr (by omega), hbridges.mpr (by omega)⟩, ?_⟩
    rintro (_ | _ | _ | _) hx
    · rfl
    · exact absurd (hreads.mp hx.1) (by omega)
    · exact absurd (hreads.mp hx.1) (by omega)
    · exact absurd (hreads.mp hx.1) (by omega)
  · refine ⟨.registered, ⟨hreads.mpr (by omega), s.existsUnique_code c h, hbridges.mpr (by omega)⟩,
      ?_⟩
    rintro (_ | _ | _ | _) hx
    · exact absurd ((s.unregistered_iff c).mp hx.2.1) (by omega)
    · rfl
    · exact absurd ((s.unregistered_iff c).mp hx.2.1) (by omega)
    · exact absurd ((s.unregistered_iff c).mp hx.2.1) (by omega)
  · refine ⟨.bridged, ⟨hreads.mpr (by omega), (s.unregistered_iff c).mpr (by omega), h⟩, ?_⟩
    rintro (_ | _ | _ | _) hx
    · exact absurd (hbridges.mp hx.2.2) (by omega)
    · exact absurd (hbridges.mp hx.2.2) (by omega)
    · rfl
    · exact absurd (hbridges.mp hx.2.2) (by omega)
  · refine ⟨.finished, ⟨hreads.mpr h₁, (s.unregistered_iff c).mpr h₂, hbridges.mpr h₃⟩, ?_⟩
    rintro (_ | _ | _ | _) hx
    · exact absurd hx.1 (by omega)
    · exact absurd h₂ (hunique hx.2.1)
    · exact absurd hx.2.2 (by omega)
    · rfl

/-- The number of registrations in the conversation that leads to a stage. -/
def Stage.registrations : Stage → ℕ
  | .registered | .claimed _ => 1
  | _ => 0

omit [SizeLayout] in
/-- A conversation registers once at most. -/
lemma count_registered_talk {c : ConnId} {l : List Entry} {stage : Stage}
    (h : Talk sessionClass c l stage) :
    l.count (.registered sessionId) = Stage.registrations stage := by
  induction h with
  | greeting => rfl
  | rejectedFirst header => simp [Stage.registrations]
  | refused message checks h =>
    rcases h with rfl | ⟨email, password, result, -, rfl⟩ <;> simp [Stage.registrations]
  | login message email password h hlen => simp [Stage.registrations]
  | answered message isRegistered hl h ih => simpa [Stage.registrations] using ih
  | rejected header hl ih => simpa [Stage.registrations] using ih
  | registered message isRegistered hl hclass h ih => simpa [Stage.registrations] using ih
  | claimed receiver hl hne ih => simpa [Stage.registrations] using ih
  | found message streamer hl hclass h hne ih => simpa [Stage.registrations] using ih

/-- Every connection has one owner at most, in every reachable state. -/
theorem single_ownership {ls : List Label}
    (hrun : Transition.Run (Step sessionClass) init ls s) : s.SingleOwnership := by
  have hi := inv_of_run hrun
  have hone : ∀ c, (s.conn c).reads.length + (s.bridgesOf c).length ≤ 1 := by
    intro c
    have howners := (hi.session c).owners_le
    rw [View.owners, ← length_bridgesOf] at howners
    have hreads : (s.view c).reads = (s.conn c).reads := rfl
    rw [hreads] at howners
    omega
  refine ⟨fun hidle c _ => existsUnique_situation c hi hidle, fun c => ⟨?_, ?_⟩, fun c hreads => ?_,
    fun c => ?_, fun j hj => ?_, fun receiver code failure => returned_spec _ _ _ _⟩
  · obtain ⟨stage, htalk, -⟩ := (hi.session c).inStage
    have hcount : (talk (s.view c).log).count (.registered sessionId) =
        (s.view c).log.count (.registered sessionId) := List.count_filter rfl
    change (s.view c).log.count _ ≤ 1
    rw [← hcount, count_registered_talk htalk]
    cases stage <;> simp [Stage.registrations]
  · exact (hi.session c).registrations
  · have := List.length_pos_iff.mpr hreads
    have := hone c
    exact List.length_eq_zero_iff.mp (by omega)
  · have := hone c
    omega
  · obtain ⟨stage, -, hin⟩ := (hi.session j.sender).inStage
    refine (hin.joins (j.sender, j.receiver) ?_).1
    simp only [view, List.mem_filter, List.mem_map]
    exact ⟨⟨j, hj, rfl⟩, by simp⟩

end Reachable

/-- Two connections log in, and one of them registers. -/
theorem single_ownership_registered :
    letI := littleEndian
    letI := Json.stringObjects
    ∃ ls s, Transition.Run (Step .proxySession) init ls s ∧ s.SingleOwnership ∧
      s.plan = [] ∧ waiting s.sendersSessions 0 = 1 ∧ (s.conn 1).reads.length = 1 := by
  let := littleEndian
  let := Json.stringObjects
  obtain ⟨ls, s, hrun, hs⟩ := exists_run_of_replay .proxySession (s := init)
    (logsIn 0 ++ logsIn 1 ++ writes 0 none 0 { type := .registerStreamer, content := [] } ++
      [.performs])
    (fun _ s => s.plan = [] ∧ waiting s.sendersSessions 0 = 1 ∧ (s.conn 1).reads.length = 1)
    (by decide +kernel)
  exact ⟨ls, s, hrun, single_ownership hrun, of_decide_eq_true hs⟩

/-- A request whose code is in the map does not return true when its first operation throws. -/
theorem not_returned_of_failure :
    let sendersSessions := (registerStreamer ∅ 0 0).2.1
    ¬ (returned sendersSessions 1 sessionId (some 0) = some true ↔
      sessionId ∈ sendersSessions) := by
  intro sendersSessions h
  have hreturned : returned sendersSessions 1 sessionId (some 0) = none := by decide +kernel
  rw [hreturned] at h
  exact absurd (h.mpr (by decide)) nofun

end Server

end ScreenViewer
