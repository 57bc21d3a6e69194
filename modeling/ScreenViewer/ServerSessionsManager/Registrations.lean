import Mathlib
import ScreenViewer.ServerSessionsManager

/-!
# When registrations keep out of each other's way

The calls of `ServerSessionsManager` run one after another, each in one locked step.  Beside the
map, a `Manager` keeps the registrations that are neither claimed nor timed out, as its clients see
them: one is added by `registerStreamer`, taken away by the request that finds it, and taken away by
the cleaner's pass that erases it.  `Kept` says that the map holds exactly these, each under the
code its streamer was given.

Every streamer is given the same code, so a registration displaces the one before it.
`kept_iff` says exactly which sequences of calls are spared.
-/

namespace ScreenViewer

namespace ServerSessionsManager

/-- A registration: the code given to the streamer, its session, and the time. -/
abbrev Registration := Sigma fun _ : Code => TimedClientSession

/-- The map and the registrations that are neither claimed nor timed out. -/
structure Manager where
  sendersSessions : Registry
  /-- The unclaimed, unexpired registrations, oldest first (history). -/
  registrations : List Registration

/-- A call of the manager. -/
inductive Call
  | registerStreamer (sender : ConnId) (now : Time)
  | createBridgeWithStreamer (receiver : ConnId) (sessionCode : Code)
  | terminateTimeoutClients (overflow : DurationOverflow) (clientTimeout : Seconds)
      (now : ℕ → Time)

namespace Manager

/-- The manager of a server that has just been started. -/
def empty : Manager := { sendersSessions := ∅, registrations := [] }

/-- Performs a call. -/
def call (m : Manager) : Call → Manager
  | .registerStreamer sender now =>
    let (code, sendersSessions, _) := registerStreamer m.sendersSessions sender now
    { sendersSessions
      registrations := m.registrations ++ [⟨code, { clientSession := sender, timePoint := now }⟩] }
  | .createBridgeWithStreamer receiver sessionCode =>
    { sendersSessions := (createBridgeWithStreamer m.sendersSessions receiver sessionCode).2.1
      registrations :=
        match m.sendersSessions.lookup sessionCode with
        | some senderNode => m.registrations.erase ⟨sessionCode, senderNode⟩
        | none => m.registrations }
  | .terminateTimeoutClients overflow clientTimeout now =>
    { sendersSessions := (terminateTimeoutClients overflow m.sendersSessions clientTimeout now).1
      registrations :=
        m.registrations.diff
          (terminateLoop overflow clientTimeout now 0 m.sendersSessions.entries).2 }

/-- Performs calls in order. -/
def run (calls : List Call) : Manager := calls.foldl call empty

/-- What the clients of the manager rely on. -/
structure Kept (m : Manager) : Prop where
  /-- No two unclaimed, unexpired streamers were given the same code. -/
  codes_nodup : (m.registrations.map Sigma.fst).Nodup
  /-- A request with the code that such a streamer was given yields this streamer's session. -/
  found : ∀ r ∈ m.registrations, ∀ receiver,
    (createBridgeWithStreamer m.sendersSessions receiver r.1).1 = true ∧
      (createBridgeWithStreamer m.sendersSessions receiver r.1).2.2.1 = some r.2.clientSession
  /-- Their number is what `currentSessions` returns. -/
  currentSessions_eq : currentSessions m.sendersSessions = m.registrations.length

/-- A manager whose map holds exactly the registrations is in order. -/
lemma kept_of_perm {m : Manager} (h : m.registrations.Perm m.sendersSessions.entries) : m.Kept where
  codes_nodup := (h.map Sigma.fst).nodup_iff.mpr m.sendersSessions.nodupKeys
  found := by
    intro r hr receiver
    have hlookup : m.sendersSessions.lookup r.1 = some r.2 :=
      AList.mem_lookup_iff.mpr (h.mem_iff.mp hr)
    simp [createBridgeWithStreamer, hlookup]
  currentSessions_eq := h.length_eq.symm

/-- Every key of the map is the one code there is. -/
def OneCode (m : Manager) : Prop := ∀ code ∈ m.sendersSessions, code = sessionId

/-- No call brings in another code. -/
lemma OneCode.call {m : Manager} (h : m.OneCode) (c : Call) : (m.call c).OneCode := by
  intro code hcode
  cases c with
  | registerStreamer sender now =>
    simp only [Manager.call, registerStreamer, AList.mem_insert] at hcode
    rcases hcode with hcode | hcode
    · exact hcode
    · refine h code ?_
      cases hlookup : m.sendersSessions.lookup sessionId with
      | some node =>
        simp only [hlookup, AList.mem_erase] at hcode
        exact hcode.2
      | none => simpa [hlookup] using hcode
  | createBridgeWithStreamer receiver sessionCode =>
    refine h code ?_
    cases hlookup : m.sendersSessions.lookup sessionCode with
    | some node =>
      simp only [Manager.call, createBridgeWithStreamer, hlookup, AList.mem_erase] at hcode
      exact hcode.2
    | none => simpa [Manager.call, createBridgeWithStreamer, hlookup] using hcode
  | terminateTimeoutClients overflow clientTimeout now =>
    refine h code (AList.mem_keys.mpr ?_)
    exact ((terminateLoop_sublist ..).map Sigma.fst).subset (AList.mem_keys.mp hcode)

/-- After any calls there is one code. -/
lemma oneCode_run (calls : List Call) : (run calls).OneCode := by
  induction calls using List.reverseRecOn with
  | nil => simp [OneCode, run, empty]
  | append_singleton calls c ih =>
    rw [run, List.foldl_concat]
    exact OneCode.call ih c

/-- A registration with nobody waiting, a claim and the cleaner's pass change the map as they change
the registrations. -/
lemma perm_call {m : Manager} (h : m.registrations.Perm m.sendersSessions.entries) {c : Call}
    (hc : ∀ sender now, c = .registerStreamer sender now → currentSessions m.sendersSessions = 0) :
    (m.call c).registrations.Perm (m.call c).sendersSessions.entries := by
  cases c with
  | registerStreamer sender now =>
    have hnil : m.sendersSessions.entries = [] := List.length_eq_zero_iff.mp (hc sender now rfl)
    have hempty : m.sendersSessions = ∅ := AList.ext hnil
    rw [hnil, List.perm_nil] at h
    simp [call, registerStreamer, h, hempty]
  | createBridgeWithStreamer receiver sessionCode =>
    cases hlookup : m.sendersSessions.lookup sessionCode with
    | some node =>
      have hperm := (h.trans (AList.entries_perm_cons_erase hlookup)).erase ⟨sessionCode, node⟩
      simpa [call, createBridgeWithStreamer, hlookup] using hperm
    | none => simpa [call, createBridgeWithStreamer, hlookup] using h
  | terminateTimeoutClients overflow clientTimeout now =>
    have hperm := h.trans (terminateLoop_perm overflow clientTimeout now 0
      m.sendersSessions.entries).symm
    refine (hperm.diff_right _).trans (List.perm_iff_count.mpr fun r => ?_)
    rw [List.count_diff, List.count_append, Nat.add_sub_cancel]
    rfl

/-- A registration while somebody is waiting leaves the map with fewer entries than there are
registrations. -/
lemma not_kept_call {m : Manager} (hcode : m.OneCode) (hkept : m.Kept)
    (h : currentSessions m.sendersSessions ≠ 0) (sender : ConnId) (now : Time) :
    ¬ (m.call (.registerStreamer sender now)).Kept := by
  intro hkept'
  obtain ⟨r, hr⟩ := List.exists_mem_of_length_pos (Nat.pos_of_ne_zero h)
  have hlookup : m.sendersSessions.lookup sessionId = some r.2 := by
    have hcode' : r.1 = sessionId := hcode r.1 (AList.mem_keys.mpr (List.mem_map_of_mem hr))
    rw [← hcode']
    exact AList.mem_lookup_iff.mpr hr
  have hlength := (AList.entries_perm_cons_erase hlookup).length_eq
  have heq := hkept.currentSessions_eq
  have heq' := hkept'.currentSessions_eq
  have hnot : sessionId ∉ m.sendersSessions.erase sessionId := by simp
  simp only [call, registerStreamer, hlookup, currentSessions,
    AList.entries_insert_of_notMem hnot, List.length_append, List.length_cons,
    List.length_nil] at heq heq' hlength
  omega

/-- The registrations are kept apart throughout a sequence of calls exactly if every streamer
registers while nobody is waiting. -/
theorem kept_iff (calls : List Call) :
    (∀ n, (run (calls.take n)).Kept) ↔
      ∀ n sender now, calls[n]? = some (.registerStreamer sender now) →
        currentSessions (run (calls.take n)).sendersSessions = 0 := by
  have hstep : ∀ n c, calls[n]? = some c →
      run (calls.take (n + 1)) = (run (calls.take n)).call c := by
    intro n c hc
    rw [List.take_add_one, hc, run, Option.toList_some, List.foldl_concat]
    rfl
  constructor
  · intro hkept n sender now hc
    by_contra hne
    refine not_kept_call (oneCode_run _) (hkept n) hne sender now ?_
    rw [← hstep n _ hc]
    exact hkept (n + 1)
  · intro hempty n
    refine kept_of_perm ?_
    induction n with
    | zero => exact List.Perm.refl _
    | succ n ih =>
      cases hc : calls[n]? with
      | none =>
        rw [List.take_add_one, hc, Option.toList_none, List.append_nil]
        exact ih
      | some c =>
        rw [hstep n c hc]
        exact perm_call ih fun sender now heq => hempty n sender now (heq ▸ hc)

/-- The first of two streamers that register one after the other is not found any more. -/
theorem two_streamers_not_kept :
    ¬ (run [.registerStreamer 0 0, .registerStreamer 1 0]).Kept := by
  intro hkept
  have hfound := (hkept.found ⟨sessionId, ⟨0, 0⟩⟩ (by decide) 2).2
  revert hfound
  decide

end Manager

end ServerSessionsManager

end ScreenViewer
