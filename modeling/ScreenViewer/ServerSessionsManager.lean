import Mathlib
import ScreenViewer.Lib.CountedMap
import ScreenViewer.SocketBase.Plan

/-!
# The registry of waiting streamers

`ServerSessionsManager` keeps the streamers that wait for a receiver in a map from codes to
sessions.  Each of its functions changes the map in one locked step; `createBridgeWithStreamer` goes
on after it with the sockets, which is the plan it returns.

The functions also return the sessions that the map lets go of, since dropping the last reference to
a session is what ends its connection.
-/

namespace ScreenViewer

/-- A point in time, or a duration, in nanoseconds, which are the ticks of the clock.  The clock
reads numbers below `2 ^ 63` that are not negative, so that their differences are exact. -/
abbrev Time := ℤ

/-- `std::chrono::seconds`. -/
abbrev Seconds := Int64

/-- The nanoseconds of a duration fit in 64 bits. -/
def FitsNanoseconds (duration : Seconds) : Prop :=
  -2 ^ 63 ≤ duration.toInt * 1000000000 ∧ duration.toInt * 1000000000 < 2 ^ 63

instance (duration : Seconds) : Decidable (FitsNanoseconds duration) :=
  inferInstanceAs (Decidable (_ ∧ _))

/-- What the conversion to nanoseconds gives on the platform when they do not fit in 64 bits.  The
language leaves this undefined. -/
abbrev DurationOverflow := Seconds → Int64

/-- The duration in nanoseconds, to which a comparison with nanoseconds converts it. -/
def toNanoseconds (overflow : DurationOverflow) (duration : Seconds) : Time :=
  if FitsNanoseconds duration then duration.toInt * 1000000000 else (overflow duration).toInt

/-- A duration whose nanoseconds fit is converted exactly. -/
lemma toNanoseconds_of_fits {overflow : DurationOverflow} {duration : Seconds}
    (h : FitsNanoseconds duration) :
    toNanoseconds overflow duration = duration.toInt * 1000000000 := if_pos h

/-- A waiting streamer and the time of its registration. -/
structure TimedClientSession where
  clientSession : ConnId
  timePoint : Time
  deriving DecidableEq

/-- `senders_sessions`. -/
abbrev Registry := AList fun _ : Code => TimedClientSession

namespace ServerSessionsManager

open SocketBase

/-- The code that `registerStreamer` gives to every streamer. -/
def sessionId : Code := Bytes.ofString "test"

/-- `registerStreamer`: the code, the new map, and the sessions the map let go of. -/
def registerStreamer (sendersSessions : Registry) (sender : ConnId) (now : Time) :
    Code × Registry × List ConnId :=
  let (sendersSessions, dropped) :=
    match sendersSessions.lookup sessionId with
    | some node => (sendersSessions.erase sessionId, [node.clientSession])
    | none => (sendersSessions, [])
  (sessionId, sendersSessions.insert sessionId { clientSession := sender, timePoint := now },
    dropped)

/-- `createBridgeWithStreamer`: whether the code was found, the new map, the streamer whose session
was extracted, and what is done with the sockets. -/
def createBridgeWithStreamer (sendersSessions : Registry) (receiver : ConnId) (sessionCode : Code) :
    Bool × Registry × Option ConnId × Plan :=
  match sendersSessions.lookup sessionCode with
  | some senderNode =>
    (true, sendersSessions.erase sessionCode, some senderNode.clientSession,
      sendACK receiver ++
        sendPlan senderNode.clientSession { type := .startStream, content := [] } ++
        [.startBridge senderNode.clientSession receiver])
  | none => (false, sendersSessions, none, [])

/-- The loop of `terminateTimeoutClients`: the entries kept and those erased, where `now i` is the
time read in iteration `i`. -/
def terminateLoop (overflow : DurationOverflow) (clientTimeout : Seconds) (now : ℕ → Time) :
    ℕ → List (Sigma fun _ : Code => TimedClientSession) →
      List (Sigma fun _ : Code => TimedClientSession) ×
        List (Sigma fun _ : Code => TimedClientSession)
  | _, [] => ([], [])
  | i, it :: rest =>
    let elapsedTime := now i - it.2.timePoint
    let (kept, erased) := terminateLoop overflow clientTimeout now (i + 1) rest
    if elapsedTime > toNanoseconds overflow clientTimeout then (kept, it :: erased)
    else (it :: kept, erased)

/-- The loop keeps a part of the entries, in their order. -/
lemma terminateLoop_sublist (overflow : DurationOverflow) (clientTimeout : Seconds)
    (now : ℕ → Time) (i : ℕ) (l : List (Sigma fun _ : Code => TimedClientSession)) :
    (terminateLoop overflow clientTimeout now i l).1.Sublist l := by
  induction l generalizing i with
  | nil => exact List.Sublist.refl _
  | cons it rest ih =>
    simp only [terminateLoop]
    split
    · exact (ih (i + 1)).cons _
    · exact (ih (i + 1)).cons_cons _

/-- Every entry is kept or erased. -/
lemma terminateLoop_perm (overflow : DurationOverflow) (clientTimeout : Seconds)
    (now : ℕ → Time) (i : ℕ) (l : List (Sigma fun _ : Code => TimedClientSession)) :
    ((terminateLoop overflow clientTimeout now i l).1 ++
      (terminateLoop overflow clientTimeout now i l).2).Perm l := by
  induction l generalizing i with
  | nil => exact List.Perm.refl _
  | cons it rest ih =>
    simp only [terminateLoop]
    split
    · exact List.perm_middle.trans ((ih (i + 1)).cons it)
    · exact (ih (i + 1)).cons it

/-- `terminateTimeoutClients`: the new map, and the sessions the map let go of. -/
def terminateTimeoutClients (overflow : DurationOverflow) (sendersSessions : Registry)
    (clientTimeout : Seconds) (now : ℕ → Time) : Registry × List ConnId :=
  (⟨(terminateLoop overflow clientTimeout now 0 sendersSessions.entries).1,
      sendersSessions.nodupKeys.sublist (terminateLoop_sublist ..)⟩,
    (terminateLoop overflow clientTimeout now 0 sendersSessions.entries).2.map
      fun it => it.2.clientSession)

/-- `currentSessions`. -/
def currentSessions (sendersSessions : Registry) : ℕ := sendersSessions.entries.length

/-- `reset`: the new map, and the sessions the map let go of. -/
def reset (sendersSessions : Registry) : Registry × List ConnId :=
  (∅, sendersSessions.entries.map fun it => it.2.clientSession)

/-! ## Where the sessions go -/

/-- The number of codes under which a session waits. -/
def waiting (sendersSessions : Registry) (session : ConnId) : ℕ :=
  sendersSessions.valueCount fun node => node.clientSession = session

variable (sendersSessions : Registry) (session : ConnId)

variable {sendersSessions} in
/-- What a request finds is taken out of the map, and nothing else changes. -/
lemma waiting_erase {sessionCode : Code} {node : TimedClientSession}
    (h : sendersSessions.lookup sessionCode = some node) :
    waiting (sendersSessions.erase sessionCode) session +
        (if node.clientSession = session then 1 else 0) = waiting sendersSessions session := by
  simpa [waiting] using AList.valueCount_erase (p := fun node => node.clientSession = session) h

/-- Registering adds the sender once; whom the map lets go of is accounted for. -/
theorem waiting_registerStreamer (sender : ConnId) (now : Time) :
    waiting (registerStreamer sendersSessions sender now).2.1 session +
        (registerStreamer sendersSessions sender now).2.2.count session =
      waiting sendersSessions session + if sender = session then 1 else 0 := by
  unfold registerStreamer
  cases h : sendersSessions.lookup sessionId with
  | some node =>
    have herase := waiting_erase session h
    have hnot : sessionId ∉ sendersSessions.erase sessionId := by simp
    simp only [waiting, AList.valueCount_insert hnot, List.count_singleton, beq_iff_eq]
      at herase ⊢
    omega
  | none =>
    have hnot : sessionId ∉ sendersSessions := AList.lookup_eq_none.mp h
    simp only [waiting, AList.valueCount_insert hnot, List.count_nil]
    omega

/-- A streamer that has registered waits. -/
lemma waiting_registerStreamer_pos (sender : ConnId) (now : Time) :
    0 < waiting (registerStreamer sendersSessions sender now).2.1 sender := by
  refine AList.valueCount_pos (a := sessionId)
    (b := { clientSession := sender, timePoint := now }) ?_ rfl
  unfold registerStreamer
  exact AList.lookup_insert _

/-- Every session is kept by the cleaner or let go of. -/
theorem waiting_terminateTimeoutClients (overflow : DurationOverflow) (clientTimeout : Seconds)
    (now : ℕ → Time) :
    waiting (terminateTimeoutClients overflow sendersSessions clientTimeout now).1 session +
        (terminateTimeoutClients overflow sendersSessions clientTimeout now).2.count session =
      waiting sendersSessions session := by
  have h := (terminateLoop_perm overflow clientTimeout now 0 sendersSessions.entries).countP_eq
    fun it => it.2.clientSession = session
  rw [List.countP_append] at h
  simpa [waiting, AList.valueCount, terminateTimeoutClients, List.count, List.countP_map,
    Function.comp_def, beq_eq_decide] using h

/-- `reset` lets go of every session. -/
theorem waiting_reset :
    waiting (reset sendersSessions).1 session + (reset sendersSessions).2.count session =
      waiting sendersSessions session := by
  simp [waiting, AList.valueCount, reset, List.count, List.countP_map, Function.comp_def,
    beq_eq_decide]

end ServerSessionsManager

end ScreenViewer
