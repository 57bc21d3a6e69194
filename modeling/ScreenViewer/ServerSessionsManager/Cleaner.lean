import Mathlib
import ScreenViewer.Lib.Runs
import ScreenViewer.ServerSessionsManager

/-!
# The cleaner thread

Every function of `ServerSessionsManager` locks the mutex `m`, and so does each pass of the thread
that `initCleanerThread` starts.  `reset` requests that thread to stop and joins it while it holds
`m`.  If the thread has tested its stop flag just before the request, it waits for `m` and `reset`
waits for the thread: neither moves again (`Deadlocked.step`).  There is no other way to get stuck
(`noDeadlock_iff`).
-/

namespace ScreenViewer

namespace ServerSessionsManager

/-- Where the cleaner thread is. -/
inductive CleanerPoint
  /-- It is about to test `stop_requested()`. -/
  | testStop
  /-- It is in `terminateTimeoutClients`, about to lock `m`. -/
  | lock
  /-- It holds `m`. -/
  | locked
  /-- It is in the timed wait. -/
  | wait
  /-- It has left its loop. -/
  | finished
  /-- It has been joined. -/
  | joined
  deriving DecidableEq

/-- The functions that any thread may call. -/
inductive LockingCall
  | registerStreamer (streamer : ConnId) (now : Time)
  | createBridgeWithStreamer (receiver : ConnId) (sessionCode : Code)
  | currentSessions
  | reset
  deriving DecidableEq

/-- Where a thread that calls these functions is. -/
inductive CallPoint
  /-- It is in no call, or in a part of one that has nothing to do with `m`. -/
  | outside
  /-- It is about to lock `m`. -/
  | lock (call : LockingCall)
  /-- It holds `m`. -/
  | locked (call : LockingCall)
  /-- It is in `reset`, holds `m` and is about to call `request_stop()`. -/
  | requestStop
  /-- It is in `reset`, holds `m` and is about to call `join()`. -/
  | join
  deriving DecidableEq

/-- A caller at this point holds `m`. -/
def CallPoint.Holds : CallPoint → Prop
  | .outside => False
  | .lock _ => False
  | .locked _ => True
  | .requestStop => True
  | .join => True

/-- A thread of the server. -/
inductive Thread
  | cleaner
  | caller (n : ℕ)
  deriving DecidableEq

/-- The registry and the threads that use it. -/
structure Threads where
  sendersSessions : Registry
  /-- The thread that holds `m`. -/
  owner : Option Thread
  /-- The stop flag of `connections_controller`. -/
  stopRequested : Bool
  cleaner : CleanerPoint
  callers : ℕ → CallPoint

namespace Threads

/-- `initCleanerThread` has started the cleaner, and no function is being called. -/
def started (sendersSessions : Registry) : Threads :=
  { sendersSessions := sendersSessions, owner := none, stopRequested := false,
    cleaner := .testStop, callers := fun _ => .outside }

/-- Another point for one caller. -/
def move (s : Threads) (n : ℕ) (point : CallPoint) : Threads :=
  { s with callers := Function.update s.callers n point }

/-- What a call does to the registry while it holds `m`. -/
def result (sendersSessions : Registry) : LockingCall → Registry
  | .registerStreamer streamer now => (registerStreamer sendersSessions streamer now).2.1
  | .createBridgeWithStreamer receiver sessionCode =>
    (createBridgeWithStreamer sendersSessions receiver sessionCode).2.1
  | .currentSessions => sendersSessions
  | .reset => (ServerSessionsManager.reset sendersSessions).1

/-- What happens in a step. -/
inductive Label
  /-- The cleaner moves. -/
  | cleaner
  /-- A caller moves, other than to request the stop. -/
  | caller (n : ℕ)
  /-- A caller requests the stop while the cleaner is at `point`. -/
  | requestStop (n : ℕ) (point : CleanerPoint)
  /-- `initCleanerThread` starts the cleaner again. -/
  | initCleanerThread
  deriving DecidableEq

/-- The thread that moves. -/
def Label.thread : Label → Option Thread
  | .cleaner => some .cleaner
  | .caller n => some (.caller n)
  | .requestStop n _ => some (.caller n)
  | .initCleanerThread => none

/-- The steps of the threads. -/
inductive Step (clientTimeout : Seconds) (s : Threads) : Label → Threads → Prop
  | testStop (hpoint : s.cleaner = .testStop) :
      Step clientTimeout s .cleaner
        { s with cleaner := if s.stopRequested then .finished else .lock }
  | cleanerLocks (hpoint : s.cleaner = .lock) (hfree : s.owner = none) :
      Step clientTimeout s .cleaner { s with cleaner := .locked, owner := some .cleaner }
  | clean (overflow : DurationOverflow) (now : ℕ → Time) (hpoint : s.cleaner = .locked) :
      Step clientTimeout s .cleaner
        { s with
          sendersSessions :=
            (terminateTimeoutClients overflow s.sendersSessions clientTimeout now).1
          cleaner := .wait
          owner := none }
  | waited (hpoint : s.cleaner = .wait) :
      Step clientTimeout s .cleaner { s with cleaner := .testStop }
  | call (n : ℕ) (call : LockingCall) (hpoint : s.callers n = .outside) :
      Step clientTimeout s (.caller n) (s.move n (.lock call))
  | callerLocks (n : ℕ) (call : LockingCall) (hpoint : s.callers n = .lock call)
      (hfree : s.owner = none) :
      Step clientTimeout s (.caller n)
        { s.move n (.locked call) with owner := some (.caller n) }
  | finish (n : ℕ) (call : LockingCall) (hpoint : s.callers n = .locked call)
      (hjoinable : call = .reset → s.cleaner = .joined) :
      Step clientTimeout s (.caller n)
        { s.move n .outside with
          sendersSessions := result s.sendersSessions call
          owner := none }
  | clear (n : ℕ) (hpoint : s.callers n = .locked .reset) (hjoinable : s.cleaner ≠ .joined) :
      Step clientTimeout s (.caller n)
        { s.move n .requestStop with sendersSessions := result s.sendersSessions .reset }
  | requestStop (n : ℕ) (hpoint : s.callers n = .requestStop) :
      Step clientTimeout s (.requestStop n s.cleaner)
        { s.move n .join with stopRequested := true }
  | join (n : ℕ) (hpoint : s.callers n = .join) (hfinished : s.cleaner = .finished) :
      Step clientTimeout s (.caller n)
        { s.move n .outside with cleaner := .joined, owner := none }
  | initCleanerThread (hjoined : s.cleaner = .joined) :
      Step clientTimeout s .initCleanerThread
        { s with cleaner := .testStop, stopRequested := false }

/-! ## The mutex -/

/-- What holds of the threads at any time. -/
structure Inv (s : Threads) : Prop where
  /-- The callers that hold `m` are those at a point where they should. -/
  owner_caller : ∀ n, s.owner = some (.caller n) ↔ (s.callers n).Holds
  /-- So is the cleaner. -/
  owner_cleaner : s.owner = some .cleaner ↔ s.cleaner = .locked
  /-- `reset` is about a cleaner that has not been joined. -/
  joinable : ∀ n, s.callers n = .requestStop ∨ s.callers n = .join → s.cleaner ≠ .joined
  /-- `reset` requests the stop before it joins. -/
  stopRequested : ∀ n, s.callers n = .join → s.stopRequested = true

variable {s t : Threads} {clientTimeout : Seconds} {l : Label}

@[simp] lemma callers_move_self (n : ℕ) (point : CallPoint) : (s.move n point).callers n = point :=
  Function.update_self ..

@[simp] lemma cleaner_move (n : ℕ) (point : CallPoint) : (s.move n point).cleaner = s.cleaner := rfl

lemma callers_move_of_ne {n k : ℕ} (h : k ≠ n) (point : CallPoint) :
    (s.move n point).callers k = s.callers k :=
  Function.update_of_ne h ..

/-- At the start nobody holds `m`. -/
lemma inv_started (sendersSessions : Registry) : Inv (started sendersSessions) := by
  constructor <;> simp [started, CallPoint.Holds]

/-- Two callers do not hold `m` at once. -/
lemma Inv.eq_of_holds (h : Inv s) {n k : ℕ} (hn : (s.callers n).Holds) (hk : (s.callers k).Holds) :
    k = n := by
  have hn' := (h.owner_caller n).mpr hn
  have hk' := (h.owner_caller k).mpr hk
  simpa using hk'.symm.trans hn'

/-- A caller moves and goes on holding `m`, or not holding it. -/
lemma Inv.owner_move (h : Inv s) {n : ℕ} {point : CallPoint}
    (hholds : point.Holds ↔ (s.callers n).Holds) (k : ℕ) :
    s.owner = some (.caller k) ↔ ((s.move n point).callers k).Holds := by
  by_cases hk : k = n
  · rw [hk, callers_move_self, hholds]
    exact h.owner_caller n
  · rw [callers_move_of_ne hk]
    exact h.owner_caller k

/-- A caller moves and locks `m`. -/
lemma Inv.owner_lock (h : Inv s) {n : ℕ} {point : CallPoint} (hfree : s.owner = none)
    (hholds : point.Holds) (k : ℕ) :
    some (Thread.caller n) = some (.caller k) ↔ ((s.move n point).callers k).Holds := by
  by_cases hk : k = n
  · simp [hk, hholds]
  · have hnot := h.owner_caller k
    simp only [hfree, reduceCtorEq, false_iff] at hnot
    rw [callers_move_of_ne hk]
    simp [hnot, Ne.symm hk]

/-- A caller moves and unlocks `m`. -/
lemma Inv.owner_unlock (h : Inv s) {n : ℕ} {point : CallPoint} (hheld : (s.callers n).Holds)
    (hholds : ¬ point.Holds) (k : ℕ) :
    (none : Option Thread) = some (.caller k) ↔ ((s.move n point).callers k).Holds := by
  by_cases hk : k = n
  · simp [hk, hholds]
  · rw [callers_move_of_ne hk]
    simp only [reduceCtorEq, false_iff]
    exact fun hholds' => hk (h.eq_of_holds hheld hholds')

/-- A caller moves; if it moves within `reset`, the cleaner can be joined. -/
lemma Inv.joinable_move (h : Inv s) {n : ℕ} {point : CallPoint}
    (hpoint : point = .requestStop ∨ point = .join → s.cleaner ≠ .joined) (k : ℕ)
    (hk : (s.move n point).callers k = .requestStop ∨ (s.move n point).callers k = .join) :
    s.cleaner ≠ .joined := by
  by_cases hkn : k = n
  · rw [hkn, callers_move_self] at hk
    exact hpoint hk
  · rw [callers_move_of_ne hkn] at hk
    exact h.joinable k hk

/-- When a caller moves elsewhere, whoever is at its call of `join` was there before. -/
lemma join_of_move {n k : ℕ} {point : CallPoint} (hpoint : point ≠ .join)
    (hk : (s.move n point).callers k = .join) : s.callers k = .join := by
  by_cases hkn : k = n
  · rw [hkn, callers_move_self] at hk
    exact absurd hk hpoint
  · rwa [callers_move_of_ne hkn] at hk

/-- A caller moves, but not to its call of `join`. -/
lemma Inv.stopRequested_move (h : Inv s) {n : ℕ} {point : CallPoint} (hpoint : point ≠ .join)
    (k : ℕ) (hk : (s.move n point).callers k = .join) : s.stopRequested = true :=
  h.stopRequested k (join_of_move hpoint hk)

/-- Every step keeps the threads in order. -/
theorem Inv.step (h : Inv s) (hs : Step clientTimeout s l t) : Inv t := by
  cases hs with
  | testStop hpoint =>
    have hcleaner : s.owner ≠ some .cleaner := by simp [h.owner_cleaner, hpoint]
    refine { h with owner_cleaner := ?_, joinable := ?_ }
    · cases hstop : s.stopRequested <;> simp [hcleaner]
    · cases hstop : s.stopRequested <;> simp
  | cleanerLocks hpoint hfree =>
    refine { h with owner_caller := fun n => ?_, owner_cleaner := by simp, joinable := by simp }
    have hn := h.owner_caller n
    simp only [hfree, reduceCtorEq, false_iff] at hn
    simp [hn]
  | clean overflow now hpoint =>
    have howner := h.owner_cleaner.mpr hpoint
    refine { h with owner_caller := fun n => ?_, owner_cleaner := by simp, joinable := by simp }
    have hn := h.owner_caller n
    simp only [howner, Option.some.injEq, reduceCtorEq, false_iff] at hn
    simp [hn]
  | waited hpoint =>
    have hcleaner : s.owner ≠ some .cleaner := by simp [h.owner_cleaner, hpoint]
    exact { h with owner_cleaner := by simp [hcleaner], joinable := by simp }
  | call n call hpoint =>
    exact
      { owner_caller := h.owner_move (by simp [hpoint, CallPoint.Holds])
        owner_cleaner := h.owner_cleaner
        joinable := h.joinable_move (by simp)
        stopRequested := h.stopRequested_move (by simp) }
  | callerLocks n call hpoint hfree =>
    have hcleaner : s.cleaner ≠ .locked := by simp [← h.owner_cleaner, hfree]
    exact
      { owner_caller := h.owner_lock hfree (by simp [CallPoint.Holds])
        owner_cleaner := by simpa using hcleaner
        joinable := h.joinable_move (by simp)
        stopRequested := h.stopRequested_move (by simp) }
  | finish n call hpoint hjoinable =>
    have hheld : (s.callers n).Holds := by simp [hpoint, CallPoint.Holds]
    have hcleaner : s.cleaner ≠ .locked := by
      simp [← h.owner_cleaner, (h.owner_caller n).mpr hheld]
    exact
      { owner_caller := h.owner_unlock hheld (by simp [CallPoint.Holds])
        owner_cleaner := by simpa using hcleaner
        joinable := h.joinable_move (by simp)
        stopRequested := h.stopRequested_move (by simp) }
  | clear n hpoint hjoinable =>
    exact
      { owner_caller := h.owner_move (by simp [hpoint, CallPoint.Holds])
        owner_cleaner := h.owner_cleaner
        joinable := h.joinable_move fun _ => hjoinable
        stopRequested := h.stopRequested_move (by simp) }
  | requestStop n hpoint =>
    exact
      { owner_caller := h.owner_move (by simp [hpoint, CallPoint.Holds])
        owner_cleaner := h.owner_cleaner
        joinable := h.joinable_move fun _ => h.joinable n (Or.inl hpoint)
        stopRequested := fun _ _ => rfl }
  | join n hpoint hfinished =>
    have hheld : (s.callers n).Holds := by simp [hpoint, CallPoint.Holds]
    refine
      { owner_caller := h.owner_unlock hheld (by simp [CallPoint.Holds])
        owner_cleaner := by simp
        joinable := fun k hk => ?_
        stopRequested := h.stopRequested_move (by simp) }
    -- Nobody else is in `reset`.
    by_cases hkn : k = n
    · simp [hkn] at hk
    · simp only [callers_move_of_ne hkn] at hk
      have hk' : (s.callers k).Holds := by rcases hk with hk | hk <;> simp [hk, CallPoint.Holds]
      exact absurd (h.eq_of_holds hheld hk') hkn
  | initCleanerThread hjoined =>
    have hcleaner : s.owner ≠ some .cleaner := by simp [h.owner_cleaner, hjoined]
    refine { h with owner_cleaner := by simp [hcleaner], joinable := by simp, stopRequested := ?_ }
    exact fun k hk => absurd hjoined (h.joinable k (Or.inr hk))

/-- The threads stay in order. -/
theorem Inv.of_run {sendersSessions : Registry} {ls : List Label}
    (hrun : Transition.Run (Step clientTimeout) (started sendersSessions) ls t) : Inv t :=
  hrun.invariant (inv_started sendersSessions) fun _ _ _ h hs => h.step hs

/-! ## Waiting for each other -/

/-- `reset` waits for the cleaner in `join` while the cleaner waits for the mutex that `reset`
holds. -/
def Deadlocked (s : Threads) : Prop :=
  ∃ n, s.callers n = .join ∧ s.owner = some (.caller n) ∧ s.cleaner = .lock

/-- A thread can move. -/
def CanMove (clientTimeout : Seconds) (s : Threads) (thread : Thread) : Prop :=
  ∃ l t, Step clientTimeout s l t ∧ l.thread = some thread

/-- A call that is under way can go on: its thread can move, or the one that holds `m` can, or that
one waits for the cleaner, which can. -/
def Progress (clientTimeout : Seconds) (s : Threads) : Prop :=
  ∀ n, s.callers n ≠ .outside → CanMove clientTimeout s (.caller n) ∨
    ∃ owner, s.owner = some owner ∧ (CanMove clientTimeout s owner ∨
      ∃ k, owner = .caller k ∧ s.callers k = .join ∧ CanMove clientTimeout s .cleaner)

/-- Nobody waits for ever. -/
structure NoDeadlock (clientTimeout : Seconds) (s : Threads) : Prop where
  not_deadlocked : ¬ Deadlocked s
  progress : Progress clientTimeout s

/-- A deadlock stays. -/
lemma Deadlocked.step (hinv : Inv s) (h : Deadlocked s) (hs : Step clientTimeout s l t) :
    Deadlocked t := by
  obtain ⟨n, hjoin, howner, hcleaner⟩ := h
  have hother : ∀ {k : ℕ} {point : CallPoint}, s.callers k = point → point ≠ .join → n ≠ k := by
    rintro k point hk hne rfl
    exact hne (hk.symm.trans hjoin)
  cases hs with
  | testStop hpoint => simp [hcleaner] at hpoint
  | cleanerLocks hpoint hfree => simp [howner] at hfree
  | clean overflow now hpoint => simp [hcleaner] at hpoint
  | waited hpoint => simp [hcleaner] at hpoint
  | call k call hpoint =>
    exact ⟨n, by rw [callers_move_of_ne (hother hpoint (by simp)), hjoin], howner, hcleaner⟩
  | callerLocks k call hpoint hfree => simp [howner] at hfree
  | finish k call hpoint hjoinable =>
    have hk : (s.callers k).Holds := by simp [hpoint, CallPoint.Holds]
    have hn : (s.callers n).Holds := by simp [hjoin, CallPoint.Holds]
    exact absurd (hinv.eq_of_holds hk hn) (hother hpoint (by simp))
  | clear k hpoint hjoinable =>
    have hk : (s.callers k).Holds := by simp [hpoint, CallPoint.Holds]
    have hn : (s.callers n).Holds := by simp [hjoin, CallPoint.Holds]
    exact absurd (hinv.eq_of_holds hk hn) (hother hpoint (by simp))
  | requestStop k hpoint =>
    have hk : (s.callers k).Holds := by simp [hpoint, CallPoint.Holds]
    have hn : (s.callers n).Holds := by simp [hjoin, CallPoint.Holds]
    exact absurd (hinv.eq_of_holds hk hn) (hother hpoint (by simp))
  | join k hpoint hfinished => simp [hcleaner] at hfinished
  | initCleanerThread hjoined => simp [hcleaner] at hjoined

/-- Requesting the stop while the cleaner waits for `m` is a deadlock. -/
lemma deadlocked_of_requestStop {n : ℕ} (hinv : Inv s)
    (hs : Step clientTimeout s (.requestStop n .lock) t) : Deadlocked t := by
  generalize hpoint' : CleanerPoint.lock = point at hs
  cases hs with
  | requestStop n hpoint =>
    exact ⟨n, callers_move_self n .join,
      (hinv.owner_caller n).mpr (by simp [hpoint, CallPoint.Holds]),
      hpoint'.symm⟩

/-- A deadlock lasts for the rest of the run. -/
lemma deadlocked_of_run {sendersSessions : Registry} {ls : List Label}
    (hrun : Transition.Run (Step clientTimeout) (started sendersSessions) ls t) {n : ℕ}
    (hls : .requestStop n .lock ∈ ls) : Deadlocked t := by
  induction hrun with
  | nil => simp at hls
  | snoc hrun hs ih =>
    have hinv := Inv.of_run hrun
    rcases List.mem_append.mp hls with hls | hls
    · exact (ih hls).step hinv hs
    · rw [List.mem_singleton] at hls
      subst hls
      exact deadlocked_of_requestStop hinv hs

/-- The caller in `join` is the one that holds `m`. -/
lemma Inv.deadlocked (h : Inv s) {n : ℕ} (hjoin : s.callers n = .join)
    (hcleaner : s.cleaner = .lock) :
    Deadlocked s :=
  ⟨n, hjoin, (h.owner_caller n).mpr (by simp [hjoin, CallPoint.Holds]), hcleaner⟩

/-- A step that does not request the stop at the wrong moment leads to no deadlock. -/
lemma deadlocked_of_step (hinv : Inv s) (hl : ∀ n, l ≠ .requestStop n .lock)
    (hs : Step clientTimeout s l t) (h : Deadlocked t) : Deadlocked s := by
  obtain ⟨n, hjoin, -, hcleaner⟩ := h
  cases hs with
  | testStop hpoint => simp [hinv.stopRequested n hjoin] at hcleaner
  | cleanerLocks hpoint hfree => cases hcleaner
  | clean overflow now hpoint => cases hcleaner
  | waited hpoint => cases hcleaner
  | call k call hpoint => exact hinv.deadlocked (join_of_move (by simp) hjoin) hcleaner
  | callerLocks k call hpoint hfree =>
    exact hinv.deadlocked (join_of_move (by simp) hjoin) hcleaner
  | finish k call hpoint hjoinable =>
    exact hinv.deadlocked (join_of_move (by simp) hjoin) hcleaner
  | clear k hpoint hjoinable => exact hinv.deadlocked (join_of_move (by simp) hjoin) hcleaner
  | requestStop k hpoint => exact absurd (congrArg (Label.requestStop k) hcleaner) (hl k)
  | join k hpoint hfinished => cases hcleaner
  | initCleanerThread hjoined => cases hcleaner

/-- Without a deadlock every call can go on. -/
lemma progress_of_not_deadlocked (hinv : Inv s) (h : ¬ Deadlocked s) :
    Progress clientTimeout s := by
  have hcleaner : s.cleaner = .testStop ∨ s.cleaner = .locked ∨ s.cleaner = .wait →
      CanMove clientTimeout s .cleaner := by
    rintro (hpoint | hpoint | hpoint)
    · exact ⟨_, _, .testStop hpoint, rfl⟩
    · exact ⟨_, _, .clean (fun _ => 0) (fun _ => 0) hpoint, rfl⟩
    · exact ⟨_, _, .waited hpoint, rfl⟩
  -- Whoever holds the mutex can move or waits for the cleaner.
  have hholder : ∀ n, (s.callers n).Holds → CanMove clientTimeout s (.caller n) ∨
      s.callers n = .join ∧ CanMove clientTimeout s .cleaner := by
    intro n hholds
    cases hpoint : s.callers n with
    | outside => simp [hpoint, CallPoint.Holds] at hholds
    | lock call => simp [hpoint, CallPoint.Holds] at hholds
    | locked call =>
      refine Or.inl ?_
      by_cases hreset : call = .reset ∧ s.cleaner ≠ .joined
      · obtain ⟨rfl, hjoinable⟩ := hreset
        exact ⟨_, _, .clear n hpoint hjoinable, rfl⟩
      · exact ⟨_, _, .finish n call hpoint fun hcall => by
          by_contra hne
          exact hreset ⟨hcall, hne⟩, rfl⟩
    | requestStop => exact Or.inl ⟨_, _, .requestStop n hpoint, rfl⟩
    | join =>
      have hlock : s.cleaner ≠ .lock := fun hlock => h (hinv.deadlocked hpoint hlock)
      have hjoined := hinv.joinable n (Or.inr hpoint)
      cases hc : s.cleaner with
      | testStop => exact Or.inr ⟨rfl, hcleaner (Or.inl hc)⟩
      | lock => exact absurd hc hlock
      | locked => exact Or.inr ⟨rfl, hcleaner (Or.inr (Or.inl hc))⟩
      | wait => exact Or.inr ⟨rfl, hcleaner (Or.inr (Or.inr hc))⟩
      | finished => exact Or.inl ⟨_, _, .join n hpoint hc, rfl⟩
      | joined => exact absurd hc hjoined
  intro n hn
  cases howner : s.owner with
  | none =>
    have hnot : ¬ (s.callers n).Holds := by simp [← hinv.owner_caller, howner]
    cases hpoint : s.callers n with
    | outside => exact absurd hpoint hn
    | lock call => exact Or.inl ⟨_, _, .callerLocks n call hpoint howner, rfl⟩
    | _ => simp [hpoint, CallPoint.Holds] at hnot
  | some owner =>
    refine Or.inr ⟨owner, rfl, ?_⟩
    cases owner with
    | cleaner => exact Or.inl (hcleaner (Or.inr (Or.inl (hinv.owner_cleaner.mp howner))))
    | caller k =>
      rcases hholder k ((hinv.owner_caller k).mp howner) with hmove | ⟨hjoin, hmove⟩
      · exact Or.inl hmove
      · exact Or.inr ⟨k, rfl, hjoin, hmove⟩

/-- Nobody waits for ever in a state exactly if, on the way to it, the stop was never requested
between the cleaner's test of its stop flag and its locking of `m`. -/
theorem noDeadlock_iff {sendersSessions : Registry} {ls : List Label}
    (hrun : Transition.Run (Step clientTimeout) (started sendersSessions) ls t) :
    NoDeadlock clientTimeout t ↔ ∀ n, Label.requestStop n .lock ∉ ls := by
  constructor
  · exact fun h n hls => h.not_deadlocked (deadlocked_of_run hrun hls)
  · intro hls
    have hnot : ¬ Deadlocked t := by
      have hstart : Inv (started sendersSessions) ∧ ¬ Deadlocked (started sendersSessions) :=
        ⟨inv_started _, fun ⟨_, _, _, hcleaner⟩ => by cases hcleaner⟩
      refine (hrun.invariant_of_labels (I := fun s => Inv s ∧ ¬ Deadlocked s)
        (P := fun l => ∀ n, l ≠ Label.requestStop n .lock)
        (fun l hl n heq => hls n (heq ▸ hl)) hstart fun s l t hl h hs => ?_).2
      exact ⟨h.1.step hs, fun hdead => h.2 (deadlocked_of_step h.1 hl hs hdead)⟩
    exact ⟨hnot, progress_of_not_deadlocked (Inv.of_run hrun) hnot⟩

/-- A `reset` during a pass of the cleaner that has not begun yet. -/
theorem not_noDeadlock_reset : ∃ t ls,
    Transition.Run (Step 120) (started ∅) ls t ∧ ¬ NoDeadlock 120 t :=
  ⟨_, _, .cons (.testStop rfl) <| .cons (.call 0 .reset rfl) <|
    .cons (.callerLocks 0 .reset rfl rfl) <|
    .cons (.clear 0 rfl (by decide)) <| .cons (.requestStop 0 rfl) <| .nil _,
    fun h => h.not_deadlocked ⟨0, rfl, rfl, rfl⟩⟩

/-- A `reset` while the cleaner is in its timed wait. -/
theorem noDeadlock_iff_waiting : ∃ t ls,
    Transition.Run (Step 120) (started ∅) ls t ∧ Label.requestStop 0 .wait ∈ ls ∧
      NoDeadlock 120 t := by
  have hrun : ∃ t ls, Transition.Run (Step 120) (started ∅) ls t ∧ Label.requestStop 0 .wait ∈ ls ∧
      ∀ n, Label.requestStop n .lock ∉ ls :=
    ⟨_, _, .cons (.testStop rfl) <| .cons (.cleanerLocks rfl rfl) <|
      .cons (.clean (fun _ => 0) (fun _ => 0) rfl) <| .cons (.call 0 .reset rfl) <|
      .cons (.callerLocks 0 .reset rfl rfl) <| .cons (.clear 0 rfl (by decide)) <|
      .cons (.requestStop 0 rfl) <| .cons (.waited rfl) <| .cons (.testStop rfl) <|
      .cons (.join 0 rfl rfl) <| .nil _, by simp [started, move], by simp [started, move]⟩
  obtain ⟨t, ls, hrun, hmem, hls⟩ := hrun
  exact ⟨t, ls, hrun, hmem, (noDeadlock_iff hrun).mpr hls⟩

end Threads

end ServerSessionsManager

end ScreenViewer
