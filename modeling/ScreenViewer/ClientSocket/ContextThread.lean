import Mathlib
import ScreenViewer.Lib.Runs

/-!
# Stopping the context thread of a client socket

The thread that `start` creates runs the `io_context` until it sees a stop request.  `disconnect`
and the destructor request the stop first and call `stop()` then, while the loop calls `restart()`
first and tests the request then.  So a `restart()` may erase a `stop()`, but never one that the
thread has not seen in another way: `Stopping` is what holds from the call of `stop()` on, and
`stop_ends` is what follows.

Of the `io_context` it is assumed that `run()` waits only while there is work and the stopped flag
is clear, that it sets the flag when it runs out of work, and that handlers finish.
-/

namespace ScreenViewer

namespace ClientSocket

/-- Where the context thread is. -/
inductive ContextPoint
  /-- It is about to call `stop_requested()`. -/
  | testStop
  /-- It is about to call `run()`. -/
  | run
  /-- It is inside `run()`, between two handlers. -/
  | running
  /-- It is inside `run()`, in a handler. -/
  | handler
  /-- It is about to call `restart()`. -/
  | restart
  /-- It has left its loop. -/
  | left
  deriving DecidableEq

/-- The thread is inside `run()`. -/
def ContextPoint.InRun (p : ContextPoint) : Prop := p = .running ∨ p = .handler

/-- Where the thread is that disconnects the socket or destroys it. -/
inductive OtherPoint
  | outside
  /-- It is in `disconnect`, about to request the stop. -/
  | requestStop
  | safeDisconnect
  /-- It is in `disconnect`, about to call `stop()` if the context thread is joinable. -/
  | stop
  /-- It is in `disconnect`, waiting in `join()`. -/
  | join
  /-- It is in `~ClientSocket`, about to request the stop. -/
  | destructorRequestStop
  /-- It is in `~ClientSocket`, about to call `stop()`; it is not the context thread, which it
  therefore does not detach. -/
  | destructorStop
  /-- It is in `~jthread`, about to request the stop if the context thread is joinable. -/
  | jthreadRequestStop
  /-- It is in `~jthread`, waiting in `join()`. -/
  | jthreadJoin
  | destroyed
  deriving DecidableEq

/-- The thread is waiting for the context thread. -/
def OtherPoint.Joins (p : OtherPoint) : Prop := p = .join ∨ p = .jthreadJoin

/-- The context thread, the thread that stops it and what they share. -/
structure Threads where
  stopRequested : Bool
  /-- The stopped flag of the `io_context`. -/
  stopped : Bool
  /-- The outstanding work of the `io_context`. -/
  work : ℕ
  /-- `context_thread.joinable()`; a stop is possible since `start`. -/
  joinable : Bool
  context : ContextPoint
  other : OtherPoint
  /-- `stop()` has been called (history). -/
  stopCalled : Bool

namespace Threads

/-- `start` has created the context thread. -/
def started (work : ℕ) : Threads :=
  { stopRequested := false, stopped := false, work := work, joinable := true, context := .testStop,
    other := .outside, stopCalled := false }

/-- What happens in a step. -/
inductive Label
  /-- The context thread calls `run()`. -/
  | run
  /-- An operation is complete, and `run()` calls its handler. -/
  | handler
  /-- The context thread moves in another way. -/
  | context
  /-- The other thread moves. -/
  | other
  /-- An operation is started by any other thread. -/
  | work
  deriving DecidableEq

/-- The context thread moves. -/
def Label.IsContext (l : Label) : Bool := l = .run || l = .handler || l = .context

/-- The steps of the threads. -/
inductive Step (s : Threads) : Label → Threads → Prop
  | testStop (hpoint : s.context = .testStop) :
      Step s .context { s with context := if s.stopRequested then .left else .run }
  | run (hpoint : s.context = .run) :
      Step s .run { s with context := .running }
  | handler (hpoint : s.context = .running) (hstopped : s.stopped = false) (hwork : 0 < s.work) :
      Step s .handler { s with context := .handler }
  | handled (work : ℕ) (hpoint : s.context = .handler) :
      Step s .context { s with context := .running, work := work }
  | outOfWork (hpoint : s.context = .running) (hstopped : s.stopped = false) (hwork : s.work = 0) :
      Step s .context { s with context := .restart, stopped := true }
  | ran (hpoint : s.context = .running) (hstopped : s.stopped = true) :
      Step s .context { s with context := .restart }
  | restart (hpoint : s.context = .restart) :
      Step s .context { s with context := .testStop, stopped := false }
  | disconnect (hpoint : s.other = .outside) :
      Step s .other { s with other := .requestStop }
  | requestStop (hpoint : s.other = .requestStop) :
      Step s .other
        { s with other := .safeDisconnect, stopRequested := s.stopRequested || s.joinable }
  | safeDisconnect (work : ℕ) (hpoint : s.other = .safeDisconnect) :
      Step s .other { s with other := .stop, work := work }
  | stop (hpoint : s.other = .stop) (hjoinable : s.joinable = true) :
      Step s .other { s with other := .join, stopped := true, stopCalled := true }
  | notJoinable (hpoint : s.other = .stop) (hjoinable : s.joinable = false) :
      Step s .other { s with other := .outside }
  | joined (hpoint : s.other = .join) (hleft : s.context = .left) :
      Step s .other { s with other := .outside, joinable := false }
  | destroy (hpoint : s.other = .outside) :
      Step s .other { s with other := .destructorRequestStop }
  | destructorRequestStop (hpoint : s.other = .destructorRequestStop) :
      Step s .other { s with other := .destructorStop, stopRequested := true }
  | destructorStop (hpoint : s.other = .destructorStop) :
      Step s .other
        { s with other := .jthreadRequestStop, stopped := true, stopCalled := true }
  | jthreadRequestStop (hpoint : s.other = .jthreadRequestStop) (hjoinable : s.joinable = true) :
      Step s .other { s with other := .jthreadJoin, stopRequested := true }
  | jthreadNotJoinable (hpoint : s.other = .jthreadRequestStop) (hjoinable : s.joinable = false) :
      Step s .other { s with other := .destroyed }
  | jthreadJoined (hpoint : s.other = .jthreadJoin) (hleft : s.context = .left) :
      Step s .other { s with other := .destroyed, joinable := false }
  | work : Step s .work { s with work := s.work + 1 }

/-- What holds from a call of `stop()` on: the stop was requested before, and the thread either sees
the stopped flag or is past the `run()` that it was for. -/
structure Stopping (s : Threads) : Prop where
  stopRequested : s.stopRequested = true
  stopped : s.context = .run ∨ s.context.InRun → s.stopped = true

variable {s t : Threads} {l : Label} {ls : List Label}

/-- A context thread that is being stopped goes on being stopped. -/
theorem Stopping.step (h : s.Stopping) (hs : Step s l t) : t.Stopping := by
  obtain ⟨hrequested, hstopped⟩ := h
  cases hs with
  | testStop hpoint => exact ⟨hrequested, by simp [hrequested, ContextPoint.InRun]⟩
  | run hpoint => exact ⟨hrequested, fun _ => hstopped (Or.inl hpoint)⟩
  | handler hpoint => exact ⟨hrequested, fun _ => hstopped (Or.inr (Or.inl hpoint))⟩
  | handled work hpoint => exact ⟨hrequested, fun _ => hstopped (Or.inr (Or.inr hpoint))⟩
  | outOfWork => exact ⟨hrequested, fun _ => rfl⟩
  | ran hpoint hstopped => exact ⟨hrequested, fun _ => hstopped⟩
  | restart hpoint => exact ⟨hrequested, by simp [ContextPoint.InRun]⟩
  | requestStop => exact ⟨by simp [hrequested], hstopped⟩
  | stop => exact ⟨hrequested, fun _ => rfl⟩
  | destructorRequestStop => exact ⟨rfl, hstopped⟩
  | destructorStop => exact ⟨hrequested, fun _ => rfl⟩
  | jthreadRequestStop => exact ⟨rfl, hstopped⟩
  | disconnect | safeDisconnect | notJoinable | joined | destroy | jthreadNotJoinable
  | jthreadJoined | work => exact ⟨hrequested, hstopped⟩

/-- What holds of the threads at any time. -/
structure Inv (s : Threads) : Prop where
  /-- The stop is requested before `stop()` is called. -/
  requested_of_disconnect : s.other = .safeDisconnect ∨ s.other = .stop →
    s.joinable = true → s.stopRequested = true
  requested_of_destructor : s.other = .destructorStop → s.stopRequested = true
  /-- `stop()` is called before `join()`. -/
  called_of_join : s.other = .join ∨ s.other = .jthreadRequestStop ∨ s.other = .jthreadJoin →
    s.stopCalled = true
  stopping : s.stopCalled = true → s.Stopping

/-- The threads are in order at the start. -/
lemma inv_started (work : ℕ) : (started work).Inv := by
  constructor <;> simp [started]

/-- Every step keeps the threads in order. -/
theorem Inv.step (h : s.Inv) (hs : Step s l t) : t.Inv := by
  have hstopping : s.stopCalled = true → t.Stopping := fun hcalled => (h.stopping hcalled).step hs
  obtain ⟨hdisconnect, hdestructor, hjoin, -⟩ := h
  cases hs with
  | testStop | run | handler | handled | outOfWork | ran | restart | work =>
    exact ⟨hdisconnect, hdestructor, hjoin, hstopping⟩
  | disconnect | notJoinable | joined | destroy | jthreadNotJoinable | jthreadJoined =>
    exact ⟨by simp, by simp, by simp, hstopping⟩
  | requestStop hpoint =>
    have hrequested : s.joinable = true → (s.stopRequested || s.joinable) = true :=
      fun hjoinable => by simp [hjoinable]
    exact ⟨fun _ => hrequested, by simp, by simp, hstopping⟩
  | safeDisconnect work hpoint =>
    exact ⟨fun _ => hdisconnect (Or.inl hpoint), by simp, by simp, hstopping⟩
  | stop hpoint hjoinable =>
    have hrequested : s.stopRequested = true := hdisconnect (Or.inr hpoint) hjoinable
    exact ⟨by simp, by simp, fun _ => rfl, fun _ => ⟨hrequested, fun _ => rfl⟩⟩
  | destructorRequestStop hpoint =>
    exact ⟨by simp, fun _ => rfl, by simp, hstopping⟩
  | destructorStop hpoint =>
    have hrequested : s.stopRequested = true := hdestructor hpoint
    exact ⟨by simp, by simp, fun _ => rfl, fun _ => ⟨hrequested, fun _ => rfl⟩⟩
  | jthreadRequestStop hpoint hjoinable =>
    exact ⟨by simp, by simp, fun _ => hjoin (Or.inr (Or.inl hpoint)), hstopping⟩

/-- The threads are in order in every run. -/
theorem inv_of_run {work : ℕ} (hrun : Transition.Run Step (started work) ls s) : s.Inv :=
  hrun.invariant (inv_started work) fun _ _ _ h hs => h.step hs

/-- The number of `run()` calls that a thread makes that is being stopped. -/
def runsLeft (s : Threads) : ℕ := if s.context = .run then 1 else 0

/-- The number of moves that such a thread makes. -/
def movesLeft (s : Threads) : ℕ :=
  match s.context with
  | .handler | .run => 4
  | .running => 3
  | .restart => 2
  | .testStop => 1
  | .left => 0

/-- A thread that is being stopped calls `run()` only if it was about to. -/
lemma Stopping.runsLeft_step (h : s.Stopping) (hs : Step s l t) :
    (if l == .run then 1 else 0) + t.runsLeft ≤ s.runsLeft := by
  unfold runsLeft
  cases hs with
  | testStop hpoint => simp [h.stopRequested]
  | run hpoint => simp [hpoint]
  | _ => simp

/-- A thread that is being stopped comes closer to its end with every move. -/
lemma Stopping.movesLeft_step (h : s.Stopping) (hs : Step s l t) :
    (if l.IsContext then 1 else 0) + t.movesLeft ≤ s.movesLeft := by
  unfold movesLeft
  cases hs with
  | handler hpoint hstopped hwork =>
    rw [h.stopped (Or.inr (Or.inl hpoint))] at hstopped
    exact absurd hstopped (by decide)
  | testStop hpoint => simp [Label.IsContext, hpoint, h.stopRequested]
  | run hpoint => simp [Label.IsContext, hpoint]
  | handled work hpoint => simp [Label.IsContext, hpoint]
  | outOfWork hpoint => simp [Label.IsContext, hpoint]
  | ran hpoint => simp [Label.IsContext, hpoint]
  | restart hpoint => simp [Label.IsContext, hpoint]
  | _ => simp [Label.IsContext]

/-- A thread that is being stopped can move until it has left its loop. -/
lemma Stopping.moves (h : s.Stopping) (hleft : s.context ≠ .left) :
    ∃ l t, l.IsContext = true ∧ Step s l t := by
  cases hpoint : s.context with
  | testStop => exact ⟨_, _, rfl, .testStop hpoint⟩
  | run => exact ⟨_, _, rfl, .run hpoint⟩
  | running => exact ⟨_, _, rfl, .ran hpoint (h.stopped (Or.inr (Or.inl hpoint)))⟩
  | handler => exact ⟨_, _, rfl, .handled s.work hpoint⟩
  | restart => exact ⟨_, _, rfl, .restart hpoint⟩
  | left => exact absurd hpoint hleft

/-- The other thread waits in `join()` for a thread that waits in `run()`. -/
structure Hung (s : Threads) : Prop where
  joins : s.other.Joins
  inRun : s.context.InRun
  work : 0 < s.work
  stopped : s.stopped = false

/-- The context thread ends: from here on it calls `run()` once more at most, it makes four moves at
most, and it can move until it has left its loop. -/
structure Ends (s : Threads) : Prop where
  runs : ∀ ms t, Transition.Run Step s ms t → ms.count .run ≤ 1
  moves : ∀ ms t, Transition.Run Step s ms t → ms.countP Label.IsContext ≤ 4
  moves_of_ne_left : ∀ ms t, Transition.Run Step s ms t → t.context ≠ .left →
    ∃ l u, l.IsContext = true ∧ Step t l u

/-- A context thread that is being stopped ends. -/
lemma Stopping.ends (h : s.Stopping) : s.Ends := by
  constructor
  · intro ms t hms
    have hruns : ms.count .run + t.runsLeft ≤ s.runsLeft :=
      hms.countP_add_le h (fun _ _ _ h hs => h.step hs) fun _ _ _ h hs => h.runsLeft_step hs
    have hone : s.runsLeft ≤ 1 := by unfold runsLeft; split <;> omega
    omega
  · intro ms t hms
    have hmoves : ms.countP Label.IsContext + t.movesLeft ≤ s.movesLeft :=
      hms.countP_add_le h (fun _ _ _ h hs => h.step hs) fun _ _ _ h hs => h.movesLeft_step hs
    have hfour : s.movesLeft ≤ 4 := by unfold movesLeft; split <;> omega
    omega
  · intro ms t hms hleft
    have hstopping : t.Stopping := hms.invariant h fun _ _ _ h hs => h.step hs
    exact hstopping.moves hleft

/-- Nobody waits in `join()` for a thread that waits in `run()`, and the context thread ends from
the call of `stop()` on. -/
theorem stop_ends {work : ℕ} (hrun : Transition.Run Step (started work) ls s) :
    ¬ s.Hung ∧ (s.stopCalled = true → s.Ends) := by
  have hinv := inv_of_run hrun
  constructor
  · intro hhung
    have hcalled : s.stopCalled = true := by
      rcases hhung.joins with hpoint | hpoint
      · exact hinv.called_of_join (Or.inl hpoint)
      · exact hinv.called_of_join (Or.inr (Or.inr hpoint))
    have hstopped := (hinv.stopping hcalled).stopped (Or.inr hhung.inRun)
    rw [hhung.stopped] at hstopped
    exact absurd hstopped (by decide)
  · intro hcalled
    exact (hinv.stopping hcalled).ends

/-- The stop arrives between the test and the call of `run()`, with a read that never ends. -/
theorem stop_ends_beforeRun :
    ∃ ls s, Transition.Run Step (started 1) ls s ∧ s.context = .run ∧ s.other = .join ∧
      s.stopCalled = true ∧ ¬ s.Hung ∧ s.Ends := by
  have hrun : ∃ ls s, Transition.Run Step (started 1) ls s ∧ s.context = .run ∧ s.other = .join ∧
      s.stopCalled = true :=
    ⟨_, _, .cons (.testStop rfl) <| .cons (.disconnect rfl) <| .cons (.requestStop rfl) <|
      .cons (.safeDisconnect 1 rfl) <| .single (.stop rfl rfl), rfl, rfl, rfl⟩
  obtain ⟨ls, s, hrun, hcontext, hother, hcalled⟩ := hrun
  have h := stop_ends hrun
  exact ⟨ls, s, hrun, hcontext, hother, hcalled, h.1, h.2 hcalled⟩

end Threads

end ClientSocket

end ScreenViewer
