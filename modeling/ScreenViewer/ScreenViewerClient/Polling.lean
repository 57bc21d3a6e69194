import Mathlib
import ScreenViewer.Lib.Runs
import ScreenViewer.ScreenViewerClient

/-!
# Polling the viewer's events

The loop of `handleIOEvents` takes an event out of SDL's queue and reads the clock afterwards.  When
the time for polling is over by then, the loop ends with the event in hand, and nobody dispatches
it.

`Polling` is a viewer between two accesses to the queue or to the clock, with the history of its
events.  Events arrive at any moment and the clock reads what it likes.  Times are integers: the
program polls for 5 ms and waits for 50 ms between positions, which are converted to the ticks of
the clock without an overflow.  `lossless_iff` says in which runs every event is dispatched or still
queued.
-/

namespace ScreenViewer

namespace ScreenViewerClient

/-- Where the viewer's thread is. -/
inductive PollPoint
  /-- It is in `runLoop`, between two calls of `handleIOEvents`. -/
  | outside
  /-- It is about to call `SDL_PollEvent`, in a call that began at `start`. -/
  | poll (start : ℤ)
  /-- `SDL_PollEvent` has returned an event, and it is about to compare the clock with `start`. -/
  | testTime (start : ℤ) (event : SDLEvent)
  /-- It is about to dispatch the event. -/
  | dispatch (start : ℤ) (event : SDLEvent)
  /-- The program has ended, or an exception has left `runLoop`. -/
  | ended
  deriving DecidableEq

/-- The event that was taken out of the queue and is still to be dispatched. -/
def PollPoint.inHand : PollPoint → List SDLEvent
  | .testTime _ event | .dispatch _ event => [event]
  | _ => []

/-- A viewer that polls its events. -/
structure Polling where
  client : ScreenViewerClient
  point : PollPoint
  /-- SDL's queue. -/
  queue : List SDLEvent
  /-- The messages sent. -/
  sent : List Message
  /-- The events that were ever queued, oldest first. -/
  queued : List SDLEvent
  /-- The events that the switch was entered with. -/
  dispatched : List SDLEvent

namespace Polling

/-- Nothing has been queued yet. -/
def started (client : ScreenViewerClient) : Polling :=
  { client := client, point := .outside, queue := [], sent := [], queued := [], dispatched := [] }

/-- What happens in a step. -/
inductive Label
  /-- An event arrives. -/
  | queues (event : SDLEvent)
  /-- `getNewFrame` has decoded a frame of another size. -/
  | resizesFrame (width height : Int32)
  /-- `handleIOEvents` is called. -/
  | calls (start : ℤ)
  /-- `SDL_PollEvent` is called. -/
  | polls
  /-- The clock is read when an event has been taken out of the queue, so long after the start. -/
  | tests (elapsed : ℤ)
  /-- The event is dispatched. -/
  | dispatches
  /-- Sending the event's message throws. -/
  | throws
  deriving DecidableEq

/-- The clock has been read too late. -/
def Label.IsLate (maxPollTime : ℤ) : Label → Prop
  | .tests elapsed => maxPollTime ≤ elapsed
  | _ => False

instance (maxPollTime : ℤ) (l : Label) : Decidable (l.IsLate maxPollTime) := by
  cases l <;> unfold Label.IsLate <;> infer_instance

variable [IntLayout] [ShiftOverflow] [KeysMapping]

/-- The steps of the viewer, and of the world around it. -/
inductive Step (maxPollTime mousePositionUpdateInterval : ℤ) (s : Polling) : Label → Polling → Prop
  | queues (event : SDLEvent) :
      Step maxPollTime mousePositionUpdateInterval s (.queues event)
        { s with queue := s.queue ++ [event], queued := s.queued ++ [event] }
  | resizesFrame (width height : Int32) (hpoint : s.point = .outside) :
      Step maxPollTime mousePositionUpdateInterval s (.resizesFrame width height)
        { s with client := { s.client with frameWidth := width, frameHeight := height } }
  | calls (start : ℤ) (hpoint : s.point = .outside) :
      Step maxPollTime mousePositionUpdateInterval s (.calls start) { s with point := .poll start }
  | polled (start : ℤ) (event : SDLEvent) (queue : List SDLEvent) (hpoint : s.point = .poll start)
      (hqueue : s.queue = event :: queue) :
      Step maxPollTime mousePositionUpdateInterval s .polls
        { s with point := .testTime start event, queue := queue }
  | drained (start : ℤ) (hpoint : s.point = .poll start) (hqueue : s.queue = []) :
      Step maxPollTime mousePositionUpdateInterval s .polls { s with point := .outside }
  | inTime (start now : ℤ) (event : SDLEvent) (hpoint : s.point = .testTime start event)
      (htime : now - start < maxPollTime) :
      Step maxPollTime mousePositionUpdateInterval s (.tests (now - start))
        { s with point := .dispatch start event }
  | late (start now : ℤ) (event : SDLEvent) (hpoint : s.point = .testTime start event)
      (htime : ¬ now - start < maxPollTime) :
      Step maxPollTime mousePositionUpdateInterval s (.tests (now - start))
        { s with point := .outside }
  | dispatched (start : ℤ) (event : SDLEvent) (clock : Stream' ℤ) (reaction : Reaction)
      (hpoint : s.point = .dispatch start event)
      (hreaction : s.client.handleIOEvent mousePositionUpdateInterval clock event = some reaction) :
      Step maxPollTime mousePositionUpdateInterval s .dispatches
        { s with
          client := reaction.client
          point := .poll start
          sent := s.sent ++ reaction.sent.toList
          dispatched := s.dispatched ++ [event] }
  | exited (start : ℤ) (event : SDLEvent) (clock : Stream' ℤ)
      (hpoint : s.point = .dispatch start event)
      (hreaction : s.client.handleIOEvent mousePositionUpdateInterval clock event = none) :
      Step maxPollTime mousePositionUpdateInterval s .dispatches
        { s with point := .ended, dispatched := s.dispatched ++ [event] }
  | throws (start : ℤ) (event : SDLEvent) (clock : Stream' ℤ) (reaction : Reaction)
      (hpoint : s.point = .dispatch start event)
      (hreaction : s.client.handleIOEvent mousePositionUpdateInterval clock event = some reaction)
      (hsent : reaction.sent ≠ none) :
      Step maxPollTime mousePositionUpdateInterval s .throws
        { s with point := .ended, dispatched := s.dispatched ++ [event] }

/-- The events dispatched, the one in hand and the ones still queued are all there ever were, in
order. -/
def Lossless (s : Polling) : Prop := s.dispatched ++ s.point.inHand ++ s.queue = s.queued

variable {maxPollTime mousePositionUpdateInterval : ℤ} {s t : Polling} {l : Label}

/-- A step keeps the events in order unless the clock is read too late. -/
lemma Lossless.step (hl : ¬ l.IsLate maxPollTime) (h : s.Lossless)
    (hs : Step maxPollTime mousePositionUpdateInterval s l t) : t.Lossless := by
  unfold Lossless at h ⊢
  cases hs with
  | queues event => rw [← h, ← List.append_assoc]
  | resizesFrame width height hpoint => exact h
  | calls start hpoint => simpa [hpoint, PollPoint.inHand] using h
  | polled start event queue hpoint hqueue => simpa [hpoint, hqueue, PollPoint.inHand] using h
  | drained start hpoint hqueue => simpa [hpoint, hqueue, PollPoint.inHand] using h
  | inTime start now event hpoint htime => simpa [hpoint, PollPoint.inHand] using h
  | late start now event hpoint htime => exact absurd (not_lt.mp htime) hl
  | dispatched start event clock reaction hpoint hreaction =>
    simpa [hpoint, PollPoint.inHand] using h
  | exited start event clock hpoint hreaction => simpa [hpoint, PollPoint.inHand] using h
  | throws start event clock reaction hpoint hreaction hsent =>
    simpa [hpoint, PollPoint.inHand] using h

/-- The number of events dispatched, in hand or queued. -/
def kept (s : Polling) : ℕ := s.dispatched.length + s.point.inHand.length + s.queue.length

/-- Every late reading of the clock loses an event. -/
lemma kept_step (hs : Step maxPollTime mousePositionUpdateInterval s l t) :
    t.kept + (if l.IsLate maxPollTime then 1 else 0) + s.queued.length =
      s.kept + t.queued.length := by
  unfold kept
  cases hs with
  | queues event =>
    simp [Label.IsLate]
    omega
  | resizesFrame width height hpoint => simp [Label.IsLate]
  | calls start hpoint => simp [Label.IsLate, hpoint, PollPoint.inHand]
  | polled start event queue hpoint hqueue =>
    simp [Label.IsLate, hpoint, hqueue, PollPoint.inHand]
    omega
  | drained start hpoint hqueue => simp [Label.IsLate, hpoint, hqueue, PollPoint.inHand]
  | inTime start now event hpoint htime =>
    simp [Label.IsLate, hpoint, PollPoint.inHand, not_le.mpr htime]
  | late start now event hpoint htime =>
    simp [Label.IsLate, hpoint, PollPoint.inHand, not_lt.mp htime]
    omega
  | dispatched start event clock reaction hpoint hreaction =>
    simp [Label.IsLate, hpoint, PollPoint.inHand]
  | exited start event clock hpoint hreaction => simp [Label.IsLate, hpoint, PollPoint.inHand]
  | throws start event clock reaction hpoint hreaction hsent =>
    simp [Label.IsLate, hpoint, PollPoint.inHand]

/-- As many events are lost as there were late readings of the clock. -/
lemma kept_of_run {client : ScreenViewerClient} {ls : List Label}
    (hrun : Transition.Run (Step maxPollTime mousePositionUpdateInterval) (started client) ls t) :
    t.kept + ls.countP (fun l => l.IsLate maxPollTime) = t.queued.length := by
  refine hrun.invariant_with_history
    (I := fun ls t => t.kept + ls.countP (fun l => l.IsLate maxPollTime) = t.queued.length) rfl ?_
  intro ls t l t' _ hkept hs
  have hstep := kept_step hs
  rw [List.countP_append, List.countP_singleton]
  by_cases hl : l.IsLate maxPollTime
  · simp only [hl, decide_true, if_true] at hstep ⊢
    omega
  · simp only [hl, decide_false, Bool.false_eq_true, if_false] at hstep ⊢
    omega

/-- The events dispatched and the ones still queued are all the events that ever were exactly if the
clock, read when an event has been taken out of the queue, never says that the time is over. -/
theorem lossless_iff {client : ScreenViewerClient} {ls : List Label}
    (hrun : Transition.Run (Step maxPollTime mousePositionUpdateInterval) (started client) ls t) :
    t.Lossless ↔ ∀ elapsed, .tests elapsed ∈ ls → elapsed < maxPollTime := by
  constructor
  · intro h elapsed hmem
    by_contra hlate
    have hpos : 0 < ls.countP (fun l => l.IsLate maxPollTime) :=
      List.countP_pos_iff.mpr ⟨_, hmem, decide_eq_true (not_lt.mp hlate)⟩
    have hkept := kept_of_run hrun
    have hlength := congrArg List.length h
    unfold kept at hkept
    simp only [List.length_append] at hlength
    omega
  · intro hls
    refine hrun.invariant_of_labels (P := fun l => ¬ l.IsLate maxPollTime) (fun l hl hlate => ?_)
      rfl fun _ _ _ hl h hs => h.step hl hs
    cases l with
    | tests elapsed => exact absurd (hls elapsed hl) (not_lt.mpr hlate)
    | _ => exact hlate

omit [IntLayout] [ShiftOverflow] [KeysMapping] in
/-- A key that is released while there is time is dispatched. -/
theorem lossless_iff_inTime :
    letI := littleEndianInt
    letI : ShiftOverflow := ⟨fun _ => 0⟩
    letI : KeysMapping := ⟨fun _ => none⟩
    ∃ ls t, Transition.Run (Step 5 50) (started {}) ls t ∧ t.dispatched = [.key false 97] ∧
      (t.Lossless ↔ ∀ elapsed, .tests elapsed ∈ ls → elapsed < 5) := by
  let := littleEndianInt
  let : ShiftOverflow := ⟨fun _ => 0⟩
  let : KeysMapping := ⟨fun _ => none⟩
  have hrun : ∃ ls t, Transition.Run (Step 5 50) (started {}) ls t ∧
      t.dispatched = [.key false 97] :=
    ⟨_, _, .cons (.queues (.key false 97)) <| .cons (.calls 0 rfl) <|
      .cons (.polled 0 _ _ rfl rfl) <| .cons (.inTime 0 4 _ rfl (by decide)) <|
      .single (.dispatched 0 _ (Stream'.const 4) _ rfl rfl), rfl⟩
  obtain ⟨ls, t, hrun, hdispatched⟩ := hrun
  exact ⟨ls, t, hrun, hdispatched, lossless_iff hrun⟩

omit [IntLayout] [ShiftOverflow] [KeysMapping] in
/-- A key that is released when the time has just run out is never dispatched. -/
theorem not_lossless_late :
    letI := littleEndianInt
    letI : ShiftOverflow := ⟨fun _ => 0⟩
    letI : KeysMapping := ⟨fun _ => none⟩
    ∃ ls t, Transition.Run (Step 5 50) (started {}) ls t ∧ t.point = .outside ∧
      t.queued = [.key false 97] ∧ ¬ t.Lossless := by
  let := littleEndianInt
  let : ShiftOverflow := ⟨fun _ => 0⟩
  let : KeysMapping := ⟨fun _ => none⟩
  exact ⟨_, _, .cons (.queues (.key false 97)) <| .cons (.calls 0 rfl) <|
    .cons (.polled 0 _ _ rfl rfl) <| .single (.late 0 5 _ rfl (by decide)), rfl, rfl,
    fun h => List.cons_ne_nil _ _ h.symm⟩

end Polling

end ScreenViewerClient

end ScreenViewer
