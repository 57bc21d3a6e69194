import Mathlib
import ScreenViewer.ScreenViewerStreamer

/-!
# A streamer that can no longer read

The loop of `run` goes on while the socket is open.  Between two handlers of the socket's thread a
read should be pending or the socket closed, but two kinds of step leave neither: a read that fails
is only logged, and an exception in `safeDisconnect` is caught before the socket is closed.  After
such a step nothing is read, the socket stays open and `run` goes on for ever (`Deaf.of_run`), and
these are the only ways to get there (`readsOrIsClosed_iff`).
-/

namespace ScreenViewer

namespace ScreenViewerStreamer

/-- Between two handlers, a read is pending or the socket is closed. -/
def ReadsOrIsClosed (s : ScreenViewerStreamer) : Prop :=
  s.socketPoint = .idle → s.pending ≠ none ∨ s.isOpen = false

/-- A read fails, or a part of `safeDisconnect` does. -/
def Label.Fails : Label → Prop
  | .readFailed _ => True
  | .disconnectThrew _ => True
  | _ => False

/-- The socket is open and nothing will ever be read from it. -/
structure Deaf (s : ScreenViewerStreamer) : Prop where
  isOpen : s.isOpen = true
  pending : s.pending = none
  idle : s.socketPoint = .idle
  /-- The thread of `run` does not leave its loop. -/
  running : ¬ s.runPoint.SawClosed

variable [IntLayout]

/-- A streamer that is deaf stays so. -/
lemma Deaf.step {s t : ScreenViewerStreamer} {l : Label} (h : Deaf s) (hs : Step s l t) :
    Deaf t := by
  obtain ⟨hopen, hpending, hidle, hrunning⟩ := h
  cases hs with
  | testOpen hpoint => exact ⟨hopen, hpending, hidle, by simp [hopen, RunPoint.SawClosed]⟩
  | testEmpty hpoint => exact absurd (Or.inl hpoint) hrunning
  | popped message messages hpoint hmessages =>
    exact ⟨hopen, hpending, hidle, by simp [RunPoint.SawClosed]⟩
  | drained hpoint hmessages => exact ⟨hopen, hpending, hidle, by simp [RunPoint.SawClosed]⟩
  | handled message input hpoint hinput =>
    exact ⟨hopen, hpending, hidle, by simp [RunPoint.SawClosed]⟩
  | failed message what hpoint hinput =>
    exact ⟨hopen, hpending, hidle, by simp [RunPoint.SawClosed]⟩
  | slept hpoint => exact ⟨hopen, hpending, hidle, by simp [RunPoint.SawClosed]⟩
  | headerRead header hpoint hpending' hsize => simp [hpending] at hpending'
  | headerRejected hpoint hpending' => simp [hpending] at hpending'
  | messageRead header content hpoint hpending' hcontent => simp [hpending] at hpending'
  | readFailed read hpoint hpending' => simp [hpending] at hpending'
  | pushed message hpoint => simp [hidle] at hpoint
  | scheduled hpoint => simp [hidle] at hpoint
  | pushThrew message hpoint => simp [hidle] at hpoint
  | scheduleThrew hpoint => simp [hidle] at hpoint
  | sent hpoint => simp [hidle] at hpoint
  | shutDown hpoint => simp [hidle] at hpoint
  | closed hpoint => simp [hidle] at hpoint
  | disconnectThrew point hclose hpoint => simp [hidle] at hpoint

/-- A failure makes the streamer deaf. -/
lemma Deaf.of_fails {s t : ScreenViewerStreamer} {l : Label} (h : Inv s) (hs : Step s l t)
    (hl : l.Fails) : Deaf t := by
  cases hs with
  | readFailed read hpoint hpending =>
    have hopen := h.isOpen_of_pending hpending
    have hrunning : ¬ s.runPoint.SawClosed := fun hsaw => by
      simp [h.closed_of_sawClosed hsaw] at hopen
    exact ⟨hopen, rfl, hpoint, hrunning⟩
  | disconnectThrew point hclose hpoint =>
    have hbusy : s.socketPoint ≠ .idle := by simp [hpoint]
    have hopen := h.isOpen_of_ne_idle hbusy
    have hrunning : ¬ s.runPoint.SawClosed := fun hsaw => by
      simp [h.closed_of_sawClosed hsaw] at hopen
    exact ⟨hopen, h.pending_of_ne_idle hbusy, rfl, hrunning⟩
  | _ => exact hl.elim

/-- After a failure the streamer is deaf for the rest of the run. -/
theorem Deaf.of_run {t : ScreenViewerStreamer} {ls : List Label}
    (hrun : Transition.Run Step started ls t) (hls : ∃ l ∈ ls, l.Fails) : Deaf t := by
  induction hrun with
  | nil => simp at hls
  | snoc hrun hs ih =>
    obtain ⟨l, hmem, hfails⟩ := hls
    rcases List.mem_append.mp hmem with hmem | hmem
    · exact (ih ⟨l, hmem, hfails⟩).step hs
    · rw [List.mem_singleton] at hmem
      exact Deaf.of_fails (Inv.of_run hrun) hs (hmem ▸ hfails)

/-- A step without a failure leaves a read pending or the socket closed. -/
lemma ReadsOrIsClosed.step {s t : ScreenViewerStreamer} {l : Label} (h : ReadsOrIsClosed s)
    (hl : ¬ l.Fails) (hs : Step s l t) : ReadsOrIsClosed t := by
  cases hs with
  | headerRead header hpoint hpending hsize => exact fun _ => Or.inl (by simp)
  | headerRejected hpoint hpending => exact fun hidle => by cases hidle
  | messageRead header content hpoint hpending hcontent => exact fun hidle => by cases hidle
  | readFailed read hpoint hpending => exact absurd trivial hl
  | pushed message hpoint => exact fun hidle => by cases hidle
  | scheduled hpoint => exact fun _ => Or.inl (by simp)
  | pushThrew message hpoint => exact fun hidle => by cases hidle
  | scheduleThrew hpoint => exact fun hidle => by cases hidle
  | sent hpoint => exact fun hidle => by cases hidle
  | shutDown hpoint => exact fun hidle => by cases hidle
  | closed hpoint => exact fun _ => Or.inr rfl
  | disconnectThrew point hclose hpoint => exact absurd trivial hl
  | _ => exact h

/-- A state reached has a pending read or a closed socket exactly if no read and no part of
`safeDisconnect` has failed on the way to it. -/
theorem readsOrIsClosed_iff {t : ScreenViewerStreamer} {ls : List Label}
    (hrun : Transition.Run Step started ls t) : ReadsOrIsClosed t ↔ ∀ l ∈ ls, ¬ l.Fails := by
  constructor
  · intro h l hmem hfails
    have hdeaf := Deaf.of_run hrun ⟨l, hmem, hfails⟩
    rcases h hdeaf.idle with hpending | hclosed
    · exact hpending hdeaf.pending
    · simp [hdeaf.isOpen] at hclosed
  · intro hls
    refine hrun.invariant_of_labels hls (fun _ => Or.inl (by simp [started])) ?_
    exact fun _ _ _ hl h hs => h.step hl hs

omit [IntLayout] in
/-- After a rejected header whose sender is told so, the socket is closed. -/
theorem readsOrIsClosed_iff_rejected :
    letI := littleEndianInt
    ∃ t ls, Transition.Run Step started ls t ∧ t.isOpen = false ∧ .headerRejected ∈ ls ∧
      (ReadsOrIsClosed t ↔ ∀ l ∈ ls, ¬ l.Fails) := by
  let := littleEndianInt
  have hrun : ∃ t ls, Transition.Run Step started ls t ∧ t.isOpen = false ∧ .headerRejected ∈ ls :=
    ⟨_, _, .cons (.headerRejected rfl rfl) <| .cons (.sent rfl) <| .cons (.shutDown rfl) <|
      .cons (.closed rfl) <| .nil _, rfl, by decide⟩
  obtain ⟨t, ls, hrun, hclosed, hrejected⟩ := hrun
  exact ⟨t, ls, hrun, hclosed, hrejected, readsOrIsClosed_iff hrun⟩

omit [IntLayout] in
/-- When the viewer ends its stream between two messages, the socket is open and nothing is read. -/
theorem not_readsOrIsClosed_endOfStream :
    letI := littleEndianInt
    ∃ t ls, Transition.Run Step started ls t ∧ ¬ ReadsOrIsClosed t := by
  let := littleEndianInt
  exact ⟨_, _, .cons (.readFailed .header rfl rfl) (.nil _), fun h => by
    rcases h rfl with h | h <;> simp [started] at h⟩

end ScreenViewerStreamer

end ScreenViewer
