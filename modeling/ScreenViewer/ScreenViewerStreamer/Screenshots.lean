import Mathlib
import ScreenViewer.Lib.Runs
import ScreenViewer.VideoEncoder
import ScreenViewer.ScreenViewerStreamer

/-!
# The screenshots that a streamer sends

`run` schedules the first screenshot after it has armed the reader, and from then on the completion
handler of one write schedules the next.  So the writes form a chain, and `links_add` counts its
ends: the writes in flight, the writes that have failed and the screenshots that the encoder has
refused for good, after which nothing is sent, are together one.
-/

namespace ScreenViewer

namespace ScreenViewerStreamer

open VideoEncoder

variable [LibAVEncoder]

/-- A running streamer together with its encoder and its writes. -/
structure Screenshots where
  streamer : ScreenViewerStreamer
  encoder : VideoEncoder
  /-- The number of screenshots that were captured. -/
  captured : ℕ
  /-- `run` has scheduled the first screenshot. -/
  scheduled : Bool
  /-- The packets of the `SCREEN_UPDATE` messages whose writes have not completed. -/
  inFlight : List Packet
  /-- The packets of all `SCREEN_UPDATE` messages, in the order in which they were sent. -/
  sent : List Packet

namespace Screenshots

/-- `run` has armed the reader and is about to schedule the first screenshot. -/
def started (framerate : ℕ) : Screenshots :=
  { streamer := ScreenViewerStreamer.started, encoder := { framerate := framerate }, captured := 0,
    scheduled := false, inFlight := [], sent := [] }

/-- `scheduleAsyncSendScreenshots`, with what the codec answers. -/
def scheduleAsyncSendScreenshots (ret : SendFrame) (ready : Bool) (s : Screenshots) :
    Screenshots :=
  let screenshot := s.captured
  let (packet, encoder) := s.encoder.encode ret ready screenshot
  let s := { s with captured := s.captured + 1, encoder := encoder }
  match packet with
  | some packet => { s with inFlight := s.inFlight ++ [packet], sent := s.sent ++ [packet] }
  | none => s

/-- What happens in a step. -/
inductive Label
  /-- The reader or the loop of `run` moves. -/
  | streamer (l : ScreenViewerStreamer.Label)
  /-- `run` schedules the first screenshot. -/
  | run (ret : SendFrame) (ready : Bool)
  /-- A write has completed, and its completion handler schedules the next screenshot. -/
  | completed (ret : SendFrame) (ready : Bool)
  /-- A write has failed. -/
  | writeFailed
  deriving DecidableEq

/-- The encoder refused a frame with an error other than `EAGAIN`. -/
def Label.IsRefused (l : Label) : Bool :=
  match l with
  | .run ret _ | .completed ret _ => ret = .failed
  | .streamer _ | .writeFailed => false

/-- The packet, if there is one, is sent. -/
lemma scheduleAsyncSendScreenshots_eq (ret : SendFrame) (ready : Bool) (s : Screenshots) :
    s.scheduleAsyncSendScreenshots ret ready =
      { s with
        captured := s.captured + 1
        encoder := (s.encoder.encode ret ready s.captured).2
        inFlight := s.inFlight ++ (s.encoder.encode ret ready s.captured).1.toList
        sent := s.sent ++ (s.encoder.encode ret ready s.captured).1.toList } := by
  unfold scheduleAsyncSendScreenshots
  cases hpacket : (s.encoder.encode ret ready s.captured).1 <;> simp [hpacket]

@[simp] lemma scheduled_scheduleAsyncSendScreenshots (ret : SendFrame) (ready : Bool)
    (s : Screenshots) : (s.scheduleAsyncSendScreenshots ret ready).scheduled = s.scheduled := by
  rw [scheduleAsyncSendScreenshots_eq]

/-- One message is sent, unless the frame is refused for good. -/
lemma length_inFlight_scheduleAsyncSendScreenshots (ret : SendFrame) (ready : Bool)
    (s : Screenshots) :
    (s.scheduleAsyncSendScreenshots ret ready).inFlight.length +
      (if ret = .failed then 1 else 0) = s.inFlight.length + 1 := by
  rw [scheduleAsyncSendScreenshots_eq, List.length_append]
  cases ret <;> simp [encode]

/-- The screenshots whose frames have been sent or are in the codec, in that order. -/
def encoded (s : Screenshots) : List ℕ :=
  s.sent.flatMap Packet.screenshots ++ s.encoder.screenshots

/-- A screenshot that the encoder accepts comes after all earlier ones. -/
lemma encoded_scheduleAsyncSendScreenshots (ret : SendFrame) (ready : Bool) (s : Screenshots) :
    (s.scheduleAsyncSendScreenshots ret ready).encoded =
      s.encoded ++ if ret = .accepted then [s.captured] else [] := by
  have h := encode_screenshots ret ready s.captured s.encoder
  unfold encoded
  rw [scheduleAsyncSendScreenshots_eq, List.flatMap_append, List.append_assoc, h,
    List.append_assoc]

/-- The screenshots are encoded in the order in which they were captured. -/
structure InOrder (s : Screenshots) : Prop where
  pairwise : s.encoded.Pairwise (· < ·)
  lt_captured : ∀ n ∈ s.encoded, n < s.captured

/-- Scheduling a screenshot keeps the order. -/
lemma InOrder.scheduleAsyncSendScreenshots {s : Screenshots} (h : s.InOrder) (ret : SendFrame)
    (ready : Bool) : (s.scheduleAsyncSendScreenshots ret ready).InOrder := by
  constructor
  · rw [encoded_scheduleAsyncSendScreenshots]
    split
    · refine List.pairwise_append.mpr ⟨h.pairwise, List.pairwise_singleton _ _, fun n hn m hm => ?_⟩
      rw [List.mem_singleton.mp hm]
      exact h.lt_captured n hn
    · rw [List.append_nil]
      exact h.pairwise
  · intro n hn
    rw [encoded_scheduleAsyncSendScreenshots] at hn
    rw [scheduleAsyncSendScreenshots_eq]
    rcases List.mem_append.mp hn with hn | hn
    · exact (h.lt_captured n hn).trans (Nat.lt_succ_self _)
    · split at hn
      · rw [List.mem_singleton.mp hn]
        exact Nat.lt_succ_self _
      · exact absurd hn List.not_mem_nil

variable [IntLayout]

/-- The steps of a streamer between two handlers. -/
inductive Step (s : Screenshots) : Label → Screenshots → Prop
  | streamer (l : ScreenViewerStreamer.Label) (streamer : ScreenViewerStreamer)
      (hloop : l = .run → s.scheduled = true)
      (hstep : ScreenViewerStreamer.Step s.streamer l streamer) :
      Step s (.streamer l) { s with streamer := streamer }
  | run (ret : SendFrame) (ready : Bool) (hscheduled : s.scheduled = false) :
      Step s (.run ret ready)
        (scheduleAsyncSendScreenshots ret ready { s with scheduled := true })
  | completed (ret : SendFrame) (ready : Bool) (before after : List Packet) (packet : Packet)
      (hpoint : s.streamer.socketPoint = .idle) (hflight : s.inFlight = before ++ packet :: after) :
      Step s (.completed ret ready)
        (scheduleAsyncSendScreenshots ret ready { s with inFlight := before ++ after })
  | writeFailed (before after : List Packet) (packet : Packet)
      (hpoint : s.streamer.socketPoint = .idle) (hflight : s.inFlight = before ++ packet :: after) :
      Step s .writeFailed { s with inFlight := before ++ after }

/-- While the socket is open and no write has failed, one message is in flight; and the frames are
sent in the order in which their screenshots were captured. -/
structure OneInFlight (ls : List Label) (s : Screenshots) : Prop where
  inFlight : s.scheduled = true → s.streamer.isOpen = true → .writeFailed ∉ ls →
    s.inFlight.length = 1
  order : (s.sent.flatMap Packet.screenshots).Pairwise (· < ·)

variable {s t : Screenshots} {l : Label} {ls : List Label} {framerate : ℕ}

/-- Every step keeps the order. -/
theorem InOrder.step (h : s.InOrder) (hs : Step s l t) : t.InOrder := by
  cases hs with
  | streamer => exact ⟨h.pairwise, h.lt_captured⟩
  | run ret ready =>
    apply InOrder.scheduleAsyncSendScreenshots
    exact ⟨h.pairwise, h.lt_captured⟩
  | completed ret ready =>
    apply InOrder.scheduleAsyncSendScreenshots
    exact ⟨h.pairwise, h.lt_captured⟩
  | writeFailed => exact ⟨h.pairwise, h.lt_captured⟩

/-- The frames are sent in the order in which their screenshots were captured. -/
theorem order_of_run (hrun : Transition.Run Step (started framerate) ls t) :
    (t.sent.flatMap Packet.screenshots).Pairwise (· < ·) := by
  have hstarted : (started framerate).InOrder := by
    constructor <;>
      simp [started, encoded, VideoEncoder.screenshots, LibAVEncoder.frames_opened]
  have h : t.InOrder := hrun.invariant hstarted fun _ _ _ h hs => h.step hs
  exact (List.pairwise_append.mp h.pairwise).1

/-- The writes in flight and the ends of the chain: failed writes and refused screenshots. -/
def links (ls : List Label) (s : Screenshots) : ℕ :=
  s.inFlight.length + ls.countP Label.IsRefused + ls.count .writeFailed

/-- A handler takes one write out of flight, and puts another into flight or ends the chain. -/
lemma links_step (hs : Step s l t) :
    links (ls ++ [l]) t + (if s.scheduled then 1 else 0) =
      links ls s + (if t.scheduled then 1 else 0) := by
  unfold links
  rw [List.countP_append, List.countP_singleton, List.count_append, List.count_singleton]
  cases hs with
  | streamer l streamer =>
    simp [Label.IsRefused]
  | run ret ready hscheduled =>
    have h := length_inFlight_scheduleAsyncSendScreenshots ret ready { s with scheduled := true }
    rw [hscheduled]
    simp only [Label.IsRefused, decide_eq_true_eq, scheduled_scheduleAsyncSendScreenshots] at h ⊢
    simp
    omega
  | completed ret ready before after packet hpoint hflight =>
    have h := length_inFlight_scheduleAsyncSendScreenshots ret ready
      { s with inFlight := before ++ after }
    simp only [Label.IsRefused, decide_eq_true_eq, scheduled_scheduleAsyncSendScreenshots,
      List.length_append] at h ⊢
    rw [hflight]
    simp
    omega
  | writeFailed before after packet hpoint hflight =>
    simp [Label.IsRefused, hflight]
    omega

/-- There is one chain, which begins when `run` schedules the first screenshot. -/
theorem links_of_run (hrun : Transition.Run Step (started framerate) ls t) :
    links ls t = if t.scheduled then 1 else 0 := by
  refine hrun.invariant_with_history (I := fun ls t => links ls t = if t.scheduled then 1 else 0)
    rfl fun ls t l t' _ h hs => ?_
  have hlinks : links (ls ++ [l]) t' + _ = links ls t + _ := links_step hs
  omega

/-- Two messages are never in flight. -/
theorem length_inFlight_le_one (hrun : Transition.Run Step (started framerate) ls t) :
    t.inFlight.length ≤ 1 := by
  have h := links_of_run hrun
  unfold links at h
  split at h <;> omega

/-- Once a frame was refused for good, nothing is sent any more. -/
theorem sent_eq_of_refused {m : Label} {ms : List Label}
    (hrun : Transition.Run Step (started framerate) ls s) (hm : m ∈ ls)
    (hrefused : m.IsRefused = true) (hrun' : Transition.Run Step s ms t) : t.sent = s.sent := by
  refine hrun'.invariant_with_history (I := fun _ t => t.sent = s.sent) rfl
    fun ms t l t' hms h hs => ?_
  have hlinks := links_of_run (hrun.append hms)
  unfold links at hlinks
  have hpos : 0 < (ls ++ ms).countP Label.IsRefused :=
    List.countP_pos_iff.mpr ⟨m, List.mem_append_left ms hm, hrefused⟩
  cases hs with
  | streamer => exact h
  | run ret ready hscheduled =>
    rw [hscheduled] at hlinks
    simp only [Bool.false_eq_true, if_false] at hlinks
    omega
  | completed ret ready before after packet hpoint hflight =>
    rw [hflight, List.length_append, List.length_cons] at hlinks
    split at hlinks <;> omega
  | writeFailed => exact h

/-- One message is in flight and the frames are sent in order exactly if the encoder has refused no
frame for good, as long as the socket is open and no write has failed. -/
theorem oneInFlight_iff (hrun : Transition.Run Step (started framerate) ls t) :
    OneInFlight ls t ↔
      (t.streamer.isOpen = true → .writeFailed ∉ ls → ∀ l ∈ ls, ¬ l.IsRefused) := by
  have hlinks := links_of_run hrun
  unfold links at hlinks
  constructor
  · intro h hopen hfailed l hl hrefused
    have hpos : 0 < ls.countP Label.IsRefused := List.countP_pos_iff.mpr ⟨l, hl, hrefused⟩
    have hone : t.scheduled = true → t.inFlight.length = 1 :=
      fun hscheduled => h.inFlight hscheduled hopen hfailed
    split at hlinks
    · have := hone ‹_›
      omega
    · omega
  · intro h
    refine ⟨fun hscheduled hopen hfailed => ?_, order_of_run hrun⟩
    have hrefused : ls.countP Label.IsRefused = 0 := List.countP_eq_zero.mpr (h hopen hfailed)
    rw [hrefused, List.count_eq_zero_of_not_mem hfailed, if_pos hscheduled] at hlinks
    exact hlinks

omit [LibAVEncoder] [IntLayout] in
/-- While the encoder accepts what it gets, one message is in flight. -/
theorem oneInFlight_iff_accepted :
    letI := LibAVEncoder.fifo
    letI := littleEndianInt
    ∃ ls t, Transition.Run Step (started 30) ls t ∧ t.inFlight.length = 1 ∧
      t.sent.flatMap Packet.screenshots = [0, 1] ∧
      (OneInFlight ls t ↔
        (t.streamer.isOpen = true → .writeFailed ∉ ls → ∀ l ∈ ls, ¬ l.IsRefused)) := by
  let := LibAVEncoder.fifo
  let := littleEndianInt
  have hrun : ∃ ls t, Transition.Run Step (started 30) ls t ∧ t.inFlight.length = 1 ∧
      t.sent.flatMap Packet.screenshots = [0, 1] :=
    ⟨_, _, .cons (.run .accepted true rfl) <|
      .cons (.completed .accepted false [] [] _ rfl rfl) <|
      .cons (.completed .again false [] [] _ rfl rfl) <|
      .single (.completed .again true [] [] _ rfl rfl), rfl, rfl⟩
  obtain ⟨ls, t, hrun, hflight, hsent⟩ := hrun
  exact ⟨ls, t, hrun, hflight, hsent, oneInFlight_iff hrun⟩

omit [LibAVEncoder] [IntLayout] in
/-- When the encoder refuses the second frame, nothing is in flight although the socket is open and
no write has failed, and nothing is sent any more. -/
theorem not_oneInFlight_refused :
    letI := LibAVEncoder.fifo
    letI := littleEndianInt
    ∃ ls t, Transition.Run Step (started 30) ls t ∧ t.streamer.isOpen = true ∧
      .writeFailed ∉ ls ∧ t.inFlight = [] ∧ ¬ OneInFlight ls t ∧
      ∀ ms t', Transition.Run Step t ms t' → t'.sent = t.sent := by
  let := LibAVEncoder.fifo
  let := littleEndianInt
  have hrun : ∃ t, Transition.Run Step (started 30) [.run .accepted true, .completed .failed false]
      t ∧ t.scheduled = true ∧ t.streamer.isOpen = true ∧ t.inFlight = [] :=
    ⟨_, .cons (.run .accepted true rfl) <| .single (.completed .failed false [] [] _ rfl rfl),
      rfl, rfl, rfl⟩
  obtain ⟨t, hrun, hscheduled, hopen, hflight⟩ := hrun
  refine ⟨_, t, hrun, hopen, by decide, hflight, fun h => ?_, fun ms t' hrun' => ?_⟩
  · have hone := h.inFlight hscheduled hopen (by decide)
    rw [hflight] at hone
    cases hone
  · exact sent_eq_of_refused hrun (List.mem_cons_of_mem _ (List.mem_singleton_self _)) rfl hrun'

end Screenshots

end ScreenViewerStreamer

end ScreenViewer
