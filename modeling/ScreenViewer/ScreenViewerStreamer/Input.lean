import Mathlib
import ScreenViewer.ScreenViewerStreamer

/-!
# The input of a streamer

`handleInput` is called with the messages received, in order, and has been called with all of them
when `run` leaves its loop (`input_in_order`): the loop tests the socket before the queue, and the
socket's thread pushes before it closes.

`run` does not catch the exception that `convertTo` throws for a content of the wrong size, although
`handleInput` skips every other message that it has no use for.  So the viewer's messages leave the
streamer unharmed exactly if all its input messages have the size of their structure
(`keepsRunning_iff`).
-/

namespace ScreenViewer

namespace ScreenViewerStreamer

variable [IntLayout]

/-! ## Nothing is lost -/

omit [IntLayout] in
/-- What has been handled was received before everything else. -/
lemma Accounted.prefix_handled {s : ScreenViewerStreamer} (h : Accounted s) :
    s.handled <+: s.received := by
  refine ⟨s.runPoint.inHand ++ s.messages ++ s.socketPoint.inHand, ?_⟩
  rw [show s.received = _ from h]
  simp only [List.append_assoc]

omit [IntLayout] in
/-- Everything has been handled when `run` has left its loop. -/
lemma Accounted.handled_eq {s : ScreenViewerStreamer} (h : Accounted s) (hinv : Inv s)
    (hreturned : s.runPoint = .returned) : s.handled = s.received := by
  have hidle := (hinv.idle_of_closed (hinv.closed_of_sawClosed (Or.inr hreturned))).1
  have hempty := hinv.messages_of_returned hreturned
  simpa [Accounted, hreturned, hempty, hidle, RunPoint.inHand, SocketPoint.inHand] using h.symm

/-- In every run in which the message handler does not throw, messages are handled in the order in
which they are received, and all of them before the loop is left. -/
theorem input_in_order {t : ScreenViewerStreamer} {ls : List Label}
    (hrun : Transition.Run Step started ls t) (hls : .handlerThrew ∉ ls) :
    t.handled <+: t.received ∧ (t.runPoint = .returned → t.handled = t.received) := by
  have haccounted := Accounted.of_run hrun hls
  exact ⟨haccounted.prefix_handled, haccounted.handled_eq (Inv.of_run hrun)⟩

omit [IntLayout] in
/-- A message that is followed by a rejected header is handled before the loop is left. -/
theorem input_in_order_before_closing :
    letI := littleEndianInt
    ∃ t ls, Transition.Run Step started ls t ∧ t.runPoint = .returned ∧
      t.received = [{ type := .justAMessage, content := [7] }] ∧ t.handled = t.received := by
  let := littleEndianInt
  have hrun : ∃ t ls, Transition.Run Step started ls t ∧ .handlerThrew ∉ ls ∧
      t.runPoint = .returned ∧ t.received = [{ type := .justAMessage, content := [7] }] :=
    ⟨_, _,
      .cons (.headerRead { messageSize := 1, type := .justAMessage } rfl rfl (by decide)) <|
      .cons (.messageRead _ [7] rfl rfl rfl) <| .cons (.pushed _ rfl) <| .cons (.scheduled rfl) <|
      .cons (.headerRejected rfl rfl) <| .cons (.sent rfl) <| .cons (.shutDown rfl) <|
      .cons (.closed rfl) <| .cons (.testOpen rfl) <| .cons (.testEmpty rfl) <|
      .cons (.popped _ _ rfl rfl) <| .cons (.handled _ none rfl rfl) <| .cons (.drained rfl rfl) <|
      .cons (.slept rfl) <| .cons (.testOpen rfl) <| .cons (.testEmpty rfl) <| .nil _,
      by decide, rfl, rfl⟩
  obtain ⟨t, ls, hrun, hls, hreturned, hreceived⟩ := hrun
  exact ⟨t, ls, hrun, hreturned, hreceived, (input_in_order hrun hls).2 hreturned⟩

/-! ## Messages of the wrong size -/

/-- An input message has the size of its event structure. -/
def HasEventSize (message : Message) : Prop :=
  (message.type = .keyboardInput →
    message.content.length = MessageTypeData.size KeyboardEventData) ∧
  (message.type = .mouseInput → message.content.length = MessageTypeData.size MouseEventData)

instance (message : Message) : Decidable (HasEventSize message) :=
  inferInstanceAs (Decidable (_ ∧ _))

/-- The call that a message is worth: input of the right size is passed on. -/
def inputOf (message : Message) : Option Input :=
  if message.type = .keyboardInput ∧
      message.content.length = MessageTypeData.size KeyboardEventData then
    some (.handleKeyboardEvent (MessageTypeData.read message.content))
  else if message.type = .mouseInput ∧
      message.content.length = MessageTypeData.size MouseEventData then
    some (.handleMouseEvent (MessageTypeData.read message.content))
  else
    none

/-- What the viewer has sent has done no harm. -/
structure Unharmed (s : ScreenViewerStreamer) : Prop where
  /-- No exception has escaped. -/
  running : ∀ what, s.runPoint ≠ .failed what
  /-- Input of the right size was passed on once and in order, and nothing else was. -/
  inputs_eq : s.inputs = s.handled.filterMap inputOf
  /-- Messages are handled in order. -/
  prefix_handled : s.handled <+: s.received
  /-- No message has been dropped. -/
  accounted : Accounted s

/-- However the two threads are interleaved, messages from `ms` do no harm. -/
def KeepsRunning (ms : List Message) : Prop :=
  ∀ ls t, Transition.Run Step started ls t → .handlerThrew ∉ ls → t.received <+: ms → Unharmed t

/-- `handleInput` does what the message is worth, unless it throws. -/
lemma handleInput_of_hasEventSize {message : Message} (h : HasEventSize message) :
    handleInput message = .ok (inputOf message) := by
  obtain ⟨hkeyboard, hmouse⟩ := h
  cases htype : message.type with
  | keyboardInput =>
    have hsize := hkeyboard htype
    simp [handleInput, inputOf, htype, convertTo_of_eq hsize, hsize, Except.map]
  | mouseInput =>
    have hsize := hmouse htype
    simp [handleInput, inputOf, htype, convertTo_of_eq hsize, hsize, Except.map]
  | _ => simp [handleInput, inputOf, htype]

/-- `handleInput` throws for input of the wrong size. -/
lemma handleInput_of_not_hasEventSize {message : Message} (h : ¬ HasEventSize message) :
    ∃ what, handleInput message = .error what := by
  rw [HasEventSize, not_and_or] at h
  rcases h with h | h
  · push Not at h
    exact ⟨_, by simp [handleInput, h.1, convertTo_of_ne h.2, Except.map]; rfl⟩
  · push Not at h
    exact ⟨_, by simp [handleInput, h.1, convertTo_of_ne h.2, Except.map]; rfl⟩

/-! ### Messages of the right size do no harm -/

/-- The calls made so far are those that the messages handled are worth. -/
def Passed (s : ScreenViewerStreamer) : Prop :=
  (∀ what, s.runPoint ≠ .failed what) ∧ s.inputs = s.handled.filterMap inputOf

/-- A step keeps the calls right when the message in hand has the right size. -/
lemma Passed.step {s t : ScreenViewerStreamer} {l : Label} (h : Passed s)
    (hsize : ∀ message ∈ s.runPoint.inHand, HasEventSize message) (hs : Step s l t) : Passed t := by
  obtain ⟨hrunning, hinputs⟩ := h
  cases hs with
  | testOpen hpoint => exact ⟨fun what => by cases hopen : s.isOpen <;> simp, hinputs⟩
  | testEmpty hpoint => exact ⟨fun what => by by_cases h : s.messages = [] <;> simp [h], hinputs⟩
  | popped message messages hpoint hmessages => exact ⟨by simp, hinputs⟩
  | drained hpoint hmessages => exact ⟨by simp, hinputs⟩
  | handled message input hpoint hinput =>
    refine ⟨by simp, ?_⟩
    have hmessage : HasEventSize message := hsize message (by simp [hpoint, RunPoint.inHand])
    rw [handleInput_of_hasEventSize hmessage, Except.ok.injEq] at hinput
    subst hinput
    cases hinputOf : inputOf message <;> simp [hinputs, hinputOf]
  | failed message what hpoint hinput =>
    have hmessage : HasEventSize message := hsize message (by simp [hpoint, RunPoint.inHand])
    simp [handleInput_of_hasEventSize hmessage] at hinput
  | slept hpoint => exact ⟨by simp, hinputs⟩
  | _ => exact ⟨hrunning, hinputs⟩

/-- Messages received stay received. -/
lemma received_prefix_of_step {s t : ScreenViewerStreamer} {l : Label} (hs : Step s l t) :
    s.received <+: t.received := by
  cases hs with
  | messageRead header content hpoint hpending hcontent => exact List.prefix_append _ _
  | _ => exact List.prefix_rfl

/-- As long as all messages received have the right size, the calls made are right. -/
lemma Passed.of_run {t : ScreenViewerStreamer} {ls : List Label}
    (hrun : Transition.Run Step started ls t) (hls : .handlerThrew ∉ ls)
    (hsize : ∀ message ∈ t.received, HasEventSize message) : Passed t := by
  induction hrun with
  | nil => exact ⟨by simp [started], rfl⟩
  | snoc hrun hs ih =>
    have hls' := fun hmem => hls (List.mem_append_left _ hmem)
    have hsize' : ∀ message ∈ _, HasEventSize message :=
      fun message hmem => hsize message ((received_prefix_of_step hs).subset hmem)
    refine (ih hls' hsize').step (fun message hmem => hsize' message ?_) hs
    rw [show _ = _ from Accounted.of_run hrun hls']
    simp [hmem]

/-- Messages of the right size do no harm. -/
lemma keepsRunning_of_hasEventSize {ms : List Message} (h : ∀ message ∈ ms, HasEventSize message) :
    KeepsRunning ms := by
  intro ls t hrun hls hms
  have hpassed := Passed.of_run hrun hls fun message hmem => h message (hms.subset hmem)
  have haccounted := Accounted.of_run hrun hls
  exact ⟨hpassed.1, hpassed.2, haccounted.prefix_handled, haccounted⟩

/-! ### A message of the wrong size ends the program -/

/-- `s` can become `t` without an exception of the message handler. -/
def Reaches (s t : ScreenViewerStreamer) : Prop :=
  ∃ ls, Transition.Run Step s ls t ∧ .handlerThrew ∉ ls

lemma Reaches.trans {s t r : ScreenViewerStreamer} (h : Reaches s t) (h' : Reaches t r) :
    Reaches s r := by
  obtain ⟨ls, hrun, hls⟩ := h
  obtain ⟨ls', hrun', hls'⟩ := h'
  exact ⟨ls ++ ls', hrun.append hrun', by simp [hls, hls']⟩

lemma Reaches.step {s t : ScreenViewerStreamer} {l : Label} (hs : Step s l t)
    (hl : l ≠ .handlerThrew) : Reaches s t :=
  ⟨[l], Transition.Run.single hs, by simpa using hl.symm⟩

/-- A waiting reader can receive any message that fits its buffer. -/
lemma reaches_received {s : ScreenViewerStreamer} (hpoint : s.socketPoint = .idle)
    (hpending : s.pending = some .header) {message : Message}
    (hsize : message.content.length ≤ SocketBase.bufferSize) :
    Reaches s
      { s with
        messages := s.messages ++ [message]
        received := s.received ++ [message] } := by
  have hlt : message.content.length < 2 ^ 64 := hsize.trans_lt SocketBase.bufferSize_lt
  have hnat : (UInt64.ofNat message.content.length).toNat = message.content.length := by
    rw [UInt64.toNat_ofNat', Nat.mod_eq_of_lt hlt]
  let header : MessageHeader :=
    { messageSize := UInt64.ofNat message.content.length, type := message.type }
  have hheader := Reaches.step (Step.headerRead header hpoint hpending (hnat.trans_le hsize))
    (by simp)
  have hread := Reaches.step (Step.messageRead (s := { s with pending := some (.body header) })
    header message.content hpoint rfl hnat.symm) (by simp)
  have hpush := Reaches.step (Step.pushed (s := { s with
    pending := none
    socketPoint := .push message
    received := s.received ++ [message] }) message rfl) (by simp)
  have hschedule := Reaches.step (Step.scheduled (s := { s with
    pending := none
    socketPoint := .scheduleAsyncPollIOEvents
    messages := s.messages ++ [message]
    received := s.received ++ [message] }) rfl) (by simp)
  simpa [← hpoint, ← hpending] using ((hheader.trans hread).trans hpush).trans hschedule

/-- So it can receive any number of them. -/
lemma reaches_receivedAll {s : ScreenViewerStreamer} (hpoint : s.socketPoint = .idle)
    (hpending : s.pending = some .header) (ms : List Message)
    (hsize : ∀ message ∈ ms, message.content.length ≤ SocketBase.bufferSize) :
    Reaches s { s with messages := s.messages ++ ms, received := s.received ++ ms } := by
  induction ms generalizing s with
  | nil => exact ⟨[], by simpa using Transition.Run.nil s, by simp⟩
  | cons message ms ih =>
    have hfirst := reaches_received hpoint hpending (hsize message (by simp))
    have hrest := ih (s := { s with
      messages := s.messages ++ [message]
      received := s.received ++ [message] }) hpoint hpending fun m hm => hsize m (by simp [hm])
    simpa using hfirst.trans hrest

/-- Messages of the right size can be handled one after another. -/
lemma reaches_handledAll {s : ScreenViewerStreamer} (hpoint : s.runPoint = .tryPop)
    (ms rest : List Message) (hmessages : s.messages = ms ++ rest)
    (hsize : ∀ message ∈ ms, HasEventSize message) :
    ∃ t, Reaches s t ∧ t.runPoint = .tryPop ∧ t.messages = rest ∧ t.received = s.received := by
  induction ms generalizing s with
  | nil => exact ⟨s, ⟨[], Transition.Run.nil s, by simp⟩, hpoint, hmessages, rfl⟩
  | cons message ms ih =>
    have hpop := Reaches.step (Step.popped message (ms ++ rest) hpoint hmessages) (by simp)
    have hhandle := Reaches.step (Step.handled (s := { s with
        runPoint := .handleInput message, messages := ms ++ rest }) message (inputOf message) rfl
      (handleInput_of_hasEventSize (hsize message (by simp)))) (by simp)
    obtain ⟨t, hreaches, ht, hrest, hreceived⟩ :=
      ih (s := { s with
        runPoint := .tryPop
        messages := ms ++ rest
        handled := s.handled ++ [message]
        inputs := s.inputs ++ (inputOf message).toList }) rfl rfl fun m hm => hsize m (by simp [hm])
    exact ⟨t, (hpop.trans hhandle).trans hreaches, ht, hrest, hreceived⟩

/-- A message of the wrong size does harm. -/
lemma hasEventSize_of_keepsRunning {ms : List Message}
    (hframed : ∀ message ∈ ms, message.content.length ≤ SocketBase.bufferSize)
    (h : KeepsRunning ms) : ∀ message ∈ ms, HasEventSize message := by
  by_contra hwrong
  push Not at hwrong
  obtain ⟨_, hmem, hsize⟩ := hwrong
  -- The first message of the wrong size is reached.
  have hfind : (ms.find? fun message => ¬ HasEventSize message).isSome := by
    rw [List.find?_isSome]
    exact ⟨_, hmem, by simpa using hsize⟩
  obtain ⟨message, hmessage⟩ := Option.isSome_iff_exists.mp hfind
  obtain ⟨hwrong, before, after, rfl, hbefore⟩ := List.find?_eq_some_iff_append.mp hmessage
  have hreceive := reaches_receivedAll (s := started) rfl rfl (before ++ message :: after) hframed
  have htest := Reaches.step (Step.testOpen (s := { started with
    messages := started.messages ++ (before ++ message :: after)
    received := started.received ++ (before ++ message :: after) }) rfl) (by simp)
  obtain ⟨t, hhandle, hpoint, hmessages, hreceived⟩ :=
    reaches_handledAll (s := { started with
      runPoint := .tryPop
      messages := started.messages ++ (before ++ message :: after)
      received := started.received ++ (before ++ message :: after) }) rfl before (message :: after)
      rfl (by simpa using hbefore)
  have hpop := Reaches.step (Step.popped message after hpoint hmessages) (by simp)
  obtain ⟨what, hwhat⟩ := handleInput_of_not_hasEventSize (by simpa using hwrong)
  have hfail := Reaches.step (Step.failed (s := { t with
    runPoint := .handleInput message, messages := after }) message what rfl hwhat) (by simp)
  obtain ⟨ls, hrun, hls⟩ := (((hreceive.trans htest).trans hhandle).trans hpop).trans hfail
  refine (h ls _ hrun hls ?_).running what rfl
  rw [show _ = _ from hreceived]
  exact List.prefix_rfl

/-- The viewer's messages do no harm exactly if its input messages have the size of their
structure. -/
theorem keepsRunning_iff (ms : List Message)
    (hframed : ∀ message ∈ ms, message.content.length ≤ SocketBase.bufferSize) :
    KeepsRunning ms ↔ ∀ message ∈ ms, HasEventSize message :=
  ⟨hasEventSize_of_keepsRunning hframed, keepsRunning_of_hasEventSize⟩

omit [IntLayout] in
/-- A motion to the origin does no harm. -/
theorem keepsRunning_iff_motion :
    letI := littleEndianInt
    KeepsRunning [{ type := .mouseInput, content := List.replicate 12 0 }] := by
  let := littleEndianInt
  exact (keepsRunning_iff [{ type := .mouseInput, content := List.replicate 12 0 }]
    (by decide)).mpr (by decide)

omit [IntLayout] in
/-- A mouse message with a single byte ends the streamer. -/
theorem not_keepsRunning_short :
    letI := littleEndianInt
    ¬ KeepsRunning [{ type := .mouseInput, content := [0] }] := by
  let := littleEndianInt
  intro h
  have hsize := hasEventSize_of_keepsRunning (by decide) h _ List.mem_cons_self
  exact absurd hsize (by decide)

end ScreenViewerStreamer

end ScreenViewer
