import Mathlib
import ScreenViewer.Lib.Runs
import ScreenViewer.EventData
import ScreenViewer.SocketBase.Send

/-!
# The streamer's threads

A running `ScreenViewerStreamer` has two threads.  The socket's thread completes reads: a message is
pushed to the queue `messages` and the next read is armed, a rejected header and an exception of the
message handler lead to `safeDisconnect`, and a failed read leads to a line in the log.  The thread
of `run` tests `isOpen()`, then `messages.empty()`, and hands what is in the queue to the
controller.

The two threads share the socket and the queue only, so `Step` interleaves what each does between
two accesses to them.  `Accounted` follows every message from the completion of its read to
`handleInput`.
-/

namespace ScreenViewer

namespace ScreenViewerStreamer

/-- A call of the `IOController`. -/
inductive Input
  | handleKeyboardEvent (eventData : KeyboardEventData)
  | handleMouseEvent (eventData : MouseEventData)
  deriving DecidableEq

section HandleInput

variable [IntLayout]

/-- `handleInput`: the call it makes, if any, or the text of the exception it throws. -/
def handleInput (message : Message) : Except String (Option Input) :=
  match message.type with
  | .keyboardInput =>
    (convertTo KeyboardEventData message).map fun data => some (.handleKeyboardEvent data)
  | .mouseInput => (convertTo MouseEventData message).map fun data => some (.handleMouseEvent data)
  | _ => .ok none

end HandleInput

/-- Where the thread of `run` is. -/
inductive RunPoint
  /-- It is about to call `isOpen()`. -/
  | testOpen
  /-- `isOpen()` was false, and it is about to call `messages.empty()`. -/
  | testEmpty
  /-- It is in `handleIOEvents`, about to call `try_pop`. -/
  | tryPop
  /-- It has taken a message out of the queue, which it is about to handle. -/
  | handleInput (message : Message)
  /-- It is about to sleep. -/
  | sleep
  /-- It has left the loop because of its condition. -/
  | returned
  /-- An exception has escaped from `handleInput`, and so from `run` and from `main`. -/
  | failed (what : String)
  deriving DecidableEq

/-- What is left to do of `safeDisconnect`. -/
inductive DisconnectPoint
  /-- The `DISCONNECT` message is about to be sent. -/
  | send
  | shutdown
  | close
  deriving DecidableEq

/-- Where the socket's thread is. -/
inductive SocketPoint
  /-- It is between two handlers. -/
  | idle
  /-- It is in the message handler, about to push the message. -/
  | push (message : Message)
  /-- It is in the message handler, about to arm the next read. -/
  | scheduleAsyncPollIOEvents
  /-- It is in `safeDisconnect`. -/
  | safeDisconnect (point : DisconnectPoint)
  deriving DecidableEq

/-- The outstanding read of the socket. -/
inductive PendingRead
  | header
  | body (header : MessageHeader)
  deriving DecidableEq

end ScreenViewerStreamer

/-- A streamer that is running, with the history of its input. -/
structure ScreenViewerStreamer where
  /-- `socket->isOpen()`. -/
  isOpen : Bool
  pending : Option ScreenViewerStreamer.PendingRead
  socketPoint : ScreenViewerStreamer.SocketPoint
  runPoint : ScreenViewerStreamer.RunPoint
  /-- The queue `messages`. -/
  messages : List Message
  /-- The messages whose reads have completed, oldest first. -/
  received : List Message
  /-- The messages that `handleInput` was called with. -/
  handled : List Message
  /-- The calls that `handleInput` has made. -/
  inputs : List ScreenViewerStreamer.Input

namespace ScreenViewerStreamer

/-- `run` has armed the reader and is about to enter its loop. -/
def started : ScreenViewerStreamer :=
  { isOpen := true, pending := some .header, socketPoint := .idle, runPoint := .testOpen,
    messages := [], received := [], handled := [], inputs := [] }

/-- What happens in a step. -/
inductive Label
  /-- The thread of `run` moves. -/
  | run
  /-- A header was read and accepted. -/
  | headerRead (header : MessageHeader)
  /-- A header was read and rejected. -/
  | headerRejected
  /-- A message was read. -/
  | messageRead (message : Message)
  /-- The outstanding read failed: end of stream, reset or any other error. -/
  | readFailed (read : PendingRead)
  /-- The message was pushed. -/
  | pushed
  /-- The next read was armed. -/
  | scheduled
  /-- The message handler threw an exception. -/
  | handlerThrew
  /-- A part of `safeDisconnect` was done. -/
  | done (point : DisconnectPoint)
  /-- `safeDisconnect` caught an exception of sending or of the shutdown. -/
  | disconnectThrew (point : DisconnectPoint)
  deriving DecidableEq

variable [IntLayout]

/-- The steps of the two threads. -/
inductive Step (s : ScreenViewerStreamer) : Label → ScreenViewerStreamer → Prop
  | testOpen (hpoint : s.runPoint = .testOpen) :
      Step s .run { s with runPoint := if s.isOpen then .tryPop else .testEmpty }
  | testEmpty (hpoint : s.runPoint = .testEmpty) :
      Step s .run { s with runPoint := if s.messages = [] then .returned else .tryPop }
  | popped (message : Message) (messages : List Message)
      (hpoint : s.runPoint = .tryPop) (hmessages : s.messages = message :: messages) :
      Step s .run { s with runPoint := .handleInput message, messages := messages }
  | drained (hpoint : s.runPoint = .tryPop) (hmessages : s.messages = []) :
      Step s .run { s with runPoint := .sleep }
  | handled (message : Message) (input : Option Input)
      (hpoint : s.runPoint = .handleInput message) (hinput : handleInput message = .ok input) :
      Step s .run
        { s with
          runPoint := .tryPop
          handled := s.handled ++ [message]
          inputs := s.inputs ++ input.toList }
  | failed (message : Message) (what : String)
      (hpoint : s.runPoint = .handleInput message) (hinput : handleInput message = .error what) :
      Step s .run { s with runPoint := .failed what, handled := s.handled ++ [message] }
  | slept (hpoint : s.runPoint = .sleep) :
      Step s .run { s with runPoint := .testOpen }
  | headerRead (header : MessageHeader) (hpoint : s.socketPoint = .idle)
      (hpending : s.pending = some .header)
      (hsize : header.messageSize.toNat ≤ SocketBase.bufferSize) :
      Step s (.headerRead header) { s with pending := some (.body header) }
  | headerRejected (hpoint : s.socketPoint = .idle) (hpending : s.pending = some .header) :
      Step s .headerRejected { s with pending := none, socketPoint := .safeDisconnect .send }
  | messageRead (header : MessageHeader) (content : Bytes)
      (hpoint : s.socketPoint = .idle) (hpending : s.pending = some (.body header))
      (hcontent : content.length = header.messageSize.toNat) :
      Step s (.messageRead { type := header.type, content := content })
        { s with
          pending := none
          socketPoint := .push { type := header.type, content := content }
          received := s.received ++ [{ type := header.type, content := content }] }
  | readFailed (read : PendingRead) (hpoint : s.socketPoint = .idle)
      (hpending : s.pending = some read) :
      Step s (.readFailed read) { s with pending := none }
  | pushed (message : Message) (hpoint : s.socketPoint = .push message) :
      Step s .pushed
        { s with
          socketPoint := .scheduleAsyncPollIOEvents
          messages := s.messages ++ [message] }
  | scheduled (hpoint : s.socketPoint = .scheduleAsyncPollIOEvents) :
      Step s .scheduled { s with pending := some .header, socketPoint := .idle }
  | pushThrew (message : Message) (hpoint : s.socketPoint = .push message) :
      Step s .handlerThrew { s with socketPoint := .safeDisconnect .send }
  | scheduleThrew (hpoint : s.socketPoint = .scheduleAsyncPollIOEvents) :
      Step s .handlerThrew { s with socketPoint := .safeDisconnect .send }
  | sent (hpoint : s.socketPoint = .safeDisconnect .send) :
      Step s (.done .send) { s with socketPoint := .safeDisconnect .shutdown }
  | shutDown (hpoint : s.socketPoint = .safeDisconnect .shutdown) :
      Step s (.done .shutdown) { s with socketPoint := .safeDisconnect .close }
  | closed (hpoint : s.socketPoint = .safeDisconnect .close) :
      Step s (.done .close) { s with isOpen := false, socketPoint := .idle }
  | disconnectThrew (point : DisconnectPoint) (hclose : point ≠ .close)
      (hpoint : s.socketPoint = .safeDisconnect point) :
      Step s (.disconnectThrew point) { s with socketPoint := .idle }

/-! ## Where the messages are -/

/-- The message that the thread of `run` has taken out of the queue. -/
def RunPoint.inHand : RunPoint → List Message
  | .handleInput message => [message]
  | _ => []

/-- The message that the socket's thread is about to push. -/
def SocketPoint.inHand : SocketPoint → List Message
  | .push message => [message]
  | _ => []

/-- The thread of `run` has seen that the socket is closed. -/
def RunPoint.SawClosed (p : RunPoint) : Prop := p = .testEmpty ∨ p = .returned

/-- What holds of a streamer at any time. -/
structure Inv (s : ScreenViewerStreamer) : Prop where
  /-- The socket's thread does nothing on a closed socket. -/
  idle_of_closed : s.isOpen = false → s.socketPoint = .idle ∧ s.pending = none
  /-- A handler leaves the arming of a read to its end. -/
  pending_of_ne_idle : s.socketPoint ≠ .idle → s.pending = none
  /-- The thread of `run` is right about the socket being closed. -/
  closed_of_sawClosed : s.runPoint.SawClosed → s.isOpen = false
  /-- It leaves the loop with nothing in the queue. -/
  messages_of_returned : s.runPoint = .returned → s.messages = []

/-- Every message received was handled, or is in the hands of a thread or in the queue. -/
def Accounted (s : ScreenViewerStreamer) : Prop :=
  s.received = s.handled ++ s.runPoint.inHand ++ s.messages ++ s.socketPoint.inHand

omit [IntLayout] in
/-- A streamer that is about to enter its loop is in order. -/
lemma inv_started : Inv started := by
  constructor <;> simp [started, RunPoint.SawClosed]

omit [IntLayout] in
/-- A socket whose thread is in a handler is open. -/
lemma Inv.isOpen_of_ne_idle {s : ScreenViewerStreamer} (h : Inv s)
    (hpoint : s.socketPoint ≠ .idle) : s.isOpen = true := by
  by_contra hclosed
  exact hpoint (h.idle_of_closed (by simpa using hclosed)).1

omit [IntLayout] in
/-- A socket with a pending read is open. -/
lemma Inv.isOpen_of_pending {s : ScreenViewerStreamer} (h : Inv s) {read : PendingRead}
    (hpending : s.pending = some read) : s.isOpen = true := by
  by_contra hclosed
  simp [(h.idle_of_closed (by simpa using hclosed)).2] at hpending

omit [IntLayout] in
/-- The thread of `run` gets to a point where it has not seen the socket closed. -/
lemma Inv.runs {s : ScreenViewerStreamer} (h : Inv s) {p : RunPoint} (hp : ¬ p.SawClosed)
    {messages handled : List Message} {inputs : List Input} :
    Inv { s with runPoint := p, messages, handled, inputs } :=
  { h with
    closed_of_sawClosed := fun hsaw => absurd hsaw hp
    messages_of_returned := fun hreturned => absurd (Or.inr hreturned) hp }

omit [IntLayout] in
/-- A handler of the socket's thread goes on. -/
lemma Inv.goesOn {s : ScreenViewerStreamer} (h : Inv s) (hpoint : s.socketPoint ≠ .idle)
    (p : SocketPoint) : Inv { s with socketPoint := p } := by
  have hopen := h.isOpen_of_ne_idle hpoint
  exact
    { h with
      idle_of_closed := by simp [hopen]
      pending_of_ne_idle := fun _ => h.pending_of_ne_idle hpoint }

/-- Every step keeps the streamer in order. -/
theorem Inv.step {s t : ScreenViewerStreamer} {l : Label} (h : Inv s) (hs : Step s l t) :
    Inv t := by
  cases hs with
  | testOpen hpoint =>
    refine { h with closed_of_sawClosed := ?_, messages_of_returned := ?_ }
    · cases hopen : s.isOpen <;> simp [RunPoint.SawClosed]
    · cases hopen : s.isOpen <;> simp
  | testEmpty hpoint =>
    refine { h with closed_of_sawClosed := ?_, messages_of_returned := ?_ }
    · exact fun _ => h.closed_of_sawClosed (Or.inl hpoint)
    · intro hreturned
      by_contra hmessages
      simp [show s.messages ≠ [] from hmessages] at hreturned
  | popped message messages hpoint hmessages => exact h.runs (by simp [RunPoint.SawClosed])
  | drained hpoint hmessages => exact h.runs (by simp [RunPoint.SawClosed])
  | handled message input hpoint hinput => exact h.runs (by simp [RunPoint.SawClosed])
  | failed message what hpoint hinput => exact h.runs (by simp [RunPoint.SawClosed])
  | slept hpoint => exact h.runs (by simp [RunPoint.SawClosed])
  | headerRead header hpoint hpending hsize =>
    have hopen := h.isOpen_of_pending hpending
    exact
      { h with
        idle_of_closed := by simp [hopen]
        pending_of_ne_idle := fun hne => absurd hpoint hne }
  | headerRejected hpoint hpending =>
    have hopen := h.isOpen_of_pending hpending
    exact { h with idle_of_closed := by simp [hopen], pending_of_ne_idle := fun _ => rfl }
  | messageRead header content hpoint hpending hcontent =>
    have hopen := h.isOpen_of_pending hpending
    exact { h with idle_of_closed := by simp [hopen], pending_of_ne_idle := fun _ => rfl }
  | readFailed read hpoint hpending =>
    exact { h with idle_of_closed := fun _ => ⟨hpoint, rfl⟩, pending_of_ne_idle := fun _ => rfl }
  | pushed message hpoint =>
    have hbusy : s.socketPoint ≠ .idle := by simp [hpoint]
    have hopen := h.isOpen_of_ne_idle hbusy
    refine { h.goesOn hbusy _ with messages_of_returned := fun hreturned => ?_ }
    simp [h.closed_of_sawClosed (Or.inr hreturned)] at hopen
  | scheduled hpoint =>
    have hopen := h.isOpen_of_ne_idle (by simp [hpoint])
    exact
      { h with
        idle_of_closed := by simp [hopen]
        pending_of_ne_idle := fun hne => absurd rfl hne }
  | pushThrew message hpoint => exact h.goesOn (by simp [hpoint]) _
  | scheduleThrew hpoint => exact h.goesOn (by simp [hpoint]) _
  | sent hpoint => exact h.goesOn (by simp [hpoint]) _
  | shutDown hpoint => exact h.goesOn (by simp [hpoint]) _
  | closed hpoint =>
    have hbusy : s.socketPoint ≠ .idle := by simp [hpoint]
    exact
      { h.goesOn hbusy .idle with
        idle_of_closed := fun _ => ⟨rfl, h.pending_of_ne_idle hbusy⟩
        closed_of_sawClosed := fun _ => rfl }
  | disconnectThrew point hclose hpoint => exact h.goesOn (by simp [hpoint]) _

/-- A streamer stays in order. -/
theorem Inv.of_run {t : ScreenViewerStreamer} {ls : List Label}
    (hrun : Transition.Run Step started ls t) : Inv t :=
  hrun.invariant inv_started fun _ _ _ h hs => h.step hs

omit [IntLayout] in
/-- Nothing has been received when the loop is entered. -/
lemma accounted_started : Accounted started := rfl

/-- No message is lost in a step in which the message handler does not throw. -/
theorem Accounted.step {s t : ScreenViewerStreamer} {l : Label} (hl : l ≠ .handlerThrew)
    (h : Accounted s) (hs : Step s l t) : Accounted t := by
  unfold Accounted at h ⊢
  cases hs with
  | testOpen hpoint => cases hopen : s.isOpen <;> simpa [hpoint, RunPoint.inHand] using h
  | testEmpty hpoint =>
    by_cases hempty : s.messages = [] <;> simpa [hpoint, hempty, RunPoint.inHand] using h
  | popped message messages hpoint hmessages => simpa [hpoint, hmessages, RunPoint.inHand] using h
  | drained hpoint hmessages => simpa [hpoint, hmessages, RunPoint.inHand] using h
  | handled message input hpoint hinput => simpa [hpoint, RunPoint.inHand] using h
  | failed message what hpoint hinput => simpa [hpoint, RunPoint.inHand] using h
  | slept hpoint => simpa [hpoint, RunPoint.inHand] using h
  | headerRead header hpoint hpending hsize => exact h
  | headerRejected hpoint hpending => simpa [hpoint, SocketPoint.inHand] using h
  | messageRead header content hpoint hpending hcontent =>
    simp only [hpoint, SocketPoint.inHand, List.append_nil] at h
    simp only [h, SocketPoint.inHand]
  | readFailed read hpoint hpending => exact h
  | pushed message hpoint => simpa [hpoint, SocketPoint.inHand] using h
  | scheduled hpoint => simpa [hpoint, SocketPoint.inHand] using h
  | pushThrew message hpoint => exact absurd rfl hl
  | scheduleThrew hpoint => exact absurd rfl hl
  | sent hpoint => simpa [hpoint, SocketPoint.inHand] using h
  | shutDown hpoint => simpa [hpoint, SocketPoint.inHand] using h
  | closed hpoint => simpa [hpoint, SocketPoint.inHand] using h
  | disconnectThrew point hclose hpoint => simpa [hpoint, SocketPoint.inHand] using h

/-- No message is lost as long as the message handler does not throw. -/
theorem Accounted.of_run {t : ScreenViewerStreamer} {ls : List Label}
    (hrun : Transition.Run Step started ls t) (hls : .handlerThrew ∉ ls) : Accounted t :=
  hrun.invariant_of_labels (P := (· ≠ .handlerThrew)) (fun _ hl heq => hls (heq ▸ hl))
    accounted_started fun _ _ _ hl h hs => h.step hl hs

end ScreenViewerStreamer

end ScreenViewer
