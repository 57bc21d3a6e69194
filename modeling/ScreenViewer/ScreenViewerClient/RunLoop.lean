import Mathlib
import ScreenViewer.VideoDecoder
import ScreenViewer.ScreenViewerClient.Polling
import ScreenViewer.SocketBase.Receive

/-!
# The viewer's loop

`runLoop` takes one message after another from the socket, shows the picture of each `SCREEN_UPDATE`
and then lets the viewer's events be handled.  `RunLoop` is a viewer in this loop: its steps outside
of `handleIOEvents` are those of the loop, and its steps inside are those of a `Polling`.

Whatever arrives and whatever the clock reads, the pictures shown are the ones that the codec makes
of the updates received, in order and each of them once, and SDL is never told to read beyond a
picture: the texture always has the size of the picture that it is updated with
(`shows_of_run`).
-/

namespace ScreenViewer

open SocketBase

namespace ScreenViewerClient

/-- Where the viewer's thread is in `run`. -/
inductive LoopPoint
  /-- It is about to receive a message. -/
  | receive
  /-- It is about to call `handleIOEvents`. -/
  | call
  /-- It is in `handleIOEvents`. -/
  | handle
  /-- `run` has returned. -/
  | returned
  /-- The program has ended, or an exception has left `run`. -/
  | ended
  deriving DecidableEq

/-- The size of a texture, and a picture that it was updated with. -/
structure Update where
  width : Int32
  height : Int32
  image : Mat3b

/-- SDL reads whole rows, all of them and nothing behind them: the pitch, which is an `int`, is the
length of a row of the texture, and the rows together are the picture. -/
structure Update.InBounds (u : Update) : Prop where
  pitch : (Int32.ofNat u.image.step1).toInt = u.width.toInt * 3
  rows : (u.image.data.length : ℤ) = u.height.toInt * (Int32.ofNat u.image.step1).toInt

/-- A viewer in its loop. -/
structure RunLoop [LibAV] where
  point : LoopPoint
  /-- The viewer's events, and the messages sent for them. -/
  polling : Polling
  inbound : Inbound
  decoder : VideoDecoder
  textureWidth : Int32
  textureHeight : Int32
  /-- The messages received, oldest first. -/
  received : List Message
  /-- The updates of the texture that were presented, oldest first. -/
  presented : List Update

/-- `handleIOEvents` makes a step itself. -/
def Polling.Label.IsOwn : Polling.Label → Prop
  | .polls | .tests _ | .dispatches | .throws => True
  | _ => False

namespace RunLoop

variable [LibAV]

/-- A client that has just been constructed, whose socket has `inbound` still to read. -/
def started (inbound : Inbound) : RunLoop :=
  { point := .receive, polling := Polling.started {}, inbound, decoder := {},
    textureWidth := ({} : ScreenViewerClient).frameWidth,
    textureHeight := ({} : ScreenViewerClient).frameHeight, received := [], presented := [] }

/-- `getNewFrame`; `creates` says whether `SDL_CreateTexture` succeeds, and otherwise an exception
is thrown.  Resizing a picture to the size that it has copies it. -/
def getNewFrame (creates : Bool) (content : Bytes) (s : RunLoop) : Option (Mat3b × RunLoop) :=
  let (decodedImage, decoder) := s.decoder.decode content
  let s := { s with decoder }
  if ¬ decodedImage.empty ∧ (decodedImage.rows ≠ s.polling.client.frameHeight ∨
      decodedImage.cols ≠ s.polling.client.frameWidth) then
    if creates then
      some (decodedImage,
        { s with
          polling :=
            { s.polling with
              client :=
                { s.polling.client with
                  frameHeight := decodedImage.rows
                  frameWidth := decodedImage.cols } }
          textureWidth := decodedImage.cols
          textureHeight := decodedImage.rows })
    else none
  else some (decodedImage, s)

/-- What the loop does with a message. -/
def handleMessage (creates : Bool) (message : Message) (s : RunLoop) : RunLoop :=
  match message.type with
  | .screenUpdate =>
    match s.getNewFrame creates message.content with
    | none => { s with point := .ended }
    | some (resizedImg, s) =>
      if resizedImg.empty then { s with point := .call }
      else
        { s with
          point := .call
          presented := s.presented ++ [⟨s.textureWidth, s.textureHeight, resizedImg⟩] }
  | _ => { s with point := .call }

/-- What happens in a step. -/
inductive Label
  /-- An event arrives. -/
  | queues (event : SDLEvent)
  /-- A message is received. -/
  | receives (creates : Bool)
  /-- Receiving a message throws. -/
  | receiveFails
  /-- `handleIOEvents` is called. -/
  | calls (start : ℤ)
  /-- `handleIOEvents` makes a step. -/
  | handles (l : Polling.Label)
  deriving DecidableEq

/-- Where the thread is when `handleIOEvents` has made a step.  An exception that sending a message
throws is caught in `run`. -/
def afterHandling (l : Polling.Label) : PollPoint → LoopPoint
  | .outside => .receive
  | .ended => if l = .throws then .returned else .ended
  | _ => .handle

variable [SizeLayout] [IntLayout] [ShiftOverflow] [KeysMapping]

/-- The steps of the events: `handleIOEvents(5ms, 50ms)`, with a clock that counts nanoseconds. -/
abbrev EventStep : Polling → Polling.Label → Polling → Prop := Polling.Step 5000000 50000000

/-- The steps of the viewer's loop. -/
inductive Step (s : RunLoop) : Label → RunLoop → Prop
  | queues (event : SDLEvent) (polling : Polling)
      (hstep : EventStep s.polling (.queues event) polling) :
      Step s (.queues event) { s with polling }
  | receives (creates : Bool) (message : Message) (inbound : Inbound)
      (hpoint : s.point = .receive) (hread : receiveToBuffer s.inbound = .ok (message, inbound)) :
      Step s (.receives creates)
        (handleMessage creates message { s with inbound, received := s.received ++ [message] })
  | receiveFails (e : ReadError) (hpoint : s.point = .receive)
      (hread : receiveToBuffer s.inbound = .error e) :
      -- Only the exceptions of the socket itself are caught.
      Step s .receiveFails { s with point := if e = .endOfStream then .returned else .ended }
  | calls (start : ℤ) (polling : Polling) (hpoint : s.point = .call)
      (hstep : EventStep s.polling (.calls start) polling) :
      Step s (.calls start) { s with polling, point := .handle }
  | handles (l : Polling.Label) (polling : Polling) (hpoint : s.point = .handle)
      (hown : l.IsOwn) (hstep : EventStep s.polling l polling) :
      Step s (.handles l) { s with polling, point := afterHandling l polling.point }

/-! ## What is sent -/

/-- A message about an event of the viewer's window. -/
inductive IsInput : Message → Prop
  | mouse (eventData : MouseEventData) :
      IsInput (MessageTypeData.toMessage .mouseInput eventData)
  | keyboard (eventData : KeyboardEventData) :
      IsInput (MessageTypeData.toMessage .keyboardInput eventData)

omit [LibAV] [SizeLayout] in
/-- What handling an event sends is a message about it. -/
lemma isInput_of_handleIOEvent {client : ScreenViewerClient} {interval : ℤ} {clock : Stream' ℤ}
    {event : SDLEvent} {reaction : Reaction}
    (h : client.handleIOEvent interval clock event = some reaction) :
    ∀ message ∈ reaction.sent.toList, IsInput message := by
  cases event with
  | mouseMotion x y =>
    obtain rfl : client.handleMotion interval clock x y = reaction := Option.some.inj h
    unfold handleMotion
    by_cases hsends : client.sendsMotion interval clock
    · simpa [hsends] using IsInput.mouse _
    · simp [hsends]
  | quit => cases h
  | mouseWheel y =>
    cases h
    simpa using IsInput.mouse _
  | mouseButton down button x y =>
    cases h
    simpa using IsInput.mouse _
  | key down sym =>
    cases h
    simpa using IsInput.keyboard _
  | windowResized width height =>
    cases h
    simp
  | other =>
    cases h
    simp

omit [LibAV] [SizeLayout] in
/-- Handling events sends messages about them only. -/
lemma isInput_of_eventStep {p q : Polling} {l : Polling.Label} (hs : EventStep p l q)
    (h : ∀ message ∈ p.sent, IsInput message) : ∀ message ∈ q.sent, IsInput message := by
  cases hs with
  | dispatched start event clock reaction hpoint hreaction =>
    intro message hmem
    rcases List.mem_append.mp hmem with hmem | hmem
    · exact h message hmem
    · exact isInput_of_handleIOEvent hreaction message hmem
  | _ => exact h

/-! ## What is shown -/

/-- The packets of the updates among messages. -/
def updates (messages : List Message) : List Bytes :=
  (messages.filter fun message => message.type = .screenUpdate).map Message.content

omit [SizeLayout] [IntLayout] [ShiftOverflow] [KeysMapping] in
/-- The pictures in the updates among messages. -/
def pictures (messages : List Message) : List Mat3b :=
  (({} : VideoDecoder).decodeAll (updates messages)).filter fun image => ¬ image.empty

/-- What a viewer whose socket had `inbound` to read has shown. -/
structure Shows (s : RunLoop) (inbound : Inbound) : Prop where
  /-- The messages received are the frames at the front of the stream. -/
  received : inbound.bytes = (frameCodec bufferSize).encodeAll s.received ++ s.inbound.bytes
  /-- The pictures of the updates among them are shown in order, each of them once. -/
  presented : s.point ≠ .ended → s.presented.map Update.image = pictures s.received
  /-- If the program ends, some of the last ones may be missing. -/
  isPrefix : s.presented.map Update.image <+: pictures s.received
  /-- SDL reads exactly the bytes of the pictures. -/
  inBounds : ∀ u ∈ s.presented, u.InBounds
  /-- Positions are sent for a frame of the size of the picture shown last. -/
  frame : s.point ≠ .ended →
    (s.polling.client.frameWidth, s.polling.client.frameHeight) =
      (s.presented.getLast?.map fun u => (u.image.cols, u.image.rows)).getD (800, 600)

/-- What holds of a viewer in its loop. -/
structure Inv (inbound : Inbound) (s : RunLoop) : Prop extends s.Shows inbound where
  decoder : s.point ≠ .ended → s.decoder = ({} : VideoDecoder).after (updates s.received)
  texture : s.point ≠ .ended → s.textureWidth = s.polling.client.frameWidth ∧
    s.textureHeight = s.polling.client.frameHeight
  input : ∀ message ∈ s.polling.sent, IsInput message
  accepts : ∀ message ∈ s.received, (frameCodec bufferSize).Accepts message

omit [SizeLayout] [IntLayout] [ShiftOverflow] [KeysMapping] in
/-- One more update is decoded by the decoder behind the earlier ones. -/
lemma pictures_concat (messages : List Message) {message : Message}
    (htype : message.type = .screenUpdate) :
    pictures (messages ++ [message]) = pictures messages ++
      [((({} : VideoDecoder).after (updates messages)).decode message.content).1].filter
        fun image => ¬ image.empty := by
  simp [pictures, updates, htype, VideoDecoder.decodeAll_append, VideoDecoder.decodeAll]

omit [SizeLayout] [IntLayout] [ShiftOverflow] [KeysMapping] in
/-- The pictures of the first messages are the first pictures. -/
lemma pictures_prefix {messages messages' : List Message} (h : messages <+: messages') :
    pictures messages <+: pictures messages' := by
  obtain ⟨rest, rfl⟩ := h
  have hupdates : updates (messages ++ rest) = updates messages ++ updates rest := by
    simp [updates]
  rw [pictures, pictures, hupdates, VideoDecoder.decodeAll_append, List.filter_append]
  exact List.prefix_append _ _

omit [LibAV] [SizeLayout] [IntLayout] [ShiftOverflow] [KeysMapping] in
/-- Other messages have no picture. -/
lemma updates_concat_of_ne (messages : List Message) {message : Message}
    (htype : message.type ≠ .screenUpdate) :
    updates (messages ++ [message]) = updates messages := by
  simp [updates, htype]

omit [SizeLayout] [IntLayout] [ShiftOverflow] [KeysMapping] in
/-- A texture of the size of a decoded picture is updated within the picture's bounds. -/
lemma inBounds_of_decode (packet : Bytes) (decoder : VideoDecoder)
    (h : (decoder.decode packet).1.empty = false) :
    Update.InBounds ⟨(decoder.decode packet).1.cols, (decoder.decode packet).1.rows,
      (decoder.decode packet).1⟩ := by
  obtain ⟨hcols, hrows, hstep⟩ := decoder.decode_size packet h
  generalize (decoder.decode packet).1 = image at *
  have hpitch : (Int32.ofNat image.step1).toInt = image.step1 :=
    Int32.toInt_ofNat_of_lt hstep
  have hcols' : (image.cols.toInt.toNat : ℤ) = image.cols.toInt := Int.toNat_of_nonneg hcols.le
  have hrows' : (image.rows.toInt.toNat : ℤ) = image.rows.toInt := Int.toNat_of_nonneg hrows.le
  constructor
  · rw [hpitch, Mat3b.step1, Nat.cast_mul, hcols']
    rfl
  · rw [hpitch, Mat3b.step1, image.length_data, Nat.cast_mul, hrows']

omit [LibAV] [SizeLayout] [ShiftOverflow] [KeysMapping] in
/-- Handling a motion leaves the frame as it is. -/
lemma frame_handleMotion (client : ScreenViewerClient) (interval : ℤ) (clock : Stream' ℤ)
    (x y : Int32) :
    (client.handleMotion interval clock x y).client.frameWidth = client.frameWidth ∧
      (client.handleMotion interval clock x y).client.frameHeight = client.frameHeight := by
  unfold handleMotion
  by_cases hsends : client.sendsMotion interval clock <;> simp [hsends]

omit [LibAV] [SizeLayout] in
/-- Handling events leaves the frame as it is. -/
lemma frame_of_eventStep {p q : Polling} {l : Polling.Label} (hs : EventStep p l q)
    (hl : ∀ width height, l ≠ .resizesFrame width height) :
    q.client.frameWidth = p.client.frameWidth ∧ q.client.frameHeight = p.client.frameHeight := by
  cases hs with
  | resizesFrame width height hpoint => exact absurd rfl (hl width height)
  | dispatched start event clock reaction hpoint hreaction =>
    cases event with
    | mouseMotion x y =>
      obtain rfl : p.client.handleMotion 50000000 clock x y = reaction := Option.some.inj hreaction
      exact frame_handleMotion p.client 50000000 clock x y
    | quit => cases hreaction
    | _ =>
      cases hreaction
      exact ⟨rfl, rfl⟩
  | _ => exact ⟨rfl, rfl⟩

/-- What `getNewFrame` changes: the decoder has decoded the packet, and the frame and the texture
have the size of the picture, unless it is empty. -/
structure NewFrame (content : Bytes) (s : RunLoop) (image : Mat3b) (t : RunLoop) : Prop where
  decoded : image = (s.decoder.decode content).1
  decoder : t.decoder = (s.decoder.decode content).2
  rest : t.received = s.received ∧ t.inbound = s.inbound ∧ t.presented = s.presented
  sent : t.polling.sent = s.polling.sent
  texture : t.textureWidth = t.polling.client.frameWidth ∧
    t.textureHeight = t.polling.client.frameHeight
  size : image.empty = false →
    t.polling.client.frameWidth = image.cols ∧ t.polling.client.frameHeight = image.rows
  same : image.empty = true → t.polling.client.frameWidth = s.polling.client.frameWidth ∧
    t.polling.client.frameHeight = s.polling.client.frameHeight

omit [SizeLayout] [IntLayout] [ShiftOverflow] [KeysMapping] in
/-- `getNewFrame` changes nothing else. -/
lemma newFrame_of_getNewFrame {creates : Bool} {content : Bytes} {s t : RunLoop} {image : Mat3b}
    (htexture : s.textureWidth = s.polling.client.frameWidth ∧
      s.textureHeight = s.polling.client.frameHeight)
    (h : s.getNewFrame creates content = some (image, t)) : NewFrame content s image t := by
  unfold getNewFrame at h
  generalize hdecode : s.decoder.decode content = r at h
  obtain ⟨decodedImage, decoder⟩ := r
  simp only at h
  split at h
  · rename_i hnew
    cases creates with
    | false => cases h
    | true =>
      cases h
      refine ⟨by rw [hdecode], by rw [hdecode], ⟨rfl, rfl, rfl⟩, rfl, ⟨rfl, rfl⟩,
        fun _ => ⟨rfl, rfl⟩, fun hempty => absurd hempty hnew.1⟩
  · rename_i hold
    cases h
    refine ⟨by rw [hdecode], by rw [hdecode], ⟨rfl, rfl, rfl⟩, rfl, htexture, fun hempty => ?_,
      fun _ => ⟨rfl, rfl⟩⟩
    push Not at hold
    obtain ⟨hrows, hcols⟩ := hold (by simp [hempty])
    exact ⟨hcols.symm, hrows.symm⟩

namespace Inv

variable {inbound : Inbound} {s t : RunLoop}

omit [ShiftOverflow] [KeysMapping] in
/-- A viewer that has just been constructed has shown nothing. -/
lemma started : Inv inbound (started inbound) := by
  constructor
  · constructor <;> simp [RunLoop.started, pictures, updates, VideoDecoder.decodeAll,
      Polling.started]
  · simp [RunLoop.started, updates, VideoDecoder.after]
  · simp [RunLoop.started, Polling.started]
  · simp [RunLoop.started, Polling.started]
  · simp [RunLoop.started]

omit [ShiftOverflow] [KeysMapping] in
/-- Only the events and the thread's place change. -/
lemma keep (h : Inv inbound s) {polling : Polling} {point : LoopPoint}
    (hpoint : point ≠ .ended → s.point ≠ .ended)
    (hframe : polling.client.frameWidth = s.polling.client.frameWidth ∧
      polling.client.frameHeight = s.polling.client.frameHeight)
    (hinput : ∀ message ∈ polling.sent, IsInput message) :
    Inv inbound { s with polling, point } := by
  obtain ⟨⟨hreceived, hpresented, hprefix, hbounds, hsize⟩, hdecoder, htexture, -, haccepts⟩ := h
  refine ⟨⟨hreceived, fun hp => hpresented (hpoint hp), hprefix, hbounds, fun hp => ?_⟩,
    fun hp => hdecoder (hpoint hp), fun hp => ?_, hinput, haccepts⟩
  · rw [hframe.1, hframe.2]
    exact hsize (hpoint hp)
  · rw [hframe.1, hframe.2]
    exact htexture (hpoint hp)

omit [ShiftOverflow] [KeysMapping] in
/-- A message is received. -/
lemma receives (h : Inv inbound s) (creates : Bool) {message : Message} {inbound' : Inbound}
    (hpoint : s.point = .receive) (hread : receiveToBuffer s.inbound = .ok (message, inbound')) :
    Inv inbound
      (handleMessage creates message
        { s with inbound := inbound', received := s.received ++ [message] }) := by
  have hrunning : s.point ≠ .ended := by simp [hpoint]
  obtain ⟨haccepts, hframe⟩ :=
    (frameCodec bufferSize).of_decode _ _ _ (receiveToBufferReader.of_ok hread)
  have haccepts' : ∀ m ∈ s.received ++ [message], (frameCodec bufferSize).Accepts m := by
    intro m hmem
    rcases List.mem_append.mp hmem with hmem | hmem
    · exact h.accepts m hmem
    · rwa [List.mem_singleton.mp hmem]
  have hreceived : inbound.bytes =
      (frameCodec bufferSize).encodeAll (s.received ++ [message]) ++ inbound'.bytes := by
    change s.inbound.bytes = _ ++ inbound'.bytes at hframe
    rw [h.received, hframe, Framing.Codec.encodeAll_append, Framing.Codec.encodeAll_cons,
      Framing.Codec.encodeAll_nil, List.append_nil, List.append_assoc]
  have hpresented := h.presented hrunning
  unfold handleMessage
  split
  · rename_i htype
    have hpictures := pictures_concat s.received htype
    rw [← h.decoder hrunning, ← hpresented] at hpictures
    split
    · refine ⟨⟨hreceived, by simp, ?_, h.inBounds, by simp⟩, by simp, by simp, h.input, haccepts'⟩
      rw [hpictures]
      exact List.prefix_append _ _
    · rename_i image t hframe
      obtain ⟨himage, hdecoder, ⟨hr, hi, hp⟩, hsent, htexture, hsize, hsame⟩ :=
        newFrame_of_getNewFrame (by exact h.texture hrunning) hframe
      dsimp only at himage hdecoder hr hi hp hsame
      rw [← himage] at hpictures
      have hdecoder' : t.decoder =
          ({} : VideoDecoder).after (updates (s.received ++ [message])) := by
        rw [hdecoder]
        simp [h.decoder hrunning, updates, htype, VideoDecoder.after]
      have hinput : ∀ message ∈ t.polling.sent, IsInput message := hsent ▸ h.input
      split
      · rename_i hempty
        have hnone : s.presented.map Update.image = pictures (s.received ++ [message]) := by
          rw [hpictures, List.filter_cons_of_neg (by simp [hempty]), List.filter_nil,
            List.append_nil]
        refine ⟨⟨?_, fun _ => ?_, ?_, ?_, fun _ => ?_⟩, fun _ => ?_, fun _ => htexture, hinput,
          hr ▸ haccepts'⟩
        · simpa only [hr, hi] using hreceived
        · simpa only [hp, hr] using hnone
        · simp only [hp, hr, hnone, List.prefix_rfl]
        · simpa only [hp] using h.inBounds
        · simpa only [hp, hsame hempty] using h.frame hrunning
        · simpa only [hr] using hdecoder'
      · rename_i hempty
        have hshown : image.empty = false := by simpa using hempty
        have hone : (s.presented ++ [Update.mk t.textureWidth t.textureHeight image]).map
            Update.image = pictures (s.received ++ [message]) := by
          rw [hpictures, List.filter_cons_of_pos (by simp [hshown]), List.filter_nil,
            List.map_append, List.map_singleton]
        refine ⟨⟨?_, fun _ => ?_, ?_, ?_, fun _ => ?_⟩, fun _ => ?_, fun _ => htexture, hinput,
          hr ▸ haccepts'⟩
        · simpa only [hr, hi] using hreceived
        · simpa only [hp, hr] using hone
        · simp only [hp, hr, hone, List.prefix_rfl]
        · simp only [hp, htexture, hsize hshown]
          intro u hu
          rcases List.mem_append.mp hu with hu | hu
          · exact h.inBounds u hu
          · obtain rfl := List.mem_singleton.mp hu
            rw [himage] at hshown ⊢
            exact inBounds_of_decode message.content s.decoder hshown
        · simp [hsize hshown]
        · simpa only [hr] using hdecoder'
  · rename_i htype
    have hupdates := updates_concat_of_ne s.received htype
    have hpictures : pictures (s.received ++ [message]) = pictures s.received := by
      rw [pictures, hupdates, pictures]
    refine ⟨⟨hreceived, fun _ => ?_, ?_, h.inBounds, fun _ => h.frame hrunning⟩, fun _ => ?_,
      fun _ => h.texture hrunning, h.input, haccepts'⟩
    · exact hpresented.trans hpictures.symm
    · exact (hpresented.trans hpictures.symm) ▸ List.prefix_rfl
    · rw [hupdates]
      exact h.decoder hrunning

/-- A step keeps the invariant. -/
theorem step (h : Inv inbound s) {l : Label} (hs : Step s l t) : Inv inbound t := by
  have hframe : ∀ {l : Polling.Label} {polling : Polling}, EventStep s.polling l polling →
      (∀ width height, l ≠ .resizesFrame width height) →
      polling.client.frameWidth = s.polling.client.frameWidth ∧
        polling.client.frameHeight = s.polling.client.frameHeight :=
    fun hstep hl => frame_of_eventStep hstep hl
  have hinput : ∀ {l : Polling.Label} {polling : Polling}, EventStep s.polling l polling →
      ∀ message ∈ polling.sent, IsInput message :=
    fun hstep => isInput_of_eventStep hstep h.input
  cases hs with
  | queues event polling hstep =>
    have hkeep : Inv inbound { s with polling, point := s.point } :=
      h.keep id (hframe hstep (by simp)) (hinput hstep)
    exact hkeep
  | receives creates message inbound hpoint hread => exact h.receives creates hpoint hread
  | receiveFails e hpoint hread => exact h.keep (fun _ => by simp [hpoint]) ⟨rfl, rfl⟩ h.input
  | calls start polling hpoint hstep =>
    exact h.keep (fun _ => by simp [hpoint]) (hframe hstep (by simp)) (hinput hstep)
  | handles l polling hpoint hown hstep =>
    refine h.keep (fun _ => by simp [hpoint]) (hframe hstep fun width height hl => ?_)
      (hinput hstep)
    rw [hl] at hown
    exact hown

end Inv

/-- What holds in every run of a viewer. -/
lemma inv_of_run {inbound : Inbound} {ls : List Label} {t : RunLoop}
    (hrun : Transition.Run Step (started inbound) ls t) : Inv inbound t :=
  hrun.invariant Inv.started fun _ _ _ h hs => h.step hs

/-- In every run of the viewer, the pictures shown are those of the updates received, in order, and
SDL never reads beyond one. -/
theorem shows_of_run {inbound : Inbound} {ls : List Label} {t : RunLoop}
    (hrun : Transition.Run Step (started inbound) ls t) : t.Shows inbound :=
  (inv_of_run hrun).toShows

end RunLoop

/-- A codec whose packets are single pixels. -/
abbrev pixels : LibAV where
  Context := Option Bytes
  Frame := { pixel : Bytes // pixel.length = 3 }
  opened := none
  sendPacket _ packet := some packet
  receiveFrame
    | some packet => (if h : packet.length = 3 then some ⟨packet, h⟩ else none, none)
    | none => (none, none)
  width _ := 1
  height _ := 1
  swsScale frame := frame
  width_pos _ := by decide
  height_pos _ := by decide
  checkSize _ := by decide
  length_swsScale frame := frame.2

namespace RunLoop

/-- An update is shown, and a key that is pressed then is handled before the next message. -/
theorem shows_of_run_update :
    letI := littleEndian
    letI := littleEndianInt
    letI := pixels
    letI : ShiftOverflow := ⟨fun _ => 0⟩
    letI : KeysMapping := ⟨fun _ => none⟩
    let inbound : Inbound := ⟨[sendChunk ⟨.screenUpdate, [1, 2, 3]⟩], []⟩
    ∃ t : RunLoop, t.Shows inbound ∧ t.point = .receive ∧ t.polling.dispatched = [.key true 97] ∧
      t.presented.map (fun u => u.image.data) = [[1, 2, 3]] := by
  let := littleEndian
  let := littleEndianInt
  let := pixels
  let : ShiftOverflow := ⟨fun _ => 0⟩
  let : KeysMapping := ⟨fun _ => none⟩
  intro inbound
  have hdecode : (frameCodec bufferSize).decode (receiveToBufferReader.bytes inbound) =
      some (⟨.screenUpdate, [1, 2, 3]⟩, []) := by
    have h := (frameCodec bufferSize).decode_encode ⟨.screenUpdate, [1, 2, 3]⟩
      ⟨by decide, by decide⟩ []
    rwa [List.append_nil] at h
  obtain ⟨inbound', hread, -⟩ := receiveToBufferReader.read_of_decode hdecode
  have hread' : receiveToBuffer inbound = .ok (⟨.screenUpdate, [1, 2, 3]⟩, inbound') := hread
  have hrun : ∃ ls t, Transition.Run Step (started inbound) ls t ∧ t.point = .receive ∧
      t.polling.dispatched = [.key true 97] ∧
      t.presented.map (fun u => u.image.data) = [[1, 2, 3]] :=
    ⟨_, _, .cons (.receives true _ _ rfl hread') <| .cons (.queues (.key true 97) _ (.queues _)) <|
      .cons (.calls 0 _ rfl (.calls 0 rfl)) <|
      .cons (.handles .polls _ rfl trivial (.polled 0 _ _ rfl rfl)) <|
      .cons (.handles (.tests 0) _ rfl trivial (.inTime 0 0 _ rfl (by decide))) <|
      .cons (.handles .dispatches _ rfl trivial (.dispatched 0 _ (Stream'.const 0) _ rfl rfl)) <|
      .single (.handles .polls _ rfl trivial (.drained 0 rfl rfl)), rfl, rfl, rfl⟩
  obtain ⟨ls, t, hrun, hpoint, hdispatched, hpresented⟩ := hrun
  exact ⟨t, shows_of_run hrun, hpoint, hdispatched, hpresented⟩

end RunLoop

end ScreenViewerClient

end ScreenViewer
