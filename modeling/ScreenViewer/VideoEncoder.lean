import Mathlib

/-!
# The video encoder

`encode` hands a frame to the codec and asks it for a packet.  What libavcodec makes of the frames
is a parameter, `LibAVEncoder`, with what is known of it: the codec is set to zero latency, so it
has no frames to reorder and delivers them in the order in which it accepted them.  What it answers
is not up to the program, so the answers are arguments of `encode`.
-/

namespace ScreenViewer

namespace VideoEncoder

/-- What `avcodec_send_frame` returns. -/
inductive SendFrame
  /-- Zero: the frame is accepted. -/
  | accepted
  /-- `AVERROR(EAGAIN)`: a packet has to be received first. -/
  | again
  /-- Any other error. -/
  | failed
  deriving DecidableEq

/-- A frame: the number of its screenshot and its time stamp. -/
structure Frame where
  screenshot : ℕ
  pts : ℕ
  deriving DecidableEq

end VideoEncoder

open VideoEncoder

/-- The library behind the encoder. -/
class LibAVEncoder where
  /-- The states of an `AVCodecContext`. -/
  Context : Type
  /-- What a packet is filled with. -/
  Data : Type
  /-- What `createEncodeContext` returns. -/
  opened : Context
  /-- `avcodec_send_frame`, when it returns `ret`. -/
  sendFrame : (ret : SendFrame) → Frame → Context → Context
  /-- `avcodec_receive_packet`: what it fills the packet with, if it returns zero; `ready` says
  whether the codec has a packet. -/
  receivePacket : (ready : Bool) → Context → Option Data × Context
  /-- The frame that was encoded. -/
  frame : Data → Frame
  /-- The frames that were accepted and have not been received, oldest first. -/
  frames : Context → List Frame
  frames_opened : frames opened = []
  frames_sendFrame : ∀ ret frame context,
    frames (sendFrame ret frame context) =
      frames context ++ if ret = .accepted then [frame] else []
  /-- The order of the output: what is received is the oldest frame. -/
  frames_receivePacket : ∀ ready context,
    (receivePacket ready context).1.toList.map frame ++ frames (receivePacket ready context).2 =
      frames context

/-- A codec that keeps the frames as they are. -/
@[reducible] def LibAVEncoder.fifo : LibAVEncoder where
  Context := List Frame
  Data := Frame
  opened := []
  sendFrame ret frame context := context ++ if ret = .accepted then [frame] else []
  receivePacket
    | true, frame :: context => (some frame, context)
    | _, context => (none, context)
  frame := id
  frames := id
  frames_opened := rfl
  frames_sendFrame _ _ _ := rfl
  frames_receivePacket ready context := by
    cases ready <;> cases context <;> rfl

/-- An encoder and its codec. -/
structure VideoEncoder [LibAVEncoder] where
  /-- `context->framerate.num`. -/
  framerate : ℕ
  frameId : ℕ := 1
  context : LibAVEncoder.Context := LibAVEncoder.opened

namespace VideoEncoder

variable [LibAVEncoder]

/-- An allocated packet, with what the codec has filled it with. -/
structure Packet where
  data : Option LibAVEncoder.Data

/-- `avcodec_receive_packet` on a packet that has just been allocated. -/
def receivePacket (ready : Bool) (e : VideoEncoder) : Packet × VideoEncoder :=
  let (data, context) := LibAVEncoder.receivePacket ready e.context
  ({ data }, { e with context })

/-- `encode`: the packet is null if the frame is refused for good. -/
def encode (ret : SendFrame) (ready : Bool) (screenshot : ℕ) (e : VideoEncoder) :
    Option Packet × VideoEncoder :=
  let frame : Frame := { screenshot := screenshot, pts := e.frameId }
  let e := { e with context := LibAVEncoder.sendFrame ret frame e.context }
  match ret with
  | .accepted =>
    let e := { e with frameId := e.frameId % e.framerate + 1 }
    let (packet, e) := e.receivePacket ready
    (some packet, e)
  | .again =>
    let (packet, e) := e.receivePacket ready
    (some packet, e)
  | .failed => (none, e)

/-- The screenshots of the frames in the codec. -/
def screenshots (e : VideoEncoder) : List ℕ :=
  (LibAVEncoder.frames e.context).map Frame.screenshot

/-- The screenshot of the frame in a packet, if there is one. -/
def Packet.screenshots (packet : Packet) : List ℕ :=
  packet.data.toList.map fun data => (LibAVEncoder.frame data).screenshot

/-- Receiving a packet moves the codec's oldest frame to it, or leaves the codec as it is. -/
lemma receivePacket_screenshots (ready : Bool) (e : VideoEncoder) :
    (e.receivePacket ready).1.screenshots ++ (e.receivePacket ready).2.screenshots =
      e.screenshots := by
  have h := congrArg (List.map Frame.screenshot)
    (LibAVEncoder.frames_receivePacket ready e.context)
  rw [List.map_append, List.map_map] at h
  exact h

/-- The frames in the packet and in the codec are those that were in the codec, in order, and last
the one handed over, if it is accepted. -/
lemma encode_screenshots (ret : SendFrame) (ready : Bool) (screenshot : ℕ) (e : VideoEncoder) :
    (e.encode ret ready screenshot).1.toList.flatMap Packet.screenshots ++
        (e.encode ret ready screenshot).2.screenshots =
      e.screenshots ++ if ret = .accepted then [screenshot] else [] := by
  have hsend : (LibAVEncoder.frames (LibAVEncoder.sendFrame ret
      { screenshot := screenshot, pts := e.frameId } e.context)).map Frame.screenshot =
      e.screenshots ++ if ret = .accepted then [screenshot] else [] := by
    rw [LibAVEncoder.frames_sendFrame, List.map_append]
    cases ret <;> rfl
  cases ret with
  | accepted =>
    have h := receivePacket_screenshots ready
      { e with
        frameId := e.frameId % e.framerate + 1
        context := LibAVEncoder.sendFrame .accepted
          { screenshot := screenshot, pts := e.frameId } e.context }
    rw [← hsend]
    simpa [encode, screenshots] using h
  | again =>
    have h := receivePacket_screenshots ready
      { e with
        context := LibAVEncoder.sendFrame .again
          { screenshot := screenshot, pts := e.frameId } e.context }
    rw [← hsend]
    simpa [encode, screenshots] using h
  | failed => simpa [encode, screenshots] using hsend

end VideoEncoder

end ScreenViewer
