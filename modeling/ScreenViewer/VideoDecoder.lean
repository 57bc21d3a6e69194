import Mathlib
import ScreenViewer.Message

/-!
# The video decoder

`decode` hands a packet to the codec and asks it for a frame, which it converts to a picture.  What
libavcodec makes of the packets and libswscale of the frames is a parameter, `LibAV`, with the two
things that are known of it: the frames of a decoder have a size that libavutil admits, and the
scaler fills every row.
-/

namespace ScreenViewer

/-- The libraries behind the decoder. -/
class LibAV where
  /-- The states of an `AVCodecContext`. -/
  Context : Type
  /-- An `AVFrame` that was received. -/
  Frame : Type
  /-- What `createDecodeContext` returns. -/
  opened : Context
  /-- `avcodec_send_packet`, whose result is ignored. -/
  sendPacket : Context → Bytes → Context
  /-- `avcodec_receive_frame`: the frame, if it returns zero. -/
  receiveFrame : Context → Option Frame × Context
  width : Frame → Int32
  height : Frame → Int32
  /-- `sws_scale` to a picture of the frame's own size. -/
  swsScale : Frame → Bytes
  width_pos : ∀ frame, 0 < (width frame).toInt
  height_pos : ∀ frame, 0 < (height frame).toInt
  /-- `av_image_check_size`. -/
  checkSize : ∀ frame, ((width frame).toInt + 128) * ((height frame).toInt + 128) < 2 ^ 31 / 8
  length_swsScale : ∀ frame,
    (swsScale frame).length = (height frame).toInt.toNat * ((width frame).toInt.toNat * 3)

/-- A picture of type `CV_8UC3`: rows of three bytes for each column. -/
structure Mat3b where
  rows : Int32 := 0
  cols : Int32 := 0
  data : Bytes := []
  length_data : data.length = rows.toInt.toNat * (cols.toInt.toNat * 3) := by rfl

namespace Mat3b

/-- `empty`. -/
def empty (image : Mat3b) : Bool := image.data.isEmpty

/-- `step1`: the number of bytes from one row to the next. -/
def step1 (image : Mat3b) : ℕ := image.cols.toInt.toNat * 3

end Mat3b

/-- A decoder. -/
structure VideoDecoder [LibAV] where
  context : LibAV.Context := LibAV.opened

namespace VideoDecoder

variable [LibAV]

/-- `avframeToCvmat`. -/
def avframeToCvmat (frame : LibAV.Frame) : Mat3b where
  rows := LibAV.height frame
  cols := LibAV.width frame
  data := LibAV.swsScale frame
  length_data := LibAV.length_swsScale frame

/-- `decode`: the picture is empty if the codec has no frame. -/
def decode (packet : Bytes) (self : VideoDecoder) : Mat3b × VideoDecoder :=
  match LibAV.receiveFrame (LibAV.sendPacket self.context packet) with
  | (some frame, context) => (avframeToCvmat frame, { context })
  | (none, context) => ({}, { context })

/-- The pictures decoded from packets one after another. -/
def decodeAll (self : VideoDecoder) : List Bytes → List Mat3b
  | [] => []
  | packet :: packets => (self.decode packet).1 :: (self.decode packet).2.decodeAll packets

/-- The decoder behind packets. -/
def after (self : VideoDecoder) (packets : List Bytes) : VideoDecoder :=
  packets.foldl (fun decoder packet => (decoder.decode packet).2) self

/-- Decoding packets and then further ones. -/
lemma decodeAll_append (self : VideoDecoder) (packets packets' : List Bytes) :
    self.decodeAll (packets ++ packets') =
      self.decodeAll packets ++ (self.after packets).decodeAll packets' := by
  induction packets generalizing self with
  | nil => rfl
  | cons packet packets ih => simp [decodeAll, after, ih]

/-- A decoded picture is empty, or it has a size that libavutil admits. -/
lemma decode_size (packet : Bytes) (self : VideoDecoder)
    (h : (self.decode packet).1.empty = false) :
    0 < (self.decode packet).1.cols.toInt ∧ 0 < (self.decode packet).1.rows.toInt ∧
      (self.decode packet).1.step1 < 2 ^ 31 := by
  unfold decode at h ⊢
  split at h
  · rename_i frame context hframe
    have hwidth := LibAV.width_pos frame
    have hheight := LibAV.height_pos frame
    have hsize := LibAV.checkSize frame
    have hlt : (LibAV.width frame).toInt + 128 <
        ((LibAV.width frame).toInt + 128) * ((LibAV.height frame).toInt + 128) := by
      nlinarith
    refine ⟨hwidth, hheight, ?_⟩
    simp only [Mat3b.step1, avframeToCvmat]
    omega
  · cases h

end VideoDecoder

end ScreenViewer
