import Mathlib

/-!
# Mouse buttons as masks

One `int` of a `MouseEventData` says what happened to the mouse: nothing (`move`), or a button or
the wheel, with a bit for a press.  The client puts the mask together from the number that SDL gives
a button and the streamer takes the number of an X11 button out of it.
-/

namespace ScreenViewer

/-- What `1 << count` gives on the platform when `count` is not below the width of `int`, or is
negative.  The language leaves this undefined. -/
class ShiftOverflow where
  /-- The value that a button number ends up with. -/
  mask : UInt8 → Int32

namespace Mouse

/-- The mask of a motion. -/
def move : Int32 := 0

/-- The X11 button. -/
def leftButton : Int32 := 1

/-- Its bit. -/
def leftButtonMask : Int32 := 1

/-- The X11 button. -/
def midButton : Int32 := 2

/-- Its bit. -/
def midButtonMask : Int32 := 1 <<< (midButton - 1)

/-- The X11 button. -/
def rightButton : Int32 := 3

/-- Its bit. -/
def rightButtonMask : Int32 := 1 <<< (rightButton - 1)

/-- The X11 button. -/
def scrollUp : Int32 := 4

/-- Its bit. -/
def scrollUpMask : Int32 := 1 <<< (scrollUp - 1)

/-- The X11 button. -/
def scrollDown : Int32 := 5

/-- Its bit. -/
def scrollDownMask : Int32 := 1 <<< (scrollDown - 1)

/-- The bit of a press, counted from one. -/
def isClickedBit : Int32 := 6

/-- The bit of a press. -/
def isClickedMask : Int32 := 1 <<< (isClickedBit - 1)

/-- The X11 button. -/
def forwardButton : Int32 := 9

/-- Its bit, which is not the one that its number would give: the mask has to fit a byte. -/
def forwardButtonMask : Int32 := (1 : Int32) <<< 6

/-- The X11 button. -/
def backButton : Int32 := 8

/-- Its bit. -/
def backButtonMask : Int32 := 1 <<< (backButton - 1)

/-- The X11 button that a mask is about: the first one, in this order, whose bit is set. -/
def extractButtonID (buttonMask : Int32) : Int32 :=
  if buttonMask &&& leftButtonMask ≠ 0 then leftButton
  else if buttonMask &&& midButtonMask ≠ 0 then midButton
  else if buttonMask &&& rightButtonMask ≠ 0 then rightButton
  else if buttonMask &&& scrollUpMask ≠ 0 then scrollUp
  else if buttonMask &&& scrollDownMask ≠ 0 then scrollDown
  else if buttonMask &&& forwardButtonMask ≠ 0 then forwardButton
  else if buttonMask &&& backButtonMask ≠ 0 then backButton
  else 0

/-- The mask of a button that SDL reports. -/
def convertToMask [ShiftOverflow] (sdlButtonId : UInt8) : Int32 :=
  if sdlButtonId = 4 then backButtonMask
  else if sdlButtonId = 5 then forwardButtonMask
  -- `1 << (sdl_button_id - 1)`, which is defined for the numbers from `1` to `32`
  else if 1 ≤ sdlButtonId ∧ sdlButtonId ≤ 32 then 1 <<< (Int32.ofNat sdlButtonId.toNat - 1)
  else ShiftOverflow.mask sdlButtonId

/-- The mask is about a press. -/
def isClicked (mask : Int32) : Bool := mask &&& isClickedMask ≠ 0

/-- The mask is about the wheel. -/
def isScrollMoved (mask : Int32) : Bool :=
  mask &&& scrollUpMask ≠ 0 || mask &&& scrollDownMask ≠ 0

/-- `setClicked`: the mask after the call. -/
def setClicked (mask : Int32) : Int32 := mask ||| isClickedMask

/-- A mask without any bit is about no button. -/
lemma extractButtonID_move : extractButtonID move = 0 := by decide +kernel

end Mouse

end ScreenViewer
