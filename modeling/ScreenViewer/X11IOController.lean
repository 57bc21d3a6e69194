import Mathlib
import ScreenViewer.EventData
import ScreenViewer.MouseConfig

/-!
# Input on the streamer's display

`X11IOController` hands input events to the X server as fake key, button and motion events.  The
position of a mouse event is used only if the event is a motion; buttons act where the pointer is.
-/

namespace ScreenViewer

/-- The requests of the XTest extension. -/
inductive FakeEvent
  /-- `XTestFakeKeyEvent`. -/
  | key (keycode : UInt8) (isPress : Bool)
  /-- `XTestFakeButtonEvent`. -/
  | button (button : UInt32) (isPress : Bool)
  /-- `XTestFakeMotionEvent`. -/
  | motion (x y : Int32)
  deriving DecidableEq

/-- The origin of the first screen, as Xinerama reports it. -/
structure XineramaScreenInfo where
  xOrg : Int16
  yOrg : Int16

/-- The members of an `X11IOController` that handling an event reads. -/
structure X11IOController where
  screens : XineramaScreenInfo
  /-- `XKeysymToKeycode` on the controller's display; `0` for a symbol without a key. -/
  keysymToKeycode : UInt32 → UInt8

namespace X11IOController

variable (self : X11IOController)

/-- `handleKeyboardEvent`. -/
def handleKeyboardEvent (eventData : KeyboardEventData) : List FakeEvent :=
  let keycode := self.keysymToKeycode eventData.key
  if keycode = 0 then [] else [.key keycode eventData.down]

/-- The position on the display of a position on the first screen. -/
def onDisplay (x y : Int32) : Int32 × Int32 :=
  (x + self.screens.xOrg.toInt32, y + self.screens.yOrg.toInt32)

/-- `handleMouseEvent`. -/
def handleMouseEvent (eventData : MouseEventData) : List FakeEvent :=
  if eventData.buttonMask = Mouse.move then
    let (x, y) := self.onDisplay eventData.x eventData.y
    [.motion x y]
  else
    let button := Mouse.extractButtonID eventData.buttonMask
    if Mouse.isScrollMoved eventData.buttonMask then
      [.button button.toUInt32 true, .button button.toUInt32 false]
    else if button ≠ 0 then
      [.button button.toUInt32 (Mouse.isClicked eventData.buttonMask)]
    else
      []

end X11IOController

end ScreenViewer
