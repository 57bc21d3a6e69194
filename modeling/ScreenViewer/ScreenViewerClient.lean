import Mathlib
import ScreenViewer.EventData
import ScreenViewer.MouseConfig

/-!
# The viewer's events

`ScreenViewerClient::handleIOEvents` turns the events of the viewer's window into input messages.
`handleIOEvent` is the body of its loop, for one event: a motion is sent only when enough time has
passed since the last one that was sent, a button and the wheel are always sent, and a motion and a
button carry their position, scaled from the window to the frame.

What the clock reads is part of the input: an event is handled together with the readings that the
handler takes, so that nothing is assumed about when events are handled or how the clock behaves.
-/

namespace ScreenViewer

/-- The X11 symbols of the keys that have one of their own. -/
class KeysMapping where
  /-- The table of `SDLKeySymToX11`. -/
  sdlToX11 : Int32 → Option UInt32

/-- `SDLKeySymToX11`: a key without an entry keeps its number. -/
def sdlKeySymToX11 [KeysMapping] (sym : Int32) : UInt32 :=
  (KeysMapping.sdlToX11 sym).getD sym.toUInt32

/-- The events of the viewer's window. -/
inductive SDLEvent
  /-- `SDL_MOUSEMOTION`. -/
  | mouseMotion (x y : Int32)
  /-- `SDL_MOUSEWHEEL`, with the distance scrolled vertically. -/
  | mouseWheel (y : Int32)
  /-- `SDL_MOUSEBUTTONDOWN` or `SDL_MOUSEBUTTONUP`. -/
  | mouseButton (down : Bool) (button : UInt8) (x y : Int32)
  /-- `SDL_KEYDOWN` or `SDL_KEYUP`. -/
  | key (down : Bool) (sym : Int32)
  /-- `SDL_WINDOWEVENT_RESIZED`. -/
  | windowResized (width height : Int32)
  /-- `SDL_QUIT`. -/
  | quit
  /-- Any other event. -/
  | other
  deriving DecidableEq

/-- The members of a `ScreenViewerClient` that handling an event reads or changes. -/
structure ScreenViewerClient where
  windowWidth : Int32 := 800
  windowHeight : Int32 := 600
  frameWidth : Int32 := windowWidth
  frameHeight : Int32 := windowHeight
  /-- The static variable `last_pos_update`, which the first motion initialises. -/
  lastPosUpdate : Option ℤ := none

namespace ScreenViewerClient

/-- What handling an event leaves: the client, the message sent, and the clock's further
readings. -/
structure Reaction where
  client : ScreenViewerClient
  sent : Option Message
  clock : Stream' ℤ

variable (self : ScreenViewerClient)

/-- A position in the window as a position in the frame.  Products wrap, as on the platform; a
division that traps there, by a size of zero or of the least `int` by `-1`, gives a number here. -/
def scaled (x y : Int32) : Int32 × Int32 :=
  (x * self.frameWidth / self.windowWidth, y * self.frameHeight / self.windowHeight)

/-- The mask of a button event. -/
def buttonMask [ShiftOverflow] (down : Bool) (button : UInt8) : Int32 :=
  if down then Mouse.setClicked (Mouse.convertToMask button) else Mouse.convertToMask button

/-- The mask of a wheel event.  The code reads `event.button.x`, which lies where `event.wheel.y`
does. -/
def wheelMask (y : Int32) : Int32 := if 0 < y then Mouse.scrollUpMask else Mouse.scrollDownMask

/-- A motion that is handled now is sent: the second reading of the clock, or the first one when
`last_pos_update` has been initialised before, is late enough. -/
def sendsMotion (mousePositionUpdateInterval : ℤ) (clock : Stream' ℤ) : Bool :=
  match self.lastPosUpdate with
  | some lastPosUpdate => mousePositionUpdateInterval < clock.head - lastPosUpdate
  | none => mousePositionUpdateInterval < clock.tail.head - clock.head

variable [IntLayout] [ShiftOverflow] [KeysMapping]

/-- The case `SDL_MOUSEMOTION`. -/
def handleMotion (mousePositionUpdateInterval : ℤ) (clock : Stream' ℤ) (x y : Int32) : Reaction :=
  let (lastPosUpdate, clock') :=
    match self.lastPosUpdate with
    | some lastPosUpdate => (lastPosUpdate, clock)
    | none => (clock.head, clock.tail)
  if self.sendsMotion mousePositionUpdateInterval clock then
    { client := { self with lastPosUpdate := some clock'.tail.head }
      sent := some (MessageTypeData.toMessage .mouseInput
        { buttonMask := Mouse.move, x := (self.scaled x y).1, y := (self.scaled x y).2 :
          MouseEventData })
      clock := clock'.tail.tail }
  else
    { client := { self with lastPosUpdate := some lastPosUpdate }
      sent := none
      clock := clock'.tail }

/-- The body of the loop of `handleIOEvents`, unless the program ends there. -/
def handleIOEvent (mousePositionUpdateInterval : ℤ) (clock : Stream' ℤ) :
    SDLEvent → Option Reaction
  | .mouseMotion x y => some (self.handleMotion mousePositionUpdateInterval clock x y)
  | .mouseWheel y =>
    some
      { client := self
        sent := some (MessageTypeData.toMessage .mouseInput
          { buttonMask := wheelMask y, x := 0, y := 0 : MouseEventData })
        clock := clock }
  | .mouseButton down button x y =>
    some
      { client := self
        sent := some (MessageTypeData.toMessage .mouseInput
          { buttonMask := buttonMask down button, x := (self.scaled x y).1,
            y := (self.scaled x y).2 : MouseEventData })
        clock := clock }
  | .key down sym =>
    some
      { client := self
        sent := some (MessageTypeData.toMessage .keyboardInput
          { down := down, key := sdlKeySymToX11 sym : KeyboardEventData })
        clock := clock }
  | .windowResized width height =>
    some
      { client := { self with windowWidth := width, windowHeight := height }
        sent := none
        clock := clock }
  | .quit => none
  | .other => some { client := self, sent := none, clock := clock }

/-- Events that are handled one after another, each with the clock as it is then: the client after
them and the messages sent, unless one of the events ends the program. -/
def handleAll (mousePositionUpdateInterval : ℤ) (self : ScreenViewerClient) :
    List (SDLEvent × Stream' ℤ) → Option (ScreenViewerClient × List Message)
  | [] => some (self, [])
  | (event, clock) :: events =>
    (self.handleIOEvent mousePositionUpdateInterval clock event).bind fun reaction =>
      (handleAll mousePositionUpdateInterval reaction.client events).map fun result =>
        (result.1, reaction.sent.toList ++ result.2)

end ScreenViewerClient

end ScreenViewer
