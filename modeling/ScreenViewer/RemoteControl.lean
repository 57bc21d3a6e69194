import Mathlib
import ScreenViewer.ScreenViewerClient
import ScreenViewer.ScreenViewerStreamer
import ScreenViewer.X11IOController

/-!
# The viewer's mouse on the streamer's display

The messages that the viewer sends for the events of its window are handled in order by the
streamer, whose controller turns each of them into requests to the X server.  `injected` is that
composition; `pointer` and `pressed` are what the requests leave behind on the display, and `held`
is what the events leave behind at the viewer.
-/

namespace ScreenViewer

namespace RemoteControl

/-! ## The display and the viewer's hand -/

/-- The position to which a request moves the pointer. -/
def position : FakeEvent → Option (Int32 × Int32)
  | .motion x y => some (x, y)
  | _ => none

/-- Where the pointer was last moved to. -/
def pointer (requests : List FakeEvent) : Option (Int32 × Int32) :=
  (requests.filterMap position).getLast?

/-- The buttons that are down after one more request. -/
def press (down : Set UInt32) : FakeEvent → Set UInt32
  | .button button true => insert button down
  | .button button false => down \ {button}
  | _ => down

/-- The buttons that were pressed and not released since. -/
def pressed (requests : List FakeEvent) : Set UInt32 := requests.foldl press ∅

/-- The buttons that the viewer holds after one more event. -/
def hold (down : Set UInt8) : SDLEvent → Set UInt8
  | .mouseButton true button _ _ => insert button down
  | .mouseButton false button _ _ => down \ {button}
  | _ => down

/-- The buttons that the viewer holds. -/
def held (events : List SDLEvent) : Set UInt8 := events.foldl hold ∅

lemma pressed_append (requests requests' : List FakeEvent) :
    pressed (requests ++ requests') = requests'.foldl press (pressed requests) :=
  List.foldl_append

lemma held_concat (events : List SDLEvent) (event : SDLEvent) :
    held (events ++ [event]) = hold (held events) event := by
  rw [held, List.foldl_append]
  rfl

/-! ## From events to requests -/

section Injected

variable [IntLayout]

/-- What handling a message requests of the X server. -/
def inject (controller : X11IOController) (message : Message) : List FakeEvent :=
  match ScreenViewerStreamer.handleInput message with
  | .ok (some (.handleKeyboardEvent eventData)) => controller.handleKeyboardEvent eventData
  | .ok (some (.handleMouseEvent eventData)) => controller.handleMouseEvent eventData
  | _ => []

/-- What handling messages one after another requests. -/
def injected (controller : X11IOController) (messages : List Message) : List FakeEvent :=
  messages.flatMap (inject controller)

/-- Mouse input reaches the controller as it was sent. -/
@[simp] lemma inject_mouseInput (controller : X11IOController) (eventData : MouseEventData) :
    inject controller (MessageTypeData.toMessage .mouseInput eventData) =
      controller.handleMouseEvent eventData := by
  have hconvert : convertTo MouseEventData
      { type := .mouseInput, content := MessageTypeData.serialize eventData } = .ok eventData :=
    convertTo_toMessage .mouseInput eventData
  simp [inject, ScreenViewerStreamer.handleInput, MessageTypeData.toMessage, hconvert, Except.map]

/-- Keyboard input reaches the controller as it was sent. -/
@[simp] lemma inject_keyboardInput (controller : X11IOController) (eventData : KeyboardEventData) :
    inject controller (MessageTypeData.toMessage .keyboardInput eventData) =
      controller.handleKeyboardEvent eventData := by
  have hconvert : convertTo KeyboardEventData
      { type := .keyboardInput, content := MessageTypeData.serialize eventData } = .ok eventData :=
    convertTo_toMessage .keyboardInput eventData
  simp [inject, ScreenViewerStreamer.handleInput, MessageTypeData.toMessage, hconvert, Except.map]

lemma injected_append (controller : X11IOController) (messages messages' : List Message) :
    injected controller (messages ++ messages') =
      injected controller messages ++ injected controller messages' :=
  List.flatMap_append

end Injected

/-! ## Requests of the controller -/

/-- A motion moves the pointer. -/
lemma handleMouseEvent_move (controller : X11IOController) (x y : Int32) :
    controller.handleMouseEvent { buttonMask := Mouse.move, x := x, y := y } =
      [.motion (controller.onDisplay x y).1 (controller.onDisplay x y).2] := by
  simp [X11IOController.handleMouseEvent]

/-- Any other mouse input leaves the pointer where it is. -/
lemma position_handleMouseEvent (controller : X11IOController) {eventData : MouseEventData}
    (h : eventData.buttonMask ≠ Mouse.move) :
    ∀ request ∈ controller.handleMouseEvent eventData, position request = none := by
  unfold X11IOController.handleMouseEvent
  rw [if_neg h]
  by_cases hscroll : Mouse.isScrollMoved eventData.buttonMask
  · simp [hscroll, position]
  · by_cases hbutton : Mouse.extractButtonID eventData.buttonMask = 0 <;>
      simp [hscroll, hbutton, position]

/-- Keys leave the pointer where it is. -/
lemma position_handleKeyboardEvent (controller : X11IOController) (eventData : KeyboardEventData) :
    ∀ request ∈ controller.handleKeyboardEvent eventData, position request = none := by
  unfold X11IOController.handleKeyboardEvent
  by_cases hkey : controller.keysymToKeycode eventData.key = 0 <;> simp [hkey, position]

/-- A mask that is about no button is about the wheel neither. -/
lemma isScrollMoved_of_extractButtonID_eq_zero {mask : Int32}
    (h : Mouse.extractButtonID mask = 0) : Mouse.isScrollMoved mask = false := by
  unfold Mouse.extractButtonID at h
  split_ifs at h with hleft hmid hright hup hdown hforward hback
  -- Only the last branch gives zero, and the masks of the wheel are excluded before it.
  · exact absurd h (by decide)
  · exact absurd h (by decide)
  · exact absurd h (by decide)
  · exact absurd h (by decide)
  · exact absurd h (by decide)
  · exact absurd h (by decide)
  · exact absurd h (by decide)
  · rw [not_not] at hup hdown
    simp [Mouse.isScrollMoved, hup, hdown]

/-- Mouse input requests a press or release exactly if its mask is about a button. -/
lemma exists_button_mem_handleMouseEvent (controller : X11IOController)
    (eventData : MouseEventData) :
    (∃ button isPress, .button button isPress ∈ controller.handleMouseEvent eventData) ↔
      Mouse.extractButtonID eventData.buttonMask ≠ 0 := by
  unfold X11IOController.handleMouseEvent
  by_cases hmove : eventData.buttonMask = Mouse.move
  · simp [hmove, Mouse.extractButtonID_move]
  · by_cases hbutton : Mouse.extractButtonID eventData.buttonMask = 0
    · simp [hmove, hbutton, isScrollMoved_of_extractButtonID_eq_zero hbutton]
    · by_cases hscroll : Mouse.isScrollMoved eventData.buttonMask <;> simp [hmove, hbutton, hscroll]

/-! ## Handling events one after another -/

section HandleAll

variable [IntLayout] [ShiftOverflow] [KeysMapping]

/-- Handling events and then further ones. -/
lemma handleAll_append (interval : ℤ) (client : ScreenViewerClient)
    (events events' : List (SDLEvent × Stream' ℤ)) :
    client.handleAll interval (events ++ events') =
      (client.handleAll interval events).bind fun first =>
        (first.1.handleAll interval events').map fun second =>
          (second.1, first.2 ++ second.2) := by
  induction events generalizing client with
  | nil => simp [ScreenViewerClient.handleAll]
  | cons event events ih =>
    obtain ⟨event, clock⟩ := event
    cases hreaction : client.handleIOEvent interval clock event with
    | none => simp [ScreenViewerClient.handleAll, hreaction]
    | some reaction =>
      simp only [List.cons_append, ScreenViewerClient.handleAll, hreaction, Option.bind_some, ih]
      cases reaction.client.handleAll interval events with
      | none => rfl
      | some first => simp [Function.comp_def]

end HandleAll

end RemoteControl

end ScreenViewer
