import Mathlib
import ScreenViewer.RemoteControl

/-!
# Where clicks land

A button event carries the position at which the viewer clicked, and the controller does not look at
it: the button acts where the last motion that was sent has left the pointer.  The client sends
motions at a limited rate, so clicks land where the viewer clicked exactly if the last motion sent
before each of them was to the same position of the frame (`clicksLand_iff`).
-/

namespace ScreenViewer

namespace RemoteControl

variable [IntLayout] [ShiftOverflow] [KeysMapping]

/-- At the moment a button event's press or release is injected, the pointer was last moved to the
position that the button event's own message carries. -/
def ClicksLand (controller : X11IOController) (interval : ℤ) (client : ScreenViewerClient)
    (events : List (SDLEvent × Stream' ℤ)) : Prop :=
  ∀ before down button x y clock after,
    events = before ++ (.mouseButton down button x y, clock) :: after →
  ∀ client' sent, client.handleAll interval before = some (client', sent) →
  ∀ reaction message,
    client'.handleIOEvent interval clock (.mouseButton down button x y) = some reaction →
    reaction.sent = some message →
  ∀ eventData, convertTo MouseEventData message = .ok eventData →
    (∃ xButton isPress, .button xButton isPress ∈ inject controller message) →
    pointer (injected controller sent) = some (controller.onDisplay eventData.x eventData.y)

/-- The position that an event sends as a motion, if it does. -/
def motionSent (interval : ℤ) (client : ScreenViewerClient) (clock : Stream' ℤ) :
    SDLEvent → Option (Int32 × Int32)
  | .mouseMotion x y => if client.sendsMotion interval clock then some (client.scaled x y) else none
  | .mouseButton down button x y =>
    -- This needs a button whose shift is undefined and gives zero.
    if ScreenViewerClient.buttonMask down button = Mouse.move then some (client.scaled x y)
    else none
  | _ => none

/-- The positions that events send as motions, oldest first. -/
def motionsSent (interval : ℤ) (client : ScreenViewerClient) :
    List (SDLEvent × Stream' ℤ) → List (Int32 × Int32)
  | [] => []
  | (event, clock) :: events =>
    (motionSent interval client clock event).toList ++
      match client.handleIOEvent interval clock event with
      | some reaction => motionsSent interval reaction.client events
      | none => []

/-- Before each event of a button that the streamer knows, the last motion sent was to the same
position of the frame. -/
def MotionPrecedesClicks (interval : ℤ) (client : ScreenViewerClient)
    (events : List (SDLEvent × Stream' ℤ)) : Prop :=
  ∀ before down button x y clock after,
    events = before ++ (.mouseButton down button x y, clock) :: after →
  ∀ client' sent, client.handleAll interval before = some (client', sent) →
    Mouse.extractButtonID (ScreenViewerClient.buttonMask down button) ≠ 0 →
    (motionsSent interval client before).getLast? = some (client'.scaled x y)

omit [IntLayout] [ShiftOverflow] [KeysMapping] in
/-- The position on the display determines the position on the screen. -/
lemma onDisplay_injective (controller : X11IOController) :
    Function.Injective fun p : Int32 × Int32 => controller.onDisplay p.1 p.2 := by
  rintro ⟨x, y⟩ ⟨x', y'⟩ h
  simp only [X11IOController.onDisplay, Prod.mk.injEq, Int32.add_left_inj] at h
  exact Prod.ext h.1 h.2

omit [IntLayout] [ShiftOverflow] [KeysMapping] in
/-- A mask with a bit for a button or the wheel is not the mask of a motion. -/
lemma ne_move_of_extractButtonID {mask : Int32} (h : Mouse.extractButtonID mask ≠ 0) :
    mask ≠ Mouse.move := by
  rintro rfl
  exact h Mouse.extractButtonID_move

omit [IntLayout] [ShiftOverflow] [KeysMapping] in
/-- The wheel has a bit of its own. -/
lemma extractButtonID_wheelMask (y : Int32) :
    Mouse.extractButtonID (ScreenViewerClient.wheelMask y) ≠ 0 := by
  unfold ScreenViewerClient.wheelMask
  split <;> decide +kernel

/-- One event moves the pointer exactly to the position that it sends as a motion. -/
lemma positions_reaction (controller : X11IOController) {interval : ℤ}
    {client : ScreenViewerClient} {event : SDLEvent} {clock : Stream' ℤ}
    {reaction : ScreenViewerClient.Reaction}
    (h : client.handleIOEvent interval clock event = some reaction) :
    (injected controller reaction.sent.toList).filterMap position =
      (motionSent interval client clock event).toList.map
        fun p => controller.onDisplay p.1 p.2 := by
  cases event with
  | mouseMotion x y =>
    cases h
    by_cases hsends : client.sendsMotion interval clock
    · simp [ScreenViewerClient.handleMotion, motionSent, hsends, injected, handleMouseEvent_move,
        position]
    · simp [ScreenViewerClient.handleMotion, motionSent, hsends, injected]
  | mouseWheel y =>
    cases h
    have hmask := ne_move_of_extractButtonID (extractButtonID_wheelMask y)
    have hposition := @position_handleMouseEvent controller
      ⟨ScreenViewerClient.wheelMask y, 0, 0⟩ hmask
    simpa [motionSent, injected] using hposition
  | mouseButton down button x y =>
    cases h
    by_cases hmask : ScreenViewerClient.buttonMask down button = Mouse.move
    · simp [motionSent, injected, hmask, handleMouseEvent_move, position]
    · have hposition := @position_handleMouseEvent controller
        ⟨ScreenViewerClient.buttonMask down button, (client.scaled x y).1, (client.scaled x y).2⟩
        hmask
      simpa [motionSent, injected, hmask] using hposition
  | key down sym =>
    cases h
    simpa [motionSent, injected] using position_handleKeyboardEvent controller _
  | windowResized width height =>
    cases h
    simp [motionSent, injected]
  | quit => cases h
  | other =>
    cases h
    simp [motionSent, injected]

/-- The pointer follows the motions that are sent. -/
theorem positions_injected (controller : X11IOController) {interval : ℤ}
    {client client' : ScreenViewerClient} {events : List (SDLEvent × Stream' ℤ)}
    {sent : List Message} (h : client.handleAll interval events = some (client', sent)) :
    (injected controller sent).filterMap position =
      (motionsSent interval client events).map fun p => controller.onDisplay p.1 p.2 := by
  induction events generalizing client sent with
  | nil =>
    cases h
    rfl
  | cons event events ih =>
    obtain ⟨event, clock⟩ := event
    rw [ScreenViewerClient.handleAll, Option.bind_eq_some_iff] at h
    obtain ⟨reaction, hreaction, h⟩ := h
    obtain ⟨⟨_, sent'⟩, hrest, h⟩ := Option.map_eq_some_iff.mp h
    cases h
    rw [injected_append, List.filterMap_append, ih hrest, positions_reaction controller hreaction,
      motionsSent, hreaction, List.map_append]

/-- What a button event sends. -/
lemma sent_mouseButton {interval : ℤ} {client : ScreenViewerClient} {down : Bool} {button : UInt8}
    {x y : Int32} {clock : Stream' ℤ} :
    client.handleIOEvent interval clock (.mouseButton down button x y) =
      some
        { client := client
          sent := some (MessageTypeData.toMessage .mouseInput
            { buttonMask := ScreenViewerClient.buttonMask down button, x := (client.scaled x y).1,
              y := (client.scaled x y).2 : MouseEventData })
          clock := clock } :=
  rfl

/-- The pointer is at a position of the frame exactly if the last motion sent was to it. -/
lemma pointer_injected_eq_iff (controller : X11IOController) {interval : ℤ}
    {client client' : ScreenViewerClient} {events : List (SDLEvent × Stream' ℤ)}
    {sent : List Message} (h : client.handleAll interval events = some (client', sent))
    (p : Int32 × Int32) :
    pointer (injected controller sent) = some (controller.onDisplay p.1 p.2) ↔
      (motionsSent interval client events).getLast? = some p := by
  rw [pointer, positions_injected controller h, List.getLast?_map, Option.map_eq_some_iff]
  constructor
  · rintro ⟨p', hp', heq⟩
    rw [hp', onDisplay_injective controller heq]
  · exact fun hp => ⟨p, hp, rfl⟩

/-- Clicks that land follow a motion. -/
lemma motionPrecedesClicks_of_clicksLand {controller : X11IOController} {interval : ℤ}
    {client : ScreenViewerClient} {events : List (SDLEvent × Stream' ℤ)}
    (h : ClicksLand controller interval client events) :
    MotionPrecedesClicks interval client events := by
  intro before down button x y clock after hevents client' sent hbefore hbutton
  refine (pointer_injected_eq_iff controller hbefore _).mp ?_
  refine h before down button x y clock after hevents client' sent hbefore _ _ sent_mouseButton rfl
    _ (convertTo_toMessage _ _) ?_
  rw [inject_mouseInput, exists_button_mem_handleMouseEvent]
  exact hbutton

/-- Clicks that follow a motion land. -/
lemma clicksLand_of_motionPrecedesClicks (controller : X11IOController) {interval : ℤ}
    {client : ScreenViewerClient} {events : List (SDLEvent × Stream' ℤ)}
    (h : MotionPrecedesClicks interval client events) :
    ClicksLand controller interval client events := by
  intro before down button x y clock after hevents client' sent hbefore reaction message hreaction
    hsent eventData hconvert hinjected
  rw [sent_mouseButton, Option.some.injEq] at hreaction
  subst hreaction
  obtain rfl := Option.some.inj hsent
  rw [convertTo_toMessage, Except.ok.injEq] at hconvert
  subst hconvert
  rw [inject_mouseInput, exists_button_mem_handleMouseEvent] at hinjected
  exact (pointer_injected_eq_iff controller hbefore _).mpr
    (h before down button x y clock after hevents client' sent hbefore hinjected)

/-- Clicks land where the viewer clicked exactly if the last motion sent before each of them was to
the same position of the frame. -/
theorem clicksLand_iff (controller : X11IOController) (interval : ℤ) (client : ScreenViewerClient)
    (events : List (SDLEvent × Stream' ℤ)) :
    ClicksLand controller interval client events ↔ MotionPrecedesClicks interval client events :=
  ⟨motionPrecedesClicks_of_clicksLand, clicksLand_of_motionPrecedesClicks controller⟩

omit [IntLayout] [ShiftOverflow] [KeysMapping] in
/-- A click right after a motion that came too early for being sent lands at the motion before. -/
theorem not_clicksLand_rateLimited :
    letI := littleEndianInt
    letI : ShiftOverflow := ⟨fun _ => 0⟩
    letI : KeysMapping := ⟨fun _ => none⟩
    ¬ ClicksLand { screens := ⟨0, 0⟩, keysymToKeycode := fun _ => 0 } 50 { lastPosUpdate := some 0 }
      [(.mouseMotion 0 0, Stream'.const 100), (.mouseMotion 10 10, Stream'.const 100),
        (.mouseButton true 1 10 10, Stream'.const 100)] := by
  let := littleEndianInt
  let : ShiftOverflow := ⟨fun _ => 0⟩
  let : KeysMapping := ⟨fun _ => none⟩
  intro h
  have hlast := motionPrecedesClicks_of_clicksLand h
    [(.mouseMotion 0 0, Stream'.const 100), (.mouseMotion 10 10, Stream'.const 100)] true 1 10 10
    (Stream'.const 100) [] rfl _ _ rfl (by decide +kernel)
  exact absurd hlast (by decide +kernel)

end RemoteControl

end ScreenViewer
