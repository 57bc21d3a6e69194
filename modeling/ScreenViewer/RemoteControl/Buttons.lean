import Mathlib
import ScreenViewer.RemoteControl

/-!
# Which buttons are mirrored

The buttons that are down on the streamer's display should be those that the viewer holds, each
under the number that X11 has for it.  The five buttons that SDL numbers are mirrored, and so is any
set of buttons that avoids the clashes in the mask: the bit of a sixth button is the bit of a press,
and a seventh and an eighth button share their bits with the fifth and the fourth (`mirrored_iff`).
-/

namespace ScreenViewer

namespace RemoteControl

/-- The events of a viewer who uses these buttons and the wheel only. -/
def UsesOnly (ids : Set UInt8) : SDLEvent → Prop
  | .mouseButton _ button _ _ => button ∈ ids
  | .mouseWheel _ => True
  | _ => False

/-- A button is pressed only when it is up and released only when it is down. -/
def Alternating (events : List SDLEvent) : Prop :=
  ∀ before down button x y after, events = before ++ .mouseButton down button x y :: after →
    (down = true ↔ button ∉ held before)

section Mirrored

variable [IntLayout] [KeysMapping]

/-- For every prefix of the events, the buttons down on the display are the ones that the viewer
holds, and a wheel event presses and releases button 4 or 5 and changes no other. -/
structure Mirrors [ShiftOverflow] (xButton : UInt8 → UInt32) (controller : X11IOController)
    (interval : ℤ) (client : ScreenViewerClient) (events : List (SDLEvent × Stream' ℤ)) : Prop where
  pressed_eq : ∀ before, before <+: events → ∃ client' sent,
    client.handleAll interval before = some (client', sent) ∧
      pressed (injected controller sent) = xButton '' held (before.map Prod.fst)
  wheel : ∀ before y clock, before ++ [(.mouseWheel y, clock)] <+: events → ∃ client' sent message,
    client.handleAll interval before = some (client', sent) ∧
      client.handleAll interval (before ++ [(.mouseWheel y, clock)]) =
        some (client', sent ++ [message]) ∧
      (∃ button, (button = 4 ∨ button = 5) ∧
        inject controller message = [.button button true, .button button false]) ∧
      pressed (injected controller (sent ++ [message])) = pressed (injected controller sent)

/-- The buttons in `ids` can be told apart on the display and are mirrored there. -/
def Mirrored (ids : Set UInt8) : Prop :=
  ∃ xButton : UInt8 → UInt32, Set.InjOn xButton ids ∧
    ∀ [ShiftOverflow] (controller : X11IOController) (interval : ℤ) (client : ScreenViewerClient)
      (events : List (SDLEvent × Stream' ℤ)),
      (∀ event ∈ events, UsesOnly ids event.1) → Alternating (events.map Prod.fst) →
      Mirrors xButton controller interval client events

end Mirrored

/-- The X11 button for a button that SDL reports, or `0`. -/
def xButton (id : UInt8) : UInt32 :=
  if id = 1 then 1
  else if id = 2 then 2
  else if id = 3 then 3
  else if id = 4 ∨ id = 8 then 8
  else if id = 5 ∨ id = 7 then 9
  else 0

/-- The buttons that have a bit in the mask. -/
def knownIds : Finset UInt8 := {1, 2, 3, 4, 5, 7, 8}

/-! ## Single events -/

/-- The mask of a button whose shift is defined. -/
lemma convertToMask_eq [ShiftOverflow] {id : UInt8} (h : 1 ≤ id ∧ id ≤ 32) :
    Mouse.convertToMask id = @Mouse.convertToMask ⟨fun _ => 0⟩ id := by
  simp [Mouse.convertToMask, h]

/-- Mouse input about a button is one press or release of it. -/
lemma handleMouseEvent_of_extractButtonID (controller : X11IOController) {mask : Int32}
    (hbutton : Mouse.extractButtonID mask ≠ 0) (hscroll : Mouse.isScrollMoved mask = false)
    (x y : Int32) :
    controller.handleMouseEvent { buttonMask := mask, x := x, y := y } =
      [.button (Mouse.extractButtonID mask).toUInt32 (Mouse.isClicked mask)] := by
  have hmove : mask ≠ Mouse.move := fun h => hbutton (by rw [h, Mouse.extractButtonID_move])
  simp [X11IOController.handleMouseEvent, hmove, hbutton, hscroll]

/-- What the controller reads in the masks of the buttons that are known. -/
lemma buttonMask_values : ∀ id ∈ knownIds, ∀ down,
    Mouse.extractButtonID (@ScreenViewerClient.buttonMask ⟨fun _ => 0⟩ down id) ≠ 0 ∧
      Mouse.isScrollMoved (@ScreenViewerClient.buttonMask ⟨fun _ => 0⟩ down id) = false ∧
      (Mouse.extractButtonID (@ScreenViewerClient.buttonMask ⟨fun _ => 0⟩ down id)).toUInt32 =
        xButton id ∧
      Mouse.isClicked (@ScreenViewerClient.buttonMask ⟨fun _ => 0⟩ down id) = down := by
  decide +kernel

/-- A button that is known is pressed and released under its X11 number. -/
lemma handleMouseEvent_of_mem [ShiftOverflow] (controller : X11IOController) {id : UInt8}
    (h : id ∈ knownIds) (down : Bool) (x y : Int32) :
    controller.handleMouseEvent
        { buttonMask := ScreenViewerClient.buttonMask down id, x := x, y := y } =
      [.button (xButton id) down] := by
  have hdefined : ∀ id ∈ knownIds, 1 ≤ id ∧ id ≤ 32 := by decide +kernel
  have hmask : ScreenViewerClient.buttonMask down id =
      @ScreenViewerClient.buttonMask ⟨fun _ => 0⟩ down id := by
    simp only [ScreenViewerClient.buttonMask, convertToMask_eq (hdefined id h)]
  obtain ⟨hbutton, hscroll, hid, hclicked⟩ := buttonMask_values id h down
  rw [hmask, handleMouseEvent_of_extractButtonID controller hbutton hscroll, hid, hclicked]

/-- What the streamer makes of an event. -/
def requests : SDLEvent → List FakeEvent
  | .mouseButton down button _ _ => [.button (xButton button) down]
  | .mouseWheel y =>
    [.button (if 0 < y then 4 else 5) true, .button (if 0 < y then 4 else 5) false]
  | _ => []

/-- The wheel is a press and a release. -/
lemma handleMouseEvent_wheel (controller : X11IOController) (y : Int32) :
    controller.handleMouseEvent
        { buttonMask := ScreenViewerClient.wheelMask y, x := 0, y := 0 } =
      requests (.mouseWheel y) := by
  by_cases hy : 0 < y <;> simp only [ScreenViewerClient.wheelMask, requests, hy, if_true, if_false]
  · have hmove : Mouse.scrollUpMask ≠ Mouse.move := by decide +kernel
    have hscroll : Mouse.isScrollMoved Mouse.scrollUpMask := by decide +kernel
    have hbutton : (Mouse.extractButtonID Mouse.scrollUpMask).toUInt32 = 4 := by decide +kernel
    simp [X11IOController.handleMouseEvent, hmove, hscroll, hbutton]
  · have hmove : Mouse.scrollDownMask ≠ Mouse.move := by decide +kernel
    have hscroll : Mouse.isScrollMoved Mouse.scrollDownMask := by decide +kernel
    have hbutton : (Mouse.extractButtonID Mouse.scrollDownMask).toUInt32 = 5 := by decide +kernel
    simp [X11IOController.handleMouseEvent, hmove, hscroll, hbutton]

/-! ## Runs of events -/

section Known

variable [IntLayout] [KeysMapping] [ShiftOverflow]

/-- An event of a known button or the wheel sends one message. -/
lemma exists_handleIOEvent (controller : X11IOController) (interval : ℤ)
    (client : ScreenViewerClient) (event : SDLEvent) (clock : Stream' ℤ)
    (h : UsesOnly knownIds event) :
    ∃ message, client.handleIOEvent interval clock event =
        some { client := client, sent := some message, clock := clock } ∧
      inject controller message = requests event := by
  cases event with
  | mouseButton down button x y =>
    exact ⟨_, rfl, (inject_mouseInput controller _).trans
      (handleMouseEvent_of_mem controller h down _ _)⟩
  | mouseWheel y =>
    exact ⟨_, rfl, (inject_mouseInput controller _).trans (handleMouseEvent_wheel controller y)⟩
  | _ => exact h.elim

/-- Events of known buttons and the wheel are all handled, one message each. -/
lemma exists_handleAll (controller : X11IOController) (interval : ℤ) (client : ScreenViewerClient)
    {events : List (SDLEvent × Stream' ℤ)} (h : ∀ event ∈ events, UsesOnly knownIds event.1) :
    ∃ sent, client.handleAll interval events = some (client, sent) ∧
      injected controller sent = (events.map Prod.fst).flatMap requests := by
  induction events with
  | nil => exact ⟨[], rfl, rfl⟩
  | cons event events ih =>
    obtain ⟨event, clock⟩ := event
    obtain ⟨message, hreaction, hinject⟩ :=
      exists_handleIOEvent controller interval client event clock (h (event, clock) (by simp))
    obtain ⟨sent, hsent, hinjected⟩ := ih fun e he => h e (by simp [he])
    refine ⟨message :: sent, by simp [ScreenViewerClient.handleAll, hreaction, hsent], ?_⟩
    rw [injected, List.flatMap_cons, hinject, List.map_cons, List.flatMap_cons, ← hinjected,
      injected]

end Known

/-- The X11 buttons of known buttons are not those of the wheel. -/
lemma xButton_ne_wheel (id : UInt8) : xButton id ≠ 4 ∧ xButton id ≠ 5 := by
  unfold xButton
  split_ifs <;> decide

/-- Two pairs of known buttons share an X11 button. -/
lemma eq_or_clash_of_xButton_eq : ∀ id ∈ knownIds, ∀ id' ∈ knownIds, xButton id = xButton id' →
    id = id' ∨ (id = 4 ∧ id' = 8) ∨ (id = 8 ∧ id' = 4) ∨ (id = 5 ∧ id' = 7) ∨
      (id = 7 ∧ id' = 5) := by
  decide +kernel

/-- As long as the buttons in use have different X11 buttons, the ones that are down are the ones
that are held. -/
lemma pressed_requests {ids : Set UInt8} (hinj : Set.InjOn xButton ids) {events : List SDLEvent}
    (h : ∀ event ∈ events, UsesOnly ids event) :
    pressed (events.flatMap requests) = xButton '' held events ∧ held events ⊆ ids := by
  induction events using List.reverseRecOn with
  | nil => simp [pressed, held]
  | append_singleton events event ih =>
    obtain ⟨hpressed, hheld⟩ := ih fun e he => h e (by simp [he])
    have hevent := h event (by simp)
    rw [List.flatMap_append, List.flatMap_singleton, pressed_append, hpressed, held_concat]
    cases event with
    | mouseButton down button x y =>
      cases down with
      | true =>
        refine ⟨?_, Set.insert_subset hevent hheld⟩
        simp only [requests, List.foldl_cons, List.foldl_nil, press, hold]
        rw [Set.image_insert_eq]
      | false =>
        refine ⟨?_, Set.sdiff_subset.trans hheld⟩
        simp only [requests, List.foldl_cons, List.foldl_nil, press, hold]
        ext b
        constructor
        · rintro ⟨⟨id, hid, rfl⟩, hne⟩
          exact ⟨id, ⟨hid, fun heq => hne (congrArg xButton heq)⟩, rfl⟩
        · rintro ⟨id, ⟨hid, hne⟩, rfl⟩
          exact ⟨⟨id, hid, rfl⟩, fun heq => hne (hinj (hheld hid) hevent heq)⟩
    | mouseWheel y =>
      refine ⟨?_, hheld⟩
      have hnotMem : (if 0 < y then (4 : UInt32) else 5) ∉ xButton '' held events := by
        rintro ⟨id, -, heq⟩
        split at heq
        · exact (xButton_ne_wheel id).1 heq
        · exact (xButton_ne_wheel id).2 heq
      simp only [requests, List.foldl_cons, List.foldl_nil, press, hold]
      rw [Set.insert_sdiff_of_mem _ (Set.mem_singleton _), Set.sdiff_singleton_eq_self hnotMem]
    | _ => exact hevent.elim

/-! ## The buttons that are mirrored -/

/-- Known buttons without a clash are mirrored. -/
lemma mirrors_of_injOn [IntLayout] [KeysMapping] [ShiftOverflow] {ids : Set UInt8}
    (hids : ids ⊆ knownIds) (hinj : Set.InjOn xButton ids) (controller : X11IOController)
    (interval : ℤ) (client : ScreenViewerClient) {events : List (SDLEvent × Stream' ℤ)}
    (h : ∀ event ∈ events, UsesOnly ids event.1) :
    Mirrors xButton controller interval client events := by
  have hknown : ∀ {event : SDLEvent}, UsesOnly ids event → UsesOnly knownIds event := by
    intro event huses
    cases event with
    | mouseButton down button x y => exact hids huses
    | mouseWheel y => trivial
    | _ => exact huses.elim
  have hpressed : ∀ before, before <+: events → ∃ sent,
      client.handleAll interval before = some (client, sent) ∧
        pressed (injected controller sent) = xButton '' held (before.map Prod.fst) := by
    intro before hbefore
    have huses : ∀ event ∈ before, UsesOnly ids event.1 := fun e he => h e (hbefore.subset he)
    obtain ⟨sent, hsent, hinjected⟩ :=
      exists_handleAll controller interval client fun e he => hknown (huses e he)
    refine ⟨sent, hsent, ?_⟩
    rw [hinjected]
    exact (pressed_requests hinj (by simpa using fun e t he => huses (e, t) he)).1
  refine ⟨fun before hbefore => ⟨client, hpressed before hbefore⟩, ?_⟩
  intro before y clock hbefore
  obtain ⟨sent, hsent, hheld⟩ := hpressed before ((List.prefix_append _ _).trans hbefore)
  obtain ⟨sent', hsent', hheld'⟩ := hpressed _ hbefore
  obtain ⟨message, hreaction, hinject⟩ :=
    exists_handleIOEvent controller interval client (.mouseWheel y) clock trivial
  have hsnoc : client.handleAll interval (before ++ [(.mouseWheel y, clock)]) =
      some (client, sent ++ [message]) := by
    simp [handleAll_append, hsent, ScreenViewerClient.handleAll, hreaction]
  rw [hsnoc, Option.some.injEq, Prod.mk.injEq] at hsent'
  refine ⟨client, sent, message, hsent, hsnoc, ⟨if 0 < y then 4 else 5, ?_, hinject⟩, ?_⟩
  · by_cases hy : 0 < y <;> simp [hy]
  · rw [hsent'.2, hheld', hheld, List.map_append, List.map_singleton, held_concat]
    rfl

/-- A button without a bit presses nothing. -/
lemma pressed_handleMouseEvent_of_notMem (controller : X11IOController) {id : UInt8}
    (h : id ∉ knownIds) (x y : Int32) :
    pressed (controller.handleMouseEvent
      { buttonMask := @ScreenViewerClient.buttonMask ⟨fun _ => 0⟩ true id
        x := x
        y := y }) = ∅ := by
  have hall : ∀ n : Fin 256, UInt8.ofNat n ∉ knownIds →
      Mouse.extractButtonID (@ScreenViewerClient.buttonMask ⟨fun _ => 0⟩ true (UInt8.ofNat n)) =
        0 := by
    decide +kernel
  have hbutton := hall ⟨id.toNat, id.toNat_lt⟩
  simp only [UInt8.ofNat_toNat] at hbutton
  unfold X11IOController.handleMouseEvent
  simp only [hbutton h, isScrollMoved_of_extractButtonID_eq_zero (hbutton h)]
  split <;> simp [pressed, press]

/-- A button that is mirrored is known, and is mirrored under its X11 number. -/
lemma mem_knownIds_of_mirrors [IntLayout] [KeysMapping] {ids : Set UInt8} {x : UInt8 → UInt32}
    {id : UInt8} (hid : id ∈ ids)
    (h : ∀ [ShiftOverflow] (controller : X11IOController) (interval : ℤ)
      (client : ScreenViewerClient) (events : List (SDLEvent × Stream' ℤ)),
      (∀ event ∈ events, UsesOnly ids event.1) → Alternating (events.map Prod.fst) →
      Mirrors x controller interval client events) :
    id ∈ knownIds ∧ x id = xButton id := by
  -- A single press tells which X11 button the assignment must name.
  let : ShiftOverflow := ⟨fun _ => 0⟩
  let controller : X11IOController := { screens := ⟨0, 0⟩, keysymToKeycode := fun _ => 0 }
  have halternating : Alternating [.mouseButton true id 0 0] := by
    intro before down button x y after heq
    cases before with
    | nil =>
      cases heq
      simp [held]
    | cons event before => simp at heq
  obtain ⟨client', sent, hsent, hpressed⟩ :=
    (h controller 0 {} [(.mouseButton true id 0 0, Stream'.const 0)]
      (by simpa [UsesOnly] using hid) halternating).pressed_eq _ List.prefix_rfl
  obtain rfl : [_] = sent := congrArg Prod.snd (Option.some.inj hsent)
  simp only [injected, List.flatMap_singleton, inject_mouseInput, List.map_singleton, held,
    List.foldl_cons, List.foldl_nil, hold, insert_empty_eq, Set.image_singleton] at hpressed
  by_cases hknown : id ∈ knownIds
  · rw [handleMouseEvent_of_mem controller hknown] at hpressed
    simp only [pressed, List.foldl_cons, List.foldl_nil, press, insert_empty_eq] at hpressed
    exact ⟨hknown, (Set.singleton_injective hpressed).symm⟩
  · rw [pressed_handleMouseEvent_of_notMem controller hknown] at hpressed
    exact absurd hpressed (Set.singleton_ne_empty _).symm

/-- A set of buttons is mirrored exactly if each of them has a bit in the mask and no two of them
share one: the fourth and the eighth do, and the fifth and the seventh. -/
theorem mirrored_iff [IntLayout] [KeysMapping] (ids : Set UInt8) :
    Mirrored ids ↔ ids ⊆ ({1, 2, 3, 4, 5, 7, 8} : Set UInt8) ∧ ¬ (4 ∈ ids ∧ 8 ∈ ids) ∧
      ¬ (5 ∈ ids ∧ 7 ∈ ids) := by
  have hknown : (knownIds : Set UInt8) = {1, 2, 3, 4, 5, 7, 8} := by simp [knownIds]
  constructor
  · rintro ⟨x, hinj, hmirrors⟩
    refine ⟨fun id hid => hknown ▸ (mem_knownIds_of_mirrors hid hmirrors).1, ?_, ?_⟩
    · rintro ⟨hfour, height⟩
      have heq : x 4 = x 8 := by
        rw [(mem_knownIds_of_mirrors hfour hmirrors).2, (mem_knownIds_of_mirrors height hmirrors).2]
        rfl
      exact absurd (hinj hfour height heq) (by decide)
    · rintro ⟨hfive, hseven⟩
      have heq : x 5 = x 7 := by
        rw [(mem_knownIds_of_mirrors hfive hmirrors).2, (mem_knownIds_of_mirrors hseven hmirrors).2]
        rfl
      exact absurd (hinj hfive hseven heq) (by decide)
  · rintro ⟨hids, hfour, hfive⟩
    have hinj : Set.InjOn xButton ids := by
      intro id hid id' hid' heq
      rw [← hknown] at hids
      rcases eq_or_clash_of_xButton_eq id (hids hid) id' (hids hid') heq with
        rfl | ⟨rfl, rfl⟩ | ⟨rfl, rfl⟩ | ⟨rfl, rfl⟩ | ⟨rfl, rfl⟩
      · rfl
      · exact (hfour ⟨hid, hid'⟩).elim
      · exact (hfour ⟨hid', hid⟩).elim
      · exact (hfive ⟨hid, hid'⟩).elim
      · exact (hfive ⟨hid', hid⟩).elim
    refine ⟨xButton, hinj, fun controller interval client events huses _ => ?_⟩
    exact mirrors_of_injOn (hknown ▸ hids) hinj controller interval client huses

/-- Not all buttons can be mirrored: a sixth one presses nothing. -/
theorem not_mirrored_all :
    letI := littleEndianInt
    letI : KeysMapping := ⟨fun _ => none⟩
    ¬ Mirrored {id | id ≠ 0} := by
  let := littleEndianInt
  let : KeysMapping := ⟨fun _ => none⟩
  rintro ⟨x, -, hmirrors⟩
  have hsix : (6 : UInt8) ∈ {id : UInt8 | id ≠ 0} := by decide
  exact absurd (mem_knownIds_of_mirrors hsix hmirrors).1 (by decide)

end RemoteControl

end ScreenViewer
