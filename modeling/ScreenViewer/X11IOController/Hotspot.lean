import Mathlib
import ScreenViewer.X11IOController
import ScreenViewer.X11IOController.CaptureCursor

/-!
# The cursor and the pointer

A motion to a point of the captured screen moves the pointer to the point's position on the display,
which is the screen's origin further.  The X server reports the cursor at this position, and
`captureCursor` takes it for a position in the captured image.  So the cursor is drawn with its
hotspot on the point only if the screen's origin is that of the display
(`drawsHotspotOn_iff`).
-/

namespace ScreenViewer

namespace X11IOController

/-- The screen that is captured; positions on the display are of type `short`. -/
structure Screen extends XineramaScreenInfo where
  width : Int16
  height : Int16
  right_lt : xOrg.toInt + width.toInt ≤ 2 ^ 15
  bottom_lt : yOrg.toInt + height.toInt ≤ 2 ^ 15

/-- A point of the screen. -/
def Screen.Contains (screen : Screen) (x y : Int32) : Prop :=
  0 ≤ x.toInt ∧ x.toInt < screen.width.toInt ∧ 0 ≤ y.toInt ∧ y.toInt < screen.height.toInt

instance (screen : Screen) (x y : Int32) : Decidable (screen.Contains x y) :=
  inferInstanceAs (Decidable (0 ≤ x.toInt ∧ x.toInt < screen.width.toInt ∧ 0 ≤ y.toInt ∧
    y.toInt < screen.height.toInt))

/-- `captureScreenshot`: `image` is what `XGetImage` returns for the screen, and the text of the
exception is that of an `X11IOControllerException`. -/
def captureScreenshot (image : Option Mat) (cursorImage : Option XFixesCursorImage) :
    Except String (Option Canvas) :=
  match image with
  | none => .error "Failed to capture screen"
  | some img => .ok (captureCursor cursorImage img)

variable (self : X11IOController) (screen : Screen) (x y : Int32)

/-- After a motion to a point of the screen, any cursor is drawn with its hotspot on this point. -/
def DrawsHotspotOn : Prop :=
  ∀ px py, self.handleMouseEvent { buttonMask := Mouse.move, x := x, y := y } = [.motion px py] →
    ∀ (image : Mat) (cursorImage : XFixesCursorImage),
      image.rows = screen.height.toInt → image.cols = screen.width.toInt →
      cursorImage.width.toNat * cursorImage.height.toNat < 2 ^ 31 →
      cursorImage.x.toInt = px.toInt → cursorImage.y.toInt = py.toInt →
        ∃ canvas, captureScreenshot (some image) (some cursorImage) = .ok (some canvas) ∧
          Composited cursorImage (y.toInt, x.toInt) image canvas.screenshot canvas.written

variable {self screen x y}

/-- A point of the screen keeps its distance to the origin. -/
lemma toInt_add_toInt32 {a : Int32} {org length : Int16} (hnonneg : 0 ≤ a.toInt)
    (hlt : a.toInt < length.toInt) (hend : org.toInt + length.toInt ≤ 2 ^ 15) :
    (a + org.toInt32).toInt = a.toInt + org.toInt := by
  have horg := org.le_toInt
  rw [Int32.toInt_add, Int16.toInt_toInt32, Int.bmod_eq_of_le] <;> omega

/-- A cursor of one opaque pixel. -/
def dot (x y : Int16) : XFixesCursorImage where
  x := x
  y := y
  width := 1
  height := 1
  xhot := 0
  yhot := 0
  pixels := [0xFFFFFFFF]
  length_pixels := rfl

lemma dot_size (x y : Int16) : (dot x y).width.toNat * (dot x y).height.toNat < 2 ^ 31 := by
  simp [dot]

/-- A black image. -/
def black (rows cols : ℕ) : Mat where
  rows := rows
  cols := cols
  data := List.replicate (rows * cols) ⟨0, 0, 0, 255⟩
  length_data := List.length_replicate

/-- The dot lies on its hotspot only. -/
lemma pixelOn_dot (x y : Int16) (hotspot i : ℤ × ℤ) :
    pixelOn (dot x y) hotspot i = if i = hotspot then some 0xFFFFFFFF else none := by
  have hone : (dot x y).height.toNat = 1 ∧ (dot x y).width.toNat = 1 := ⟨rfl, rfl⟩
  have hzero : (dot x y).yhot.toNat = 0 ∧ (dot x y).xhot.toNat = 0 := ⟨rfl, rfl⟩
  simp only [pixelOn, hone, hzero]
  by_cases h : i = hotspot
  · subst h
    simp [dot]
  · rw [if_neg h, if_neg]
    rintro ⟨hrow, hrow', hcol, hcol'⟩
    apply h
    apply Prod.ext <;> omega

/-- A motion goes to the point's position on the display. -/
lemma handleMouseEvent_motion (hscreens : self.screens = screen.toXineramaScreenInfo) :
    self.handleMouseEvent { buttonMask := Mouse.move, x := x, y := y } =
      [.motion (x + screen.xOrg.toInt32) (y + screen.yOrg.toInt32)] := by
  simp [handleMouseEvent, onDisplay, hscreens]

/-- Only on a screen at the origin of the display is every cursor drawn where the pointer is. -/
lemma DrawsHotspotOn.origin (h : DrawsHotspotOn self screen x y)
    (hscreens : self.screens = screen.toXineramaScreenInfo) (hpoint : screen.Contains x y) :
    screen.xOrg = 0 ∧ screen.yOrg = 0 := by
  obtain ⟨hx, hx', hy, hy'⟩ := hpoint
  have hright := screen.right_lt
  have hbottom := screen.bottom_lt
  have hxorg := screen.xOrg.le_toInt
  have hyorg := screen.yOrg.le_toInt
  let px := Int16.ofInt (x.toInt + screen.xOrg.toInt)
  let py := Int16.ofInt (y.toInt + screen.yOrg.toInt)
  have hpx : px.toInt = x.toInt + screen.xOrg.toInt :=
    Int16.toInt_ofInt_of_le (by omega) (by omega)
  have hpy : py.toInt = y.toInt + screen.yOrg.toInt :=
    Int16.toInt_ofInt_of_le (by omega) (by omega)
  let image := black screen.height.toInt.toNat screen.width.toInt.toNat
  have hinside : image.Inside (y.toInt, x.toInt) := by
    change 0 ≤ y.toInt ∧ y.toInt < screen.height.toInt.toNat ∧ 0 ≤ x.toInt ∧
      x.toInt < screen.width.toInt.toNat
    omega
  obtain ⟨bgPixel, hbg⟩ := hinside.exists_at?
  obtain ⟨canvas, hdraw, hwanted⟩ := h _ _ (handleMouseEvent_motion hscreens) image (dot px py)
    (Int.toNat_of_nonneg (by omega)) (Int.toNat_of_nonneg (by omega)) (dot_size px py)
    (hpx.trans (toInt_add_toInt32 hx hx' hright).symm)
    (hpy.trans (toInt_add_toInt32 hy hy' hbottom).symm)
  obtain ⟨canvas', hdraw', hdrawn⟩ := captureCursor_drawn (dot_size px py) image
  obtain rfl : canvas' = canvas := Option.some.inj (hdraw'.symm.trans (Except.ok.inj hdraw))
  -- The dot is wanted on the point, so this is where it was drawn.
  have hcount := (hwanted.rewritten (y.toInt, x.toInt) 0xFFFFFFFF bgPixel
    (by rw [pixelOn_dot, if_pos rfl]) (by decide) hbg).1
  by_contra horigin
  have hne : (y.toInt, x.toInt) ≠ ((dot px py).y.toInt, (dot px py).x.toInt) := by
    intro heq
    have hrow : y.toInt = py.toInt := congrArg Prod.fst heq
    have hcol : x.toInt = px.toInt := congrArg Prod.snd heq
    apply horigin
    constructor <;> apply Int16.toInt_inj.mp
    · change screen.xOrg.toInt = 0
      omega
    · change screen.yOrg.toInt = 0
      omega
  have hnot := ((hdrawn.composited (dot_size px py)).unchanged (y.toInt, x.toInt)
    (by simp [pixelOn_dot, hne])).1
  rw [List.count_eq_zero_of_not_mem hnot] at hcount
  exact absurd hcount (by decide)

/-- Every cursor is drawn where the pointer is, exactly if the screen is at the origin of the
display. -/
theorem drawsHotspotOn_iff (hscreens : self.screens = screen.toXineramaScreenInfo)
    (hpoint : screen.Contains x y) :
    DrawsHotspotOn self screen x y ↔ screen.xOrg = 0 ∧ screen.yOrg = 0 := by
  refine ⟨fun h => h.origin hscreens hpoint, ?_⟩
  rintro ⟨hxorg, hyorg⟩ px py hmotion image cursorImage hrows hcols hsize hx hy
  rw [handleMouseEvent_motion hscreens, hxorg, hyorg] at hmotion
  obtain ⟨hpx, hpy⟩ : x = px ∧ y = py := by simpa using hmotion
  obtain ⟨canvas, hdraw, hdrawn⟩ := captureCursor_drawn hsize image
  refine ⟨canvas, congrArg Except.ok hdraw, ?_⟩
  rw [hpx, hpy, ← hx, ← hy]
  exact hdrawn.composited hsize

/-- On a screen at the origin, a cursor is drawn where the pointer is. -/
theorem drawsHotspotOn_iff_origin :
    DrawsHotspotOn ⟨⟨0, 0⟩, fun _ => 0⟩ ⟨⟨0, 0⟩, 1920, 1080, by decide, by decide⟩ 5 7 :=
  (drawsHotspotOn_iff rfl (by decide)).mpr ⟨rfl, rfl⟩

/-- On a screen to the right of another one, it is drawn elsewhere. -/
theorem not_drawsHotspotOn_right :
    ¬ DrawsHotspotOn ⟨⟨1920, 0⟩, fun _ => 0⟩ ⟨⟨1920, 0⟩, 1280, 1024, by decide, by decide⟩ 5 7 := by
  intro h
  have horigin := h.origin rfl (by decide)
  exact absurd horigin.1 (by decide)

end X11IOController

end ScreenViewer
