import Mathlib
import ScreenViewer.Lib.Loops
import ScreenViewer.Message

/-!
# Drawing the cursor

`captureCursor` goes through the pixels of the cursor image, finds for each its place in the
screenshot and, if there is one and the pixel is not transparent, blends the pixel into what is
there.  Reading outside an image, writing outside one and an `int` that overflows are undefined
here, so that a result is also a proof that none of them happens.

`Composited` says pixel by pixel what the result has to be, with the channels of a pixel as digits
of its number, and `captureCursor_composited` that it is that.
-/

namespace ScreenViewer

/-- An element of a `cv::Mat` of type `CV_8UC4`. -/
structure Vec4b where
  blue : Byte
  green : Byte
  red : Byte
  alpha : Byte
  deriving DecidableEq

/-- A `cv::Mat` of type `CV_8UC4`. -/
structure Mat where
  rows : ℕ
  cols : ℕ
  data : List Vec4b
  length_data : data.length = rows * cols

namespace Mat

/-- There is an element at this place. -/
def Inside (m : Mat) (i : ℤ × ℤ) : Prop := 0 ≤ i.1 ∧ i.1 < m.rows ∧ 0 ≤ i.2 ∧ i.2 < m.cols

instance (m : Mat) (i : ℤ × ℤ) : Decidable (m.Inside i) :=
  inferInstanceAs (Decidable (0 ≤ i.1 ∧ i.1 < m.rows ∧ 0 ≤ i.2 ∧ i.2 < m.cols))

/-- Where an element is in the data. -/
def index (m : Mat) (i : ℤ × ℤ) : ℕ := i.1.toNat * m.cols + i.2.toNat

/-- `at`, for reading. -/
def at? (m : Mat) (i : ℤ × ℤ) : Option Vec4b := if m.Inside i then m.data[m.index i]? else none

/-- `at`, for writing. -/
def set? (m : Mat) (i : ℤ × ℤ) (v : Vec4b) : Option Mat :=
  if m.Inside i then
    some { m with
      data := m.data.set (m.index i) v
      length_data := (List.length_set ..).trans m.length_data }
  else none

/-- The index of an element is one of the data. -/
lemma Inside.index_lt {m : Mat} {i : ℤ × ℤ} (h : m.Inside i) : m.index i < m.data.length := by
  obtain ⟨h₁, h₂, h₃, h₄⟩ := h
  have hrow : i.1.toNat + 1 ≤ m.rows := by omega
  have hcol : i.2.toNat < m.cols := by omega
  rw [m.length_data, index]
  calc i.1.toNat * m.cols + i.2.toNat < i.1.toNat * m.cols + m.cols := by omega
    _ = (i.1.toNat + 1) * m.cols := by ring
    _ ≤ m.rows * m.cols := Nat.mul_le_mul_right _ hrow

/-- Different elements have different indices. -/
lemma Inside.index_inj {m : Mat} {i j : ℤ × ℤ} (hi : m.Inside i) (hj : m.Inside j)
    (h : m.index i = m.index j) : i = j := by
  obtain ⟨hi₁, hi₂, hi₃, hi₄⟩ := hi
  obtain ⟨hj₁, hj₂, hj₃, hj₄⟩ := hj
  have hicol : i.2.toNat < m.cols := by omega
  have hjcol : j.2.toNat < m.cols := by omega
  unfold index at h
  have hdiv := congrArg (· / m.cols) h
  have hmod := congrArg (· % m.cols) h
  have hpos : 0 < m.cols := by omega
  simp only [Nat.mul_comm _ m.cols, Nat.mul_add_div hpos, Nat.div_eq_of_lt hicol,
    Nat.div_eq_of_lt hjcol, Nat.mul_add_mod, Nat.mod_eq_of_lt hicol, Nat.mod_eq_of_lt hjcol,
    Nat.add_zero] at hdiv hmod
  apply Prod.ext <;> omega

/-- Every element can be read. -/
lemma Inside.exists_at? {m : Mat} {i : ℤ × ℤ} (h : m.Inside i) : ∃ v, m.at? i = some v := by
  refine ⟨m.data.get ⟨m.index i, h.index_lt⟩, ?_⟩
  rw [at?, if_pos h, List.getElem?_eq_getElem h.index_lt]
  rfl

/-- Writing an element changes this element only. -/
lemma Inside.set? {m : Mat} {i : ℤ × ℤ} (h : m.Inside i) (v : Vec4b) :
    ∃ m', m.set? i v = some m' ∧ m'.rows = m.rows ∧ m'.cols = m.cols ∧
      m'.at? = Function.update m.at? i (some v) := by
  refine ⟨_, if_pos h, rfl, rfl, ?_⟩
  funext j
  change (if m.Inside j then (m.data.set (m.index i) v)[m.index j]? else none) = _
  by_cases hj : j = i
  · subst hj
    rw [Function.update_self, if_pos h]
    exact List.getElem?_set_self h.index_lt
  · rw [Function.update_of_ne hj, at?]
    by_cases hinside : m.Inside j
    · have hne : m.index i ≠ m.index j := fun heq => hj (hinside.index_inj h heq.symm)
      rw [if_pos hinside, if_pos hinside]
      exact List.getElem?_set_ne hne
    · rw [if_neg hinside, if_neg hinside]

end Mat

/-- The cursor, as the XFixes extension reports it. -/
structure XFixesCursorImage where
  x : Int16
  y : Int16
  width : UInt16
  height : UInt16
  xhot : UInt16
  yhot : UInt16
  pixels : List UInt64
  length_pixels : pixels.length = width.toNat * height.toNat

namespace X11IOController

/-! ## Blending -/

/-- The alpha channel of a pixel. -/
def alpha (pixel : UInt64) : Byte := (pixel >>> 24 &&& 0xFF).toUInt8

/-- The red channel of a pixel. -/
def red (pixel : UInt64) : Byte := (pixel >>> 16 &&& 0xFF).toUInt8

/-- The green channel of a pixel. -/
def green (pixel : UInt64) : Byte := (pixel >>> 8 &&& 0xFF).toUInt8

/-- The blue channel of a pixel. -/
def blue (pixel : UInt64) : Byte := (pixel &&& 0xFF).toUInt8

/-- A colour channel of the background under a pixel, before it is narrowed. -/
def colour (channel alpha background : Byte) : ℕ :=
  (channel.toNat * alpha.toNat + background.toNat * (255 - alpha.toNat)) / 255

/-- The alpha channel of the background under a pixel, before it is narrowed. -/
def opacity (alpha background : Byte) : ℕ :=
  alpha.toNat + background.toNat * (255 - alpha.toNat) / 255

/-- What `captureCursor` makes of a background pixel; `UInt8.ofNat` narrows. -/
def blend (pixel : UInt64) (bgPixel : Vec4b) : Vec4b where
  blue := UInt8.ofNat (colour (blue pixel) (alpha pixel) bgPixel.blue)
  green := UInt8.ofNat (colour (green pixel) (alpha pixel) bgPixel.green)
  red := UInt8.ofNat (colour (red pixel) (alpha pixel) bgPixel.red)
  alpha := UInt8.ofNat (opacity (alpha pixel) bgPixel.alpha)

/-- A blended colour is between the background's and the pixel's. -/
lemma colour_mem_uIcc (channel alpha background : Byte) :
    colour channel alpha background ∈ Set.uIcc channel.toNat background.toNat := by
  have halpha : alpha.toNat ≤ 255 := Nat.le_of_lt_succ alpha.toNat_lt
  have hsum : alpha.toNat + (255 - alpha.toNat) = 255 := by omega
  unfold colour
  constructor
  · change min channel.toNat background.toNat ≤ _
    rw [Nat.le_div_iff_mul_le (by decide)]
    calc min channel.toNat background.toNat * 255
        = min channel.toNat background.toNat * (alpha.toNat + (255 - alpha.toNat)) := by rw [hsum]
      _ = min channel.toNat background.toNat * alpha.toNat +
          min channel.toNat background.toNat * (255 - alpha.toNat) := Nat.mul_add ..
      _ ≤ _ := by gcongr <;> simp
  · change _ ≤ max channel.toNat background.toNat
    refine Nat.div_le_of_le_mul ?_
    calc channel.toNat * alpha.toNat + background.toNat * (255 - alpha.toNat)
        ≤ max channel.toNat background.toNat * alpha.toNat +
          max channel.toNat background.toNat * (255 - alpha.toNat) := by gcongr <;> simp
      _ = max channel.toNat background.toNat * (alpha.toNat + (255 - alpha.toNat)) :=
        (Nat.mul_add ..).symm
      _ = 255 * max channel.toNat background.toNat := by rw [hsum, Nat.mul_comm]

/-- A blended colour needs no narrowing. -/
lemma colour_le (channel alpha background : Byte) : colour channel alpha background ≤ 255 := by
  refine (colour_mem_uIcc channel alpha background).2.trans (max_le ?_ ?_)
  · exact Nat.le_of_lt_succ channel.toNat_lt
  · exact Nat.le_of_lt_succ background.toNat_lt

/-- A blended alpha channel needs no narrowing. -/
lemma opacity_le (alpha background : Byte) : opacity alpha background ≤ 255 := by
  have halpha : alpha.toNat ≤ 255 := Nat.le_of_lt_succ alpha.toNat_lt
  have hbackground : background.toNat ≤ 255 := Nat.le_of_lt_succ background.toNat_lt
  have hpart : background.toNat * (255 - alpha.toNat) / 255 ≤ 255 - alpha.toNat := by
    refine Nat.div_le_of_le_mul ?_
    gcongr
  unfold opacity
  omega

/-- What becomes of a colour channel of the background under a pixel with this channel and this
opacity: nothing is lost by narrowing, it ends between the two, and an opaque pixel replaces it. -/
structure Mixed (channel opacity : ℕ) (background result : Byte) : Prop where
  le : (channel * opacity + background.toNat * (255 - opacity)) / 255 ≤ 255
  eq : result.toNat = (channel * opacity + background.toNat * (255 - opacity)) / 255
  mem : result.toNat ∈ Set.uIcc channel background.toNat
  eq_of_opaque : opacity = 255 → result.toNat = channel

/-- What blending promises of a background element and a pixel: the bytes of the pixel's number are,
from the lowest one on, its blue, its green and its red channel and its opacity. -/
structure Blended (pixel : UInt64) (bgPixel result : Vec4b) : Prop where
  channel_le : ∀ shift, (pixel >>> shift &&& 0xFF).toNat ≤ 255
  blue : Mixed (pixel.toNat % 256) (pixel.toNat / 2 ^ 24 % 256) bgPixel.blue result.blue
  green : Mixed (pixel.toNat / 2 ^ 8 % 256) (pixel.toNat / 2 ^ 24 % 256) bgPixel.green result.green
  red : Mixed (pixel.toNat / 2 ^ 16 % 256) (pixel.toNat / 2 ^ 24 % 256) bgPixel.red result.red
  alpha_le : pixel.toNat / 2 ^ 24 % 256 +
    bgPixel.alpha.toNat * (255 - pixel.toNat / 2 ^ 24 % 256) / 255 ≤ 255
  alpha_eq : result.alpha.toNat = pixel.toNat / 2 ^ 24 % 256 +
    bgPixel.alpha.toNat * (255 - pixel.toNat / 2 ^ 24 % 256) / 255

/-- Masking and narrowing a number leaves its lowest byte. -/
lemma toNat_toUInt8_and (n : UInt64) : (n &&& 0xFF).toUInt8.toNat = n.toNat % 256 := by
  rw [UInt64.toNat_toUInt8, UInt64.toNat_and]
  change (n.toNat &&& 2 ^ 8 - 1) % 2 ^ 8 = n.toNat % 2 ^ 8
  rw [Nat.and_two_pow_sub_one_eq_mod, Nat.mod_mod]

lemma toNat_alpha (pixel : UInt64) : (alpha pixel).toNat = pixel.toNat / 2 ^ 24 % 256 := by
  rw [alpha, toNat_toUInt8_and, UInt64.toNat_shiftRight, Nat.shiftRight_eq_div_pow]
  rfl

lemma toNat_red (pixel : UInt64) : (red pixel).toNat = pixel.toNat / 2 ^ 16 % 256 := by
  rw [red, toNat_toUInt8_and, UInt64.toNat_shiftRight, Nat.shiftRight_eq_div_pow]
  rfl

lemma toNat_green (pixel : UInt64) : (green pixel).toNat = pixel.toNat / 2 ^ 8 % 256 := by
  rw [green, toNat_toUInt8_and, UInt64.toNat_shiftRight, Nat.shiftRight_eq_div_pow]
  rfl

lemma toNat_blue (pixel : UInt64) : (blue pixel).toNat = pixel.toNat % 256 :=
  toNat_toUInt8_and pixel

/-- A pixel is transparent when its highest byte is zero. -/
lemma alpha_eq_zero_iff (pixel : UInt64) : alpha pixel = 0 ↔ pixel.toNat / 2 ^ 24 % 256 = 0 := by
  rw [← toNat_alpha]
  exact UInt8.toNat_inj.symm

/-- A blended colour is mixed from the channel and the background. -/
lemma mixed_colour (channel alpha background : Byte) :
    Mixed channel.toNat alpha.toNat background
      (UInt8.ofNat (colour channel alpha background)) := by
  have hnarrow : (UInt8.ofNat (colour channel alpha background)).toNat =
      colour channel alpha background :=
    UInt8.toNat_ofNat_of_lt' (Nat.lt_succ_of_le (colour_le ..))
  refine ⟨colour_le .., hnarrow, ?_, fun hfull => ?_⟩
  · rw [hnarrow]
    exact colour_mem_uIcc ..
  · rw [hnarrow, colour, hfull, Nat.sub_self, Nat.mul_zero, Nat.add_zero]
    exact Nat.mul_div_cancel _ (by decide)

/-- `captureCursor` blends. -/
lemma blended_blend (pixel : UInt64) (bgPixel : Vec4b) :
    Blended pixel bgPixel (blend pixel bgPixel) where
  channel_le shift := by
    rw [UInt64.toNat_and]
    exact Nat.and_le_right
  blue := by
    rw [← toNat_blue, ← toNat_alpha]
    exact mixed_colour ..
  green := by
    rw [← toNat_green, ← toNat_alpha]
    exact mixed_colour ..
  red := by
    rw [← toNat_red, ← toNat_alpha]
    exact mixed_colour ..
  alpha_le := by
    rw [← toNat_alpha]
    exact opacity_le ..
  alpha_eq := by
    rw [← toNat_alpha]
    exact UInt8.toNat_ofNat_of_lt' (Nat.lt_succ_of_le (opacity_le ..))

/-! ## The loops -/

/-- The value of an expression of type `int`; one that does not fit is undefined. -/
def int? (n : ℤ) : Option ℤ := if -2147483648 ≤ n ∧ n ≤ 2147483647 then some n else none

/-- A screenshot that is being drawn on. -/
structure Canvas where
  screenshot : Mat
  /-- The places written, oldest first (history). -/
  written : List (ℤ × ℤ)

variable (cursorImage : XFixesCursorImage)

/-- `(dstY, dstX)`, the place in the screenshot of the cursor's pixel in row `y`, column `x`; sums
of so few shorts fit an `int`. -/
def dst (y x : ℕ) : ℤ × ℤ :=
  (cursorImage.y.toInt + y - cursorImage.yhot.toNat,
    cursorImage.x.toInt + x - cursorImage.xhot.toNat)

/-- `pixels[y * width + x]`. -/
def pixel? (y x : ℕ) : Option UInt64 := do
  let index ← int? (y * cursorImage.width.toNat + x)
  cursorImage.pixels[index.toNat]?

/-- The body of the loops. -/
def drawPixel (canvas : Canvas) (y x : ℕ) : Option Canvas :=
  if canvas.screenshot.Inside (dst cursorImage y x) then do
    let pixel ← pixel? cursorImage y x
    if alpha pixel > 0 then
      let bgPixel ← canvas.screenshot.at? (dst cursorImage y x)
      let screenshot ← canvas.screenshot.set? (dst cursorImage y x) (blend pixel bgPixel)
      some { screenshot, written := canvas.written ++ [dst cursorImage y x] }
    else
      some canvas
  else
    some canvas

/-- `captureCursor`; without a cursor there is nothing to do. -/
def captureCursor (cursorImage : Option XFixesCursorImage) (screenshot : Mat) : Option Canvas :=
  match cursorImage with
  | none => some { screenshot, written := [] }
  | some cursorImage =>
    (List.range cursorImage.height.toNat).foldlM
      (fun canvas y =>
        (List.range cursorImage.width.toNat).foldlM
          (fun canvas x => drawPixel cursorImage canvas y x) canvas)
      { screenshot, written := [] }

/-! ## Pixel by pixel -/

/-- The pixel of the cursor that lies on a place of the screenshot, when the hotspot lies on
`hotspot`. -/
def pixelOn (hotspot i : ℤ × ℤ) : Option UInt64 :=
  let y := i.1 - hotspot.1 + cursorImage.yhot.toNat
  let x := i.2 - hotspot.2 + cursorImage.xhot.toNat
  if 0 ≤ y ∧ y < cursorImage.height.toNat ∧ 0 ≤ x ∧ x < cursorImage.width.toNat then
    cursorImage.pixels[y.toNat * cursorImage.width.toNat + x.toNat]?
  else none

/-- What a screenshot has to be after the cursor was drawn on it with its hotspot on `hotspot`. -/
structure Composited (hotspot : ℤ × ℤ) (before after : Mat) (written : List (ℤ × ℤ)) : Prop where
  rows_eq : after.rows = before.rows
  cols_eq : after.cols = before.cols
  /-- Only elements that exist are written. -/
  inside : ∀ i ∈ written, before.Inside i
  /-- What no pixel lies on, or a transparent one, is neither written nor changed. -/
  unchanged : ∀ i,
    (∀ pixel ∈ pixelOn cursorImage hotspot i, pixel.toNat / 2 ^ 24 % 256 = 0) →
      i ∉ written ∧ after.at? i = before.at? i
  /-- What another pixel lies on is written once, and blended with this pixel. -/
  rewritten : ∀ i pixel bgPixel, pixelOn cursorImage hotspot i = some pixel →
    pixel.toNat / 2 ^ 24 % 256 ≠ 0 → before.at? i = some bgPixel →
      written.count i = 1 ∧ ∃ result, after.at? i = some result ∧ Blended pixel bgPixel result

/-- What drawing a pixel does to the element in its place, if there is one. -/
def paint (p : ℕ × ℕ) (bgPixel : Option Vec4b) : Option Vec4b :=
  match pixel? cursorImage p.1 p.2 with
  | some pixel => if alpha pixel > 0 then bgPixel.map (blend pixel) else bgPixel
  | none => bgPixel

/-- Drawing a pixel writes. -/
def Paints (screenshot : Mat) (p : ℕ × ℕ) : Bool :=
  screenshot.Inside (dst cursorImage p.1 p.2) &&
    (pixel? cursorImage p.1 p.2).any fun pixel => alpha pixel > 0

variable {cursorImage} {hotspot i : ℤ × ℤ} {y x : ℕ} {pixel : UInt64}

/-- The pixels of the cursor can be read. -/
lemma exists_pixel? (hsize : cursorImage.width.toNat * cursorImage.height.toNat < 2 ^ 31)
    (hy : y < cursorImage.height.toNat) (hx : x < cursorImage.width.toNat) :
    ∃ pixel, pixel? cursorImage y x = some pixel ∧
      cursorImage.pixels[y * cursorImage.width.toNat + x]? = some pixel := by
  have hindex : y * cursorImage.width.toNat + x <
      cursorImage.width.toNat * cursorImage.height.toNat := by
    calc y * cursorImage.width.toNat + x
        < y * cursorImage.width.toNat + cursorImage.width.toNat := by omega
      _ = cursorImage.width.toNat * (y + 1) := by ring
      _ ≤ cursorImage.width.toNat * cursorImage.height.toNat := Nat.mul_le_mul_left _ hy
  have hlength : y * cursorImage.width.toNat + x < cursorImage.pixels.length :=
    hindex.trans_eq cursorImage.length_pixels.symm
  have hint : int? (y * cursorImage.width.toNat + x) =
      some ((y * cursorImage.width.toNat + x : ℕ) : ℤ) := by
    rw [int?, if_pos]
    · push_cast
      rfl
    · constructor <;> push_cast at * <;> omega
  refine ⟨_, ?_, List.getElem?_eq_getElem hlength⟩
  rw [pixel?, hint]
  exact List.getElem?_eq_getElem hlength

/-- No two pixels have the same place. -/
lemma dst_injective : Function.Injective fun p : ℕ × ℕ => dst cursorImage p.1 p.2 := by
  rintro ⟨y, x⟩ ⟨y', x'⟩ h
  simp only [dst, Prod.mk.injEq] at h
  obtain ⟨hy, hx⟩ := h
  apply Prod.ext <;> omega

/-- What lies on a place is a pixel that is drawn there. -/
lemma of_pixelOn_eq_some
    (h : pixelOn cursorImage (cursorImage.y.toInt, cursorImage.x.toInt) i = some pixel) :
    ∃ y x, y < cursorImage.height.toNat ∧ x < cursorImage.width.toNat ∧
      dst cursorImage y x = i ∧
      cursorImage.pixels[y * cursorImage.width.toNat + x]? = some pixel := by
  simp only [pixelOn] at h
  split at h
  · rename_i hinside
    refine ⟨_, _, ?_, ?_, ?_, h⟩
    · omega
    · omega
    · unfold dst
      apply Prod.ext <;> simp only <;> omega
  · cases h

/-- A pixel that is drawn lies on its place. -/
lemma pixelOn_dst (hy : y < cursorImage.height.toNat) (hx : x < cursorImage.width.toNat) :
    pixelOn cursorImage (cursorImage.y.toInt, cursorImage.x.toInt) (dst cursorImage y x) =
      cursorImage.pixels[y * cursorImage.width.toNat + x]? := by
  have hrow : cursorImage.y.toInt + y - cursorImage.yhot.toNat - cursorImage.y.toInt +
      cursorImage.yhot.toNat = (y : ℤ) := by omega
  have hcol : cursorImage.x.toInt + x - cursorImage.xhot.toNat - cursorImage.x.toInt +
      cursorImage.xhot.toNat = (x : ℤ) := by omega
  simp only [pixelOn, dst, hrow, hcol, Int.toNat_natCast]
  rw [if_pos]
  omega

/-- Drawing a pixel is painting its place. -/
lemma drawPixel_eq (hsize : cursorImage.width.toNat * cursorImage.height.toNat < 2 ^ 31)
    (hy : y < cursorImage.height.toNat) (hx : x < cursorImage.width.toNat) (canvas : Canvas) :
    ∃ canvas', drawPixel cursorImage canvas y x = some canvas' ∧
      canvas'.screenshot.rows = canvas.screenshot.rows ∧
      canvas'.screenshot.cols = canvas.screenshot.cols ∧
      canvas'.screenshot.at? = Function.update canvas.screenshot.at? (dst cursorImage y x)
        (paint cursorImage (y, x) (canvas.screenshot.at? (dst cursorImage y x))) ∧
      canvas'.written = canvas.written ++
        if Paints cursorImage canvas.screenshot (y, x) then [dst cursorImage y x] else [] := by
  obtain ⟨pixel, hpixel, -⟩ := exists_pixel? hsize hy hx
  unfold drawPixel paint Paints
  simp only [hpixel]
  by_cases hinside : canvas.screenshot.Inside (dst cursorImage y x)
  · by_cases halpha : alpha pixel > 0
    · obtain ⟨bgPixel, hbg⟩ := hinside.exists_at?
      obtain ⟨screenshot, hset, hrows, hcols, hat⟩ := hinside.set? (blend pixel bgPixel)
      refine ⟨{ screenshot, written := canvas.written ++ [dst cursorImage y x] }, ?_, hrows, hcols,
        ?_, ?_⟩
      · simp [hinside, halpha, hbg, hset]
      · rw [if_pos halpha, hbg]
        exact hat
      · simp [hinside, halpha]
    · refine ⟨canvas, ?_, rfl, rfl, ?_, ?_⟩
      · simp [hinside, halpha]
      · rw [if_neg halpha, Function.update_eq_self]
      · simp [halpha]
  · have hat : canvas.screenshot.at? (dst cursorImage y x) = none := if_neg hinside
    refine ⟨canvas, if_neg hinside, rfl, rfl, ?_, ?_⟩
    · rw [hat, Option.map_none, ite_self, ← hat, Function.update_eq_self]
    · simp [hinside]

/-- The iterations of the loops. -/
def positions (cursorImage : XFixesCursorImage) : List (ℕ × ℕ) :=
  List.range cursorImage.height.toNat ×ˢ List.range cursorImage.width.toNat

lemma mem_positions : (y, x) ∈ positions cursorImage ↔
    y < cursorImage.height.toNat ∧ x < cursorImage.width.toNat := by
  simp [positions]

/-- Every iteration has a place of its own. -/
lemma nodup_places : ((positions cursorImage).map fun p => dst cursorImage p.1 p.2).Nodup :=
  (List.Nodup.product List.nodup_range List.nodup_range).map dst_injective

/-- What holds in the loops after some iterations: their places are painted, and nothing else is
changed. -/
structure Drawn (cursorImage : XFixesCursorImage) (screenshot : Mat) (done : List (ℕ × ℕ))
    (canvas : Canvas) : Prop where
  rows_eq : canvas.screenshot.rows = screenshot.rows
  cols_eq : canvas.screenshot.cols = screenshot.cols
  at?_eq : canvas.screenshot.at? = Loop.paintAll (fun p => dst cursorImage p.1 p.2)
    (paint cursorImage) done screenshot.at?
  written_eq : canvas.written = (done.filter (Paints cursorImage screenshot)).map
    fun p => dst cursorImage p.1 p.2

/-- An iteration paints its place. -/
lemma Drawn.drawPixel {screenshot : Mat} {done : List (ℕ × ℕ)} {canvas : Canvas}
    (h : Drawn cursorImage screenshot done canvas)
    (hsize : cursorImage.width.toNat * cursorImage.height.toNat < 2 ^ 31)
    (hy : y < cursorImage.height.toNat) (hx : x < cursorImage.width.toNat) :
    ∃ canvas', drawPixel cursorImage canvas y x = some canvas' ∧
      Drawn cursorImage screenshot (done ++ [(y, x)]) canvas' := by
  obtain ⟨canvas', hdraw, hrows, hcols, hat, hwritten⟩ := drawPixel_eq hsize hy hx canvas
  refine ⟨canvas', hdraw, hrows.trans h.rows_eq, hcols.trans h.cols_eq, ?_, ?_⟩
  · rw [hat, h.at?_eq, Loop.paintAll_append_singleton]
  · have hpaints : Paints cursorImage canvas.screenshot (y, x) =
        Paints cursorImage screenshot (y, x) := by
      have hinside : ∀ i, canvas.screenshot.Inside i ↔ screenshot.Inside i := by
        intro i
        rw [Mat.Inside, Mat.Inside, h.rows_eq, h.cols_eq]
      simp only [Paints, hinside]
    rw [hwritten, h.written_eq, hpaints, List.filter_append, List.map_append,
      List.filter_singleton]
    cases Paints cursorImage screenshot (y, x) <;> rfl

/-- The loops paint every place of the cursor. -/
theorem captureCursor_drawn (hsize : cursorImage.width.toNat * cursorImage.height.toNat < 2 ^ 31)
    (screenshot : Mat) :
    ∃ canvas, captureCursor (some cursorImage) screenshot = some canvas ∧
      Drawn cursorImage screenshot (positions cursorImage) canvas := by
  simp only [captureCursor, Loop.foldlM_foldlM]
  refine Loop.foldlM_total ⟨rfl, rfl, rfl, rfl⟩ ?_
  rintro before ⟨y, x⟩ after canvas hpositions hdrawn
  have hmem : (y, x) ∈ positions cursorImage := by
    rw [positions, hpositions]
    exact List.mem_append_right _ List.mem_cons_self
  obtain ⟨hy, hx⟩ := mem_positions.mp hmem
  exact hdrawn.drawPixel hsize hy hx

/-- The place of an iteration is written exactly if its pixel is drawn. -/
lemma Drawn.dst_mem_written {screenshot : Mat} {canvas : Canvas}
    (h : Drawn cursorImage screenshot (positions cursorImage) canvas)
    (hmem : (y, x) ∈ positions cursorImage) :
    dst cursorImage y x ∈ canvas.written ↔ Paints cursorImage screenshot (y, x) = true := by
  rw [h.written_eq]
  refine (List.mem_map_of_injective dst_injective (a := (y, x))).trans ?_
  rw [List.mem_filter, and_iff_right hmem]

/-- No place is written twice. -/
lemma Drawn.nodup_written {screenshot : Mat} {canvas : Canvas}
    (h : Drawn cursorImage screenshot (positions cursorImage) canvas) : canvas.written.Nodup := by
  rw [h.written_eq]
  exact nodup_places.sublist (List.filter_sublist.map _)

/-- The element in the place of an iteration is painted. -/
lemma Drawn.at?_dst {screenshot : Mat} {canvas : Canvas}
    (h : Drawn cursorImage screenshot (positions cursorImage) canvas)
    (hmem : (y, x) ∈ positions cursorImage) :
    canvas.screenshot.at? (dst cursorImage y x) =
      paint cursorImage (y, x) (screenshot.at? (dst cursorImage y x)) := by
  rw [h.at?_eq]
  exact Loop.paintAll_of_mem nodup_places hmem

/-- Only elements that exist are written. -/
lemma Drawn.inside {screenshot : Mat} {canvas : Canvas}
    (h : Drawn cursorImage screenshot (positions cursorImage) canvas) (hi : i ∈ canvas.written) :
    screenshot.Inside i := by
  rw [h.written_eq] at hi
  obtain ⟨p, hp, rfl⟩ := List.mem_map.mp hi
  have hpaints := (List.mem_filter.mp hp).2
  simp only [Paints, Bool.and_eq_true, decide_eq_true_eq] at hpaints
  exact hpaints.1

/-- What no pixel lies on, or a transparent one, is neither written nor changed. -/
lemma Drawn.unchanged {screenshot : Mat} {canvas : Canvas}
    (h : Drawn cursorImage screenshot (positions cursorImage) canvas)
    (hsize : cursorImage.width.toNat * cursorImage.height.toNat < 2 ^ 31)
    (hi : ∀ pixel ∈ pixelOn cursorImage (cursorImage.y.toInt, cursorImage.x.toInt) i,
      alpha pixel = 0) :
    i ∉ canvas.written ∧ canvas.screenshot.at? i = screenshot.at? i := by
  by_cases hplace : i ∈ (positions cursorImage).map fun p => dst cursorImage p.1 p.2
  · obtain ⟨⟨y, x⟩, hmem, rfl⟩ := List.mem_map.mp hplace
    obtain ⟨hy, hx⟩ := mem_positions.mp hmem
    obtain ⟨pixel, hpixel, hlies⟩ := exists_pixel? hsize hy hx
    have halpha : alpha pixel = 0 := hi pixel ((pixelOn_dst hy hx).trans hlies)
    constructor
    · rw [h.dst_mem_written hmem]
      simp [Paints, hpixel, halpha]
    · rw [h.at?_dst hmem]
      simp [paint, hpixel, halpha]
  · constructor
    · rw [h.written_eq]
      exact fun hwritten => hplace ((List.filter_sublist.map _).subset hwritten)
    · rw [h.at?_eq]
      exact Loop.paintAll_of_notMem hplace

/-- What a pixel lies on that is not transparent is written once, and blended with this pixel. -/
lemma Drawn.rewritten {screenshot : Mat} {canvas : Canvas} {bgPixel : Vec4b}
    (h : Drawn cursorImage screenshot (positions cursorImage) canvas)
    (hsize : cursorImage.width.toNat * cursorImage.height.toNat < 2 ^ 31)
    (hlies : pixelOn cursorImage (cursorImage.y.toInt, cursorImage.x.toInt) i = some pixel)
    (halpha : alpha pixel ≠ 0) (hbg : screenshot.at? i = some bgPixel) :
    canvas.written.count i = 1 ∧ canvas.screenshot.at? i = some (blend pixel bgPixel) := by
  obtain ⟨y, x, hy, hx, rfl, hpixels⟩ := of_pixelOn_eq_some hlies
  have hmem := mem_positions.mpr ⟨hy, hx⟩
  obtain ⟨pixel', hpixel, hpixels'⟩ := exists_pixel? hsize hy hx
  obtain rfl : pixel = pixel' := Option.some.inj (hpixels.symm.trans hpixels')
  have hpos : alpha pixel > 0 := UInt8.pos_iff_ne_zero.mpr halpha
  have hinside : screenshot.Inside (dst cursorImage y x) := by
    by_contra houtside
    rw [Mat.at?, if_neg houtside] at hbg
    cases hbg
  constructor
  · apply List.count_eq_one_of_mem h.nodup_written
    rw [h.dst_mem_written hmem]
    simp [Paints, hinside, hpixel, hpos]
  · rw [h.at?_dst hmem, hbg, paint, hpixel]
    simp [hpos]

/-- When all places are painted, the screenshot is as it has to be pixel by pixel. -/
lemma Drawn.composited {screenshot : Mat} {canvas : Canvas}
    (h : Drawn cursorImage screenshot (positions cursorImage) canvas)
    (hsize : cursorImage.width.toNat * cursorImage.height.toNat < 2 ^ 31) :
    Composited cursorImage (cursorImage.y.toInt, cursorImage.x.toInt) screenshot
      canvas.screenshot canvas.written where
  rows_eq := h.rows_eq
  cols_eq := h.cols_eq
  inside _ hi := h.inside hi
  unchanged _ hi := h.unchanged hsize fun pixel hpixel =>
    (alpha_eq_zero_iff pixel).mpr (hi pixel hpixel)
  rewritten _ pixel bgPixel hlies halpha hbg := by
    obtain ⟨hcount, hat⟩ := h.rewritten hsize hlies (mt (alpha_eq_zero_iff pixel).mp halpha) hbg
    exact ⟨hcount, _, hat, blended_blend pixel bgPixel⟩

/-- Drawing the cursor is in bounds, and the result is as it has to be pixel by pixel. -/
theorem captureCursor_composited (cursorImage : XFixesCursorImage)
    (hsize : cursorImage.width.toNat * cursorImage.height.toNat < 2 ^ 31) (screenshot : Mat) :
    ∃ canvas, captureCursor (some cursorImage) screenshot = some canvas ∧
      Composited cursorImage (cursorImage.y.toInt, cursorImage.x.toInt) screenshot
        canvas.screenshot canvas.written := by
  obtain ⟨canvas, hdraw, hdrawn⟩ := captureCursor_drawn hsize screenshot
  exact ⟨canvas, hdraw, hdrawn.composited hsize⟩

/-- Half of a cursor at the left edge is drawn. -/
theorem captureCursor_composited_edge :
    let cursorImage : XFixesCursorImage := ⟨0, 0, 2, 1, 1, 0, [0xFFFF0000, 0x80FF8040], rfl⟩
    let screenshot : Mat := ⟨1, 2, [⟨0, 0, 0, 255⟩, ⟨9, 9, 9, 255⟩], rfl⟩
    ∃ canvas, captureCursor (some cursorImage) screenshot = some canvas ∧
      canvas.screenshot.data = [⟨32, 64, 128, 255⟩, ⟨9, 9, 9, 255⟩] ∧
      Composited cursorImage (0, 0) screenshot canvas.screenshot canvas.written := by
  intro cursorImage screenshot
  obtain ⟨canvas, hdraw, hcomposited⟩ :=
    captureCursor_composited cursorImage (by decide) screenshot
  refine ⟨canvas, hdraw, ?_, hcomposited⟩
  have hdata : (captureCursor (some cursorImage) screenshot).map (·.screenshot.data) =
      some [⟨32, 64, 128, 255⟩, ⟨9, 9, 9, 255⟩] := by decide +kernel
  rw [hdraw] at hdata
  exact Option.some.inj hdata

end X11IOController

end ScreenViewer
