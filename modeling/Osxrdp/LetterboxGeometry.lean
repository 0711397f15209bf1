import Mathlib.Algebra.Group.Even
import Osxrdp.Letterbox

/-! Where the letterbox rectangle lies and which source pixels it shows. With
the `f64` arithmetic read as exact it keeps the shape of the source to within
a pixel and a half and stands in the middle of the target; whatever its size,
it samples each axis of the source in order. -/
namespace Osxrdp.LetterboxGeometry
open FramePipeline Letterbox
open Raster (Rect)

section Geometry

/-- A span of a side whose two margins differ by one pixel at most. -/
structure Centred (side start length : Nat) : Prop where
  inside : start + length ≤ side
  start_le : start ≤ side - (start + length)
  le_start : side - (start + length) ≤ start + 1

private theorem centred_whole (side : Nat) : Centred side 0 side :=
  ⟨(Nat.zero_add side).le, Nat.zero_le _, by omega⟩

private theorem centred_half {side length : Nat} (fits : length ≤ side) :
    Centred side ((side - length) / 2) length := by
  constructor <;> omega

/-- An even length next to an exact one. -/
structure Approximates (exact : ℚ) (length : Nat) : Prop where
  even : Even length
  lower : exact - 3 / 2 ≤ length
  upper : length ≤ exact + 1 / 2

/-- Rounding to nearest and clearing the lowest bit. -/
theorem even_part_approximates {q : ℚ} (nonneg : 0 ≤ q) : Approximates q ((round q).toNat / 2 * 2) := by
  have roundNonneg : 0 ≤ round q := by
    rw [round_eq]
    apply Int.floor_nonneg.mpr
    linarith
  obtain ⟨n, rounded⟩ : ∃ n : Nat, round q = n := ⟨_, (Int.toNat_of_nonneg roundNonneg).symm⟩
  have above := sub_half_lt_round q
  have below := round_le_add_half q
  rw [rounded] at above below ⊢
  rw [Int.cast_natCast] at above below
  rw [Int.toNat_natCast]
  have low : (n : ℚ) ≤ (n / 2 * 2 : Nat) + 1 := by
    have : n ≤ n / 2 * 2 + 1 := by omega
    exact_mod_cast this
  have high : ((n / 2 * 2 : Nat) : ℚ) ≤ n := by
    have : n / 2 * 2 ≤ n := by omega
    exact_mod_cast this
  exact ⟨even_two.mul_left _, by linarith, by linarith⟩

/-- How the rectangle relates to the shapes of the source and the target: both
are the same up to a thousandth, or it fills one axis. -/
inductive KeepsShape (srcW srcH dstW dstH : Nat) (rect : Rect) : Prop
  | whole (same : rect = ⟨0, 0, dstW, dstH⟩)
    (close : |(srcW : ℚ) / srcH - (dstW : ℚ) / dstH| < 1 / 1000)
  | wide (fills : rect.width = dstW) (height : Approximates ((dstW : ℚ) * srcH / srcW) rect.height)
  | tall (fills : rect.height = dstH) (width : Approximates ((dstH : ℚ) * srcW / srcH) rect.width)

/-- What a letterboxed picture has to be: inside, of the source's shape, in the middle. -/
structure Letterboxes (srcW srcH dstW dstH : Nat) (rect : Rect) : Prop where
  columns : Centred dstW rect.x rect.width
  rows : Centred dstH rect.y rect.height
  shape : KeepsShape srcW srcH dstW dstH rect

private theorem exact_rect (srcW srcH dstW dstH : Nat) :
    computeLetterboxRect (Rounding.exact 53) srcW srcH dstW dstH =
      if |(srcW : ℚ) / srcH - (dstW : ℚ) / dstH| < 1 / 1000 then ⟨0, 0, dstW, dstH⟩
      else if (srcW : ℚ) / srcH > (dstW : ℚ) / dstH then
        let scaledH := (round ((dstW : ℚ) / (srcW / srcH))).toNat / 2 * 2
        ⟨0, (dstH - scaledH) / 2, dstW, scaledH⟩
      else
        let scaledW := (round ((dstH : ℚ) * (srcW / srcH))).toNat / 2 * 2
        ⟨(dstW - scaledW) / 2, 0, scaledW, dstH⟩ := rfl

end Geometry

/-- **Letterbox geometry.** In exact arithmetic the rectangle lies inside the
target, in its middle, and keeps the shape of the source. -/
theorem letterbox_rect_geometry (srcW srcH dstW dstH : Nat) (srcWidth : srcW ≠ 0) (srcHeight : srcH ≠ 0)
    (dstWidth : dstW ≠ 0) (dstHeight : dstH ≠ 0) :
    Letterboxes srcW srcH dstW dstH (computeLetterboxRect (Rounding.exact 53) srcW srcH dstW dstH) := by
  have srcWidthPos : (0 : ℚ) < srcW := by exact_mod_cast Nat.pos_of_ne_zero srcWidth
  have srcHeightPos : (0 : ℚ) < srcH := by exact_mod_cast Nat.pos_of_ne_zero srcHeight
  have dstHeightPos : (0 : ℚ) < dstH := by exact_mod_cast Nat.pos_of_ne_zero dstHeight
  rw [exact_rect]
  by_cases close : |(srcW : ℚ) / srcH - (dstW : ℚ) / dstH| < 1 / 1000
  · rw [if_pos close]
    exact ⟨centred_whole dstW, centred_whole dstH, .whole rfl close⟩
  · rw [if_neg close]
    by_cases wider : (srcW : ℚ) / srcH > (dstW : ℚ) / dstH
    · rw [if_pos wider]
      have length : (dstW : ℚ) / (srcW / srcH) = dstW * srcH / srcW := div_div_eq_mul_div _ _ _
      have fits : (dstW : ℚ) * srcH / srcW ≤ dstH := by
        rw [gt_iff_lt, div_lt_div_iff₀ dstHeightPos srcHeightPos] at wider
        rw [div_le_iff₀ srcWidthPos, mul_comm (dstH : ℚ)]
        exact wider.le
      rw [length]
      exact ⟨centred_whole dstW, centred_half (even_part_le fits),
        .wide rfl (even_part_approximates (by positivity))⟩
    · rw [if_neg wider]
      have length : (dstH : ℚ) * (srcW / srcH) = dstH * srcW / srcH := (mul_div_assoc _ _ _).symm
      have fits : (dstH : ℚ) * srcW / srcH ≤ dstW := by
        rw [gt_iff_lt, not_lt, div_le_div_iff₀ srcHeightPos dstHeightPos] at wider
        rw [div_le_iff₀ srcHeightPos, mul_comm (dstH : ℚ)]
        exact wider
      rw [length]
      exact ⟨centred_half (even_part_le fits), centred_whole dstH,
        .tall rfl (even_part_approximates (by positivity))⟩

/-- A wide display in a window of another shape. -/
theorem laptop_display_in_four_by_three :
    Letterboxes 1440 900 1024 768 (computeLetterboxRect (Rounding.exact 53) 1440 900 1024 768) :=
  letterbox_rect_geometry 1440 900 1024 768 (by decide) (by decide) (by decide) (by decide)

section Sampling

/-- How positions along a side of the rectangle take up positions of the source:
in order, from the first one on, and all of them when there is room. -/
structure Samples (index : Nat → Nat) (length source : Nat) : Prop where
  monotone : Monotone index
  start : index 0 = 0
  below : ∀ d < length, index d < source
  covers : source ≤ length → ∀ s < source, ∃ d < length, index d = s

private theorem exists_sampled {length source s : Nat} (room : source ≤ length) (inside : s < source) :
    ∃ d < length, d * source / length = s := by
  have sourcePos : 0 < source := Nat.zero_lt_of_lt inside
  obtain ⟨d, first⟩ : ∃ d, d = (s * length + (source - 1)) / source := ⟨_, rfl⟩
  have low : s * length ≤ d * source := by
    have := Nat.lt_div_mul_add (a := s * length + (source - 1)) sourcePos
    rw [← first] at this
    omega
  have high : d * source < (s + 1) * length := by
    have := Nat.div_mul_le_self (s * length + (source - 1)) source
    rw [← first] at this
    rw [Nat.succ_mul]
    omega
  refine ⟨d, ?_, ?_⟩
  · have whole : (s + 1) * length ≤ length * source := by
      rw [Nat.mul_comm length]
      exact Nat.mul_le_mul_right length inside
    exact Nat.lt_of_mul_lt_mul_right (high.trans_le whole)
  · apply Nat.div_eq_of_lt_le
    · exact low
    · exact high

private theorem samples_floor (length : Nat) {source : Nat} (positive : 0 < source) :
    Samples (fun d => d * source / length) length source where
  monotone _ _ le := Nat.div_le_div_right (Nat.mul_le_mul_right source le)
  start := by simp
  below _ inside := Nat.div_lt_of_lt_mul (Nat.mul_lt_mul_of_pos_right inside positive)
  covers room _ inside := exists_sampled room inside

end Sampling

/-- **The letterbox transform is total and correct.** Whatever the rounding, it
returns an image of the target's size, black outside the rectangle and sampled
from the source inside it, in order and with nothing cropped. -/
theorem letterbox_samples (fl : Rounding 53) (target : DesktopSize) (height : target.height ≠ 0)
    (src : PrevFrame) (readable : src.Readable) :
    ∃ image, letterboxBgra fl target src = some image ∧ image.width = target.width.toNat ∧
      image.height = target.height.toNat ∧ image.stride = 4 * image.width ∧
      image.data.length = image.stride * image.height ∧
      let rect := computeLetterboxRect fl src.width src.height image.width image.height
      let columnOf := fun dx => dx * src.width / rect.width
      let rowOf := fun dy => dy * src.height / rect.height
      (∀ column < image.width, ∀ row < image.height,
        ¬rect.Contains column row → image.picture column row = black) ∧
      (∀ dx < rect.width, ∀ dy < rect.height,
        image.picture (rect.x + dx) (rect.y + dy) = src.picture (columnOf dx) (rowOf dy)) ∧
      Samples columnOf rect.width src.width ∧ Samples rowOf rect.height src.height := by
  have heightPos : 0 < target.height.toNat := Nat.pos_of_ne_zero fun zero =>
    height (UInt16.toNat_inj.mp zero)
  obtain ⟨right, bottom⟩ := rect_inside fl src.width src.height
    (Nat.le_of_lt_succ target.width.toNat_lt) heightPos (Nat.le_of_lt_succ target.height.toNat_lt)
  obtain ⟨dst, produced, length, pixels⟩ := letterbox_scaled fl target height src readable
  refine ⟨_, produced, rfl, rfl, Nat.mul_comm _ _, ?_, ?_, ?_, samples_floor _ readable.width_pos,
    samples_floor _ readable.height_pos⟩
  · rw [length, Nat.mul_comm]
  · intro column inColumns row inRows outside
    rw [PrevFrame.picture, pixels column inColumns row inRows]
    apply if_neg
    intro within
    apply outside
    simp only [Rect.Contains]
    omega
  · intro dx inWidth dy inHeight
    dsimp only at inWidth inHeight ⊢
    rw [PrevFrame.picture, pixels _ (by omega) _ (by omega), if_pos (by omega)]
    simp [sample, samplePoint]

/-- One pixel in a target twice as wide as high. -/
theorem one_pixel_fills_the_middle :
    ∃ image, letterboxBgra (Rounding.exact 53) ⟨4, 2⟩ ⟨[1, 2, 3, 255], 4, 1, 1⟩ = some image ∧
      image.width = 4 ∧ image.height = 2 ∧ image.picture 0 1 = black ∧ image.picture 1 1 = [1, 2, 3, 255] := by
  have readable : PrevFrame.Readable ⟨[1, 2, 3, 255], 4, 1, 1⟩ := by constructor <;> simp
  obtain ⟨image, produced, width, height, _, _, outside, inside, _, _⟩ :=
    letterbox_samples (Rounding.exact 53) ⟨4, 2⟩ (by decide) _ readable
  have rect : computeLetterboxRect (Rounding.exact 53) 1 1 4 2 = ⟨1, 0, 2, 2⟩ := by decide +kernel
  have sizes : image.width = 4 ∧ image.height = 2 := ⟨width, height⟩
  simp only [sizes, rect] at outside inside
  exact ⟨image, produced, width, height, outside 0 (by decide) 1 (by decide) (by decide),
    inside 0 (by decide) 1 (by decide)⟩

end Osxrdp.LetterboxGeometry
