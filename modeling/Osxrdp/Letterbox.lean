import Mathlib.Tactic.FieldSimp
import Osxrdp.FramePipeline
import Osxrdp.Runs

/-! The letterbox transform never leaves its buffers, and every pixel it
produces is either opaque black or a copy of one named source pixel. -/
namespace Osxrdp.Letterbox
open FramePipeline
open Raster (Rect)

section Geometry
variable (fl : Rounding 53) {dstW dstH : Nat}

private theorem ratio_close {w h : Nat} (width : w ≤ 65535) (height : 0 < h) :
    |fl.div w h - (w : ℚ) / h| ≤ 1 / 4000 := by
  have one : (1 : ℚ) ≤ h := by exact_mod_cast height
  have bound : (w : ℚ) / h ≤ 65535 := by
    have : (w : ℚ) ≤ 65535 := by exact_mod_cast width
    exact (div_le_self (by positivity) one).trans this
  have := fl.close ((w : ℚ) / h)
  rw [abs_of_nonneg (by positivity : (0 : ℚ) ≤ (w : ℚ) / h)] at this
  unfold Rounding.div
  refine this.trans ?_
  norm_num
  linarith

/-- Half of a rounded size, doubled, is no larger than the size. -/
theorem even_part_le {q : ℚ} {n : Nat} (below : q ≤ n) : (round q).toNat / 2 * 2 ≤ n := by
  have : round q ≤ n := by
    have := round_le_add_half q
    have : (round q : ℚ) < (n : ℚ) + 1 := by linarith
    exact_mod_cast Int.lt_add_one_iff.mp (by exact_mod_cast this)
  omega

/-- The letterbox rectangle lies inside the target. -/
theorem rect_inside (srcW srcH : Nat)
    (dstWidth : dstW ≤ 65535) (dstHeight : 0 < dstH) (dstHeightLe : dstH ≤ 65535) :
    (computeLetterboxRect fl srcW srcH dstW dstH).x +
        (computeLetterboxRect fl srcW srcH dstW dstH).width ≤ dstW ∧
      (computeLetterboxRect fl srcW srcH dstW dstH).y +
        (computeLetterboxRect fl srcW srcH dstW dstH).height ≤ dstH := by
  have dstClose := abs_le.mp (ratio_close fl dstWidth dstHeight)
  have heightPos : (0 : ℚ) < dstH := by exact_mod_cast dstHeight
  have dstNonneg : 0 ≤ fl.div dstW dstH := fl.round_nonneg (by positivity)
  unfold computeLetterboxRect
  dsimp only
  split
  · simp
  · rename_i apart
    have gap := fl.half_threshold_le_abs_sub (by norm_num) (by norm_num) apart
    split
    · rename_i wider
      rw [abs_of_pos (sub_pos.mpr wider)] at gap
      have ratioPos : 0 < fl.div srcW srcH := dstNonneg.trans_lt wider
      have fits : (dstW : ℚ) / fl.div srcW srcH ≤ dstH := by
        rw [div_le_iff₀ ratioPos]
        have : (dstW : ℚ) / dstH ≤ fl.div srcW srcH := by linarith [dstClose.1]
        rwa [div_le_iff₀ heightPos, mul_comm] at this
      have := even_part_le (fl.round_le_natural (by omega) fits)
      simp only [Rounding.div] at this ⊢
      omega
    · rename_i narrower
      rw [abs_of_nonpos (by linarith)] at gap
      have fits : (dstH : ℚ) * fl.div srcW srcH ≤ dstW := by
        have : fl.div srcW srcH ≤ (dstW : ℚ) / dstH := by linarith [dstClose.2]
        rwa [le_div_iff₀ heightPos, mul_comm] at this
      have := even_part_le (fl.round_le_natural (by omega) fits)
      simp only [Rounding.mul] at this ⊢
      omega

end Geometry

section Buffers

private theorem opaqueBlack_length (len : Nat) : (opaqueBlack len).length = len := by
  simp [opaqueBlack]

/-- A pixel of the bars. -/
def black : Bytes := [0, 0, 0, 255]

private theorem opaqueBlack_pixel {len pixel : Nat} (inside : pixel * 4 + 4 ≤ len) :
    ((opaqueBlack len).drop (pixel * 4)).take 4 = black := by
  apply List.ext_getElem?
  intro index
  by_cases within : index < 4
  · have value : (opaqueBlack len)[pixel * 4 + index]? = some (if index = 3 then 255 else 0) := by
      have bound : pixel * 4 + index < len := by omega
      have chunk : pixel * 4 + index < len / 4 * 4 := by omega
      have place : index % 4 = 3 ↔ index = 3 := by omega
      simp [opaqueBlack, bound, chunk, place]
    rw [List.getElem?_take_of_lt within, List.getElem?_drop, value]
    match index, within with
    | 0, _ | 1, _ | 2, _ | 3, _ => rfl
  · rw [List.getElem?_take_eq_none (by omega)]
    exact (List.getElem?_eq_none (by simp [black]; omega)).symm

variable {dst dst' src : Bytes} {di si : Nat}

/-- Copying a pixel rewrites its four bytes and no others. -/
theorem copyPixel_spec (dstRoom : di + 4 ≤ dst.length) (srcRoom : si + 4 ≤ src.length) :
    ∃ dst', copyPixel dst src di si = some dst' ∧ dst'.length = dst.length ∧
      (dst'.drop di).take 4 = (src.drop si).take 4 ∧
      ∀ other, other + 4 ≤ di ∨ di + 4 ≤ other →
        (dst'.drop other).take 4 = (dst.drop other).take 4 := by
  have four : ((src.drop si).take 4).length = 4 := by simp; omega
  have front : (dst.take di).length = di := by simp; omega
  refine ⟨dst.take di ++ (src.drop si).take 4 ++ dst.drop (di + 4), ?_, ?_, ?_, ?_⟩
  · simp only [copyPixel, dstRoom, srcRoom, and_self, ↓reduceIte]
  · simp only [List.length_append, front, four, List.length_drop]
    omega
  · rw [List.append_assoc, List.drop_left' front, List.take_left' four]
  · intro other apart
    apply List.ext_getElem?
    intro index
    by_cases within : index < 4
    · rw [List.getElem?_take_of_lt within, List.getElem?_take_of_lt within,
        List.getElem?_drop, List.getElem?_drop]
      rcases apart with before | after
      · rw [List.append_assoc, List.getElem?_append_left (by omega),
          List.getElem?_take_of_lt (by omega)]
      · rw [List.getElem?_append_right (by simp only [List.length_append, front, four]; omega),
          List.getElem?_drop]
        congr 1
        simp only [List.length_append, front, four]
        omega
    · rw [List.getElem?_take_eq_none (by omega), List.getElem?_take_eq_none (by omega)]

end Buffers

section Scaling

/-- The source position whose colour belongs at a target position inside the
letterbox rectangle. -/
def samplePoint (rect : Rect) (srcW srcH column row : Nat) : Nat × Nat :=
  ((column - rect.x) * srcW / rect.width, (row - rect.y) * srcH / rect.height)

/-- The pixel of the source that a pixel of the picture shows. -/
def sample (src : PrevFrame) (rect : Rect) (column row : Nat) : Bytes :=
  let point := samplePoint rect src.width src.height column row
  src.picture point.1 point.2

/-- The buffer after `rows` whole rows and the first `columns` pixels of the
next row of the rectangle have been copied. -/
def Scaled (src : PrevFrame) (rect : Rect) (dstW dstH rows columns : Nat) (dst : Bytes) : Prop :=
  dst.length = dstH * (dstW * 4) ∧ ∀ column < dstW, ∀ row < dstH,
    pixelAt dst (dstW * 4) column row =
      if rect.x ≤ column ∧ rect.y ≤ row ∧
          (column < rect.x + rect.width ∧ row < rect.y + rows ∨
            column < rect.x + columns ∧ row = rect.y + rows)
      then sample src rect column row else black

variable {src : PrevFrame} {rect : Rect} {dstW dstH rows columns : Nat} {dst : Bytes}

private theorem row_end_le (width : Nat) {row height : Nat} (inside : row < height) (unit : Nat) :
    row * (width * unit) + width * unit ≤ height * (width * unit) := by
  have := Nat.mul_le_mul_right (width * unit) inside
  rwa [Nat.succ_mul] at this

/-- Two pixels of a buffer do not overlap. -/
theorem offsets_apart {width column row column' row' : Nat} (inside : column < width)
    (inside' : column' < width) (different : ¬ (column = column' ∧ row = row')) :
    row * (width * 4) + column * 4 + 4 ≤ row' * (width * 4) + column' * 4 ∨
      row' * (width * 4) + column' * 4 + 4 ≤ row * (width * 4) + column * 4 := by
  rcases Nat.lt_trichotomy row row' with above | same | below
  · have := row_end_le width above 4
    omega
  · subst same
    omega
  · have := row_end_le width below 4
    omega

private theorem scaled_start : Scaled src rect dstW dstH 0 0 (opaqueBlack (dstH * (dstW * 4))) := by
  refine ⟨opaqueBlack_length _, fun column inColumns row inRows => ?_⟩
  rw [if_neg (by omega), pixelAt]
  have place : row * (dstW * 4) + column * 4 = (row * dstW + column) * 4 := by
    rw [Nat.add_mul, Nat.mul_assoc]
  have room := row_end_le dstW inRows 4
  rw [place]
  exact opaqueBlack_pixel (by omega)

private theorem scaled_next_row (row : Scaled src rect dstW dstH rows rect.width dst) :
    Scaled src rect dstW dstH (rows + 1) 0 dst := by
  refine ⟨row.1, fun column inColumns row' inRows => ?_⟩
  rw [row.2 column inColumns row' inRows]
  refine if_congr ?_ rfl rfl
  omega

private theorem source_room (readable : src.Readable) {column row : Nat} (inColumns : column < src.width)
    (inRows : row < src.height) : row * src.stride + column * 4 + 4 ≤ src.data.length := by
  have rows := Nat.mul_le_mul_left src.stride (Nat.le_pred_of_lt inRows)
  rw [Nat.mul_comm] at rows
  have := readable.data_le
  simp only [Nat.pred_eq_sub_one] at rows
  omega

/-- One iteration of the inner loop stays inside both buffers and fills in
exactly the next pixel. -/
theorem scaled_step (readable : src.Readable) (rightEdge : rect.x + rect.width ≤ dstW)
    (bottomEdge : rect.y + rect.height ≤ dstH) (inRow : rows < rect.height)
    (inColumn : columns < rect.width) (scaled : Scaled src rect dstW dstH rows columns dst) :
    ∃ dst', copyPixel dst src.data ((rect.y + rows) * (dstW * 4) + (rect.x + columns) * 4)
        (rows * src.height / rect.height * src.stride + columns * src.width / rect.width * 4) =
          some dst' ∧ Scaled src rect dstW dstH rows (columns + 1) dst' := by
  have sourceColumn : columns * src.width / rect.width < src.width :=
    Nat.div_lt_of_lt_mul (Nat.mul_lt_mul_of_pos_right inColumn readable.width_pos)
  have sourceRow : rows * src.height / rect.height < src.height :=
    Nat.div_lt_of_lt_mul (Nat.mul_lt_mul_of_pos_right inRow readable.height_pos)
  have rowEnd := row_end_le dstW (show rect.y + rows < dstH by omega) 4
  obtain ⟨dst', copied, length, written, kept⟩ :=
    copyPixel_spec (show (rect.y + rows) * (dstW * 4) + (rect.x + columns) * 4 + 4 ≤ dst.length by
      rw [scaled.1]; omega) (source_room readable sourceColumn sourceRow)
  refine ⟨dst', copied, length.trans scaled.1, fun column inColumns row inRows => ?_⟩
  by_cases here : column = rect.x + columns ∧ row = rect.y + rows
  · obtain ⟨rfl, rfl⟩ := here
    rw [if_pos (by omega), pixelAt, written]
    simp [sample, samplePoint, PrevFrame.picture, pixelAt]
  · rw [pixelAt, kept _ (offsets_apart inColumns (by omega) here), ← pixelAt,
      scaled.2 column inColumns row inRows]
    refine if_congr ?_ rfl rfl
    omega

private theorem divide_of_lt {count index : Nat} (inside : index < count) (dividend : Nat) :
    divide dividend count = some (dividend / count) :=
  if_neg (Nat.ne_zero_of_lt inside)

private theorem scaleRow_scaled (readable : src.Readable) (rightEdge : rect.x + rect.width ≤ dstW)
    (bottomEdge : rect.y + rect.height ≤ dstH) (inRow : rows < rect.height)
    (scaled : Scaled src rect dstW dstH rows 0 dst) :
    ∃ dst', scaleRow src.data dst rect src.width (rows * src.height / rect.height * src.stride)
        ((rect.y + rows) * (dstW * 4)) = some dst' ∧ Scaled src rect dstW dstH (rows + 1) 0 dst' := by
  have advances : ∀ columns < rect.width, ∀ dst, Scaled src rect dstW dstH rows columns dst →
      ∃ dst', ((divide (columns * src.width) rect.width).bind fun srcX =>
        copyPixel dst src.data ((rect.y + rows) * (dstW * 4) + (rect.x + columns) * 4)
          (rows * src.height / rect.height * src.stride + srcX * 4)) = some dst' ∧
        Scaled src rect dstW dstH rows (columns + 1) dst' := by
    intro columns inColumn dst scaled
    rw [divide_of_lt inColumn, Option.bind_some]
    exact scaled_step readable rightEdge bottomEdge inRow inColumn scaled
  obtain ⟨dst', looped, ended⟩ := Runs.foldlM_range_succeeds
    (fun columns dst => Scaled src rect dstW dstH rows columns dst) rect.width scaled advances
  exact ⟨dst', looped, scaled_next_row ended⟩

end Scaling

/-- `letterbox_bgra` neither divides by zero nor leaves its buffers on readable
sources and non-zero targets, and copies exactly the letterbox rectangle. -/
theorem letterbox_scaled (fl : Rounding 53) (target : DesktopSize) (height : target.height ≠ 0)
    (src : PrevFrame) (readable : src.Readable) :
    let rect := computeLetterboxRect fl src.width src.height target.width.toNat target.height.toNat
    ∃ dst, letterboxBgra fl target src =
        some ⟨dst, target.width.toNat * 4, target.width.toNat, target.height.toNat⟩ ∧
      Scaled src rect target.width.toNat target.height.toNat rect.height 0 dst := by
  intro rect
  have heightPos : 0 < target.height.toNat := Nat.pos_of_ne_zero fun zero =>
    height (UInt16.toNat_inj.mp zero)
  obtain ⟨rightEdge, bottomEdge⟩ := rect_inside fl src.width src.height
    (Nat.le_of_lt_succ target.width.toNat_lt) heightPos (Nat.le_of_lt_succ target.height.toNat_lt)
  have advances : ∀ rows < rect.height, ∀ dst,
      Scaled src rect target.width.toNat target.height.toNat rows 0 dst →
      ∃ dst', ((divide (rows * src.height) rect.height).bind fun srcY =>
        scaleRow src.data dst rect src.width (srcY * src.stride)
          ((rect.y + rows) * (target.width.toNat * 4))) = some dst' ∧
        Scaled src rect target.width.toNat target.height.toNat (rows + 1) 0 dst' := by
    intro rows inRow dst scaled
    rw [divide_of_lt inRow, Option.bind_some]
    exact scaleRow_scaled readable rightEdge bottomEdge inRow scaled
  obtain ⟨dst, looped, scaled⟩ := Runs.foldlM_range_succeeds
    (fun rows dst => Scaled src rect target.width.toNat target.height.toNat rows 0 dst)
    rect.height scaled_start advances
  exact ⟨dst, Option.bind_eq_some_iff.mpr ⟨dst, looped, rfl⟩, scaled⟩

/-- The image fills the target without padding, shows the sampled source inside
the letterbox rectangle and opaque black around it. -/
theorem letterbox_image (fl : Rounding 53) (target : DesktopSize) (width : target.width ≠ 0)
    (height : target.height ≠ 0) (src : PrevFrame) (readable : src.Readable) :
    ∃ image, letterboxBgra fl target src = some image ∧ image.width = target.width.toNat ∧
      image.height = target.height.toNat ∧ image.stride = target.width.toNat * 4 ∧ image.Valid ∧
      ∀ column < image.width, ∀ row < image.height, image.picture column row =
        let rect := computeLetterboxRect fl src.width src.height image.width image.height
        if rect.Contains column row then sample src rect column row else black := by
  have widthPos : 0 < target.width.toNat := Nat.pos_of_ne_zero fun zero =>
    width (UInt16.toNat_inj.mp zero)
  have heightPos : 0 < target.height.toNat := Nat.pos_of_ne_zero fun zero =>
    height (UInt16.toNat_inj.mp zero)
  obtain ⟨dst, produced, length, pixels⟩ := letterbox_scaled fl target height src readable
  refine ⟨_, produced, rfl, rfl, rfl, ⟨⟨widthPos, heightPos, by dsimp only; omega, ?_⟩,
    Nat.le_of_lt_succ target.width.toNat_lt, Nat.le_of_lt_succ target.height.toNat_lt⟩,
    fun column inColumns row inRows => ?_⟩
  · dsimp only
    rw [length, Nat.mul_comm 4, Nat.mul_comm, ← Nat.succ_mul]
    exact Nat.mul_le_mul_right _ (by omega)
  · rw [PrevFrame.picture, pixels column inColumns row inRows]
    refine if_congr ?_ rfl rfl
    simp only [Raster.Rect.Contains]
    omega

end Osxrdp.Letterbox
