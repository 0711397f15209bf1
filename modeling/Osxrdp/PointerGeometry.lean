import Osxrdp.Input
import Osxrdp.Letterbox

/-! The pointer the client sees and the pixel under it. A pixel is displayed
at a point when the letterboxed image carries that source pixel there for
every source of that size, so equal colours cannot hide a wrong position. -/
namespace Osxrdp.PointerGeometry
open FramePipeline
open Letterbox (samplePoint)
open Raster (Rect)
open Input (MacInputHandler MouseEvent CGEvent)

/-- The letterboxed image shows this source pixel at the given point. -/
def Displays (fl : Rounding 53) (target : DesktopSize) (srcW srcH column row : Nat)
    (pixel : Nat × Nat) : Prop :=
  pixel.1 < srcW ∧ pixel.2 < srcH ∧
  ∀ src : PrevFrame, src.Readable → src.width = srcW → src.height = srcH →
    ∃ image, letterboxBgra fl target src = some image ∧
      image.picture column row = src.picture pixel.1 pixel.2

/-- The letterbox rectangle of a source size in a target. -/
def letterboxRect (fl : Rounding 53) (target : DesktopSize) (srcW srcH : Nat) : Rect :=
  computeLetterboxRect fl srcW srcH target.width.toNat target.height.toNat

section Displayed
variable {fl : Rounding 53} {target : DesktopSize} {srcW srcH column row : Nat} {rect : Rect}

private theorem samplePoint_lt (width : 0 < srcW) (height : 0 < srcH) (inside : rect.Contains column row) :
    (samplePoint rect srcW srcH column row).1 < srcW ∧
      (samplePoint rect srcW srcH column row).2 < srcH := by
  obtain ⟨left, right, top, bottom⟩ := inside
  exact ⟨Nat.div_lt_of_lt_mul (Nat.mul_lt_mul_of_pos_right (by omega) width),
    Nat.div_lt_of_lt_mul (Nat.mul_lt_mul_of_pos_right (by omega) height)⟩

/-- A blank source with one marked pixel: only that pixel has its bytes. -/
theorem marked_source {column row : Nat} (inColumns : column < srcW) (inRows : row < srcH) :
    ∃ src : PrevFrame, src.Readable ∧ src.width = srcW ∧ src.height = srcH ∧
      ∀ column' < srcW, ∀ row' < srcH,
        src.picture column' row' = src.picture column row → (column', row') = (column, row) := by
  have rowEnd : row * (srcW * 4) + srcW * 4 ≤ srcH * (srcW * 4) := by
    have := Nat.mul_le_mul_right (srcW * 4) inRows
    rwa [Nat.succ_mul] at this
  obtain ⟨data, _, length, marked, kept⟩ := Letterbox.copyPixel_spec
    (show row * (srcW * 4) + column * 4 + 4 ≤ (List.replicate (srcH * (srcW * 4)) (0 : UInt8)).length by
      rw [List.length_replicate]; omega) (show 0 + 4 ≤ [(1 : UInt8), 1, 1, 1].length by decide)
  refine ⟨⟨data, srcW * 4, srcW, srcH⟩, ⟨by dsimp only; omega, by dsimp only; omega,
    by dsimp only; omega, ?_⟩, rfl, rfl, fun column' inColumns' row' inRows' same => ?_⟩
  · dsimp only
    rw [length, List.length_replicate, Nat.mul_comm 4, Nat.mul_comm, ← Nat.succ_mul]
    exact Nat.mul_le_mul_right _ (by omega)
  · by_contra different
    have apart := Letterbox.offsets_apart inColumns' inColumns
      (fun both => different (Prod.ext both.1 both.2))
    simp only [PrevFrame.picture, pixelAt, marked, kept _ apart] at same
    rw [List.drop_replicate, List.take_replicate] at same
    have marked : (1 : UInt8) ∈ List.take 4 (List.drop 0 [1, 1, 1, 1]) := by decide
    rw [← same] at marked
    exact absurd (List.eq_of_mem_replicate marked) (by decide)

/-- Inside the letterbox rectangle exactly one source pixel is displayed. -/
theorem displays_iff_samplePoint (nonzero : target.width ≠ 0 ∧ target.height ≠ 0)
    (width : 0 < srcW) (height : 0 < srcH)
    (inside : (letterboxRect fl target srcW srcH).Contains column row) (pixel : Nat × Nat) :
    Displays fl target srcW srcH column row pixel ↔
      pixel = samplePoint (letterboxRect fl target srcW srcH) srcW srcH column row := by
  have scaledInside := samplePoint_lt width height inside
  have shown : ∀ src : PrevFrame, src.Readable → src.width = srcW → src.height = srcH →
      ∃ image, letterboxBgra fl target src = some image ∧ image.picture column row =
        src.picture (samplePoint (letterboxRect fl target srcW srcH) srcW srcH column row).1
          (samplePoint (letterboxRect fl target srcW srcH) srcW srcH column row).2 := by
    rintro src readable rfl rfl
    obtain ⟨image, produced, imageWidth, imageHeight, _, valid, pixels⟩ :=
      Letterbox.letterbox_image fl target nonzero.1 nonzero.2 src readable
    have edges := Letterbox.rect_inside fl src.width src.height
      (Nat.le_of_lt_succ target.width.toNat_lt) (imageHeight ▸ valid.height_pos)
      (Nat.le_of_lt_succ target.height.toNat_lt)
    have ⟨_, right, _, bottom⟩ := inside
    refine ⟨image, produced, ?_⟩
    rw [pixels column (imageWidth ▸ right.trans_le edges.1) row (imageHeight ▸ bottom.trans_le edges.2),
      imageWidth, imageHeight]
    exact if_pos inside
  constructor
  · rintro ⟨inColumns, inRows, displayed⟩
    obtain ⟨src, readable, sameWidth, sameHeight, distinct⟩ :=
      marked_source scaledInside.1 scaledInside.2
    obtain ⟨image, produced, here⟩ := displayed src readable sameWidth sameHeight
    obtain ⟨_, again, there⟩ := shown src readable sameWidth sameHeight
    obtain rfl := Option.some.inj (produced.symm.trans again)
    exact distinct _ inColumns _ inRows (here.symm.trans there)
  · rintro rfl
    exact ⟨scaledInside.1, scaledInside.2, shown⟩

end Displayed

private theorem div_eq_self_iff {offset size length position : Nat} (positive : 0 < length) :
    position = offset * size / length ↔
      position * length ≤ offset * size ∧ offset * size < (position + 1) * length := by
  rw [eq_comm, Nat.div_eq_iff positive]
  have : (position + 1) * length = position * length + length := Nat.succ_mul _ _
  omega

/-- The cursor is posted at the client's own coordinates, and stays there for
every event up to the next move. That point is the source pixel displayed
under the pointer exactly when the letterbox scaling maps it to itself. -/
theorem pointer_lands_on_displayed_pixel_iff (fl : Rounding 53) (handler : MacInputHandler)
    (target : DesktopSize) (nonzero : target.width ≠ 0 ∧ target.height ≠ 0) {srcW srcH : Nat}
    (width : 0 < srcW) (height : 0 < srcH) (x y : UInt16)
    (inside : (letterboxRect fl target srcW srcH).Contains x.toNat y.toNat)
    (later : List (MouseEvent × Bool)) (keeps : ∀ input ∈ later, input.1.KeepsCursor) :
    (∃ final posted, Runs.run Input.step handler ((.move x y, true) :: later) =
        some (final, .mouse .mouseMoved x.toNat y.toNat .left :: posted) ∧
      ∀ event ∈ posted, event.At x.toNat y.toNat) ∧
    (Displays fl target srcW srcH x.toNat y.toNat (x.toNat, y.toNat) ↔
      let rect := letterboxRect fl target srcW srcH
      (x.toNat * rect.width ≤ (x.toNat - rect.x) * srcW ∧
        (x.toNat - rect.x) * srcW < (x.toNat + 1) * rect.width) ∧
      (y.toNat * rect.height ≤ (y.toNat - rect.y) * srcH ∧
        (y.toNat - rect.y) * srcH < (y.toNat + 1) * rect.height)) := by
  constructor
  · let moved : MacInputHandler := ⟨x.toNat, y.toNat⟩
    obtain ⟨posted, ran, held⟩ := Input.posts_at_last_move moved later keeps
    have posts : Input.step handler (.move x y, true) =
        some (moved, [.mouse .mouseMoved x.toNat y.toNat .left]) := rfl
    exact ⟨_, posted, Runs.run_step posts ran, held⟩
  · rw [displays_iff_samplePoint nonzero width height inside, samplePoint, Prod.mk.injEq]
    obtain ⟨_, right, _, bottom⟩ := inside
    exact and_congr (div_eq_self_iff (by omega)) (div_eq_self_iff (by omega))

private theorem wide_target_rect :
    letterboxRect (Rounding.exact 53) ⟨200, 100⟩ 100 100 = ⟨50, 0, 100, 100⟩ := by
  change computeLetterboxRect (Rounding.exact 53) 100 100 200 100 = _
  have square : round ((Rounding.exact 53).mul (100 : ℚ) 1) = 100 := by
    rw [Rounding.mul, Rounding.exact_round, mul_one]
    exact round_natCast 100
  norm_num [computeLetterboxRect, Rounding.div, Rounding.sub]
  rw [square]
  decide

/-- A square frame centred on a wide target: the leftmost pixel is shown at
column 50, and a move there posts column 50 of the source. -/
theorem pointer_misses_displayed_pixel :
    (letterboxRect (Rounding.exact 53) ⟨200, 100⟩ 100 100).Contains 50 0 ∧
      (MacInputHandler.new.mouse true (.move 50 0)).2 = [.mouse .mouseMoved 50 0 .left] ∧
      Displays (Rounding.exact 53) ⟨200, 100⟩ 100 100 50 0 (0, 0) ∧
      ¬ Displays (Rounding.exact 53) ⟨200, 100⟩ 100 100 50 0 (50, 0) := by
  have inside : (letterboxRect (Rounding.exact 53) ⟨200, 100⟩ 100 100).Contains 50 0 := by
    rw [wide_target_rect]
    decide
  refine ⟨inside, rfl, ?_, ?_⟩
  · rw [displays_iff_samplePoint (by decide) (Nat.succ_pos _) (Nat.succ_pos _) inside, wide_target_rect]
    decide
  · rw [displays_iff_samplePoint (by decide) (Nat.succ_pos _) (Nat.succ_pos _) inside, wide_target_rect]
    decide

/-- A move over an unscaled frame, followed by a click. -/
theorem pointer_lands_on_unscaled_pixel :
    (letterboxRect (Rounding.exact 53) ⟨100, 100⟩ 100 100).Contains 7 9 ∧
    (∃ final posted, Runs.run Input.step MacInputHandler.new
        [(.move 7 9, true), (.leftPressed, true)] =
          some (final, .mouse .mouseMoved 7 9 .left :: posted) ∧ ∀ event ∈ posted, event.At 7 9) ∧
    Displays (Rounding.exact 53) ⟨100, 100⟩ 100 100 7 9 (7, 9) := by
  have whole : letterboxRect (Rounding.exact 53) ⟨100, 100⟩ 100 100 = ⟨0, 0, 100, 100⟩ := by
    change computeLetterboxRect (Rounding.exact 53) 100 100 100 100 = _
    norm_num [computeLetterboxRect, Rounding.div, Rounding.sub]
  have inside : (letterboxRect (Rounding.exact 53) ⟨100, 100⟩ 100 100).Contains 7 9 := by
    rw [whole]
    decide
  obtain ⟨posted, displayed⟩ := pointer_lands_on_displayed_pixel_iff (Rounding.exact 53)
    MacInputHandler.new ⟨100, 100⟩ (by decide) (Nat.succ_pos _) (Nat.succ_pos _) 7 9 inside
    [(.leftPressed, true)] (by simp [MouseEvent.KeepsCursor])
  refine ⟨inside, posted, displayed.mpr ?_⟩
  rw [whole]
  decide

end Osxrdp.PointerGeometry
