import Osxrdp.FrameConvergence

/-! One push over a previous frame of the same size. It queues nothing when no
visible pixel has changed, and otherwise never more than the frame once. -/
namespace Osxrdp.ChangedPixels
open FramePipeline FramePipeline.BgraFramePipeline
open FrameConvergence
open Raster (Rect)

/-- Two images of one size show the same pixels, whatever their strides. -/
def SamePixels (before after : PrevFrame) : Prop :=
  ∀ column < after.width, ∀ row < after.height, before.picture column row = after.picture column row

/-- What is relied on of `find_different_rects_sub::<4>` besides: it finds
nothing when no visible pixel differs. -/
def QuietOnSame (findDifferentRectsSub : PrevFrame → PrevFrame → List Rect) : Prop :=
  ∀ before after : PrevFrame, before.Valid → after.Valid →
    before.width = after.width → before.height = after.height →
    SamePixels before after → findDifferentRectsSub before after = []

/-- The width and height that a captured frame is shown with. -/
def transformedSize (aspectMode : AspectMode) (targetSize : DesktopSize) (src : PrevFrame) : Nat × Nat :=
  if needsCropScale aspectMode targetSize src.width src.height then
    (targetSize.width.toNat, targetSize.height.toNat)
  else (src.width, src.height)

/-- One update for the whole frame. -/
def Whole (frame : PrevFrame) (updates : List BitmapUpdate) : Prop :=
  ∃ update, updates = [update] ∧ update.patch.rect = ⟨0, 0, frame.width, frame.height⟩

/-- Updates apart from each other and inside the frame, for half of it at most. -/
structure Sparse (frame : PrevFrame) (updates : List BitmapUpdate) : Prop where
  disjoint : updates.Pairwise fun left right => left.patch.rect.Disjoint right.patch.rect
  inside : ∀ update ∈ updates, update.patch.rect.InArea frame.width frame.height
  half : 2 * (updates.map fun update => update.patch.rect.area).sum ≤ frame.width * frame.height

section Pushing
variable {platform : Platform} {prev src frame : PrevFrame} {bitmap : BitmapUpdate} {updates : List BitmapUpdate}

private theorem transform_size (fl : Rounding 53) (aspectMode : AspectMode) (targetSize : DesktopSize)
    (valid : src.Valid) (width : 0 < (transformedSize aspectMode targetSize src).1)
    (height : 0 < (transformedSize aspectMode targetSize src).2) :
    ∃ frame, transformFrame fl aspectMode targetSize src = some frame ∧ frame.Valid ∧
      (frame.width, frame.height) = transformedSize aspectMode targetSize src := by
  unfold transformFrame
  unfold transformedSize at width height ⊢
  by_cases cropped : needsCropScale aspectMode targetSize src.width src.height = true
  · rw [if_pos cropped] at width height ⊢
    have widthNonzero : targetSize.width ≠ 0 := by
      intro zero
      rw [zero] at width
      exact Nat.lt_irrefl 0 width
    have heightNonzero : targetSize.height ≠ 0 := by
      intro zero
      rw [zero] at height
      exact Nat.lt_irrefl 0 height
    obtain ⟨image, produced, imageWidth, imageHeight, _, imageValid, _⟩ :=
      Letterbox.letterbox_image fl targetSize widthNonzero heightNonzero src valid.toReadable
    rw [if_pos cropped]
    exact ⟨image, produced, imageValid, by rw [imageWidth, imageHeight]⟩
  · rw [if_neg cropped, if_neg cropped]
    exact ⟨src, rfl, valid, rfl⟩

/-- The `u64` sum of the dirty areas is exact: it is no larger than the frame. -/
theorem totalDirty_fits (finds : FindsDifferences platform.findDifferentRectsSub) (prevValid : prev.Valid)
    (valid : frame.Valid) (width : prev.width = frame.width) (height : prev.height = frame.height) :
    totalDirty (platform.findDifferentRectsSub prev frame) < UInt64.size := by
  obtain ⟨disjoint, inside, _⟩ := finds prev frame prevValid valid width height
  have bounded := Raster.sum_area_le disjoint inside
  have largest : frame.width * frame.height ≤ 65535 * 65535 := Nat.mul_le_mul valid.width_le valid.height_le
  calc totalDirty (platform.findDifferentRectsSub prev frame) ≤ 65535 * 65535 := bounded.trans largest
    _ < UInt64.size := by decide

/-- Without a difference nothing is queued, and the other way round. -/
theorem queues_nothing_iff (finds : FindsDifferences platform.findDifferentRectsSub)
    (quiet : QuietOnSame platform.findDifferentRectsSub) (prevValid : prev.Valid) (valid : frame.Valid)
    (width : prev.width = frame.width) (height : prev.height = frame.height)
    (queues : Queues (platform.findDifferentRectsSub prev frame) frame bitmap updates) :
    updates = [] ↔ SamePixels prev frame := by
  obtain ⟨_, _, covers⟩ := finds prev frame prevValid valid width height
  have undetected : platform.findDifferentRectsSub prev frame = [] ↔ SamePixels prev frame := by
    refine ⟨fun empty column inColumns row inRows => ?_, quiet prev frame prevValid valid width height⟩
    by_contra different
    obtain ⟨rect, member, _⟩ := covers column inColumns row inRows different
    rw [empty] at member
    cases member
  rw [← undetected]
  cases queues with
  | nothing unchanged => exact iff_of_true rfl unchanged
  | whole changed large => exact iff_of_false (List.cons_ne_nil _ _) changed
  | parts _ changed small same shows => rw [← same, List.map_eq_nil_iff]

/-- What is queued is the whole frame, or at most half of it. -/
theorem queues_whole_or_sparse (finds : FindsDifferences platform.findDifferentRectsSub)
    (prevValid : prev.Valid) (valid : frame.Valid) (width : prev.width = frame.width)
    (height : prev.height = frame.height) (made : makeBitmap frame = some bitmap)
    (queues : Queues (platform.findDifferentRectsSub prev frame) frame bitmap updates) (nonempty : updates ≠ []) :
    Whole frame updates ∨ Sparse frame updates := by
  cases queues with
  | nothing unchanged => exact (nonempty rfl).elim
  | whole changed large => exact .inl ⟨bitmap, rfl, (full_update_spec valid made).1⟩
  | parts _ changed small same shows =>
    obtain ⟨disjoint, inside, _⟩ := finds prev frame prevValid valid width height
    rw [← same] at disjoint inside small
    refine .inr ⟨List.pairwise_map.mp disjoint, fun update member => ?_, ?_⟩
    · exact inside _ (List.mem_map_of_mem member)
    · have areas : totalDirty (updates.map fun update => update.patch.rect) =
          (updates.map fun update => update.patch.rect.area).sum := by
        rw [totalDirty, List.map_map]
        rfl
      rw [← areas]
      omega

end Pushing

/-- **One push queues nothing exactly when no visible pixel has changed, and
otherwise the whole frame once or disjoint parts for half of it at most. In every
case the new frame is the next one's previous.** -/
theorem updates_are_what_changed (platform : Platform) (finds : FindsDifferences platform.findDifferentRectsSub)
    (quiet : QuietOnSame platform.findDifferentRectsSub) (pipeline : BgraFramePipeline) {prev src : PrevFrame}
    (held : pipeline.prev = some prev) (prevValid : prev.Valid) (srcValid : src.Valid)
    (sameSize : (prev.width, prev.height) = transformedSize pipeline.aspectMode pipeline.targetSize src) :
    ∃ frame updates, transformFrame platform.fl pipeline.aspectMode pipeline.targetSize src = some frame ∧
      pipeline.pushFrame platform src =
        some { pipeline with prev := some frame, pending := pipeline.pending ++ updates } ∧
      (updates = [] ↔ SamePixels prev frame) ∧
      (updates ≠ [] → Whole frame updates ∨ Sparse frame updates) := by
  obtain ⟨frame, transformed, valid, size⟩ := transform_size platform.fl pipeline.aspectMode pipeline.targetSize
    srcValid (by rw [← sameSize]; exact prevValid.width_pos) (by rw [← sameSize]; exact prevValid.height_pos)
  obtain ⟨width, height⟩ := Prod.mk.inj (sameSize.trans size.symm)
  obtain ⟨bitmap, made, _⟩ := makeBitmap_valid valid
  obtain ⟨_, inside, _⟩ := finds prev frame prevValid valid width height
  obtain ⟨updates, queued, queues⟩ := queueChanges_queues pipeline valid inside made
  refine ⟨frame, updates, transformed, ?_, ?_, ?_⟩
  · have unresized : ¬(prev.width ≠ frame.width ∨ prev.height ≠ frame.height) := by
      simp [width, height]
    simp only [pushFrame, transformed, Option.bind_some, made, held]
    rw [if_neg unresized]
    exact queued
  · exact queues_nothing_iff finds quiet prevValid valid width height queues
  · exact queues_whole_or_sparse finds prevValid valid width height made queues

private theorem singleTileDiff_quiet : QuietOnSame singleTileDiff := by
  intro before after _ _ _ _ same
  exact if_pos fun row inRows column inColumns => same column inColumns row inRows

/-- One row of two pixels. -/
def twoPixels : PrevFrame := ⟨[1, 2, 3, 255, 4, 5, 6, 255], 8, 2, 1⟩

/-- The same two pixels in a padded row. -/
def paddedPixels : PrevFrame := ⟨[1, 2, 3, 255, 4, 5, 6, 255, 7, 7], 10, 2, 1⟩

/-- Two frames that differ in the padding alone. -/
theorem padding_is_no_change :
    ({ targetSize := ⟨2, 1⟩, aspectMode := .fit, prev := some twoPixels, pending := [] } :
        BgraFramePipeline).pushFrame exactPlatform paddedPixels =
      some { targetSize := ⟨2, 1⟩, aspectMode := .fit, prev := some paddedPixels, pending := [] } := by
  have prevValid : twoPixels.Valid := by
    refine ⟨⟨?_, ?_, ?_, ?_⟩, ?_, ?_⟩ <;> simp [twoPixels]
  have srcValid : paddedPixels.Valid := by
    refine ⟨⟨?_, ?_, ?_, ?_⟩, ?_, ?_⟩ <;> simp [paddedPixels]
  obtain ⟨frame, updates, transformed, pushed, nothing, _⟩ := updates_are_what_changed exactPlatform
    singleTileDiff_finds singleTileDiff_quiet ⟨⟨2, 1⟩, .fit, some twoPixels, []⟩ rfl prevValid srcValid rfl
  cases transformed
  obtain rfl := nothing.mpr (by unfold SamePixels; decide)
  exact pushed

end Osxrdp.ChangedPixels
