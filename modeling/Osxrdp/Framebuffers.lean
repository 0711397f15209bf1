import Osxrdp.DisplayEncoder
import Osxrdp.FrameConvergence

/-! `BitmapUpdate::sub` and `Framebuffer::update` as painting: a part of an update
is a part of its picture, and copying an update into the framebuffer paints it. -/
namespace Osxrdp.Framebuffers
open FramePipeline
open DisplayEncoder DisplayEncoder.Framebuffer
open FrameConvergence (nonZeroU16_new toUInt16_toNat)
open Raster (Picture Patch Rect paint)

/-- Rows of four bytes a pixel and data up to the last pixel, at a place whose
right and bottom edges fit `u16`. -/
structure Readable (bitmap : BitmapUpdate) : Prop where
  stride_le : 4 * bitmap.width.val.toNat ≤ bitmap.stride.val
  data_le : bitmap.stride.val * (bitmap.height.val.toNat - 1) + 4 * bitmap.width.val.toNat ≤ bitmap.data.length
  right_le : bitmap.x.toNat + bitmap.width.val.toNat ≤ 65535
  bottom_le : bitmap.y.toNat + bitmap.height.val.toNat ≤ 65535

/-- A `NonZeroU16` is positive. -/
theorem nonzero_pos (n : NonZeroU16) : 0 < n.val.toNat :=
  Nat.pos_of_ne_zero fun zero => n.property (UInt16.toNat_inj.mp zero)

/-- A rectangle of an update, with the pixels the update has there. -/
structure IsPart (bitmap part : BitmapUpdate) (rect : Rect) : Prop where
  readable : Readable part
  exact_data : part.data.length = part.stride.val * (part.height.val.toNat - 1) + 4 * part.width.val.toNat
  place : part.patch.rect = ⟨bitmap.x.toNat + rect.x, bitmap.y.toNat + rect.y, rect.width, rect.height⟩
  pixels : ∀ column < rect.width, ∀ row < rect.height,
    part.patch.pixel column row = bitmap.patch.pixel (rect.x + column) (rect.y + row)

section Parts
variable {bitmap part : BitmapUpdate} {rect : Rect}

/-- `sub` of a rectangle inside the update. -/
theorem sub_spec (readable : Readable bitmap) (rect : Rect) {x y : UInt16} {width height : NonZeroU16}
    (xEq : x.toNat = rect.x) (yEq : y.toNat = rect.y) (widthEq : width.val.toNat = rect.width)
    (heightEq : height.val.toNat = rect.height)
    (inside : rect.InArea bitmap.width.val.toNat bitmap.height.val.toNat) :
    ∃ part, bitmap.sub x y width height = some (some part) ∧ IsPart bitmap part rect := by
  obtain ⟨widthPos, heightPos, right, bottom⟩ := inside
  have rightLe := readable.right_le
  have bottomLe := readable.bottom_le
  have strideLe := readable.stride_le
  have dataLe := readable.data_le
  have accepted : ¬ (x + width.val > bitmap.width.val ∨ y + height.val > bitmap.height.val) := by
    simp only [gt_iff_lt, UInt16.lt_iff_toNat_lt, UInt16.toNat_add, xEq, yEq, widthEq, heightEq, not_or, not_lt]
    omega
  have xPlace : (bitmap.x + x).toNat = bitmap.x.toNat + rect.x := by
    rw [UInt16.toNat_add, xEq]
    exact Nat.mod_eq_of_lt (by omega)
  have yPlace : (bitmap.y + y).toNat = bitmap.y.toNat + rect.y := by
    rw [UInt16.toNat_add, yEq]
    exact Nat.mod_eq_of_lt (by omega)
  obtain ⟨stride, strideEq⟩ : ∃ stride, stride = bitmap.stride.val := ⟨_, rfl⟩
  rw [← strideEq] at strideLe dataLe
  have lastRow : rect.y * stride + (rect.height - 1) * stride ≤ stride * (bitmap.height.val.toNat - 1) := by
    rw [← Nat.add_mul, Nat.mul_comm stride]
    exact Nat.mul_le_mul_right _ (by omega)
  obtain ⟨start, startEq⟩ : ∃ start, start = rect.y * stride + rect.x * 4 := ⟨_, rfl⟩
  obtain ⟨stop, stopEq⟩ : ∃ stop, stop = start + (rect.height - 1) * stride + rect.width * 4 := ⟨_, rfl⟩
  have sliced : stop ≤ bitmap.data.length := by omega
  have length : ((bitmap.data.take stop).drop start).length = stride * (rect.height - 1) + 4 * rect.width := by
    rw [List.length_drop, List.length_take_of_le sliced, Nat.mul_comm stride]
    omega
  refine ⟨⟨bitmap.x + x, bitmap.y + y, width, height, (bitmap.data.take stop).drop start, bitmap.stride⟩,
    ?_, ?_, ?_, ?_, ?_⟩
  · simp only [BitmapUpdate.sub, accepted, ↓reduceIte, BitmapUpdate.slice, BitmapUpdate.bytesPerPixel, xEq, yEq,
      widthEq, heightEq, ← strideEq, ← startEq, ← stopEq]
    rw [if_pos ⟨by omega, sliced⟩]
    rfl
  · refine ⟨?_, ?_, ?_, ?_⟩
    · simp only [widthEq, ← strideEq]
      omega
    · simp only [widthEq, heightEq, ← strideEq]
      exact Nat.le_of_eq length.symm
    · simp only [xPlace, widthEq]
      omega
    · simp only [yPlace, heightEq]
      omega
  · simp only [widthEq, heightEq, ← strideEq]
    exact length
  · simp only [BitmapUpdate.patch, xPlace, yPlace, widthEq, heightEq]
  · intro column inColumns row inRows
    have rowLe : row * stride ≤ (rect.height - 1) * stride := Nat.mul_le_mul_right _ (by omega)
    have rowEq : (rect.y + row) * stride = rect.y * stride + row * stride := Nat.add_mul ..
    simp only [BitmapUpdate.patch, ← strideEq]
    rw [FrameConvergence.slice_pixel (by omega), pixelAt, rowEq]
    congr 2
    omega

/-- A part of an update shows what the whole update paints. -/
theorem IsPart.shows (isPart : IsPart bitmap part rect)
    (inside : rect.InArea bitmap.width.val.toNat bitmap.height.val.toNat) (picture : Picture Bytes) :
    part.patch.Shows (paint bitmap.patch picture) := by
  intro column row contains
  obtain ⟨_, _, right, bottom⟩ := inside
  rw [isPart.place] at contains ⊢
  obtain ⟨left, right', top, bottom'⟩ := contains
  simp only at left right' top bottom'
  have within : bitmap.patch.rect.Contains column row := by
    simp only [BitmapUpdate.patch, Rect.Contains]
    omega
  rw [paint, if_pos within]
  simp only
  rw [isPart.pixels _ (by omega) _ (by omega)]
  simp only [BitmapUpdate.patch]
  congr 1 <;> omega

end Parts

/-- A part for each of these rectangles. -/
abbrev Parts (bitmap : BitmapUpdate) (diffs : List Rect) (parts : List BitmapUpdate) : Prop :=
  List.Forall₂ (fun diff part => IsPart bitmap part diff) diffs parts

section PartList
variable {bitmap : BitmapUpdate} {diffs : List Rect} {parts : List BitmapUpdate}

private theorem Parts.diff_of_part (areParts : Parts bitmap diffs parts) :
    ∀ part ∈ parts, ∃ diff ∈ diffs, IsPart bitmap part diff := by
  induction areParts with
  | nil => exact List.forall_mem_nil _
  | @cons diff part diffs parts isPart rest ih =>
    refine List.forall_mem_cons.mpr ⟨⟨diff, by simp, isPart⟩, fun later member => ?_⟩
    obtain ⟨diff', listed, isLater⟩ := ih later member
    exact ⟨diff', List.mem_cons_of_mem _ listed, isLater⟩

private theorem Parts.part_of_diff (areParts : Parts bitmap diffs parts) :
    ∀ diff ∈ diffs, ∃ part ∈ parts, IsPart bitmap part diff := by
  induction areParts with
  | nil => exact List.forall_mem_nil _
  | @cons diff part diffs parts isPart rest ih =>
    refine List.forall_mem_cons.mpr ⟨⟨part, by simp, isPart⟩, fun later member => ?_⟩
    obtain ⟨part', listed, isLater⟩ := ih later member
    exact ⟨part', List.mem_cons_of_mem _ listed, isLater⟩

/-- Parts that cover all that an update changes paint what the whole of it paints. -/
theorem Parts.paint_update (areParts : Parts bitmap diffs parts)
    (inside : ∀ diff ∈ diffs, diff.InArea bitmap.width.val.toNat bitmap.height.val.toNat) {picture : Picture Bytes}
    (covers : ∀ column row, bitmap.patch.rect.Contains column row →
      picture column row ≠ bitmap.patch.pixel (column - bitmap.x.toNat) (row - bitmap.y.toNat) →
      ∃ diff ∈ diffs, diff.Contains (column - bitmap.x.toNat) (row - bitmap.y.toNat)) :
    Raster.paintAll (parts.map BitmapUpdate.patch) picture = paint bitmap.patch picture := by
  apply Raster.paintAll_eq_paint
  · intro patch member
    obtain ⟨part, listed, rfl⟩ := List.mem_map.mp member
    obtain ⟨diff, among, isPart⟩ := areParts.diff_of_part part listed
    exact isPart.shows (inside diff among) picture
  · intro column row different
    by_cases contains : bitmap.patch.rect.Contains column row
    · rw [paint, if_pos contains] at different
      obtain ⟨diff, among, found⟩ := covers column row contains different
      obtain ⟨part, listed, isPart⟩ := areParts.part_of_diff diff among
      refine ⟨part.patch, List.mem_map_of_mem listed, ?_⟩
      rw [isPart.place]
      simp only [BitmapUpdate.patch, Rect.Contains] at contains found ⊢
      omega
    · rw [paint, if_neg contains] at different
      exact absurd rfl different

end PartList

section Rows

/-- Bytes written over others: four of them inside and four of them outside. -/
theorem splice_spec {data src : Bytes} {dst : Nat} (room : dst + src.length ≤ data.length) :
    (data.take dst ++ src ++ data.drop (dst + src.length)).length = data.length ∧
      (∀ i, i + 4 ≤ src.length →
        ((data.take dst ++ src ++ data.drop (dst + src.length)).drop (dst + i)).take 4 = (src.drop i).take 4) ∧
      ∀ other, other + 4 ≤ dst ∨ dst + src.length ≤ other →
        ((data.take dst ++ src ++ data.drop (dst + src.length)).drop other).take 4 = (data.drop other).take 4 := by
  have front : (data.take dst).length = dst := List.length_take_of_le (by omega)
  refine ⟨?_, fun i within => ?_, fun other apart => ?_⟩
  · simp only [List.length_append, front, List.length_drop]
    omega
  · rw [List.append_assoc, ← List.drop_drop, List.drop_left' front, List.drop_append_of_le_length (by omega),
      List.take_append_of_le_length (by rw [List.length_drop]; omega)]
  · rcases apart with before | after
    · rw [List.append_assoc, List.drop_append_of_le_length (by omega),
        List.take_append_of_le_length (by rw [List.length_drop, front]; omega), List.drop_take, List.take_take,
        Nat.min_eq_left (by omega)]
    · obtain ⟨more, rfl⟩ : ∃ more, other = dst + src.length + more := ⟨other - (dst + src.length), by omega⟩
      rw [← List.drop_drop, List.drop_left' (by rw [List.length_append, front]), List.drop_drop]

/-- An update that lies in the framebuffer. -/
structure Within (framebuffer : Framebuffer) (bitmap : BitmapUpdate) : Prop where
  right : bitmap.x.toNat + bitmap.width.val.toNat ≤ framebuffer.width.val.toNat
  bottom : bitmap.y.toNat + bitmap.height.val.toNat ≤ framebuffer.height.val.toNat

/-- The bytes of the framebuffer with the first rows of an update over them. -/
def Copied (framebuffer : Framebuffer) (bitmap : BitmapUpdate) (rows : Nat) (data : Bytes) : Prop :=
  data.length = framebuffer.data.length ∧
    ∀ column < framebuffer.width.val.toNat, ∀ row < framebuffer.height.val.toNat,
      pixelAt data framebuffer.stride column row =
        if bitmap.patch.rect.Contains column row ∧ row < bitmap.y.toNat + rows
        then bitmap.patch.pixel (column - bitmap.x.toNat) (row - bitmap.y.toNat)
        else framebuffer.image.picture column row

variable {framebuffer : Framebuffer} {bitmap : BitmapUpdate} {rows : Nat} {data : Bytes}

private theorem copyRow_copied (image : framebuffer.image.Readable) (readable : Readable bitmap)
    (within : Within framebuffer bitmap) {start stop : Nat}
    (startEq : start = bitmap.y.toNat * framebuffer.stride + bitmap.x.toNat * 4)
    (stopEq : stop = start + (bitmap.height.val.toNat - 1) * framebuffer.stride + bitmap.width.val.toNat * 4)
    (stopLe : stop ≤ framebuffer.data.length) (inRows : rows < bitmap.height.val.toNat)
    (copied : Copied framebuffer bitmap rows data) :
    ∃ after, copyRow framebuffer.stride start stop bitmap data rows = some after ∧
      Copied framebuffer bitmap (rows + 1) after := by
  have strideLe : 4 * framebuffer.width.val.toNat ≤ framebuffer.stride := image.stride_le
  have dataLe := readable.data_le
  have right := within.right
  obtain ⟨stride, strideEq⟩ : ∃ stride, stride = bitmap.stride.val := ⟨_, rfl⟩
  rw [← strideEq] at dataLe
  have rowLe : rows * stride ≤ stride * (bitmap.height.val.toNat - 1) := by
    rw [Nat.mul_comm stride]
    exact Nat.mul_le_mul_right _ (by omega)
  have dstLe : rows * framebuffer.stride ≤ (bitmap.height.val.toNat - 1) * framebuffer.stride :=
    Nat.mul_le_mul_right _ (by omega)
  obtain ⟨src, srcEq⟩ : ∃ src, src = (bitmap.data.take (rows * stride + bitmap.width.val.toNat * 4)).drop
    (rows * stride) := ⟨_, rfl⟩
  have srcLength : src.length = bitmap.width.val.toNat * 4 := by
    rw [srcEq, List.length_drop, List.length_take_of_le (by omega)]
    omega
  have room : start + rows * framebuffer.stride + src.length ≤ data.length := by
    rw [copied.1, srcLength]
    omega
  obtain ⟨length, inside, outside⟩ := splice_spec room
  refine ⟨_, ?_, length.trans copied.1, fun column inColumns row inHeight => ?_⟩
  · have fits : start + rows * framebuffer.stride + bitmap.width.val.toNat * 4 ≤ stop := by omega
    have sliced : rows * stride ≤ rows * stride + bitmap.width.val.toNat * 4 ∧
        rows * stride + bitmap.width.val.toNat * 4 ≤ bitmap.data.length := by omega
    simp only [copyRow, BitmapUpdate.slice, BitmapUpdate.bytesPerPixel, ← strideEq, sliced, and_self, ↓reduceIte,
      ← srcEq, Option.bind_some, fits, srcLength]
  · have rowStart : (bitmap.y.toNat + rows) * framebuffer.stride =
        bitmap.y.toNat * framebuffer.stride + rows * framebuffer.stride := Nat.add_mul ..
    by_cases here : row = bitmap.y.toNat + rows ∧ bitmap.x.toNat ≤ column ∧
        column < bitmap.x.toNat + bitmap.width.val.toNat
    · obtain ⟨rfl, fromLeft, toRight⟩ := here
      have contains : bitmap.patch.rect.Contains column (bitmap.y.toNat + rows) :=
        ⟨fromLeft, toRight, by simp [BitmapUpdate.patch], by simpa [BitmapUpdate.patch] using inRows⟩
      have place : (bitmap.y.toNat + rows) * framebuffer.stride + column * 4 =
          start + rows * framebuffer.stride + (column - bitmap.x.toNat) * 4 := by omega
      have copiedPixel := @FrameConvergence.slice_pixel bitmap.data stride (rows * stride)
        (rows * stride + bitmap.width.val.toNat * 4) (column - bitmap.x.toNat) 0 (by omega)
      rw [← srcEq, pixelAt, Nat.zero_mul, Nat.zero_add] at copiedPixel
      rw [if_pos ⟨contains, by omega⟩, pixelAt, place, inside _ (by omega), copiedPixel]
      simp [BitmapUpdate.patch, pixelAt, strideEq]
    · have apart : row * framebuffer.stride + column * 4 + 4 ≤ start + rows * framebuffer.stride ∨
          start + rows * framebuffer.stride + src.length ≤ row * framebuffer.stride + column * 4 := by
        rcases Nat.lt_trichotomy row (bitmap.y.toNat + rows) with above | same | below
        · have := Nat.mul_le_mul_right framebuffer.stride (Nat.succ_le_of_lt above)
          rw [Nat.succ_mul] at this
          omega
        · subst same
          omega
        · have := Nat.mul_le_mul_right framebuffer.stride (Nat.succ_le_of_lt below)
          rw [Nat.succ_mul] at this
          omega
      have before := copied.2 column inColumns row inHeight
      rw [pixelAt] at before
      rw [pixelAt, outside _ apart, before]
      refine if_congr ?_ rfl rfl
      simp only [BitmapUpdate.patch, Rect.Contains] at here ⊢
      omega

/-- The framebuffer keeps its size and shows this picture. -/
structure Painted (before : Framebuffer) (target : Picture Bytes) (after : Framebuffer) : Prop where
  width : after.width = before.width
  height : after.height = before.height
  readable : after.image.Readable
  pixels : ∀ column < before.width.val.toNat, ∀ row < before.height.val.toNat,
    after.image.picture column row = target column row

/-- An update of the framebuffer paints the bitmap. -/
theorem update_paints (image : framebuffer.image.Readable) (readable : Readable bitmap)
    (within : Within framebuffer bitmap) :
    ∃ after, framebuffer.update bitmap = some after ∧
      Painted framebuffer (paint bitmap.patch framebuffer.image.picture) after := by
  obtain ⟨start, startEq⟩ : ∃ start, start = bitmap.y.toNat * framebuffer.stride + bitmap.x.toNat * 4 := ⟨_, rfl⟩
  obtain ⟨stop, stopEq⟩ : ∃ stop, stop = start + (bitmap.height.val.toNat - 1) * framebuffer.stride +
    bitmap.width.val.toNat * 4 := ⟨_, rfl⟩
  have strideLe : 4 * framebuffer.width.val.toNat ≤ framebuffer.stride := image.stride_le
  have right := within.right
  have lastRow : bitmap.y.toNat * framebuffer.stride + (bitmap.height.val.toNat - 1) * framebuffer.stride ≤
      framebuffer.stride * (framebuffer.height.val.toNat - 1) := by
    have bottom := within.bottom
    have positive := nonzero_pos bitmap.height
    rw [← Nat.add_mul, Nat.mul_comm framebuffer.stride]
    exact Nat.mul_le_mul_right _ (by omega)
  have stopLe : stop ≤ framebuffer.data.length := by
    have room : framebuffer.stride * (framebuffer.height.val.toNat - 1) + 4 * framebuffer.width.val.toNat ≤
      framebuffer.data.length := image.data_le
    omega
  have untouched : Copied framebuffer bitmap 0 framebuffer.data := by
    refine ⟨rfl, fun column _ row _ => ?_⟩
    rw [if_neg]
    · rfl
    · rintro ⟨⟨_, _, below, _⟩, above⟩
      exact absurd above (Nat.not_lt_of_le below)
  obtain ⟨data, looped, length, pixels⟩ := Runs.foldlM_range_succeeds
    (fun rows data => Copied framebuffer bitmap rows data) bitmap.height.val.toNat untouched
    fun rows inRows data copied => copyRow_copied image readable within startEq stopEq stopLe inRows copied
  refine ⟨{ framebuffer with data }, ?_, rfl, rfl, ?_, fun column inColumns row inRows => ?_⟩
  · simp only [Framebuffer.update, BitmapUpdate.bytesPerPixel, ← startEq, ← stopEq, stopLe, ↓reduceIte, looped]
    rfl
  · exact ⟨image.width_pos, image.height_pos, image.stride_le, by
      have room := image.data_le
      exact room.trans (Nat.le_of_eq length.symm)⟩
  · have pixel := pixels column inColumns row inRows
    refine pixel.trans ?_
    unfold paint
    refine if_congr ?_ rfl rfl
    exact ⟨And.left, fun contains => ⟨contains, contains.2.2.2⟩⟩

end Rows

section Diffs
variable {framebuffer : Framebuffer} {bitmap : BitmapUpdate} {diffs : List Rect}

private theorem tryU16_small {n : Nat} (small : n ≤ 65535) : tryU16 n = some n.toUInt16 :=
  if_pos (Nat.lt_succ_of_le small)

private theorem tryLength_small {n : Nat} (positive : 0 < n) (small : n ≤ 65535) :
    ∃ length, (tryU16 n).bind NonZeroU16.new = some length ∧ length.val.toNat = n := by
  rw [tryU16_small small, Option.bind_some]
  exact nonZeroU16_new positive small

/-- A rectangle inside the update has coordinates, and they cut a part out of it. -/
theorem cut_spec (readable : Readable bitmap) {diff : Rect}
    (inside : diff.InArea bitmap.width.val.toNat bitmap.height.val.toNat) :
    ∃ x y width height part, tryU16 diff.x = some x ∧ tryU16 diff.y = some y ∧
      (tryU16 diff.width).bind NonZeroU16.new = some width ∧
      (tryU16 diff.height).bind NonZeroU16.new = some height ∧
      bitmap.sub x y width height = some (some part) ∧ IsPart bitmap part diff := by
  have isInside := inside
  obtain ⟨widthPos, heightPos, right, bottom⟩ := inside
  have rightLe := readable.right_le
  have bottomLe := readable.bottom_le
  have xLe : diff.x ≤ 65535 := by omega
  have yLe : diff.y ≤ 65535 := by omega
  obtain ⟨width, madeWidth, widthEq⟩ := tryLength_small widthPos (by omega : diff.width ≤ 65535)
  obtain ⟨height, madeHeight, heightEq⟩ := tryLength_small heightPos (by omega : diff.height ≤ 65535)
  obtain ⟨part, cut, isPart⟩ :=
    sub_spec readable diff (toUInt16_toNat xLe) (toUInt16_toNat yLe) widthEq heightEq isInside
  exact ⟨_, _, width, height, part, tryU16_small xLe, tryU16_small yLe, madeWidth, madeHeight, cut, isPart⟩

/-- A part of what the framebuffer can hold can be held. -/
theorem IsPart.within {part : BitmapUpdate} {diff : Rect} (isPart : IsPart bitmap part diff)
    (inside : diff.InArea bitmap.width.val.toNat bitmap.height.val.toNat) (within : Within framebuffer bitmap) :
    Within framebuffer part := by
  obtain ⟨_, _, right, bottom⟩ := inside
  have place := isPart.place
  simp only [BitmapUpdate.patch, Rect.mk.injEq] at place
  obtain ⟨x, y, width, height⟩ := place
  have inRight := within.right
  have inBottom := within.bottom
  exact ⟨by omega, by omega⟩

/-- An update by parts paints the bitmap, where its parts are all the differences. -/
theorem updateDiff_paints (image : framebuffer.image.Readable) (readable : Readable bitmap)
    (within : Within framebuffer bitmap) {diff : Rect}
    (inside : diff.InArea bitmap.width.val.toNat bitmap.height.val.toNat) :
    ∃ part after, IsPart bitmap part diff ∧ updateDiff bitmap framebuffer diff = some after ∧
      Painted framebuffer (paint part.patch framebuffer.image.picture) after := by
  obtain ⟨x, y, width, height, part, madeX, madeY, madeWidth, madeHeight, cut, isPart⟩ := cut_spec readable inside
  obtain ⟨after, updated, painted⟩ := update_paints image isPart.readable (isPart.within inside within)
  refine ⟨part, after, isPart, ?_, painted⟩
  simp only [updateDiff, madeX, madeY, madeWidth, madeHeight, cut, Option.bind_some, updated]

/-- The rectangles of an update are painted one after the other. -/
theorem updateDiffs_paints (image : framebuffer.image.Readable) (readable : Readable bitmap)
    (within : Within framebuffer bitmap)
    (inside : ∀ diff ∈ diffs, diff.InArea bitmap.width.val.toNat bitmap.height.val.toNat) :
    ∃ parts after, Parts bitmap diffs parts ∧
      framebuffer.updateDiffs bitmap diffs = some after ∧
      Painted framebuffer (Raster.paintAll (parts.map BitmapUpdate.patch) framebuffer.image.picture) after := by
  induction diffs generalizing framebuffer with
  | nil => exact ⟨[], framebuffer, .nil, rfl, rfl, rfl, image, fun _ _ _ _ => rfl⟩
  | cons diff rest ih =>
    obtain ⟨part, middle, isPart, updated, painted⟩ := updateDiff_paints image readable within (inside diff (by simp))
    have withinMiddle : Within middle bitmap :=
      ⟨by rw [painted.width]; exact within.right, by rw [painted.height]; exact within.bottom⟩
    obtain ⟨parts, after, areParts, updatedRest, paintedRest⟩ := ih painted.readable withinMiddle
      fun diff member => inside diff (List.mem_cons_of_mem _ member)
    refine ⟨part :: parts, after, .cons isPart areParts, ?_, paintedRest.width.trans painted.width,
      paintedRest.height.trans painted.height, paintedRest.readable, fun column inColumns row inRows => ?_⟩
    · unfold updateDiffs at updatedRest ⊢
      rw [List.foldlM_cons, updated]
      exact updatedRest
    · rw [paintedRest.pixels column (by rw [painted.width]; exact inColumns) row
      (by rw [painted.height]; exact inRows)]
      exact Raster.paintAll_congr _ (painted.pixels column inColumns row inRows)

end Diffs
end Osxrdp.Framebuffers
