import Osxrdp.Bytes
import Osxrdp.Raster
import Osxrdp.Rounding

/-! `frame_pipeline.rs`: captured BGRA frames become bitmap updates. The model
keeps the bytes and strides of the source; `none` is a panic (a slice or an
index out of range). Two things are parameters of the platform: the rounding
of `f64`, and the third-party `find_different_rects_sub`. -/
namespace Osxrdp

/-- The width and height of a desktop. -/
structure DesktopSize where
  width : UInt16
  height : UInt16
  deriving DecidableEq, Repr

/-- Whether the client's picture is letterboxed to its size, or keeps the display's. -/
inductive AspectMode where
  | fit
  | native
  deriving DecidableEq, Repr

abbrev NonZeroU16 := { n : UInt16 // n ≠ 0 }

abbrev NonZeroUsize := { n : Nat // n ≠ 0 }

def NonZeroU16.new (n : UInt16) : Option NonZeroU16 :=
  if nonzero : n ≠ 0 then some ⟨n, nonzero⟩ else none

def NonZeroUsize.new (n : Nat) : Option NonZeroUsize :=
  if nonzero : n ≠ 0 then some ⟨n, nonzero⟩ else none

namespace FramePipeline
open Raster (Rect Picture Patch)

/-- The `PrevFrame` record, and likewise the `(data, w, h, stride)` tuples that
`push_frame` and `letterbox_bgra` hand around. -/
structure PrevFrame where
  data : Bytes
  stride : Nat
  width : Nat
  height : Nat
  deriving DecidableEq, Repr

/-- The four bytes of one pixel. -/
def pixelAt (data : Bytes) (stride column row : Nat) : Bytes :=
  (data.drop (row * stride + column * 4)).take 4

/-- The pixels of the frame. -/
def PrevFrame.picture (frame : PrevFrame) : Picture Bytes := pixelAt frame.data frame.stride

/-- What a captured frame promises: a non-zero size, rows of four bytes a
pixel, and data up to the last pixel of the last row. -/
structure PrevFrame.Readable (frame : PrevFrame) : Prop where
  width_pos : 0 < frame.width
  height_pos : 0 < frame.height
  stride_le : 4 * frame.width ≤ frame.stride
  data_le : frame.stride * (frame.height - 1) + 4 * frame.width ≤ frame.data.length

/-- A readable frame whose size fits the `u16` fields of an update. -/
structure PrevFrame.Valid (frame : PrevFrame) : Prop extends PrevFrame.Readable frame where
  width_le : frame.width ≤ 65535
  height_le : frame.height ≤ 65535

/-- `f64` rounding and `ironrdp_graphics::diff::find_different_rects_sub::<4>`
as `push_frame` calls it, with both images whole and the origin at (0, 0). -/
structure Platform where
  fl : Rounding 53
  findDifferentRectsSub : PrevFrame → PrevFrame → List Rect

/-- A `BitmapUpdate`; its format is always `BgrA32`. -/
structure BitmapUpdate where
  x : UInt16
  y : UInt16
  width : NonZeroU16
  height : NonZeroU16
  data : Bytes
  stride : NonZeroUsize
  deriving DecidableEq, Repr

namespace BitmapUpdate

/-- BGRA -/
def bytesPerPixel : Nat := 4

/-- `Bytes::slice`. -/
def slice (data : Bytes) (start stop : Nat) : Option Bytes :=
  if start ≤ stop ∧ stop ≤ data.length then some ((data.take stop).drop start) else none

/-- `BitmapUpdate::sub`: the inner `none` is its own refusal, the outer one a panic. -/
def sub (bitmap : BitmapUpdate) (x y : UInt16) (width height : NonZeroU16) :
    Option (Option BitmapUpdate) :=
  if x + width.val > bitmap.width.val ∨ y + height.val > bitmap.height.val then some none
  else
    let start := y.toNat * bitmap.stride.val + x.toNat * bytesPerPixel
    let stop := start + (height.val.toNat - 1) * bitmap.stride.val +
      width.val.toNat * bytesPerPixel
    (slice bitmap.data start stop).map fun data =>
      some { x := bitmap.x + x, y := bitmap.y + y, width, height, data, stride := bitmap.stride }

/-- What a client paints when it applies the update: the update's rows, read
with its own stride, at its `x`, `y`. -/
def patch (bitmap : BitmapUpdate) : Patch Bytes where
  rect := ⟨bitmap.x.toNat, bitmap.y.toNat, bitmap.width.val.toNat, bitmap.height.val.toNat⟩
  pixel := pixelAt bitmap.data bitmap.stride.val

end BitmapUpdate

/-- `make_bitmap`; `none` is its error. -/
def makeBitmap (frame : PrevFrame) : Option BitmapUpdate := do
  let width ← NonZeroU16.new frame.width.toUInt16
  let height ← NonZeroU16.new frame.height.toUInt16
  let stride ← NonZeroUsize.new frame.stride
  return { x := 0, y := 0, width, height, data := frame.data, stride }

/-- `compute_letterbox_rect` as `(x, y, width, height)`, for non-zero sizes.
`f64::round` takes halves upwards here since nothing is negative, and `& !1`
clears the lowest bit. -/
def computeLetterboxRect (fl : Rounding 53) (srcW srcH dstW dstH : Nat) : Rect :=
  let srcRatio := fl.div srcW srcH
  let dstRatio := fl.div dstW dstH
  if |fl.sub srcRatio dstRatio| < fl.round (1 / 1000) then ⟨0, 0, dstW, dstH⟩
  else if srcRatio > dstRatio then
    let scaledH := (round (fl.div dstW srcRatio)).toNat / 2 * 2
    ⟨0, (dstH - scaledH) / 2, dstW, scaledH⟩
  else
    let scaledW := (round (fl.mul dstH srcRatio)).toNat / 2 * 2
    ⟨(dstW - scaledW) / 2, 0, scaledW, dstH⟩

/-- `vec![0u8; len]` with byte 3 of every whole chunk of four set to 255. -/
def opaqueBlack (len : Nat) : Bytes :=
  (List.replicate len 0).mapIdx fun index byte =>
    if index % 4 = 3 ∧ index < len / 4 * 4 then 255 else byte

/-- `dst[di..di + 4].copy_from_slice(&src[si..si + 4])`. -/
def copyPixel (dst src : Bytes) (di si : Nat) : Option Bytes :=
  if di + 4 ≤ dst.length ∧ si + 4 ≤ src.length then
    some (dst.take di ++ (src.drop si).take 4 ++ dst.drop (di + 4))
  else none

/-- A `usize` division; `none` is its panic on a zero divisor. -/
def divide (dividend divisor : Nat) : Option Nat :=
  if divisor = 0 then none else some (dividend / divisor)

/-- The inner loop of `letterbox_bgra`: one row of the letterbox rectangle. -/
def scaleRow (src dst : Bytes) (rect : Rect) (srcW srcRow dstRow : Nat) : Option Bytes :=
  (List.range rect.width).foldlM (fun dst dx => do
    let srcX ← divide (dx * srcW) rect.width
    let si := srcRow + srcX * 4
    let di := dstRow + (rect.x + dx) * 4
    copyPixel dst src di si) dst

/-- `letterbox_bgra`. -/
def letterboxBgra (fl : Rounding 53) (targetSize : DesktopSize) (src : PrevFrame) :
    Option PrevFrame := do
  let dstW := targetSize.width.toNat
  let dstH := targetSize.height.toNat
  let rect := computeLetterboxRect fl src.width src.height dstW dstH
  let dstStride := dstW * 4
  let dst ← (List.range rect.height).foldlM (fun dst dy => do
    let srcY ← divide (dy * src.height) rect.height
    scaleRow src.data dst rect src.width (srcY * src.stride) ((rect.y + dy) * dstStride))
    (opaqueBlack (dstH * dstStride))
  return { data := dst, stride := dstStride, width := dstW, height := dstH }

/-- `needs_crop_scale`. -/
def needsCropScale (aspectMode : AspectMode) (targetSize : DesktopSize) (frameW frameH : Nat) : Bool :=
  if aspectMode ≠ .fit then false
  else frameW != targetSize.width.toNat || frameH != targetSize.height.toNat

/-- The frame `push_frame` shows for a captured one. -/
def transformFrame (fl : Rounding 53) (aspectMode : AspectMode) (targetSize : DesktopSize)
    (src : PrevFrame) : Option PrevFrame :=
  if needsCropScale aspectMode targetSize src.width src.height then
    letterboxBgra fl targetSize src
  else some src

/-- The pipeline: what is queued for the client, and the frame it was last compared with. -/
structure BgraFramePipeline where
  targetSize : DesktopSize
  aspectMode : AspectMode
  prev : Option PrevFrame
  pending : List BitmapUpdate
  deriving DecidableEq, Repr

namespace BgraFramePipeline

/-- `BgraFramePipeline::new` -/
def new (targetSize : DesktopSize) (aspectMode : AspectMode) : BgraFramePipeline :=
  { targetSize, aspectMode, prev := none, pending := [] }

/-- `set_target`: what is queued stays queued. -/
def setTarget (pipeline : BgraFramePipeline) (size : DesktopSize) : BgraFramePipeline :=
  { pipeline with targetSize := size }

@[simp] theorem setTarget_targetSize (pipeline : BgraFramePipeline) (size : DesktopSize) :
    (pipeline.setTarget size).targetSize = size := rfl

/-- `reset`: nothing is queued, and the next frame is sent whole. -/
def reset (pipeline : BgraFramePipeline) : BgraFramePipeline :=
  { pipeline with prev := none, pending := [] }

/-- `pop_update` -/
def popUpdate (pipeline : BgraFramePipeline) : Option BitmapUpdate × BgraFramePipeline :=
  match pipeline.pending with
  | [] => (none, pipeline)
  | update :: rest => (some update, { pipeline with pending := rest })

/-- One iteration of the loop over the dirty rectangles. -/
def queueRect (newBitmap : BitmapUpdate) (pending : List BitmapUpdate) (rect : Rect) :
    Option (List BitmapUpdate) :=
  match NonZeroU16.new rect.width.toUInt16, NonZeroU16.new rect.height.toUInt16 with
  | some rw, some rh =>
    (newBitmap.sub rect.x.toUInt16 rect.y.toUInt16 rw rh).map fun
      | some sub => pending ++ [sub]
      | none => pending
  | _, _ => some pending

/-- The pixels in all rectangles together. -/
def totalDirty (diffs : List Rect) : Nat := (diffs.map fun rect => rect.width * rect.height).sum

/-- `push_frame` from the comparison with the previous frame on. -/
def queueChanges (platform : Platform) (pipeline : BgraFramePipeline) (prev frame : PrevFrame)
    (newBitmap : BitmapUpdate) : Option BgraFramePipeline :=
  let diffs := platform.findDifferentRectsSub prev frame
  let pipeline := { pipeline with prev := some frame }
  if diffs.isEmpty then some pipeline
  -- Large change: the whole frame rather than many small rectangles.
  else if totalDirty diffs > frame.width * frame.height / 2 then
    some { pipeline with pending := pipeline.pending ++ [newBitmap] }
  else
    (diffs.foldlM (queueRect newBitmap) pipeline.pending).map fun pending =>
      { pipeline with pending }

/-- `push_frame`: the frame is transformed to the target and its changes are queued.
`none` where the code would panic. -/
def pushFrame (platform : Platform) (pipeline : BgraFramePipeline) (src : PrevFrame) :
    Option BgraFramePipeline :=
  (transformFrame platform.fl pipeline.aspectMode pipeline.targetSize src).bind fun frame =>
    match makeBitmap frame with
    | none => some pipeline
    | some newBitmap =>
      match pipeline.prev with
      -- First frame or resolution change: full refresh.
      | none => some { pipeline with
          prev := some frame, pending := pipeline.pending ++ [newBitmap] }
      | some prev =>
        if prev.width ≠ frame.width ∨ prev.height ≠ frame.height then
          some { pipeline with prev := some frame, pending := pipeline.pending ++ [newBitmap] }
        else queueChanges platform pipeline prev frame newBitmap

end BgraFramePipeline

/-- A diff that answers in one piece, as tiles larger than both images do. -/
def singleTileDiff (before after : PrevFrame) : List Rect :=
  if ∀ row < after.height, ∀ column < after.width,
      before.picture column row = after.picture column row then []
  else [⟨0, 0, after.width, after.height⟩]

/-- Exact arithmetic and the one-piece diff. -/
def exactPlatform : Platform := ⟨Rounding.exact 53, singleTileDiff⟩

end FramePipeline
end Osxrdp
