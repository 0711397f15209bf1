import Osxrdp.Display
import Osxrdp.Gfx
import Osxrdp.Shutdown
import Osxrdp.SurfaceCommands
import Osxrdp.UpdateFragments

/-! `encoder/mod.rs` under the updates of this server: what changed against the
last known picture of the client is handed to a bitmap updater, piece by piece.
The updaters besides `NoneHandler` are codecs of other crates; the encoder is
generic over them and over `find_different_rects_sub`. -/
namespace Osxrdp.DisplayEncoder
open FramePipeline Display
open FastPath (UpdateCode)
open Raster (Picture Rect)
open Shutdown (RunState)
open SurfaceCommands (ExclusiveRectangle SurfaceBitsPdu SurfaceCommand)
open UpdateFragments (UpdateFragmenter)
open WireEncoding (EncodeError)

/-- An error of the encoder; `join` is a panic in the blocking task. -/
inductive EncoderError where
  | message (text : String)
  | encode (error : EncodeError)
  | join
  deriving DecidableEq, Repr

section Framebuffer

/-- What the client's framebuffer is thought to show. -/
structure Framebuffer where
  width : NonZeroU16
  height : NonZeroU16
  data : Bytes
  stride : Nat
  deriving DecidableEq, Repr

namespace Framebuffer

/-- The image, as it is compared with the next update. -/
def image (framebuffer : Framebuffer) : PrevFrame where
  data := framebuffer.data
  stride := framebuffer.stride
  width := framebuffer.width.val.toNat
  height := framebuffer.height.val.toNat

/-- `BitmapUpdate::try_into`; `none` is a failed assertion. -/
def ofBitmap (bitmap : BitmapUpdate) : Option Framebuffer :=
  if bitmap.x = 0 ∧ bitmap.y = 0 then
    some { width := bitmap.width, height := bitmap.height, data := bitmap.data, stride := bitmap.stride.val }
  else none

/-- One row of `update`, into the bytes from `start` to `stop`. -/
def copyRow (stride start stop : Nat) (bitmap : BitmapUpdate) (data : Bytes) (row : Nat) : Option Bytes :=
  let length := bitmap.width.val.toNat * BitmapUpdate.bytesPerPixel
  (BitmapUpdate.slice bitmap.data (row * bitmap.stride.val) (row * bitmap.stride.val + length)).bind fun src =>
    let dst := start + row * stride
    if dst + length ≤ stop then some (data.take dst ++ src ++ data.drop (dst + length)) else none

/-- `Framebuffer::update`: a whole bitmap is copied into its place. `None` where the code
would panic. -/
def update (framebuffer : Framebuffer) (bitmap : BitmapUpdate) : Option Framebuffer :=
  let start := bitmap.y.toNat * framebuffer.stride + bitmap.x.toNat * BitmapUpdate.bytesPerPixel
  let stop := start + (bitmap.height.val.toNat - 1) * framebuffer.stride +
    bitmap.width.val.toNat * BitmapUpdate.bytesPerPixel
  if stop ≤ framebuffer.data.length then
    ((List.range bitmap.height.val.toNat).foldlM (copyRow framebuffer.stride start stop bitmap) framebuffer.data).map
      fun data => { framebuffer with data }
  else none

/-- `u16::try_from`. -/
def tryU16 (n : Nat) : Option UInt16 := if n < UInt16.size then some n.toUInt16 else none

/-- One step of `update_diffs`: what is no rectangle of the bitmap is left out. -/
def updateDiff (bitmap : BitmapUpdate) (framebuffer : Framebuffer) (diff : Rect) : Option Framebuffer :=
  match tryU16 diff.x, tryU16 diff.y, (tryU16 diff.width).bind NonZeroU16.new,
    (tryU16 diff.height).bind NonZeroU16.new with
  | some x, some y, some width, some height => (bitmap.sub x y width height).bind fun
    | some sub => framebuffer.update sub
    | none => some framebuffer
  | _, _, _, _ => some framebuffer

/-- `Framebuffer::update_diffs`: only the parts that differ are copied. -/
def updateDiffs (framebuffer : Framebuffer) (bitmap : BitmapUpdate) (diffs : List Rect) : Option Framebuffer :=
  diffs.foldlM (updateDiff bitmap) framebuffer

end Framebuffer
end Framebuffer

/-- `find_different_rects_sub::<4>`: two images, the second at a column and a row
of the first. -/
abbrev FindDifferentRectsSub := PrevFrame → PrevFrame → Nat → Nat → List Rect

/-- `BitmapUpdateHandler::handle` with the state of the updater; `none` is a panic. -/
abbrev Handle (σ : Type) := σ → BitmapUpdate → Option (Except EncoderError UpdateFragmenter × σ)

/-- `bitmap_updater` is empty while a bitmap is encoded. -/
structure UpdateEncoder (σ : Type) where
  desktopSize : DesktopSize
  framebuffer : Option Framebuffer
  bitmapUpdater : Option σ
  deriving DecidableEq, Repr

/-- A bitmap as an image of its own. -/
def bitmapImage (bitmap : BitmapUpdate) : PrevFrame where
  data := bitmap.data
  stride := bitmap.stride.val
  width := bitmap.width.val.toNat
  height := bitmap.height.val.toNat

variable {σ : Type}

namespace UpdateEncoder

/-- `UpdateEncoder::new`: nothing is known of what the client shows. -/
def new (desktopSize : DesktopSize) (updater : σ) : UpdateEncoder σ :=
  { desktopSize, framebuffer := none, bitmapUpdater := some updater }

/-- The whole update, as a rectangle of its own. -/
def whole (bitmap : BitmapUpdate) : Rect := ⟨0, 0, bitmap.width.val.toNat, bitmap.height.val.toNat⟩

/-- The parts of a bitmap to be sent: those that the framebuffer does not show, or all of
it when it is unknown or does not fit. -/
def bitmapDiffs (find : FindDifferentRectsSub) (encoder : UpdateEncoder σ) (bitmap : BitmapUpdate) : List Rect :=
  match encoder.framebuffer with
  | some framebuffer => find framebuffer.image (bitmapImage bitmap) bitmap.x.toNat bitmap.y.toNat
  | none => [whole bitmap]

/-- The framebuffer after a bitmap. One that covers the desktop begins a new one. -/
def bitmapUpdateFramebuffer (encoder : UpdateEncoder σ) (bitmap : BitmapUpdate) (diffs : List Rect) :
    Option (UpdateEncoder σ) :=
  if bitmap.x = 0 ∧ bitmap.y = 0 ∧ bitmap.width.val = encoder.desktopSize.width ∧
      bitmap.height.val = encoder.desktopSize.height then
    (Framebuffer.ofBitmap bitmap).map fun framebuffer => { encoder with framebuffer := some framebuffer }
  else match encoder.framebuffer with
    | some framebuffer => (framebuffer.updateDiffs bitmap diffs).map fun framebuffer =>
      { encoder with framebuffer := some framebuffer }
    | none => some encoder

/-- `bitmap`: a panic of the updater is an error of the task it runs in, and the
updater is lost with it. -/
def bitmap (handle : Handle σ) (encoder : UpdateEncoder σ) (bitmap : BitmapUpdate) :
    Option (Except EncoderError UpdateFragmenter × UpdateEncoder σ) :=
  encoder.bitmapUpdater.map fun updater => match handle updater bitmap with
    | none => (.error .join, { encoder with bitmapUpdater := none })
    | some (result, updater) => (result, { encoder with bitmapUpdater := some updater })

end UpdateEncoder

section Iteration

/-- How far an update has been handed out. -/
inductive State where
  | start (update : DisplayUpdate)
  | bitmapDiffs (diffs : List Rect) (bitmap : BitmapUpdate) (pos : Nat)
  | ended
  deriving DecidableEq, Repr

/-- `EncoderIter`: the updates of one display update, made one at a time. -/
structure EncoderIter (σ : Type) where
  encoder : UpdateEncoder σ
  state : State
  deriving DecidableEq, Repr

/-- A coordinate of a command, or the error that names it. -/
def tryCoordinate (name : String) (n : Nat) : Except String UInt16 :=
  match Framebuffer.tryU16 n with
  | some n => .ok n
  | none => .error ("invalid `" ++ name ++ "`: out of range integral conversion")

/-- A length that is not zero, or the error that names it. -/
def tryLength (name : String) (n : Nat) : Except String NonZeroU16 := do
  match NonZeroU16.new (← tryCoordinate name n) with
  | some n => .ok n
  | none => .error ("rectangle " ++ name ++ " cannot be zero")

/-- The `BitmapDiffs` arm of `next`. -/
def nextDiff (handle : Handle σ) (encoder : UpdateEncoder σ) (diffs : List Rect) (bitmap : BitmapUpdate)
    (pos : Nat) : Option (Option (Except EncoderError UpdateFragmenter) × EncoderIter σ) :=
  match diffs[pos]? with
  | none => (encoder.bitmapUpdateFramebuffer bitmap diffs).map fun encoder => (none, ⟨encoder, .ended⟩)
  | some rect =>
    match (do
      let x ← tryCoordinate "x" rect.x
      let y ← tryCoordinate "y" rect.y
      let width ← tryLength "width" rect.width
      let height ← tryLength "height" rect.height
      return (x, y, width, height)) with
    | .error text => some (some (.error (.message text)), ⟨encoder, .ended⟩)
    | .ok (x, y, width, height) => (bitmap.sub x y width height).bind fun
      | none => some (none, ⟨encoder, .ended⟩)
      | some sub => (encoder.bitmap handle sub).map fun (result, encoder) =>
        (some result, ⟨encoder, .bitmapDiffs diffs bitmap (pos + 1)⟩)

/-- `EncoderIter::next`; the outer `none` is a panic. -/
def EncoderIter.next (handle : Handle σ) (find : FindDifferentRectsSub) (iter : EncoderIter σ) :
    Option (Option (Except EncoderError UpdateFragmenter) × EncoderIter σ) :=
  match iter.state with
  | .start (.bitmap bitmap) => nextDiff handle iter.encoder (iter.encoder.bitmapDiffs find bitmap) bitmap 0
  | .bitmapDiffs diffs bitmap pos => nextDiff handle iter.encoder diffs bitmap pos
  | .start (.resize _) | .start (.avc420 _) | .ended => some (none, { iter with state := .ended })

/-- How many updates an iteration can still give. -/
def EncoderIter.left (find : FindDifferentRectsSub) (iter : EncoderIter σ) : Nat :=
  match iter.state with
  | .start (.bitmap bitmap) => (iter.encoder.bitmapDiffs find bitmap).length
  | .bitmapDiffs diffs _ pos => diffs.length - pos
  | .start (.resize _) | .start (.avc420 _) | .ended => 0

/-- The loop of `dispatch_display_update`: what is sent, and how it ends. -/
def EncoderIter.drain (handle : Handle σ) (find : FindDifferentRectsSub) : Nat → EncoderIter σ →
    Option (List UpdateFragmenter × Except EncoderError (UpdateEncoder σ))
  | 0, iter => (iter.next handle find).map fun (_, iter) => ([], .ok iter.encoder)
  | fuel + 1, iter => (iter.next handle find).bind fun
    | (none, iter) => some ([], .ok iter.encoder)
    | (some (.error error), _) => some ([], .error error)
    | (some (.ok fragmenter), iter) => (drain handle find fuel iter).map fun (later, result) =>
      (fragmenter :: later, result)

/-- `dispatch_display_update`, up to the writing of the fragments. -/
def dispatchDisplayUpdate (handle : Handle σ) (find : FindDifferentRectsSub) (encoder : UpdateEncoder σ)
    (update : DisplayUpdate) : Option (List UpdateFragmenter × Except EncoderError (RunState × UpdateEncoder σ)) :=
  match update with
  | .resize desktopSize =>
    some ([], .ok (.deactivationReactivation desktopSize, { encoder with desktopSize }))
  | .avc420 _ => some ([], .ok (.continue, encoder))
  | .bitmap bitmap =>
    let iter : EncoderIter σ := ⟨encoder, .start (.bitmap bitmap)⟩
    (iter.drain handle find (iter.left find)).map fun (sent, result) =>
      (sent, result.map fun encoder => (.continue, encoder))

end Iteration

section NoneHandler

/-- `slice::chunks`: pieces of one length, the last perhaps shorter. -/
def chunks (size : Nat) (data : Bytes) : List Bytes :=
  (List.range ((data.length + size - 1) / size)).map fun index => (data.drop (index * size)).take size

/-- The command of a bitmap in place. -/
def setSurfaceCommand (bitmap : BitmapUpdate) (codecId : UInt8) (data : Bytes) : SurfaceCommand :=
  .setSurfaceBits {
    destination := {
      left := bitmap.x
      top := bitmap.y
      right := bitmap.x + bitmap.width.val
      bottom := bitmap.y + bitmap.height.val }
    extendedBitmapData := {
      bpp := 32
      width := bitmap.width.val
      height := bitmap.height.val
      codecId
      header := none
      data } }

/-- `set_surface`: the command is written to a buffer that `encode_vec` makes. -/
def setSurface (encodeVec : Gfx.EncodeVec) (bitmap : BitmapUpdate) (codecId : UInt8) (data : Bytes) :
    Option (Except EncoderError UpdateFragmenter) :=
  let cmd := setSurfaceCommand bitmap codecId data
  (encodeVec cmd.size cmd.encode).map fun
    | .ok bytes => .ok (.new .surfaceCommands bytes)
    | .error error => .error (.encode error)

/-- The rows of the bitmap from the last to the first, without their padding. -/
def bottomUp (bitmap : BitmapUpdate) : Option (List Bytes) :=
  let stride := BitmapUpdate.bytesPerPixel * bitmap.width.val.toNat
  (chunks bitmap.stride.val bitmap.data).reverse.mapM fun row =>
    if stride ≤ row.length then some (row.take stride) else none

/-- `NoneHandler::handle`, which keeps no state. -/
def noneHandle (encodeVec : Gfx.EncodeVec) : Handle Unit := fun _ bitmap =>
  (bottomUp bitmap).bind fun rows => (setSurface encodeVec bitmap 0 rows.flatten).map fun result => (result, ())

end NoneHandler
end Osxrdp.DisplayEncoder
