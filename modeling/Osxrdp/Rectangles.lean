import Osxrdp.Gfx
import Osxrdp.WireDecoding

/-! `geometry.rs`: how a rectangle lies on the wire. -/
namespace Osxrdp.Rectangles
open Gfx (InclusiveRectangle)
open Bytes (littleEndian)
open WireDecoding (Decoding)
open WireDecoding.Decoding
open WireEncoding (Encoding)

/-- `InclusiveRectangle::decode` -/
def InclusiveRectangle.decode : Decoding InclusiveRectangle := do
  ensureSize 8
  let left ← readU16
  let top ← readU16
  let right ← readU16
  let bottom ← readU16
  return { left, top, right, bottom }

/-- What `encode` writes of a rectangle. -/
def rectangleBytes (rectangle : InclusiveRectangle) : Bytes :=
  littleEndian 2 rectangle.left.toNat ++ (littleEndian 2 rectangle.top.toNat ++
    (littleEndian 2 rectangle.right.toNat ++ littleEndian 2 rectangle.bottom.toNat))

@[simp] theorem rectangleBytes_length (rectangle : InclusiveRectangle) :
    (rectangleBytes rectangle).length = 8 := by
  simp [rectangleBytes]

/-- A rectangle takes eight bytes. -/
theorem rectangle_writes (rectangle : InclusiveRectangle) :
    rectangle.encode.Writes (rectangleBytes rectangle) := by
  have written : (InclusiveRectangle.encode rectangle).Writes
      (Gfx.littleEndian16 rectangle.left ++ Gfx.littleEndian16 rectangle.top ++
        Gfx.littleEndian16 rectangle.right ++ Gfx.littleEndian16 rectangle.bottom) :=
    (Encoding.write_writes _).ensureSize _ (Nat.le_refl 8)
  simp only [rectangleBytes, Bytes.littleEndian_two]
  exact written

/-- A rectangle is read back. -/
theorem rectangle_reads (rectangle : InclusiveRectangle) :
    Reads InclusiveRectangle.decode (rectangleBytes rectangle) rectangle := by
  apply Reads.ensureSize _ (by simp)
  exact (readU16_reads _).bind ((readU16_reads _).bind ((readU16_reads _).bind ((readU16_reads _).map _)))

/-- A rectangle is read without a panic. -/
theorem rectangle_safe : SafeFrom 0 InclusiveRectangle.decode :=
  ensureSize_safe (readU16_takes.bind_safe 6 fun _ => readU16_takes.bind_safe 4 fun _ =>
    readU16_takes.bind_safe 2 fun _ => (readU16_takes.map _).safe)

end Osxrdp.Rectangles
