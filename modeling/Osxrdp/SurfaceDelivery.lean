import Osxrdp.EncoderConvergence

/-! `NoneHandler` and `set_surface`: raw pixels, from the last row to the first. A
client that decodes the command has the pixels of the part that was encoded. -/
namespace Osxrdp.SurfaceDelivery
open FramePipeline
open DisplayEncoder
open EncoderConvergence (EncodesParts OnDesktop)
open Framebuffers (Readable nonzero_pos)
open Raster (Patch Picture paint)
open SurfaceCommands (SurfaceBitsPdu SurfaceCommand decodeCommands)
open UpdateFragments (Message UpdateFragmenter)
open WireEncoding (Encoding)

section Rows
variable {rows : List Bytes} {n : Nat}

/-- Bytes of one row, out of rows of one length. -/
theorem flatten_row (uniform : ∀ row ∈ rows, row.length = n) {index offset count : Nat} {row : Bytes}
    (there : rows[index]? = some row) (within : offset + count ≤ n) :
    (rows.flatten.drop (index * n + offset)).take count = (row.drop offset).take count := by
  induction rows generalizing index with
  | nil => cases there
  | cons first rest ih =>
    have length := uniform first (by simp)
    cases index with
    | zero =>
      cases there
      rw [Nat.zero_mul, Nat.zero_add, List.flatten_cons, List.drop_append_of_le_length (by omega),
        List.take_append_of_le_length (by rw [List.length_drop]; omega)]
    | succ index =>
      have place : (index + 1) * n + offset = first.length + (index * n + offset) := by
        rw [Nat.succ_mul, length]
        omega
      rw [place, List.flatten_cons, ← List.drop_drop, List.drop_left]
      exact ih (fun row member => uniform row (List.mem_cons_of_mem _ member)) there

variable {bitmap : BitmapUpdate}

/-- The row of a bitmap, without its padding. -/
def pixelRow (bitmap : BitmapUpdate) (row : Nat) : Bytes :=
  (bitmap.data.drop (row * bitmap.stride.val)).take (4 * bitmap.width.val.toNat)

private theorem pixelRow_length (readable : Readable bitmap) {row : Nat} (inside : row < bitmap.height.val.toNat) :
    (pixelRow bitmap row).length = 4 * bitmap.width.val.toNat := by
  have rowLe : row * bitmap.stride.val ≤ bitmap.stride.val * (bitmap.height.val.toNat - 1) := by
    rw [Nat.mul_comm]
    exact Nat.mul_le_mul_left _ (by omega)
  have dataLe := readable.data_le
  rw [pixelRow, List.length_take, List.length_drop]
  omega

/-- Data that end with the last pixel have as many chunks as rows. -/
theorem chunk_count (readable : Readable bitmap)
    (exact_data : bitmap.data.length =
      bitmap.stride.val * (bitmap.height.val.toNat - 1) + 4 * bitmap.width.val.toNat) :
    (bitmap.data.length + bitmap.stride.val - 1) / bitmap.stride.val = bitmap.height.val.toNat := by
  have strideLe := readable.stride_le
  have width := nonzero_pos bitmap.width
  have height := nonzero_pos bitmap.height
  have whole : bitmap.data.length + bitmap.stride.val - 1 =
      4 * bitmap.width.val.toNat - 1 + bitmap.stride.val * bitmap.height.val.toNat := by
    obtain ⟨rows, rowsEq⟩ : ∃ rows, bitmap.height.val.toNat = rows + 1 := ⟨bitmap.height.val.toNat - 1, by omega⟩
    rw [exact_data, rowsEq, Nat.add_sub_cancel, Nat.mul_succ]
    omega
  rw [whole, Nat.add_mul_div_left _ _ (by omega), Nat.div_eq_of_lt (by omega), Nat.zero_add]

private theorem bottomUp_rows (readable : Readable bitmap)
    (exact_data : bitmap.data.length =
      bitmap.stride.val * (bitmap.height.val.toNat - 1) + 4 * bitmap.width.val.toNat) :
    bottomUp bitmap = some ((List.range bitmap.height.val.toNat).reverse.map (pixelRow bitmap)) := by
  have strideLe := readable.stride_le
  rw [bottomUp, chunks, chunk_count readable exact_data, ← List.map_reverse, List.mapM_map]
  apply Framing.mapM_of_forall
  intro row member
  have inside : row < bitmap.height.val.toNat := List.mem_range.mp (List.mem_reverse.mp member)
  have length := pixelRow_length readable inside
  rw [pixelRow, List.length_take] at length
  have fits : BitmapUpdate.bytesPerPixel * bitmap.width.val.toNat ≤
      ((bitmap.data.drop (row * bitmap.stride.val)).take bitmap.stride.val).length := by
    rw [List.length_take, BitmapUpdate.bytesPerPixel]
    omega
  simp only [Function.comp_apply]
  rw [if_pos fits, List.take_take, Nat.min_eq_left (by rw [BitmapUpdate.bytesPerPixel]; exact strideLe)]
  rfl

end Rows

section Client

/-- Raw bits as a client paints them: four bytes a pixel, the last row first. -/
def rawPatch (pdu : SurfaceBitsPdu) : Patch Bytes where
  rect := ⟨pdu.destination.left.toNat, pdu.destination.top.toNat,
    pdu.destination.right.toNat - pdu.destination.left.toNat,
    pdu.destination.bottom.toNat - pdu.destination.top.toNat⟩
  pixel column row := pixelAt pdu.extendedBitmapData.data (4 * pdu.extendedBitmapData.width.toNat) column
    (pdu.extendedBitmapData.height.toNat - 1 - row)

/-- A client that knows raw bits; frame markers do not draw. -/
def applyCommand (picture : Picture Bytes) : SurfaceCommand → Option (Picture Bytes)
  | .setSurfaceBits pdu | .streamSurfaceBits pdu =>
    if pdu.extendedBitmapData.codecId = 0 ∧ pdu.extendedBitmapData.bpp = 32
    then some (paint (rawPatch pdu) picture) else none
  | .frameMarker _ => some picture

/-- Packets and pointers leave the picture as it is; other drawing orders are not understood. -/
def applyMessage (picture : Picture Bytes) : Message → Option (Picture Bytes)
  | .packet _ => some picture
  | .update .surfaceCommands data => match decodeCommands data with
    | some (.ok (commands, [])) => commands.foldlM applyCommand picture
    | _ => none
  | .update .orders _ | .update .bitmap _ | .update .palette _ | .update .synchronize _ => none
  | .update _ _ => some picture

/-- The update of a fragmenter carries the picture of a bitmap. -/
def Carries (fragmenter : UpdateFragmenter) (bitmap : BitmapUpdate) : Prop :=
  fragmenter.data ≠ [] ∧ ∀ picture,
    applyMessage picture (.update fragmenter.code fragmenter.data) = some (paint bitmap.patch picture)

variable {bitmap : BitmapUpdate} {encodeVec : Gfx.EncodeVec} {size : DesktopSize}

/-- The rows as they are sent. -/
def sentRows (bitmap : BitmapUpdate) : List Bytes :=
  (List.range bitmap.height.val.toNat).reverse.map (pixelRow bitmap)

private theorem sentRows_uniform (readable : Readable bitmap) :
    ∀ row ∈ sentRows bitmap, row.length = 4 * bitmap.width.val.toNat := by
  intro row member
  obtain ⟨index, listed, rfl⟩ := List.mem_map.mp member
  exact pixelRow_length readable (List.mem_range.mp (List.mem_reverse.mp listed))

private theorem sentRows_length (readable : Readable bitmap) :
    (sentRows bitmap).flatten.length = bitmap.height.val.toNat * (4 * bitmap.width.val.toNat) := by
  have lengths : (sentRows bitmap).map List.length =
      List.replicate bitmap.height.val.toNat (4 * bitmap.width.val.toNat) := by
    rw [List.eq_replicate_iff]
    refine ⟨by simp [sentRows], fun length member => ?_⟩
    obtain ⟨row, listed, rfl⟩ := List.mem_map.mp member
    exact sentRows_uniform readable row listed
  rw [List.length_flatten, lengths, List.sum_replicate_nat]

/-- A row stands as far from the end as it does from the start in the bitmap. -/
theorem sentRows_getElem {row : Nat} (inside : row < bitmap.height.val.toNat) :
    (sentRows bitmap)[bitmap.height.val.toNat - 1 - row]? = some (pixelRow bitmap row) := by
  have place : bitmap.height.val.toNat - 1 - (bitmap.height.val.toNat - 1 - row) = row := by omega
  rw [sentRows, List.getElem?_map, List.getElem?_reverse (by rw [List.length_range]; omega), List.length_range,
    place, List.getElem?_range inside]
  rfl

/-- What the client paints for the rows is the picture of the bitmap. -/
theorem rows_paint (readable : Readable bitmap) (picture : Picture Bytes) :
    applyCommand picture (setSurfaceCommand bitmap 0 (sentRows bitmap).flatten) =
      some (paint bitmap.patch picture) := by
  have rightLe := readable.right_le
  have bottomLe := readable.bottom_le
  have right : (bitmap.x + bitmap.width.val).toNat = bitmap.x.toNat + bitmap.width.val.toNat := by
    rw [UInt16.toNat_add]
    exact Nat.mod_eq_of_lt (by omega)
  have bottom : (bitmap.y + bitmap.height.val).toNat = bitmap.y.toNat + bitmap.height.val.toNat := by
    rw [UInt16.toNat_add]
    exact Nat.mod_eq_of_lt (by omega)
  simp only [applyCommand, setSurfaceCommand, and_self, if_true, Option.some.injEq]
  funext column row
  have place : ∀ pixel : Picture Bytes, (⟨⟨bitmap.x.toNat, bitmap.y.toNat,
      (bitmap.x + bitmap.width.val).toNat - bitmap.x.toNat,
      (bitmap.y + bitmap.height.val).toNat - bitmap.y.toNat⟩, pixel⟩ : Patch Bytes) = ⟨bitmap.patch.rect, pixel⟩ := by
    intro pixel
    rw [right, bottom, Nat.add_sub_cancel_left, Nat.add_sub_cancel_left]
    rfl
  rw [rawPatch, place]
  unfold paint
  by_cases contains : bitmap.patch.rect.Contains column row
  · rw [if_pos contains, if_pos contains]
    simp only [BitmapUpdate.patch, Raster.Rect.Contains] at contains ⊢
    have there := @sentRows_getElem bitmap (row - bitmap.y.toNat) (by omega)
    have within : (column - bitmap.x.toNat) * 4 + 4 ≤ 4 * bitmap.width.val.toNat := by omega
    rw [pixelAt, flatten_row (sentRows_uniform readable) there within, pixelRow, List.drop_take, List.take_take,
      Nat.min_eq_left (by omega), List.drop_drop, pixelAt]
  · rw [if_neg contains, if_neg contains]

/-- `NoneHandler` carries every part of a desktop whose pixels fit the length of a bitmap. -/
theorem noneHandle_carries (allocates : Gfx.Allocates encodeVec)
    (fits : 4 * (size.width.toNat * size.height.toNat) < UInt32.size) :
    EncodesParts size (noneHandle encodeVec) Carries := by
  intro updater bitmap onDesktop exact_data
  have rows := bottomUp_rows onDesktop.readable exact_data
  have small : (sentRows bitmap).flatten.length < UInt32.size := by
    have right := onDesktop.right
    have bottom := onDesktop.bottom
    have area : bitmap.height.val.toNat * bitmap.width.val.toNat ≤ size.height.toNat * size.width.toNat :=
      Nat.mul_le_mul (by omega) (by omega)
    rw [Nat.mul_comm size.height.toNat] at area
    rw [sentRows_length onDesktop.readable, Nat.mul_left_comm]
    omega
  obtain ⟨command, commandEq⟩ : ∃ command, command = setSurfaceCommand bitmap 0 (sentRows bitmap).flatten := ⟨_, rfl⟩
  have commandFits : command.Fits := by
    rw [commandEq]
    exact small
  have written := SurfaceCommand.encode_writes commandFits command.size (Nat.le_of_eq command.bytes_length)
  have encoded := allocates command.size command.encode command.bytes written command.bytes_length
  have decoded := SurfaceCommands.decodeCommands_reads (List.forall_mem_singleton.mpr commandFits)
  rw [List.flatMap_singleton] at decoded
  refine ⟨.new .surfaceCommands command.bytes, (), ?_, ?_, fun picture => ?_⟩
  · simp only [noneHandle, rows, Option.bind_some, setSurface]
    rw [← sentRows, ← commandEq, encoded]
    rfl
  · apply List.ne_nil_of_length_pos
    have := command.size_ge
    simp only [UpdateFragmenter.new, command.bytes_length]
    omega
  · have painted := rows_paint onDesktop.readable picture
    rw [← commandEq] at painted
    have received : command.received = command := by
      rw [commandEq]
      rfl
    simp only [UpdateFragmenter.new, applyMessage, decoded, List.map_cons, List.map_nil, received, List.foldlM_cons,
      List.foldlM_nil, painted]
    rfl

end Client
end Osxrdp.SurfaceDelivery
