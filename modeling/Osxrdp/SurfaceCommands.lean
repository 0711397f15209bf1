import Mathlib.Algebra.BigOperators.Group.List.Basic
import Osxrdp.FastPath

/-! `surface_commands/mod.rs`: the commands that carry the bits of a surface, and
the markers around a frame. A list of them is read back from its encoding; only
a marker without a number comes back with number zero. -/
namespace Osxrdp.SurfaceCommands
open Bytes (littleEndian littleEndian_length)
open WireDecoding (Decoding)
open WireDecoding.Decoding
open WireEncoding (Encoding)

/-- A rectangle without its right and bottom edges. -/
structure ExclusiveRectangle where
  left : UInt16
  top : UInt16
  right : UInt16
  bottom : UInt16
  deriving DecidableEq, Repr

/-- The header of a bitmap that has one. -/
structure BitmapDataHeader where
  highUniqueId : UInt32
  lowUniqueId : UInt32
  tmMilliseconds : UInt64
  tmSeconds : UInt64
  deriving DecidableEq, Repr

/-- The data of a bitmap. -/
structure ExtendedBitmapDataPdu where
  bpp : UInt8
  codecId : UInt8
  width : UInt16
  height : UInt16
  header : Option BitmapDataHeader
  data : Bytes
  deriving DecidableEq, Repr

/-- Bits for a part of the screen. -/
structure SurfaceBitsPdu where
  destination : ExclusiveRectangle
  extendedBitmapData : ExtendedBitmapDataPdu
  deriving DecidableEq, Repr

/-- `Begin` and `End`. -/
inductive FrameAction where
  | start
  | stop
  deriving DecidableEq, Repr

/-- A mark for the start or the end of a frame. -/
structure FrameMarkerPdu where
  frameAction : FrameAction
  frameId : Option UInt32
  deriving DecidableEq, Repr

/-- A command for the screen. -/
inductive SurfaceCommand where
  | setSurfaceBits (pdu : SurfaceBitsPdu)
  | frameMarker (pdu : FrameMarkerPdu)
  | streamSurfaceBits (pdu : SurfaceBitsPdu)
  deriving DecidableEq, Repr

section Encode

def ExclusiveRectangle.bytes (rectangle : ExclusiveRectangle) : Bytes :=
  littleEndian 2 rectangle.left.toNat ++ (littleEndian 2 rectangle.top.toNat ++
    (littleEndian 2 rectangle.right.toNat ++ littleEndian 2 rectangle.bottom.toNat))

def ExclusiveRectangle.encode (rectangle : ExclusiveRectangle) : Encoding :=
  .ensureSize "ExclusiveRectangle" 8 <| .write rectangle.bytes

def BitmapDataHeader.bytes (header : BitmapDataHeader) : Bytes :=
  littleEndian 4 header.highUniqueId.toNat ++ (littleEndian 4 header.lowUniqueId.toNat ++
    (littleEndian 8 header.tmMilliseconds.toNat ++ littleEndian 8 header.tmSeconds.toNat))

def BitmapDataHeader.encode (header : BitmapDataHeader) : Encoding :=
  .ensureSize "TS_COMPRESSED_BITMAP_HEADER_EX" 24 <| .write header.bytes

namespace ExtendedBitmapDataPdu

def size (pdu : ExtendedBitmapDataPdu) : Nat := 12 + (if pdu.header.isSome then 24 else 0) + pdu.data.length

/-- The flag that a header is present. -/
def flags (pdu : ExtendedBitmapDataPdu) : UInt8 := if pdu.header.isSome then 0x01 else 0

/-- What is in front of the data. -/
def fixedBytes (pdu : ExtendedBitmapDataPdu) : Bytes :=
  [pdu.bpp] ++ ([pdu.flags] ++ ([0] ++ ([pdu.codecId] ++ (littleEndian 2 pdu.width.toNat ++
    (littleEndian 2 pdu.height.toNat ++ littleEndian 4 pdu.data.length)))))

/-- `ExtendedBitmapDataPdu::encode` -/
def encode (pdu : ExtendedBitmapDataPdu) : Encoding :=
  .ensureSize "TS_BITMAP_DATA_EX" pdu.size <|
    if pdu.data.length < UInt32.size then
      .andThen (.write pdu.fixedBytes) <|
        .andThen (match pdu.header with
          | some header => header.encode
          | none => .write []) (.write pdu.data)
    else .fail (.invalidField "bitmap data length")

end ExtendedBitmapDataPdu

namespace SurfaceBitsPdu

def size (pdu : SurfaceBitsPdu) : Nat := 8 + pdu.extendedBitmapData.size

def encode (pdu : SurfaceBitsPdu) : Encoding :=
  .andThen pdu.destination.encode pdu.extendedBitmapData.encode

end SurfaceBitsPdu

def FrameAction.asU16 : FrameAction → UInt16
  | .start => 0x00
  | .stop => 0x01

def FrameMarkerPdu.bytes (pdu : FrameMarkerPdu) : Bytes :=
  littleEndian 2 pdu.frameAction.asU16.toNat ++ littleEndian 4 (pdu.frameId.getD 0).toNat

def FrameMarkerPdu.encode (pdu : FrameMarkerPdu) : Encoding :=
  .ensureSize "TS_FRAME_MARKER_PDU" 6 <| .write pdu.bytes

namespace SurfaceCommand

def cmdType : SurfaceCommand → UInt16
  | .setSurfaceBits _ => 0x01
  | .frameMarker _ => 0x04
  | .streamSurfaceBits _ => 0x06

def size : SurfaceCommand → Nat
  | .setSurfaceBits pdu | .streamSurfaceBits pdu => 2 + pdu.size
  | .frameMarker _ => 2 + 6

/-- `SurfaceCommand::encode` -/
def encode (command : SurfaceCommand) : Encoding :=
  .ensureSize "TS_SURFCMD" command.size <|
    .andThen (.write (littleEndian 2 command.cmdType.toNat)) <|
      match command with
      | .setSurfaceBits pdu | .streamSurfaceBits pdu => pdu.encode
      | .frameMarker pdu => pdu.encode

end SurfaceCommand

/-- `FastPathUpdate::encode` of a list of commands. -/
def encodeCommands (commands : List SurfaceCommand) : Encoding :=
  .ensureSize "TS_FP_UPDATE data" (commands.map SurfaceCommand.size).sum <|
    .all (commands.map SurfaceCommand.encode)

end Encode

section Decode

def ExclusiveRectangle.decode : Decoding ExclusiveRectangle := do
  ensureSize 8
  let left ← readU16
  let top ← readU16
  let right ← readU16
  let bottom ← readU16
  return { left, top, right, bottom }

def BitmapDataHeader.decode : Decoding BitmapDataHeader := do
  ensureSize 24
  let highUniqueId ← readU32
  let lowUniqueId ← readU32
  let tmMilliseconds ← readU64
  let tmSeconds ← readU64
  return { highUniqueId, lowUniqueId, tmMilliseconds, tmSeconds }

/-- The part of the bitmap data that the length of the rest is known from. -/
structure BitmapDataPrefix where
  bpp : UInt8
  headerPresent : Bool
  codecId : UInt8
  width : UInt16
  height : UInt16
  dataLength : Nat

/-- What is read before the data. -/
def BitmapDataPrefix.decode : Decoding BitmapDataPrefix := do
  ensureSize 12
  let bpp ← readU8
  let flags ← readU8
  let _reserved ← readU8
  let codecId ← readU8
  let width ← readU16
  let height ← readU16
  let dataLength ← readU32
  return { bpp, headerPresent := flags &&& 0x01 ≠ 0, codecId, width, height, dataLength := dataLength.toNat }

def decodeHeader (present : Bool) : Decoding (Option BitmapDataHeader) :=
  if present then (do return some (← BitmapDataHeader.decode)) else pure none

/-- `ExtendedBitmapDataPdu::decode` -/
def ExtendedBitmapDataPdu.decode : Decoding ExtendedBitmapDataPdu := do
  let fixed ← BitmapDataPrefix.decode
  ensureSize (if fixed.headerPresent then fixed.dataLength + 24 else fixed.dataLength)
  let header ← decodeHeader fixed.headerPresent
  let data ← readSlice fixed.dataLength
  return { bpp := fixed.bpp, codecId := fixed.codecId, width := fixed.width, height := fixed.height, header, data }

def SurfaceBitsPdu.decode : Decoding SurfaceBitsPdu := do
  let destination ← ExclusiveRectangle.decode
  let extendedBitmapData ← ExtendedBitmapDataPdu.decode
  return { destination, extendedBitmapData }

def FrameAction.fromU16 : UInt16 → Option FrameAction
  | 0x00 => some .start
  | 0x01 => some .stop
  | _ => none

/-- Some servers leave the number of the frame out at the end of their data. -/
def FrameMarkerPdu.decodeFrameId : Decoding (Option UInt32) := fun src =>
  if src.isEmpty then some (.ok (none, src))
  else (do
    ensureSize 4
    return some (← readU32)) src

/-- `FrameMarkerPdu::decode`: the id may be left out. -/
def FrameMarkerPdu.decode : Decoding FrameMarkerPdu := do
  ensureSize 2
  let frameAction ← readU16
  match FrameAction.fromU16 frameAction with
  | none => fail (.invalidField "frameAction" "invalid frame action")
  | some frameAction =>
    let frameId ← decodeFrameId
    return { frameAction, frameId }

/-- `SurfaceCommand::decode` -/
def SurfaceCommand.decode : Decoding SurfaceCommand := do
  ensureSize 2
  let cmdType ← readU16
  match cmdType with
  | 0x01 => return .setSurfaceBits (← SurfaceBitsPdu.decode)
  | 0x04 => return .frameMarker (← FrameMarkerPdu.decode)
  | 0x06 => return .streamSurfaceBits (← SurfaceBitsPdu.decode)
  | _ => fail (.invalidField "cmdType" "invalid surface command")

/-- `FastPathUpdate::decode_with_code` of surface commands. A command takes at
least the two bytes of its type, so the length of the data bounds their number. -/
def decodeCommands (data : Bytes) : Option (Except WireDecoding.DecodeError (List SurfaceCommand × Bytes)) :=
  whileLeft 2 SurfaceCommand.decode data.length data

end Decode

section RoundTrip

theorem ExclusiveRectangle.encode_writes (rectangle : ExclusiveRectangle) :
    Encoding.Writes rectangle.encode rectangle.bytes :=
  (Encoding.write_writes _).ensureSize _ (by simp [bytes, littleEndian_length])

/-- A rectangle is read back. -/
theorem ExclusiveRectangle.decode_reads (rectangle : ExclusiveRectangle) :
    Reads ExclusiveRectangle.decode rectangle.bytes rectangle := by
  apply Reads.ensureSize
  · exact (readU16_reads _).bind ((readU16_reads _).bind ((readU16_reads _).bind ((readU16_reads _).map _)))
  · simp [bytes, littleEndian_length]

theorem BitmapDataHeader.bytes_length (header : BitmapDataHeader) : header.bytes.length = 24 := by
  simp [bytes, littleEndian_length]

/-- A header is read back. -/
theorem BitmapDataHeader.decode_reads (header : BitmapDataHeader) :
    Reads BitmapDataHeader.decode header.bytes header := by
  apply Reads.ensureSize
  · exact (readU32_reads _).bind ((readU32_reads _).bind ((readU64_reads _).bind ((readU64_reads _).map _)))
  · rw [bytes_length]

namespace ExtendedBitmapDataPdu
variable {pdu : ExtendedBitmapDataPdu}

def headerBytes (pdu : ExtendedBitmapDataPdu) : Bytes :=
  match pdu.header with
  | some header => header.bytes
  | none => []

/-- What `encode` writes of a bitmap's data. -/
def bytes (pdu : ExtendedBitmapDataPdu) : Bytes := pdu.fixedBytes ++ (pdu.headerBytes ++ pdu.data)

private theorem fixedBytes_length (pdu : ExtendedBitmapDataPdu) : pdu.fixedBytes.length = 12 := by
  simp [fixedBytes, littleEndian_length]

theorem headerBytes_length (pdu : ExtendedBitmapDataPdu) :
    pdu.headerBytes.length = if pdu.header.isSome then 24 else 0 := by
  unfold headerBytes
  cases pdu.header with
  | none => rfl
  | some header => exact header.bytes_length

/-- The data takes its size. -/
theorem bytes_length (pdu : ExtendedBitmapDataPdu) : pdu.bytes.length = pdu.size := by
  rw [bytes, size, List.length_append, List.length_append, fixedBytes_length, headerBytes_length, Nat.add_assoc]

/-- What `encode` writes, where the length fits. -/
theorem encode_writes (fits : pdu.data.length < UInt32.size) : Encoding.Writes pdu.encode pdu.bytes := by
  apply Encoding.Writes.ensureSize
  · rw [if_pos fits]
    apply (Encoding.write_writes _).andThen
    refine Encoding.Writes.andThen ?_ (Encoding.write_writes _)
    unfold headerBytes
    cases pdu.header with
    | none => exact Encoding.write_writes _
    | some header => exact (Encoding.write_writes _).ensureSize _ (Nat.le_of_eq header.bytes_length.symm)
  · rw [bytes_length]

/-- What is known of a bitmap before its header and its data. -/
def start (pdu : ExtendedBitmapDataPdu) : BitmapDataPrefix where
  bpp := pdu.bpp
  headerPresent := pdu.header.isSome
  codecId := pdu.codecId
  width := pdu.width
  height := pdu.height
  dataLength := pdu.data.length

private theorem start_reads (fits : pdu.data.length < UInt32.size) :
    Reads BitmapDataPrefix.decode pdu.fixedBytes pdu.start := by
  have value : pdu.data.length.toUInt32.toNat = pdu.data.length := UInt32.toNat_ofNat_of_lt' fits
  have length := readU32_reads pdu.data.length.toUInt32
  rw [value] at length
  have present : decide (pdu.flags &&& 0x01 ≠ 0) = pdu.header.isSome := by
    unfold flags
    cases pdu.header.isSome <;> decide
  apply Reads.ensureSize
  · refine (readU8_reads _).bind ((readU8_reads _).bind ((readU8_reads _).bind ((readU8_reads _).bind
      ((readU16_reads _).bind ((readU16_reads _).bind ?_)))))
    have last := length.map fun dataLength => BitmapDataPrefix.mk pdu.bpp (pdu.flags &&& 0x01 ≠ 0) pdu.codecId
      pdu.width pdu.height dataLength.toNat
    rw [value, present] at last
    simp only [present]
    exact last
  · rw [fixedBytes_length]

theorem header_reads (pdu : ExtendedBitmapDataPdu) :
    Reads (decodeHeader pdu.header.isSome) pdu.headerBytes pdu.header := by
  unfold headerBytes
  cases pdu.header with
  | none => exact pure_reads none
  | some header => exact header.decode_reads.map some

/-- Data whose length fits is read back. -/
theorem decode_reads (fits : pdu.data.length < UInt32.size) : Reads decode pdu.bytes pdu := by
  apply (start_reads fits).bind
  apply Reads.ensureSize
  · exact (header_reads pdu).bind ((readSlice_reads pdu.data).map _)
  · have same : ∀ present : Bool, (if present then pdu.data.length + 24 else pdu.data.length) =
        (if present then 24 else 0) + pdu.data.length := by
      intro present
      cases present with
      | false => exact (Nat.zero_add _).symm
      | true => exact Nat.add_comm ..
    rw [List.length_append, headerBytes_length]
    exact Nat.le_of_eq (same pdu.header.isSome)

end ExtendedBitmapDataPdu

namespace SurfaceBitsPdu
variable {pdu : SurfaceBitsPdu}

def bytes (pdu : SurfaceBitsPdu) : Bytes := pdu.destination.bytes ++ pdu.extendedBitmapData.bytes

theorem bytes_length (pdu : SurfaceBitsPdu) : pdu.bytes.length = pdu.size := by
  rw [bytes, List.length_append, ExtendedBitmapDataPdu.bytes_length, size]
  simp [ExclusiveRectangle.bytes, littleEndian_length]

/-- What `encode` writes of bits whose length fits. -/
theorem encode_writes (fits : pdu.extendedBitmapData.data.length < UInt32.size) :
    Encoding.Writes pdu.encode pdu.bytes :=
  pdu.destination.encode_writes.andThen (ExtendedBitmapDataPdu.encode_writes fits)

/-- Bits whose length fits are read back. -/
theorem decode_reads (fits : pdu.extendedBitmapData.data.length < UInt32.size) : Reads decode pdu.bytes pdu :=
  pdu.destination.decode_reads.bind ((ExtendedBitmapDataPdu.decode_reads fits).map _)

end SurfaceBitsPdu

/-- A frame number is sent with every marker. -/
def FrameMarkerPdu.numbered (pdu : FrameMarkerPdu) : FrameMarkerPdu :=
  { pdu with frameId := some (pdu.frameId.getD 0) }

theorem FrameMarkerPdu.bytes_length (pdu : FrameMarkerPdu) : pdu.bytes.length = 6 := by
  simp [bytes, littleEndian_length]

theorem FrameMarkerPdu.encode_writes (pdu : FrameMarkerPdu) : Encoding.Writes pdu.encode pdu.bytes :=
  (Encoding.write_writes _).ensureSize _ (Nat.le_of_eq pdu.bytes_length.symm)

private theorem FrameMarkerPdu.frameId_reads (n : UInt32) :
    Reads decodeFrameId (littleEndian 4 n.toNat) (some n) := by
  intro rest
  have there : (littleEndian 4 n.toNat ++ rest).isEmpty = false := rfl
  have reads := ((readU32_reads n).map some).ensureSize (by rw [littleEndian_length]) rest
  unfold decodeFrameId
  rw [there]
  exact reads

/-- A mark is read back with an id, which is 0 when none was sent. -/
theorem FrameMarkerPdu.decode_reads (pdu : FrameMarkerPdu) : Reads decode pdu.bytes pdu.numbered := by
  have action : FrameAction.fromU16 pdu.frameAction.asU16 = some pdu.frameAction := by
    cases pdu.frameAction <;> rfl
  apply Reads.ensureSize
  · apply (readU16_reads _).bind
    simp only [action]
    exact (frameId_reads _).map _
  · rw [bytes_length]
    decide

namespace SurfaceCommand

/-- The data of a surface is no longer than its length field can tell. -/
def Fits : SurfaceCommand → Prop
  | .setSurfaceBits pdu | .streamSurfaceBits pdu => pdu.extendedBitmapData.data.length < UInt32.size
  | .frameMarker _ => True

/-- What a decoder makes of the command. -/
def received : SurfaceCommand → SurfaceCommand
  | .frameMarker pdu => .frameMarker pdu.numbered
  | command => command

/-- What `encode` writes of a command. -/
def bytes (command : SurfaceCommand) : Bytes :=
  littleEndian 2 command.cmdType.toNat ++ match command with
    | .setSurfaceBits pdu | .streamSurfaceBits pdu => pdu.bytes
    | .frameMarker pdu => pdu.bytes

variable {command : SurfaceCommand}

/-- A command takes its size. -/
theorem bytes_length (command : SurfaceCommand) : command.bytes.length = command.size := by
  unfold bytes
  rw [List.length_append, littleEndian_length]
  cases command with
  | setSurfaceBits pdu => exact congrArg (2 + ·) pdu.bytes_length
  | frameMarker pdu => exact congrArg (2 + ·) pdu.bytes_length
  | streamSurfaceBits pdu => exact congrArg (2 + ·) pdu.bytes_length

/-- What `encode` writes of a command that fits. -/
theorem encode_writes (fits : command.Fits) : Encoding.Writes command.encode command.bytes := by
  apply Encoding.Writes.ensureSize
  · apply (Encoding.write_writes _).andThen
    cases command with
    | setSurfaceBits pdu => exact SurfaceBitsPdu.encode_writes fits
    | frameMarker pdu => exact pdu.encode_writes
    | streamSurfaceBits pdu => exact SurfaceBitsPdu.encode_writes fits
  · rw [bytes_length]

/-- A command that fits is read back as it is received. -/
theorem decode_reads (fits : command.Fits) : Reads decode command.bytes command.received := by
  apply Reads.ensureSize
  · apply (readU16_reads _).bind
    cases command with
    | setSurfaceBits pdu => exact (SurfaceBitsPdu.decode_reads fits).map SurfaceCommand.setSurfaceBits
    | frameMarker pdu => exact pdu.decode_reads.map SurfaceCommand.frameMarker
    | streamSurfaceBits pdu => exact (SurfaceBitsPdu.decode_reads fits).map SurfaceCommand.streamSurfaceBits
  · unfold bytes
    rw [List.length_append, littleEndian_length]
    exact Nat.le_add_right ..

theorem size_ge (command : SurfaceCommand) : 2 ≤ command.size := by
  cases command <;> exact Nat.le_add_right ..

end SurfaceCommand

private theorem commands_length (commands : List SurfaceCommand) :
    (commands.flatMap SurfaceCommand.bytes).length = (commands.map SurfaceCommand.size).sum := by
  rw [List.length_flatMap]
  exact congrArg List.sum (List.map_congr_left fun command _ => command.bytes_length)

/-- Commands that fit are read back to the last. -/
theorem decodeCommands_reads {commands : List SurfaceCommand} (fits : ∀ command ∈ commands, command.Fits) :
    decodeCommands (commands.flatMap SurfaceCommand.bytes) =
      some (.ok (commands.map SurfaceCommand.received, [])) := by
  apply whileLeft_reads_all (by decide) fun command member => SurfaceCommand.decode_reads (fits command member)
  · intro command _
    rw [SurfaceCommand.bytes_length]
    exact command.size_ge
  · rw [commands_length, ← List.length_map (f := SurfaceCommand.size)]
    apply List.length_le_sum_of_one_le
    intro size member
    obtain ⟨command, _, rfl⟩ := List.mem_map.mp member
    exact Nat.le_trans (by decide) command.size_ge

/-- **A list of surface commands fills the buffer it asks for and is read back from
it, every marker with a number.** -/
theorem commands_round_trip (commands : List SurfaceCommand) (fits : ∀ command ∈ commands, command.Fits) :
    ∃ bytes, bytes.length = (commands.map SurfaceCommand.size).sum ∧
      encodeCommands commands bytes.length = some (.ok bytes) ∧
      decodeCommands bytes = some (.ok (commands.map SurfaceCommand.received, [])) := by
  refine ⟨commands.flatMap SurfaceCommand.bytes, commands_length commands, ?_, decodeCommands_reads fits⟩
  have writes := Encoding.all_writes fun command member => SurfaceCommand.encode_writes (fits command member)
  exact writes.ensureSize _ (Nat.le_of_eq (commands_length commands).symm) _ (Nat.le_refl _)

/-- A mark and bits in one update. -/
theorem marker_and_bits_round_trip :
    ∃ bytes, bytes.length = 33 ∧
      encodeCommands [.frameMarker ⟨.start, none⟩, .setSurfaceBits ⟨⟨0, 0, 1, 1⟩, ⟨32, 0, 1, 1, none, [7, 8, 9]⟩⟩]
        bytes.length = some (.ok bytes) ∧
      decodeCommands bytes = some (.ok ([.frameMarker ⟨.start, some 0⟩,
        .setSurfaceBits ⟨⟨0, 0, 1, 1⟩, ⟨32, 0, 1, 1, none, [7, 8, 9]⟩⟩], [])) := by
  have fits : ∀ command ∈ [SurfaceCommand.frameMarker ⟨.start, none⟩,
      .setSurfaceBits ⟨⟨0, 0, 1, 1⟩, ⟨32, 0, 1, 1, none, [7, 8, 9]⟩⟩], command.Fits :=
    List.forall_mem_cons.mpr ⟨trivial, List.forall_mem_singleton.mpr (by unfold SurfaceCommand.Fits; decide)⟩
  exact commands_round_trip _ fits

end RoundTrip
end Osxrdp.SurfaceCommands
