import Mathlib.Data.Nat.Bitwise
import Osxrdp.Bitflags
import Osxrdp.Framing
import Osxrdp.WireDecoding
import Osxrdp.WireEncoding

/-! `per.rs` and `fast_path/mod.rs`: the header of a fast-path PDU and the update
behind it, as the server writes them and as a client reads them. -/
namespace Osxrdp.FastPath
open Bitflags (Flags)
open Bytes (littleEndian)
open WireDecoding (DecodeError Decoding)
open WireDecoding.Decoding
open WireEncoding (Encoding)

section PerLength

/-- `sizeof_length`: a length takes one byte up to 127. -/
def sizeofLength (length : Nat) : Nat := if length > 0x7F then 2 else 1

/-- `read_length`, with the number of bytes it takes; the caller's error where
they are not there. -/
def readLength (error : DecodeError) : Decoding (UInt16 × Nat)
  | [] => some (.error error)
  | a :: rest =>
    if a &&& 0x80 ≠ 0 then
      match rest with
      | [] => some (.error error)
      | b :: rest => some (.ok (((a.toUInt16 &&& ~~~0x80) <<< 8 + b.toUInt16, 2), rest))
    else some (.ok ((a.toUInt16, 1), rest))

/-- The two bytes of a number, the high one first. -/
def bigEndian16 (n : UInt16) : Bytes := [(n >>> 8).toUInt8, n.toUInt8]

/-- `write_long_length`, in two bytes even where one would do. -/
def writeLongLength (length : UInt16) : Encoding := .write (bigEndian16 (length ||| 0x8000))

/-- `write_length`: one byte, or two with the high bit of the first set. -/
def writeLength (length : UInt16) : Encoding :=
  if length > 0x7F then writeLongLength length else .write [length.toUInt8]

private theorem high_bit : ∀ n < 256, (UInt8.ofNat n &&& 0x80 ≠ 0 ↔ 128 ≤ n) ∧
    ((UInt8.ofNat n).toUInt16 &&& ~~~0x80).toNat = n % 128 := by decide +kernel

private theorem marked (a : UInt8) : a &&& 0x80 ≠ 0 ↔ 128 ≤ a.toNat := by
  have bits := (high_bit a.toNat a.toNat_lt).1
  rwa [UInt8.ofNat_toNat] at bits

private theorem length_value (a b : UInt8) :
    ((a.toUInt16 &&& ~~~0x80) <<< 8 + b.toUInt16).toNat = a.toNat % 128 * 256 + b.toNat := by
  have cleared := (high_bit a.toNat a.toNat_lt).2
  have small := b.toNat_lt
  rw [UInt8.ofNat_toNat] at cleared
  rw [UInt16.toNat_add, UInt16.toNat_shiftLeft, cleared, Nat.shiftLeft_eq, UInt8.toNat_toUInt16]
  change (a.toNat % 128 * 256 % 65536 + b.toNat) % 65536 = _
  omega

private theorem long_bytes (length : UInt16) (small : length.toNat < 32768) :
    ((length ||| 0x8000) >>> 8).toUInt8.toNat = 128 + length.toNat / 256 ∧
      (length ||| 0x8000).toUInt8.toNat = length.toNat % 256 := by
  have sum : 32768 + length.toNat = 32768 ||| length.toNat :=
    Nat.two_pow_add_eq_or_of_lt (i := 15) small 1
  have whole : (length ||| 0x8000).toNat = 32768 + length.toNat := by
    rw [UInt16.toNat_or, Nat.or_comm, sum]
    rfl
  constructor
  · rw [UInt16.toNat_toUInt8, UInt16.toNat_shiftRight, whole]
    change (32768 + length.toNat) >>> 8 % 256 = _
    rw [Nat.shiftRight_eq_div_pow]
    omega
  · rw [UInt16.toNat_toUInt8, whole]
    omega

/-- The bytes of a length, the shortest that tell it. -/
def lengthBytes (length : UInt16) : Bytes :=
  if length.toNat > 0x7F then bigEndian16 (length ||| 0x8000) else [length.toUInt8]

/-- The length takes as many bytes as `sizeof_length` says. -/
theorem lengthBytes_length (length : UInt16) : (lengthBytes length).length = sizeofLength length.toNat := by
  unfold lengthBytes sizeofLength
  split
  · rfl
  · rfl

/-- What `write_length` writes. -/
theorem writeLength_writes (length : UInt16) : Encoding.Writes (writeLength length) (lengthBytes length) := by
  unfold writeLength lengthBytes writeLongLength
  by_cases long : length > 0x7F
  · have wide : length.toNat > 0x7F := UInt16.lt_iff_toNat_lt.mp long
    rw [if_pos long, if_pos wide]
    exact Encoding.write_writes _
  · have narrow : ¬ length.toNat > 0x7F := fun wide => long (UInt16.lt_iff_toNat_lt.mpr wide)
    rw [if_neg long, if_neg narrow]
    exact Encoding.write_writes _

/-- A short length is one byte, a long one a byte with its high bit set and another. -/
theorem lengthBytes_spec {length : UInt16} (small : length.toNat < 32768) :
    (∃ a, lengthBytes length = [a] ∧ sizeofLength length.toNat = 1 ∧ ¬ a &&& 0x80 ≠ 0 ∧ a.toUInt16 = length) ∨
      ∃ a b, lengthBytes length = [a, b] ∧ sizeofLength length.toNat = 2 ∧ a &&& 0x80 ≠ 0 ∧
        (a.toUInt16 &&& ~~~0x80) <<< 8 + b.toUInt16 = length := by
  unfold lengthBytes sizeofLength
  by_cases long : length.toNat > 0x7F
  · obtain ⟨high, low⟩ := long_bytes length small
    refine .inr ⟨((length ||| 0x8000) >>> 8).toUInt8, (length ||| 0x8000).toUInt8, if_pos long, if_pos long,
      (marked _).mpr (by omega), ?_⟩
    rw [← UInt16.toNat_inj, length_value, high, low]
    omega
  · have byte : length.toUInt8.toNat = length.toNat := by
      rw [UInt16.toNat_toUInt8]
      omega
    refine .inl ⟨length.toUInt8, if_neg long, if_neg long, mt (marked _).mp (by omega), ?_⟩
    rw [← UInt16.toNat_inj, UInt8.toNat_toUInt16, byte]

/-- Fifteen bits of length are read back. -/
theorem readLength_reads (error : DecodeError) {length : UInt16} (small : length.toNat < 32768) :
    Reads (readLength error) (lengthBytes length) (length, sizeofLength length.toNat) := by
  intro rest
  rcases lengthBytes_spec small with ⟨a, bytes, size, short, value⟩ | ⟨a, b, bytes, size, long, value⟩
  · rw [bytes, size]
    change readLength error (a :: rest) = _
    simp only [readLength]
    rw [if_neg short, value]
  · rw [bytes, size]
    change readLength error (a :: b :: rest) = _
    simp only [readLength]
    rw [if_pos long, value]

/-- What is read has fifteen bits. -/
theorem readLength_lt {error : DecodeError} {src rest : Bytes} {length : UInt16} {size : Nat}
    (ran : readLength error src = some (.ok ((length, size), rest))) : length.toNat < 32768 := by
  unfold readLength at ran
  split at ran
  · cases ran
  · rename_i a rest
    split at ran
    · split at ran
      · cases ran
      · rename_i b rest
        cases ran
        have low := b.toNat_lt
        rw [length_value]
        omega
    · cases ran
      have small := a.toNat_lt
      rw [UInt8.toNat_toUInt16]
      omega

/-- Reading a length does not read beyond the buffer. -/
theorem readLength_safe (error : DecodeError) : SafeFrom 0 (readLength error) := by
  intro src _
  unfold readLength
  split
  · exact Option.some_ne_none _
  · split
    · split <;> exact Option.some_ne_none _
    · exact Option.some_ne_none _

end PerLength

section FindSize

/-- Which of the two framings a message is in. -/
inductive Action where
  | fastPath
  | x224
  deriving DecidableEq, Repr

/-- Why no size can be told. -/
inductive FindError where
  | unexpectedMessageType (got : UInt8)
  | unsupportedVersion (got : UInt8)
  deriving DecidableEq, Repr

/-- `Action::from_fp_output_header`: the low bits of the first byte. -/
def Action.fromFpOutputHeader (fpOutputHeader : UInt8) : Except UInt8 Action :=
  match fpOutputHeader &&& 0b11 with
  | 0x00 => .ok .fastPath
  | 0x03 => .ok .x224
  | unknown => .error unknown

/-- `PduInfo`: the framing of a message and its length. -/
structure PduInfo where
  action : Action
  length : Nat
  deriving DecidableEq, Repr

/-- `find_size`; without enough bytes to tell it asks for more. -/
def findSize (bytes : Bytes) : Except FindError (Option PduInfo) :=
  match bytes with
  | [] => .ok none
  | header :: rest => match Action.fromFpOutputHeader header with
    | .error unknown => .error (.unexpectedMessageType unknown)
    | .ok .x224 => match rest with
      | _padding :: high :: low :: _ =>
        if header ≠ 3 then .error (.unsupportedVersion header)
        else .ok (some ⟨.x224, (high.toUInt16 <<< 8 ||| low.toUInt16).toNat⟩)
      | _ => .ok none
    | .ok .fastPath => match rest with
      | [] => .ok none
      | a :: rest =>
        if a &&& 0x80 ≠ 0 then
          match rest with
          | [] => .ok none
          | b :: _ => .ok (some ⟨.fastPath, ((a.toUInt16 &&& ~~~0x80) <<< 8 + b.toUInt16).toNat⟩)
        else .ok (some ⟨.fastPath, a.toNat⟩)

/-- The length that `RDP_HINT` goes by. -/
def rdpHint (bytes : Bytes) : Except FindError (Option Nat) :=
  (findSize bytes).map (·.map PduInfo.length)

end FindSize

section Header

/-- `EncryptionFlags` -/
structure EncryptionFlags where
  secureChecksum : Bool
  encrypted : Bool
  deriving DecidableEq, Repr

def EncryptionFlags.empty : EncryptionFlags := ⟨false, false⟩

/-- The two bits that are put into the header. -/
def EncryptionFlags.bits (flags : EncryptionFlags) : UInt8 :=
  (if flags.secureChecksum then 1 else 0) ||| (if flags.encrypted then 2 else 0)

def EncryptionFlags.fromBitsTruncate (bits : UInt8) : EncryptionFlags :=
  ⟨bits &&& 1 ≠ 0, bits &&& 2 ≠ 0⟩

/-- The header of an update on the fast path, with the flag that a decoder sets for a
length of two bytes that fits into one. -/
structure FastPathHeader where
  flags : EncryptionFlags
  dataLength : Nat
  forcedLongLength : Bool
  deriving DecidableEq, Repr

namespace FastPathHeader

def new (flags : EncryptionFlags) (dataLength : Nat) : FastPathHeader :=
  { flags, dataLength, forcedLongLength := false }

/-- The size when the length is taken as short as it can be. -/
def minimalSize (header : FastPathHeader) : Nat := 1 + sizeofLength (header.dataLength + 1 + 1)

/-- `FastPathHeader::size` -/
def size (header : FastPathHeader) : Nat :=
  if header.forcedLongLength then 1 + 2 else header.minimalSize

/-- `FastPathHeader::encode` -/
def encode (header : FastPathHeader) : Encoding :=
  .ensureSize "TS_FP_UPDATE_PDU header" header.size <|
    .andThen (.write [header.flags.bits <<< 6]) <|
      let length := header.dataLength + header.size
      if length < UInt16.size then
        -- A header that came in a long form goes out in it again.
        if header.forcedLongLength then writeLongLength length.toUInt16 else writeLength length.toUInt16
      else .fail (.invalidField "length")

/-- `FastPathHeader::decode`. A length below the header's own size is refused. -/
def decode : Decoding FastPathHeader := do
  ensureSize 1
  let header ← readU8
  let flags := EncryptionFlags.fromBitsTruncate (header >>> 6)
  let (length, lengthSize) ←
    readLength (.invalidField "length" "Invalid encoded fast path PDU length")
  if length.toNat < lengthSize + 1 then
    fail (.invalidField "length" "received fastpath PDU length is smaller than header size")
  else
    return { flags
             dataLength := length.toNat - lengthSize - 1
             forcedLongLength := sizeofLength length.toNat ≠ lengthSize }

/-- The bytes of a header of its minimal size. -/
def bytes (header : FastPathHeader) : Bytes :=
  [header.flags.bits <<< 6] ++ lengthBytes (header.dataLength + header.minimalSize).toUInt16

section RoundTrip
variable {header : FastPathHeader}

private theorem minimalSize_eq (header : FastPathHeader) :
    header.minimalSize = 1 + sizeofLength (header.dataLength + header.minimalSize) := by
  unfold minimalSize sizeofLength
  by_cases long : header.dataLength + 1 + 1 > 0x7F
  · rw [if_pos long, if_pos (by omega)]
  · rw [if_neg long, if_neg (by omega)]

private theorem total_toNat (small : header.dataLength + header.minimalSize < 32768) :
    (header.dataLength + header.minimalSize).toUInt16.toNat = header.dataLength + header.minimalSize :=
  UInt16.toNat_ofNat_of_lt' (Nat.lt_trans small (by decide))

/-- A header takes its minimal size. -/
theorem bytes_length (small : header.dataLength + header.minimalSize < 32768) :
    header.bytes.length = header.minimalSize := by
  rw [bytes, List.length_append, lengthBytes_length, total_toNat small]
  exact (minimalSize_eq header).symm

/-- What `encode` writes, for a length that fits. -/
theorem encode_writes (header : FastPathHeader) (plain : header.forcedLongLength = false)
    (small : header.dataLength + header.minimalSize < 32768) : Encoding.Writes header.encode header.bytes := by
  have size : header.size = header.minimalSize := by
    rw [FastPathHeader.size, plain]
    rfl
  have fits : header.dataLength + header.minimalSize < UInt16.size := Nat.lt_trans small (by decide)
  apply Encoding.Writes.ensureSize
  · apply (Encoding.write_writes _).andThen
    simp only [size, plain]
    rw [if_pos fits]
    exact writeLength_writes _
  · rw [size, bytes_length small]

theorem fromBitsTruncate_bits (flags : EncryptionFlags) :
    EncryptionFlags.fromBitsTruncate ((flags.bits <<< 6) >>> 6) = flags := by
  obtain ⟨secureChecksum, encrypted⟩ := flags
  cases secureChecksum <;> cases encrypted <;> rfl

/-- A header that `encode` has written is read back. -/
theorem decode_reads (header : FastPathHeader) (plain : header.forcedLongLength = false)
    (small : header.dataLength + header.minimalSize < 32768) : Reads decode header.bytes header := by
  have total := total_toNat small
  have sized := minimalSize_eq header
  apply Reads.ensureSize
  · apply (readU8_reads _).bind
    rw [← List.append_nil (lengthBytes _)]
    apply (readLength_reads _ (by rw [total]; exact small)).bind
    simp only [total, fromBitsTruncate_bits]
    rw [if_neg (by omega)]
    have dataLength : header.dataLength + header.minimalSize -
        sizeofLength (header.dataLength + header.minimalSize) - 1 = header.dataLength := by omega
    have unforced : decide (sizeofLength (header.dataLength + header.minimalSize) ≠
        sizeofLength (header.dataLength + header.minimalSize)) = header.forcedLongLength := by
      rw [plain]
      exact decide_eq_false fun different => different rfl
    rw [dataLength, unforced]
    exact pure_reads header
  · rw [bytes_length small, minimalSize]
    exact Nat.le_add_right ..

end RoundTrip
end FastPathHeader
end Header

section Update

/-- What an update holds. -/
inductive UpdateCode where
  | orders
  | bitmap
  | palette
  | synchronize
  | surfaceCommands
  | hiddenPointer
  | defaultPointer
  | positionPointer
  | colorPointer
  | cachedPointer
  | newPointer
  | largePointer
  deriving DecidableEq, Repr

/-- `UpdateCode::as_u8` -/
def UpdateCode.asU8 : UpdateCode → UInt8
  | .orders => 0x0
  | .bitmap => 0x1
  | .palette => 0x2
  | .synchronize => 0x3
  | .surfaceCommands => 0x4
  | .hiddenPointer => 0x5
  | .defaultPointer => 0x6
  | .positionPointer => 0x8
  | .colorPointer => 0x9
  | .cachedPointer => 0xa
  | .newPointer => 0xb
  | .largePointer => 0xc

/-- `UpdateCode::from_u8` -/
def UpdateCode.fromU8 : UInt8 → Option UpdateCode
  | 0x0 => some .orders
  | 0x1 => some .bitmap
  | 0x2 => some .palette
  | 0x3 => some .synchronize
  | 0x4 => some .surfaceCommands
  | 0x5 => some .hiddenPointer
  | 0x6 => some .defaultPointer
  | 0x8 => some .positionPointer
  | 0x9 => some .colorPointer
  | 0xa => some .cachedPointer
  | 0xb => some .newPointer
  | 0xc => some .largePointer
  | _ => none

/-- Where a fragment stands in its update. -/
inductive Fragmentation where
  | single
  | last
  | first
  | next
  deriving DecidableEq, Repr

def Fragmentation.asU8 : Fragmentation → UInt8
  | .single => 0x0
  | .last => 0x1
  | .first => 0x2
  | .next => 0x3

def Fragmentation.fromU8 : UInt8 → Option Fragmentation
  | 0x0 => some .single
  | 0x1 => some .last
  | 0x2 => some .first
  | 0x3 => some .next
  | _ => none

namespace CompressionFlags

def compressed : BitVec 8 := 0x20
def atFront : BitVec 8 := 0x40
def flushed : BitVec 8 := 0x80
def all : BitVec 8 := compressed ||| atFront ||| flushed

end CompressionFlags

abbrev CompressionFlags := Flags CompressionFlags.all

/-- How the data is compressed. -/
inductive CompressionType where
  | k8
  | k64
  | rdp6
  | rdp61
  deriving DecidableEq, Repr

def CompressionType.asU8 : CompressionType → UInt8
  | .k8 => 0
  | .k64 => 1
  | .rdp6 => 2
  | .rdp61 => 3

def CompressionType.fromU8 : UInt8 → Option CompressionType
  | 0 => some .k8
  | 1 => some .k64
  | 2 => some .rdp6
  | 3 => some .rdp61
  | _ => none

/-- A fragment of an update. -/
structure FastPathUpdatePdu where
  fragmentation : Fragmentation
  updateCode : UpdateCode
  compressionFlags : Option CompressionFlags
  compressionType : Option CompressionType
  data : Bytes
  deriving DecidableEq

namespace FastPathUpdatePdu

/-- `FastPathUpdatePdu::size` -/
def size (update : FastPathUpdatePdu) : Nat :=
  1 + (if update.compressionFlags.isSome then 1 else 0) + 2 + update.data.length

/-- The first byte: code, fragmentation, and whether a byte for the compression follows. -/
def header (update : FastPathUpdatePdu) : UInt8 :=
  update.updateCode.asU8 ||| update.fragmentation.asU8 <<< 4

/-- The header is written before `COMPRESSION_USED` is set in it. -/
def encode (update : FastPathUpdatePdu) : Encoding :=
  .ensureSize "TS_FP_UPDATE" update.size <|
    if update.data.length < UInt16.size then
      .andThen (.write [update.header]) <|
        let compression := match update.compressionFlags with
          | some flags => [UInt8.ofBitVec flags.bits ||| (update.compressionType.map CompressionType.asU8).getD 0]
          | none => []
        .andThen (.write compression) <|
          .andThen (.write (littleEndian 2 update.data.length)) (.write update.data)
    else .fail (.invalidField "data length")

/-- The byte for the compression. -/
def decodeCompression : Decoding (CompressionFlags × CompressionType) := do
  ensureSize 3
  let flagsWithType ← readU8
  match CompressionType.fromU8 (flagsWithType &&& 0xF) with
  | none => fail (.invalidField "compressionFlags" "invalid compression type")
  | some compressionType =>
    return (.fromBitsTruncate (flagsWithType &&& ~~~0xF).toBitVec, compressionType)

/-- The data behind its length. -/
def decodeData : Decoding (Bytes) := do
  let dataLength ← readU16
  ensureSize dataLength.toNat
  readSlice dataLength.toNat

/-- `FastPathUpdatePdu::decode` -/
def decode : Decoding FastPathUpdatePdu := do
  ensureSize 1
  let header ← readU8
  match UpdateCode.fromU8 (header &&& 0xF) with
  | none => fail (.invalidField "updateHeader" "Invalid update code")
  | some updateCode => match Fragmentation.fromU8 (header >>> 4 &&& 0x3) with
    | none => fail (.invalidField "updateHeader" "Invalid fragmentation")
    | some fragmentation =>
      if header >>> 6 &&& 0x2 ≠ 0 then
        let (flags, compressionType) ← decodeCompression
        let data ← decodeData
        return { fragmentation, updateCode, compressionFlags := some flags
                 compressionType := some compressionType, data }
      else
        ensureSize 2
        let data ← decodeData
        return { fragmentation, updateCode, compressionFlags := none, compressionType := none, data }

/-- An update as this server sends it. -/
def plain (fragmentation : Fragmentation) (updateCode : UpdateCode) (data : Bytes) : FastPathUpdatePdu :=
  { fragmentation, updateCode, compressionFlags := none, compressionType := none, data }

/-- The bytes of an uncompressed update. -/
def bytes (update : FastPathUpdatePdu) : Bytes :=
  [update.header] ++ ([] ++ (littleEndian 2 update.data.length ++ update.data))

section RoundTrip
variable {data : Bytes}

/-- An uncompressed fragment takes its size. -/
theorem bytes_length (fragmentation : Fragmentation) (updateCode : UpdateCode) (data : Bytes) :
    (plain fragmentation updateCode data).bytes.length = (plain fragmentation updateCode data).size := by
  have width := Bytes.littleEndian_length 2 data.length
  simp only [bytes, size, plain, List.length_append, List.length_cons, List.length_nil, width,
    Option.isSome_none, Bool.false_eq_true, if_false]
  omega

/-- What `encode` writes of an uncompressed fragment. -/
theorem encode_writes (fragmentation : Fragmentation) (updateCode : UpdateCode) (small : data.length < UInt16.size) :
    Encoding.Writes (plain fragmentation updateCode data).encode (plain fragmentation updateCode data).bytes := by
  apply Encoding.Writes.ensureSize
  · rw [if_pos (show (plain fragmentation updateCode data).data.length < UInt16.size from small)]
    exact (Encoding.write_writes _).andThen ((Encoding.write_writes _).andThen
      ((Encoding.write_writes _).andThen (Encoding.write_writes _)))
  · rw [bytes_length]

private theorem header_fields (fragmentation : Fragmentation) (updateCode : UpdateCode) :
    UpdateCode.fromU8 ((updateCode.asU8 ||| fragmentation.asU8 <<< 4) &&& 0xF) = some updateCode ∧
      Fragmentation.fromU8 ((updateCode.asU8 ||| fragmentation.asU8 <<< 4) >>> 4 &&& 0x3) = some fragmentation ∧
      (updateCode.asU8 ||| fragmentation.asU8 <<< 4) >>> 6 &&& 0x2 = 0 := by
  cases fragmentation <;> cases updateCode <;> decide

private theorem decodeData_reads (small : data.length < UInt16.size) :
    Reads decodeData (littleEndian 2 data.length ++ data) data := by
  have length : data.length.toUInt16.toNat = data.length := UInt16.toNat_ofNat_of_lt' small
  have lengthReads := readU16_reads data.length.toUInt16
  rw [length] at lengthReads
  apply lengthReads.bind
  rw [length]
  exact (readSlice_reads data).ensureSize (Nat.le_refl _)

/-- An uncompressed fragment is read back. -/
theorem decode_reads (fragmentation : Fragmentation) (updateCode : UpdateCode) (small : data.length < UInt16.size) :
    Reads decode (plain fragmentation updateCode data).bytes (plain fragmentation updateCode data) := by
  obtain ⟨code, fragment, uncompressed⟩ := header_fields fragmentation updateCode
  have dataReads := decodeData_reads small
  have width := Bytes.littleEndian_length 2 data.length
  apply Reads.ensureSize
  · apply (readU8_reads _).bind
    simp only [header, plain, code, fragment, uncompressed]
    rw [if_neg (by simp)]
    exact (dataReads.map _).ensureSize (by rw [List.length_append, width]; omega)
  · rw [bytes_length, size]
    omega

end RoundTrip
end FastPathUpdatePdu
end Update

section Frames
open Framing (Delimits)

/-- The fast-path PDU of an update. -/
def pduBytes (update : FastPathUpdatePdu) : Bytes :=
  (FastPathHeader.new .empty update.size).bytes ++ update.bytes

/-- A packet behind the header of `TpktHeader::write`. -/
def tpkt (packet : Bytes) : Bytes := [3, 0] ++ bigEndian16 (4 + packet.length).toUInt16 ++ packet

/-- However much of a stream is there that begins with the frame, `find_size`
tells its action and its length, or asks for more of it. -/
structure Found (action : Action) (frame : Bytes) : Prop where
  nonempty : 0 < frame.length
  tells : ∀ rest bytes, bytes ≠ [] → bytes <+: frame ++ rest →
    findSize bytes = .ok (some ⟨action, frame.length⟩) ∨ findSize bytes = .ok none ∧ bytes.length < frame.length

/-- The whole frame is told its own length. -/
theorem Found.told {action : Action} {frame : Bytes} (found : Found action frame) :
    findSize frame = .ok (some ⟨action, frame.length⟩) := by
  have nonempty := List.ne_nil_of_length_pos found.nonempty
  rcases found.tells [] frame nonempty (List.prefix_append frame []) with told | ⟨_, short⟩
  · exact told
  · exact absurd short (Nat.lt_irrefl _)

/-- `find_size` tells where a frame ends as soon as it can, and not before. -/
theorem Found.delimits {action : Action} {frame : Bytes} (found : Found action frame) :
    Delimits rdpHint frame := by
  refine ⟨found.nonempty, fun rest bytes nonempty start => ?_⟩
  rcases found.tells rest bytes nonempty start with told | ⟨asks, short⟩
  · left
    rw [rdpHint, told]
    rfl
  · right
    rw [rdpHint, asks]
    exact ⟨rfl, short⟩

private theorem fastPath_action (flags : EncryptionFlags) :
    Action.fromFpOutputHeader (flags.bits <<< 6) = .ok .fastPath := by
  obtain ⟨secureChecksum, encrypted⟩ := flags
  cases secureChecksum <;> cases encrypted <;> rfl

/-- A fast-path PDU is found when the length behind its first byte is its own. -/
theorem length_found {header : UInt8} (action : Action.fromFpOutputHeader header = .ok .fastPath) {total : UInt16}
    {body : Bytes} (counted : total.toNat = 1 + sizeofLength total.toNat + body.length)
    (small : total.toNat < 32768) : Found .fastPath (header :: (lengthBytes total ++ body)) := by
  have size : (header :: (lengthBytes total ++ body)).length = total.toNat := by
    rw [List.length_cons, List.length_append, lengthBytes_length]
    omega
  refine ⟨by rw [size]; omega, fun rest bytes nonempty start => ?_⟩
  obtain ⟨first, more, rfl⟩ := List.exists_cons_of_ne_nil nonempty
  rw [List.cons_append, List.append_assoc, List.cons_prefix_cons] at start
  obtain ⟨rfl, start⟩ := start
  rcases lengthBytes_spec small with ⟨a, lengths, one, short, value⟩ | ⟨a, b, lengths, two, long, value⟩
  · rw [lengths] at start
    cases more with
    | nil =>
      refine .inr ⟨?_, by rw [size, List.length_singleton]; omega⟩
      simp only [findSize, action]
    | cons c more =>
      obtain ⟨rfl, _⟩ := List.cons_prefix_cons.mp start
      left
      have told : c.toNat = total.toNat := by
        rw [← value, UInt8.toNat_toUInt16]
      simp only [findSize, action]
      rw [if_neg short, told, size]
  · rw [lengths] at start
    cases more with
    | nil =>
      refine .inr ⟨?_, by rw [size, List.length_singleton]; omega⟩
      simp only [findSize, action]
    | cons c more =>
      obtain ⟨rfl, later⟩ := List.cons_prefix_cons.mp start
      cases more with
      | nil =>
        refine .inr ⟨?_, ?_⟩
        · simp only [findSize, action]
          rw [if_pos long]
        · rw [size]
          simp only [List.length_cons, List.length_nil]
          omega
      | cons d more =>
        obtain ⟨rfl, _⟩ := List.cons_prefix_cons.mp later
        left
        simp only [findSize, action]
        rw [if_pos long, value, size]

/-- `find_size` finds a message on the fast path. -/
theorem fastPath_found {header : FastPathHeader} {body : Bytes} (counted : header.dataLength = body.length)
    (small : header.dataLength + header.minimalSize < 32768) : Found .fastPath (header.bytes ++ body) := by
  have total := FastPathHeader.total_toNat small
  have sized := FastPathHeader.minimalSize_eq header
  have shape : header.bytes ++ body = header.flags.bits <<< 6 ::
      (lengthBytes (header.dataLength + header.minimalSize).toUInt16 ++ body) := by
    simp [FastPathHeader.bytes]
  rw [shape]
  apply length_found (fastPath_action header.flags)
  · rw [total]
    omega
  · rw [total]
    exact small

/-- Where a length is told, the decoder of a header reads it too. -/
theorem told_length {bytes : Bytes} {n : Nat} (told : findSize bytes = .ok (some ⟨.fastPath, n⟩))
    (error : DecodeError) : ∃ header rest length lengthSize after, bytes = header :: rest ∧
      readLength error rest = some (.ok ((length, lengthSize), after)) ∧ length.toNat = n ∧
        rest.length = lengthSize + after.length := by
  cases bytes with
  | nil => cases told
  | cons header rest =>
    simp only [findSize] at told
    split at told
    · cases told
    · split at told
      · split at told <;> cases told
      · cases told
    · split at told
      · cases told
      · rename_i a rest
        split at told
        · rename_i long
          split at told
          · cases told
          · rename_i b rest
            cases told
            refine ⟨header, a :: b :: rest, _, 2, rest, rfl, ?_, rfl, by simp only [List.length_cons]; omega⟩
            simp only [readLength]
            rw [if_pos long]
        · rename_i short
          cases told
          refine ⟨header, a :: rest, a.toUInt16, 1, rest, rfl, ?_, UInt8.toNat_toUInt16 a,
            by simp only [List.length_cons]; omega⟩
          simp only [readLength]
          rw [if_neg short]

/-- The action is that of the first byte. -/
theorem told_action {bytes : Bytes} {info : PduInfo} (told : findSize bytes = .ok (some info)) :
    ∃ header rest, bytes = header :: rest ∧ Action.fromFpOutputHeader header = .ok info.action := by
  cases bytes with
  | nil => cases told
  | cons header rest =>
    refine ⟨header, rest, rfl, ?_⟩
    simp only [findSize] at told
    split at told
    · cases told
    · rename_i action
      split at told
      · split at told
        · cases told
        · cases told
          exact action
      · cases told
    · rename_i action
      split at told
      · cases told
      · split at told
        · split at told
          · cases told
          · cases told
            exact action
        · cases told
          exact action

/-- A frame that is cut off where its header tells has that header, or it is too
short for a length. -/
theorem cut_cases {buffer : Bytes} {n : Nat} (told : findSize buffer = .ok (some ⟨.fastPath, n⟩))
    (whole : n ≤ buffer.length) : buffer.take n = [] ∨ (∃ header, buffer.take n = [header]) ∨
      (∃ header a, buffer.take n = [header, a] ∧ a &&& 0x80 ≠ 0) ∨
        findSize (buffer.take n) = .ok (some ⟨.fastPath, (buffer.take n).length⟩) := by
  have length : (buffer.take n).length = n := List.length_take_of_le whole
  rw [length]
  cases buffer with
  | nil => cases told
  | cons header rest =>
    simp only [findSize] at told
    split at told
    · cases told
    · split at told
      · split at told <;> cases told
      · cases told
    · rename_i action
      split at told
      · cases told
      · rename_i a rest
        split at told
        · rename_i long
          split at told
          · cases told
          · rename_i b rest
            match n, told with
            | 0, _ => exact .inl rfl
            | 1, _ => exact .inr (.inl ⟨header, rfl⟩)
            | 2, _ => exact .inr (.inr (.inl ⟨header, a, rfl, long⟩))
            | n + 3, told =>
              refine .inr (.inr (.inr ?_))
              simp only [List.take_succ_cons, findSize, action]
              rw [if_pos long]
              exact told
        · rename_i short
          match n, told with
          | 0, _ => exact .inl rfl
          | 1, _ => exact .inr (.inl ⟨header, rfl⟩)
          | n + 2, told =>
            refine .inr (.inr (.inr ?_))
            simp only [List.take_succ_cons, findSize, action]
            rw [if_neg short]
            exact told

private theorem bigEndian_value (n : UInt16) :
    ((n >>> 8).toUInt8.toUInt16 <<< 8 ||| n.toUInt8.toUInt16).toNat = n.toNat := by
  have small := n.toNat_lt
  have high : (n >>> 8).toUInt8.toUInt16.toNat = n.toNat / 256 := by
    rw [UInt8.toNat_toUInt16, UInt16.toNat_toUInt8, UInt16.toNat_shiftRight]
    change n.toNat >>> 8 % 256 = _
    rw [Nat.shiftRight_eq_div_pow]
    omega
  have low : n.toUInt8.toUInt16.toNat = n.toNat % 256 := by
    rw [UInt8.toNat_toUInt16, UInt16.toNat_toUInt8]
  have sum : 256 * (n.toNat / 256) + n.toNat % 256 = 256 * (n.toNat / 256) ||| n.toNat % 256 :=
    Nat.two_pow_add_eq_or_of_lt (i := 8) (Nat.mod_lt _ (by decide)) _
  rw [UInt16.toNat_or, UInt16.toNat_shiftLeft, high, low, Nat.shiftLeft_eq]
  change n.toNat / 256 * 256 % 65536 ||| n.toNat % 256 = _
  rw [Nat.mod_eq_of_lt (by omega), Nat.mul_comm, ← sum]
  omega

/-- A packet is found by its TPKT header. -/
theorem tpkt_found {packet : Bytes} (small : 4 + packet.length < UInt16.size) :
    Found .x224 (tpkt packet) := by
  have total : (4 + packet.length).toUInt16.toNat = 4 + packet.length := UInt16.toNat_ofNat_of_lt' small
  have size : (tpkt packet).length = 4 + packet.length := by
    simp only [tpkt, bigEndian16, List.length_append, List.length_cons, List.length_nil]
  have action : Action.fromFpOutputHeader 3 = .ok .x224 := by decide
  have shape : ∀ rest, tpkt packet ++ rest = (3 : UInt8) :: 0 :: ((4 + packet.length).toUInt16 >>> 8).toUInt8 ::
      (4 + packet.length).toUInt16.toUInt8 :: (packet ++ rest) := fun _ => rfl
  refine ⟨by rw [size]; omega, fun rest bytes nonempty start => ?_⟩
  obtain ⟨first, more, rfl⟩ := List.exists_cons_of_ne_nil nonempty
  rw [shape] at start
  obtain ⟨rfl, later⟩ := List.cons_prefix_cons.mp start
  have waits : ∀ few : Bytes, few.length < 3 → findSize (3 :: few) = .ok none ∧
      (3 :: few).length < (tpkt packet).length := by
    intro few short
    refine ⟨?_, by rw [size, List.length_cons]; omega⟩
    simp only [findSize, action]
    rcases few with _ | ⟨_, _ | ⟨_, _ | ⟨_, _⟩⟩⟩
    · rfl
    · rfl
    · rfl
    · simp only [List.length_cons] at short
      omega
  rcases more with _ | ⟨padding, _ | ⟨high, _ | ⟨low, more⟩⟩⟩
  · exact .inr (waits [] (by decide))
  · exact .inr (waits [padding] (Nat.lt_add_of_pos_left (by decide)))
  · exact .inr (waits [padding, high] (Nat.lt_succ_self 2))
  · obtain ⟨rfl, length⟩ := List.cons_prefix_cons.mp later
    obtain ⟨rfl, lower⟩ := List.cons_prefix_cons.mp length
    obtain ⟨rfl, _⟩ := List.cons_prefix_cons.mp lower
    left
    simp only [findSize, action]
    rw [if_neg (by decide), bigEndian_value, total, size]

end Frames
end Osxrdp.FastPath
