import Osxrdp.FastPath
import Osxrdp.InputEvents

/-! `input/fast_path.rs`: input events behind a header of few bytes. An error
that names no field is told as one of its context. -/
namespace Osxrdp.FastPathEvents
open Bitflags (Flags)
open FastPath (Action EncryptionFlags Found findSize lengthBytes lengthBytes_length readLength sizeofLength
  writeLength)
open InputEvents (MousePdu MouseRelPdu MouseXPdu)
open Bytes (littleEndian littleEndian_length)
open WireDecoding (DecodeError Decoding)
open WireDecoding.Decoding
open WireEncoding (Encoding)

namespace KeyboardFlags

def release : BitVec 8 := 0x01
def extended : BitVec 8 := 0x02
def extended1 : BitVec 8 := 0x04
def all : BitVec 8 := release ||| extended ||| extended1

end KeyboardFlags

/-- The flags of a key. -/
abbrev KeyboardFlags := Flags KeyboardFlags.all

namespace SynchronizeFlags

def scrollLock : BitVec 8 := 0x01
def numLock : BitVec 8 := 0x02
def capsLock : BitVec 8 := 0x04
def kanaLock : BitVec 8 := 0x08
def all : BitVec 8 := scrollLock ||| numLock ||| capsLock ||| kanaLock

end SynchronizeFlags

/-- The locks that a client reports. -/
abbrev SynchronizeFlags := Flags SynchronizeFlags.all

/-- The header of input on the fast path. -/
structure FastPathInputHeader where
  flags : EncryptionFlags
  dataLength : Nat
  numEvents : UInt8
  deriving DecidableEq, Repr

/-- An event of the fast path. -/
inductive FastPathInputEvent where
  | keyboardEvent (flags : KeyboardFlags) (code : UInt8)
  | unicodeKeyboardEvent (flags : KeyboardFlags) (code : UInt16)
  | mouseEvent (pdu : MousePdu)
  | mouseEventEx (pdu : MouseXPdu)
  | mouseEventRel (pdu : MouseRelPdu)
  | qoeEvent (stamp : UInt32)
  | syncEvent (flags : SynchronizeFlags)
  deriving DecidableEq

/-- At least one event, and at most 255 of them. -/
structure FastPathInput where
  events : List FastPathInputEvent
  counted : 1 ≤ events.length ∧ events.length ≤ 255
  deriving DecidableEq

section Header
namespace FastPathInputHeader

/-- From 16 events on their number has a byte of its own. -/
def numEventsLength (header : FastPathInputHeader) : Nat := if header.numEvents < 16 then 0 else 1

/-- `FastPathInputHeader::size` -/
def size (header : FastPathInputHeader) : Nat :=
  1 + sizeofLength (header.dataLength + header.numEventsLength + 1) + header.numEventsLength

def firstByte (header : FastPathInputHeader) : UInt8 :=
  (if header.numEvents < 16 then header.numEvents <<< 2 else 0) ||| header.flags.bits <<< 6

def numEventsBytes (header : FastPathInputHeader) : Bytes :=
  if header.numEvents > 15 then [header.numEvents] else []

/-- `FastPathInputHeader::encode` -/
def encode (header : FastPathInputHeader) : Encoding :=
  .ensureSize "FastPathInputHeader" header.size <|
    .andThen (.write [header.firstByte]) <|
      let length := header.dataLength + header.size
      if length < UInt16.size then
        .andThen (writeLength length.toUInt16) (.write header.numEventsBytes)
      else .fail (.invalidField "len")

/-- `FastPathInputHeader::decode` -/
def decode : Decoding FastPathInputHeader := do
  ensureSize 1
  let header ← readU8
  let flags := EncryptionFlags.fromBitsTruncate (header >>> 6)
  let (length, lengthSize) ← readLength (.invalidField "perLen" "")
  if flags ≠ .empty then fail (.invalidField "flags" "encryption not supported")
  else if header >>> 2 &&& 0xF = 0 then
    ensureSize 1
    let numEvents ← readU8
    let dataLength ← subtract length.toNat (lengthSize + 1 + 1)
    return { flags, dataLength, numEvents }
  else
    let dataLength ← subtract length.toNat (lengthSize + 1)
    return { flags, dataLength, numEvents := header >>> 2 &&& 0xF }

end FastPathInputHeader
end Header

section Event
namespace FastPathInputEvent

/-- The flags in the header of an event. -/
def flagBits : FastPathInputEvent → BitVec 8
  | .keyboardEvent flags _ | .unicodeKeyboardEvent flags _ => flags.bits
  | .syncEvent flags => flags.bits
  | .mouseEvent _ | .mouseEventEx _ | .mouseEventRel _ | .qoeEvent _ => 0

/-- The code of an event, which goes into the high bits of its first byte. -/
def code : FastPathInputEvent → UInt8
  | .keyboardEvent _ _ => 0x0
  | .mouseEvent _ => 0x1
  | .mouseEventEx _ => 0x2
  | .syncEvent _ => 0x3
  | .unicodeKeyboardEvent _ _ => 0x4
  | .mouseEventRel _ => 0x5
  | .qoeEvent _ => 0x6

/-- The first byte of an event. -/
def header (event : FastPathInputEvent) : UInt8 := .ofBitVec event.flagBits ||| event.code <<< 5

/-- `FastPathInputEvent::size` -/
def size : FastPathInputEvent → Nat
  | .keyboardEvent _ _ => 1 + 1
  | .unicodeKeyboardEvent _ _ => 1 + 2
  | .mouseEvent _ | .mouseEventEx _ | .mouseEventRel _ => 1 + InputEvents.eventSize
  | .qoeEvent _ => 1 + 4
  | .syncEvent _ => 1 + 0

def encodePdu : FastPathInputEvent → Encoding
  | .keyboardEvent _ code => .write [code]
  | .unicodeKeyboardEvent _ code => .write (littleEndian 2 code.toNat)
  | .mouseEvent pdu => pdu.encode
  | .mouseEventEx pdu => pdu.encode
  | .qoeEvent stamp => .write (littleEndian 4 stamp.toNat)
  -- Nothing is written of a relative motion either.
  | .mouseEventRel _ | .syncEvent _ => .write []

/-- `FastPathInputEvent::encode` -/
def encode (event : FastPathInputEvent) : Encoding :=
  .ensureSize "FastPathInputEvent" event.size <| .andThen (.write [event.header]) event.encodePdu

def decodeKeyboardFlags (flags : BitVec 8) : Decoding KeyboardFlags :=
  match Flags.fromBits flags with
  | some flags => pure flags
  | none => fail (.invalidField "flags" "input keyboard flags unsupported")

def decodeSynchronizeFlags (flags : BitVec 8) : Decoding SynchronizeFlags :=
  match Flags.fromBits flags with
  | some flags => pure flags
  | none => fail (.invalidField "flags" "input synchronize flags unsupported")

/-- `FastPathInputEvent::decode` -/
def decode : Decoding FastPathInputEvent := do
  ensureSize 1
  let header ← readU8
  let flags := (header &&& 0x1F).toBitVec
  match header >>> 5 with
  | 0x0 => do
    ensureSize 1
    let code ← readU8
    return .keyboardEvent (← decodeKeyboardFlags flags) code
  | 0x1 => return .mouseEvent (← MousePdu.decode)
  | 0x2 => return .mouseEventEx (← MouseXPdu.decode)
  | 0x3 => return .syncEvent (← decodeSynchronizeFlags flags)
  | 0x4 => do
    ensureSize 2
    let code ← readU16
    return .unicodeKeyboardEvent (← decodeKeyboardFlags flags) code
  | 0x5 => return .mouseEventRel (← MouseRelPdu.decode)
  | 0x6 => do
    ensureSize 4
    return .qoeEvent (← readU32)
  | _ => fail (.invalidField "code" "input event code unsupported")

end FastPathInputEvent
end Event

section Input
namespace FastPathInput

/-- `FastPathInput::new`: between one event and 255. -/
def new (events : List FastPathInputEvent) : Except DecodeError FastPathInput :=
  if counted : 1 ≤ events.length ∧ events.length ≤ 255 then .ok ⟨events, counted⟩
  else .error (.invalidField "nEvents" "invalid number of input events")

def dataLength (input : FastPathInput) : Nat := (input.events.map FastPathInputEvent.size).sum

/-- The header that the events ask for. -/
def header (input : FastPathInput) : FastPathInputHeader :=
  { flags := .empty, dataLength := input.dataLength, numEvents := input.events.length.toUInt8 }

def size (input : FastPathInput) : Nat := input.header.size + input.dataLength

/-- `FastPathInput::encode` -/
def encode (input : FastPathInput) : Encoding :=
  .ensureSize "FastPathInput" input.size <|
    .andThen input.header.encode (.all (input.events.map FastPathInputEvent.encode))

/-- `FastPathInput::decode`: as many events as the header counts. -/
def decode : Decoding FastPathInput := do
  let header ← FastPathInputHeader.decode
  let events ← times header.numEvents.toNat FastPathInputEvent.decode
  match new events with
  | .ok input => return input
  | .error error => fail error

end FastPathInput
end Input

section RoundTrip

namespace FastPathInputEvent

def pduBytes : FastPathInputEvent → Bytes
  | .keyboardEvent _ code => [code]
  | .unicodeKeyboardEvent _ code => littleEndian 2 code.toNat
  | .mouseEvent pdu => pdu.bytes
  | .mouseEventEx pdu => pdu.bytes
  | .mouseEventRel pdu => pdu.bytes
  | .qoeEvent stamp => littleEndian 4 stamp.toNat
  | .syncEvent _ => []

/-- What `encode` writes of an event. -/
def bytes (event : FastPathInputEvent) : Bytes := [event.header] ++ event.pduBytes

/-- An event as the server has it. -/
def received : FastPathInputEvent → FastPathInputEvent
  | .mouseEvent pdu => .mouseEvent pdu.received
  | event => event

/-- An event takes its size. -/
theorem bytes_length (event : FastPathInputEvent) : event.bytes.length = event.size := by
  cases event <;> simp [bytes, pduBytes, size, MousePdu.bytes, MouseXPdu.bytes, MouseRelPdu.bytes,
    InputEvents.eventSize]

private theorem fields : ∀ flags < 16, ∀ code < 7,
    ((UInt8.ofNat flags ||| UInt8.ofNat code <<< 5) &&& 0x1F) = UInt8.ofNat flags ∧
      (UInt8.ofNat flags ||| UInt8.ofNat code <<< 5) >>> 5 = UInt8.ofNat code := by decide +kernel

private theorem named_le {all bits : BitVec 8} (named : bits &&& all = bits) : bits.toNat ≤ all.toNat := by
  have toNat := congrArg BitVec.toNat named
  rw [BitVec.toNat_and] at toNat
  rw [← toNat]
  exact Nat.and_le_right

private theorem flagBits_small (event : FastPathInputEvent) : event.flagBits.toNat < 16 := by
  cases event with
  | keyboardEvent flags _ | unicodeKeyboardEvent flags _ =>
    exact Nat.lt_of_le_of_lt (named_le flags.named) (by decide)
  | syncEvent flags => exact Nat.lt_of_le_of_lt (named_le flags.named) (by decide)
  | mouseEvent _ | mouseEventEx _ | mouseEventRel _ | qoeEvent _ => exact Nat.zero_lt_succ _

/-- Flags and code are read from the header as they were put in it. -/
theorem header_fields (event : FastPathInputEvent) :
    (event.header &&& 0x1F).toBitVec = event.flagBits ∧ event.header >>> 5 = event.code := by
  have small : event.code.toNat < 7 := by cases event <;> simp [FastPathInputEvent.code]
  have both := fields event.flagBits.toNat event.flagBits_small event.code.toNat small
  have flags : UInt8.ofNat event.flagBits.toNat = .ofBitVec event.flagBits := by
    rw [← UInt8.toNat_inj]
    exact Nat.mod_eq_of_lt event.flagBits.isLt
  rw [flags, UInt8.ofNat_toNat] at both
  exact ⟨congrArg UInt8.toBitVec both.1, both.2⟩

/-- What `encode` writes, except for a relative motion, of which it writes the first byte only. -/
theorem encode_writes {event : FastPathInputEvent} (absolute : ∀ pdu, event ≠ .mouseEventRel pdu) :
    event.encode.Writes event.bytes := by
  apply Encoding.Writes.ensureSize _ _ (Nat.le_of_eq event.bytes_length.symm)
  apply (Encoding.write_writes _).andThen
  have sized : ∀ {context : String} {written : Bytes}, written.length = InputEvents.eventSize →
      (Encoding.ensureSize context InputEvents.eventSize (.write written)).Writes written := fun length =>
    (Encoding.write_writes _).ensureSize _ (Nat.le_of_eq length.symm)
  cases event with
  | keyboardEvent _ code => exact Encoding.write_writes _
  | unicodeKeyboardEvent _ code => exact Encoding.write_writes _
  | mouseEvent pdu => exact sized (by simp [MousePdu.bytes, InputEvents.eventSize])
  | mouseEventEx pdu => exact sized (by simp [MouseXPdu.bytes, InputEvents.eventSize])
  | mouseEventRel pdu => exact absurd rfl (absolute pdu)
  | qoeEvent stamp => exact Encoding.write_writes _
  | syncEvent _ => exact Encoding.write_writes _

private theorem decodeKeyboardFlags_reads (flags : KeyboardFlags) :
    Reads (decodeKeyboardFlags flags.bits) [] flags := by
  rw [decodeKeyboardFlags, Flags.fromBits_bits]
  exact pure_reads flags

private theorem decodeSynchronizeFlags_reads (flags : SynchronizeFlags) :
    Reads (decodeSynchronizeFlags flags.bits) [] flags := by
  rw [decodeSynchronizeFlags, Flags.fromBits_bits]
  exact pure_reads flags

/-- An event is read back as it is received. -/
theorem decode_reads (event : FastPathInputEvent) : Reads decode event.bytes event.received := by
  obtain ⟨flagsRead, codeRead⟩ := event.header_fields
  have long : 1 ≤ event.bytes.length := Nat.succ_le_succ (Nat.zero_le _)
  apply Reads.ensureSize _ long
  apply (readU8_reads event.header).bind
  rw [flagsRead, codeRead]
  cases event with
  | keyboardEvent flags code =>
    exact ((readU8_reads code).bind ((decodeKeyboardFlags_reads flags).map _)).ensureSize (Nat.le_refl 1)
  | unicodeKeyboardEvent flags code =>
    have read : Reads (do
        let code ← readU16
        return .unicodeKeyboardEvent (← decodeKeyboardFlags flags.bits) code)
        (littleEndian 2 code.toNat ++ []) (unicodeKeyboardEvent flags code) :=
      (readU16_reads code).bind ((decodeKeyboardFlags_reads flags).map _)
    rw [List.append_nil] at read
    exact read.ensureSize (Nat.le_of_eq (littleEndian_length 2 code.toNat).symm)
  | mouseEvent pdu => exact pdu.decode_reads.map _
  | mouseEventEx pdu => exact pdu.decode_reads.map _
  | mouseEventRel pdu => exact pdu.decode_reads.map _
  | qoeEvent stamp =>
    exact ((readU32_reads stamp).map _).ensureSize (Nat.le_of_eq (littleEndian_length 4 stamp.toNat).symm)
  | syncEvent flags => exact (decodeSynchronizeFlags_reads flags).map _

end FastPathInputEvent

namespace FastPathInputHeader
variable {header : FastPathInputHeader}

/-- The length of the whole PDU. -/
def total (header : FastPathInputHeader) : Nat :=
  header.dataLength + header.numEventsLength + 1 +
    (if header.dataLength + header.numEventsLength + 1 + 1 > 0x7F then 2 else 1)

/-- What `encode` writes of a header. -/
def bytes (header : FastPathInputHeader) : Bytes :=
  header.firstByte :: (lengthBytes header.total.toUInt16 ++ header.numEventsBytes)

private theorem total_eq (header : FastPathInputHeader) :
    header.total = 1 + sizeofLength header.total + (header.numEventsLength + header.dataLength) := by
  unfold total sizeofLength
  by_cases long : header.dataLength + header.numEventsLength + 1 + 1 > 0x7F
  · rw [if_pos long, if_pos (by omega)]
    omega
  · rw [if_neg long, if_neg (by omega)]
    omega

/-- The size is computed with a length that misses a byte: it is one too small
where that byte makes the length a long one. -/
theorem size_eq (header : FastPathInputHeader) (off : header.dataLength + header.numEventsLength ≠ 126) :
    header.dataLength + header.size = header.total := by
  unfold size total sizeofLength
  by_cases long : header.dataLength + header.numEventsLength + 1 > 0x7F
  · rw [if_pos long, if_pos (by omega)]
    omega
  · rw [if_neg long, if_neg (by omega)]
    omega

private theorem numEventsBytes_length (header : FastPathInputHeader) :
    header.numEventsBytes.length = header.numEventsLength := by
  unfold numEventsBytes numEventsLength
  by_cases few : header.numEvents < 16
  · have below : ¬ header.numEvents > 15 := by
      have := UInt8.lt_iff_toNat_lt.mp few
      exact fun above => Nat.lt_irrefl 15 (Nat.lt_of_lt_of_le (UInt8.lt_iff_toNat_lt.mp above)
        (Nat.le_of_lt_succ this))
    rw [if_neg below, if_pos few]
    rfl
  · have above : header.numEvents > 15 := by
      rw [UInt8.lt_iff_toNat_lt, Nat.not_lt] at few
      exact UInt8.lt_iff_toNat_lt.mpr few
    rw [if_pos above, if_neg few]
    rfl

private theorem total_toNat (small : header.total < 32768) : header.total.toUInt16.toNat = header.total :=
  UInt16.toNat_ofNat_of_lt' (Nat.lt_trans small (by decide))

/-- The total length counts the header and the events. -/
theorem bytes_length (small : header.total < 32768) :
    header.bytes.length + header.dataLength = header.total := by
  have sized := header.total_eq
  rw [bytes, List.length_cons, List.length_append, lengthBytes_length, total_toNat small, numEventsBytes_length]
  omega

private theorem firstByte_bits : ∀ n < 16,
    FastPath.Action.fromFpOutputHeader (UInt8.ofNat n <<< 2) = .ok .fastPath ∧
      EncryptionFlags.fromBitsTruncate ((UInt8.ofNat n <<< 2) >>> 6) = .empty ∧
      (UInt8.ofNat n <<< 2) >>> 2 &&& 0xF = UInt8.ofNat n := by decide +kernel

/-- The first byte of a plain header: its action, its flags, and the number of few events. -/
theorem firstByte_spec (header : FastPathInputHeader) (plain : header.flags = .empty) :
    FastPath.Action.fromFpOutputHeader header.firstByte = .ok .fastPath ∧
      EncryptionFlags.fromBitsTruncate (header.firstByte >>> 6) = .empty ∧
      header.firstByte >>> 2 &&& 0xF = if header.numEvents < 16 then header.numEvents else 0 := by
  have byte : header.firstByte = (if header.numEvents < 16 then header.numEvents else 0) <<< 2 := by
    rw [firstByte, plain]
    split <;> simp [EncryptionFlags.bits, EncryptionFlags.empty]
  obtain ⟨number, numberEq⟩ : ∃ number, number = if header.numEvents < 16 then header.numEvents else 0 := ⟨_, rfl⟩
  have small : number.toNat < 16 := by
    rw [numberEq]
    split
    · rename_i few
      exact UInt8.lt_iff_toNat_lt.mp few
    · exact Nat.zero_lt_succ _
  rw [byte, ← numberEq]
  have bits := firstByte_bits number.toNat small
  rwa [UInt8.ofNat_toNat] at bits

/-- A header without encryption is read back. -/
theorem decode_reads (header : FastPathInputHeader) (plain : header.flags = .empty) (events : header.numEvents ≠ 0)
    (small : header.total < 32768) : Reads decode header.bytes header := by
  obtain ⟨_, flagsRead, numberRead⟩ := header.firstByte_spec plain
  have total := total_toNat small
  have sized := header.total_eq
  have numbers := header.numEventsBytes_length
  have long : 1 ≤ header.bytes.length := Nat.succ_le_succ (Nat.zero_le _)
  apply Reads.ensureSize _ long
  apply (readU8_reads header.firstByte).bind
  apply (FastPath.readLength_reads _ (by rw [total]; exact small)).bind
  simp only [flagsRead, numberRead, total]
  rw [if_neg (fun different => different rfl)]
  unfold FastPathInputHeader.numEventsLength at sized numbers
  by_cases few : header.numEvents < 16
  · rw [if_pos few] at sized numbers ⊢
    rw [if_neg events, List.length_eq_zero_iff.mp numbers]
    exact ((subtract_reads header.dataLength (by omega)).map _).of_eq (by rw [← plain])
  · rw [if_neg few] at sized numbers ⊢
    have above : header.numEvents > 15 := by
      rw [UInt8.lt_iff_toNat_lt, Nat.not_lt] at few
      exact UInt8.lt_iff_toNat_lt.mpr few
    rw [if_pos rfl, numEventsBytes, if_pos above]
    apply Reads.ensureSize _ (Nat.le_refl 1)
    apply (readU8_reads header.numEvents).bind
    exact ((subtract_reads header.dataLength (by omega)).map _).of_eq (by rw [← plain])

/-- What `encode` writes, but for the one length that it counts wrongly. -/
theorem encode_writes (small : header.total < 32768) (off : header.dataLength + header.numEventsLength ≠ 126) :
    header.encode.Writes header.bytes := by
  have size := header.size_eq off
  have counted := bytes_length small
  have fits : header.total < UInt16.size := Nat.lt_trans small (by decide)
  apply Encoding.Writes.ensureSize _ _ (by omega)
  apply (Encoding.write_writes [header.firstByte]).andThen
  simp only [size]
  rw [if_pos fits]
  exact (FastPath.writeLength_writes _).andThen (Encoding.write_writes _)

end FastPathInputHeader

namespace FastPathInput
variable {input : FastPathInput}

/-- The header and the events behind it. -/
def bytes (input : FastPathInput) : Bytes :=
  input.header.bytes ++ input.events.flatMap FastPathInputEvent.bytes

/-- The input with each event as it is received. -/
def received (input : FastPathInput) : FastPathInput where
  events := input.events.map FastPathInputEvent.received
  counted := by
    rw [List.length_map]
    exact input.counted

private theorem numEvents_toNat (input : FastPathInput) : input.header.numEvents.toNat = input.events.length :=
  UInt8.toNat_ofNat_of_lt' (Nat.lt_succ_of_le input.counted.2)

private theorem numEvents_ne_zero (input : FastPathInput) : input.header.numEvents ≠ 0 := by
  intro zero
  have count := input.numEvents_toNat
  have := input.counted.1
  rw [zero] at count
  simp only [UInt8.toNat_zero] at count
  omega

private theorem sizes_le (events : List FastPathInputEvent) :
    (events.map FastPathInputEvent.size).sum ≤ 7 * events.length := by
  induction events with
  | nil => exact Nat.le_refl 0
  | cons event rest ih =>
    have small : event.size ≤ 7 := by cases event <;> simp [FastPathInputEvent.size, InputEvents.eventSize]
    rw [List.map_cons, List.sum_cons, List.length_cons]
    omega

/-- So few events never fill the fifteen bits of a length. -/
theorem total_small (input : FastPathInput) : input.header.total < 32768 := by
  have sizes : input.dataLength ≤ 7 * input.events.length := sizes_le input.events
  have := input.counted.2
  have data : input.header.dataLength = input.dataLength := rfl
  unfold FastPathInputHeader.total FastPathInputHeader.numEventsLength
  split <;> split <;> omega

private theorem eventBytes_length (input : FastPathInput) :
    (input.events.flatMap FastPathInputEvent.bytes).length = input.header.dataLength := by
  have each : input.events.map (fun event => event.bytes.length) = input.events.map FastPathInputEvent.size :=
    List.map_congr_left fun event _ => event.bytes_length
  rw [List.length_flatMap, each]
  rfl

/-- Input takes the length in its header. -/
theorem bytes_length (input : FastPathInput) : input.bytes.length = input.header.total := by
  rw [bytes, List.length_append, eventBytes_length]
  exact FastPathInputHeader.bytes_length input.total_small

/-- The encoder writes the PDU unless it has a relative motion, or a size that it computes too small. -/
theorem encode_writes (absolute : ∀ event ∈ input.events, ∀ pdu, event ≠ .mouseEventRel pdu)
    (off : input.dataLength + input.header.numEventsLength ≠ 126) : input.encode.Writes input.bytes := by
  have header := FastPathInputHeader.encode_writes input.total_small off
  have events := Encoding.all_writes fun event member => FastPathInputEvent.encode_writes (absolute event member)
  apply (header.andThen events).ensureSize
  have size := input.header.size_eq off
  have counted := input.bytes_length
  have data : input.header.dataLength = input.dataLength := rfl
  rw [bytes] at counted
  rw [counted, FastPathInput.size]
  omega

/-- Input on the fast path is read back. -/
theorem decode_reads (input : FastPathInput) : Reads decode input.bytes input.received := by
  have header := input.header.decode_reads rfl input.numEvents_ne_zero input.total_small
  apply header.bind
  have events := times_reads fun event (_ : event ∈ input.events) => event.decode_reads
  rw [← input.numEvents_toNat] at events
  rw [← List.append_nil (input.events.flatMap _)]
  apply events.bind
  have made : new (input.events.map FastPathInputEvent.received) = .ok input.received :=
    dif_pos input.received.counted
  simp only [made]
  exact pure_reads _

/-- The PDU is found in a stream as a fast-path one. -/
theorem found (input : FastPathInput) : Found .fastPath input.bytes := by
  have small := input.total_small
  have total : input.header.total.toUInt16.toNat = input.header.total :=
    UInt16.toNat_ofNat_of_lt' (Nat.lt_trans small (by decide))
  have shape : input.bytes = input.header.firstByte :: (lengthBytes input.header.total.toUInt16 ++
      (input.header.numEventsBytes ++ input.events.flatMap FastPathInputEvent.bytes)) := by
    simp [bytes, FastPathInputHeader.bytes]
  have action := (input.header.firstByte_spec rfl).1
  have sized := input.header.total_eq
  rw [shape]
  apply FastPath.length_found action
  · rw [total, List.length_append, FastPathInputHeader.numEventsBytes_length, eventBytes_length]
    exact sized
  · rw [total]
    exact small

end FastPathInput
end RoundTrip

section Safety

/-- An event is read without reading beyond the buffer. -/
theorem FastPathInputEvent.decode_safe : SafeFrom 0 FastPathInputEvent.decode := by
  have keyboard : ∀ flags, SafeFrom 0 (decodeKeyboardFlags flags) := by
    intro flags
    unfold decodeKeyboardFlags
    split
    · exact pure_safe _ 0
    · exact fail_safe _ 0
  have synchronize : ∀ flags, SafeFrom 0 (decodeSynchronizeFlags flags) := by
    intro flags
    unfold decodeSynchronizeFlags
    split
    · exact pure_safe _ 0
    · exact fail_safe _ 0
  apply ensureSize_safe
  apply readU8_takes.bind_safe 0
  intro header
  dsimp only
  split
  · exact ensureSize_safe (readU8_takes.bind_safe 0 fun _ => (keyboard _).bind fun _ => pure_safe _ 0)
  · exact MousePdu.decode_safe.bind fun _ => pure_safe _ 0
  · exact MouseXPdu.decode_safe.bind fun _ => pure_safe _ 0
  · exact (synchronize _).bind fun _ => pure_safe _ 0
  · exact ensureSize_safe (readU16_takes.bind_safe 0 fun _ => (keyboard _).bind fun _ => pure_safe _ 0)
  · exact MouseRelPdu.decode_safe.bind fun _ => pure_safe _ 0
  · exact ensureSize_safe (readU32_takes.map _).safe
  · exact fail_safe _ 0

/-- The lengths of a header are subtracted from what `find_size` told: from the
length of the frame, which holds the header. -/
theorem FastPathInputHeader.decode_of_told {bytes : Bytes}
    (told : findSize bytes = .ok (some ⟨.fastPath, bytes.length⟩)) : FastPathInputHeader.decode bytes ≠ none := by
  obtain ⟨header, rest, length, lengthSize, after, rfl, lengthRead, counted, left⟩ :=
    FastPath.told_length told (.invalidField "perLen" "")
  rw [List.length_cons, left] at counted
  have checked : Decoding.ensureSize 1 (header :: rest) = some (.ok ((), header :: rest)) :=
    if_pos (Nat.succ_le_succ (Nat.zero_le _))
  rw [decode, bind_of_ok checked, bind_of_ok (rfl : readU8 (header :: rest) = some (.ok (header, rest)))]
  dsimp only
  rw [bind_of_ok lengthRead]
  dsimp only
  split
  · exact Option.some_ne_none _
  · split
    · cases after with
      | nil => exact Option.some_ne_none _
      | cons number after =>
        have room : Decoding.ensureSize 1 (number :: after) = some (.ok ((), number :: after)) :=
          if_pos (Nat.succ_le_succ (Nat.zero_le _))
        rw [bind_of_ok room, bind_of_ok (rfl : readU8 (number :: after) = some (.ok (number, after)))]
        rw [List.length_cons] at counted
        rw [subtract, if_pos (by omega)]
        exact Option.some_ne_none _
    · rw [subtract, if_pos (by omega)]
      exact Option.some_ne_none _

/-- No frame that `find_size` cuts out of a stream makes the decoder of fast-path input panic. -/
theorem FastPathInput.decode_of_told {bytes : Bytes}
    (told : findSize bytes = .ok (some ⟨.fastPath, bytes.length⟩)) : FastPathInput.decode bytes ≠ none := by
  have header := FastPathInputHeader.decode_of_told told
  simp only [FastPathInput.decode, Bind.bind]
  cases ran : FastPathInputHeader.decode bytes with
  | none => exact absurd ran header
  | some result => cases result with
    | error error => exact Option.some_ne_none _
    | ok done =>
      have events := times_safe FastPathInputEvent.decode_safe done.1.numEvents.toNat
      refine (events.bind fun events => ?_) done.2 (Nat.zero_le _)
      split
      · exact pure_safe _ 0
      · exact fail_safe _ 0

/-- However the length that a frame tells of itself misleads, the decoder does not panic on it. -/
theorem FastPathInput.decode_of_cut {buffer : Bytes} {n : Nat}
    (told : findSize buffer = .ok (some ⟨.fastPath, n⟩)) (whole : n ≤ buffer.length) :
    FastPathInput.decode (buffer.take n) ≠ none := by
  rcases FastPath.cut_cases told whole with empty | ⟨header, short⟩ | ⟨header, a, short, long⟩ | told
  · rw [empty]
    exact Option.some_ne_none _
  · rw [short]
    exact Option.some_ne_none _
  · have unread : readLength (.invalidField "perLen" "") [a] = some (.error (.invalidField "perLen" "")) := by
      simp only [readLength]
      rw [if_pos long]
    have failed : FastPathInputHeader.decode [header, a] = some (.error (.invalidField "perLen" "")) := by
      have checked : Decoding.ensureSize 1 [header, a] = some (.ok ((), [header, a])) := rfl
      rw [FastPathInputHeader.decode, bind_of_ok checked,
        bind_of_ok (rfl : readU8 [header, a] = some (.ok (header, [a])))]
      simp only [Bind.bind, unread]
    rw [short, FastPathInput.decode]
    simp only [Bind.bind, failed]
    exact Option.some_ne_none _
  · exact FastPathInput.decode_of_told told

end Safety
end Osxrdp.FastPathEvents
