import Osxrdp.Bitflags
import Osxrdp.WireDecoding
import Osxrdp.WireEncoding

/-! `input/*.rs`: the events of a slow-path input PDU. What a client writes is
read back as it was, except for the wheel: the nine bits of its rotation are
read as a sign and a magnitude. -/
namespace Osxrdp.InputEvents
open Bitflags (Flags)
open Bytes (littleEndian littleEndian_length)
open WireDecoding (Decoding)
open WireDecoding.Decoding
open WireEncoding (Encoding)

namespace PointerFlags

def wheelNegative : BitVec 16 := 0x0100
def verticalWheel : BitVec 16 := 0x0200
def horizontalWheel : BitVec 16 := 0x0400
def move : BitVec 16 := 0x0800
def leftButton : BitVec 16 := 0x1000
def rightButton : BitVec 16 := 0x2000
def middleButtonOrWheel : BitVec 16 := 0x4000
def down : BitVec 16 := 0x8000

def all : BitVec 16 :=
  wheelNegative ||| verticalWheel ||| horizontalWheel ||| move ||| leftButton ||| rightButton |||
    middleButtonOrWheel ||| down

end PointerFlags

/-- The flags of a mouse message. -/
abbrev PointerFlags := Flags PointerFlags.all

/-- A mouse message: where the pointer is, what is pressed, how far the wheel turned. -/
structure MousePdu where
  flags : PointerFlags
  numberOfWheelRotationUnits : Int16
  xPosition : UInt16
  yPosition : UInt16
  deriving DecidableEq

namespace PointerXFlags

def down : BitVec 16 := 0x8000
def button1 : BitVec 16 := 0x0001
def button2 : BitVec 16 := 0x0002
def all : BitVec 16 := down ||| button1 ||| button2

end PointerXFlags

/-- The flags of a message for the further buttons. -/
abbrev PointerXFlags := Flags PointerXFlags.all

/-- A mouse message for the buttons that the first kind has no flags for. -/
structure MouseXPdu where
  flags : PointerXFlags
  xPosition : UInt16
  yPosition : UInt16
  deriving DecidableEq

namespace PointerRelFlags

def move : BitVec 16 := 0x0800
def down : BitVec 16 := 0x8000
def button1 : BitVec 16 := 0x1000
def button2 : BitVec 16 := 0x2000
def button3 : BitVec 16 := 0x4000
def xbutton1 : BitVec 16 := 0x0001
def xbutton2 : BitVec 16 := 0x0002
def all : BitVec 16 := move ||| down ||| button1 ||| button2 ||| button3 ||| xbutton1 ||| xbutton2

end PointerRelFlags

/-- The flags of a relative motion. -/
abbrev PointerRelFlags := Flags PointerRelFlags.all

/-- A relative motion. -/
structure MouseRelPdu where
  flags : PointerRelFlags
  xDelta : Int16
  yDelta : Int16
  deriving DecidableEq

namespace ScanCode.KeyboardFlags

def extended : BitVec 16 := 0x0100
def extended1 : BitVec 16 := 0x0200
def down : BitVec 16 := 0x4000
def release : BitVec 16 := 0x8000
def all : BitVec 16 := extended ||| extended1 ||| down ||| release

end ScanCode.KeyboardFlags

/-- The flags of a key. -/
abbrev ScanCode.KeyboardFlags := Flags ScanCode.KeyboardFlags.all

/-- A key by its scan code. -/
structure ScanCodePdu where
  flags : ScanCode.KeyboardFlags
  keyCode : UInt16
  deriving DecidableEq

def Unicode.KeyboardFlags.release : BitVec 16 := 0x8000

abbrev Unicode.KeyboardFlags := Flags Unicode.KeyboardFlags.release

/-- A key by its character. -/
structure UnicodePdu where
  flags : Unicode.KeyboardFlags
  unicodeCode : UInt16
  deriving DecidableEq

namespace SyncToggleFlags

def scrollLock : BitVec 32 := 0x1
def numLock : BitVec 32 := 0x2
def capsLock : BitVec 32 := 0x4
def kanaLock : BitVec 32 := 0x8
def all : BitVec 32 := scrollLock ||| numLock ||| capsLock ||| kanaLock

end SyncToggleFlags

/-- The locks that a client reports. -/
abbrev SyncToggleFlags := Flags SyncToggleFlags.all

/-- The state of the locks. -/
structure SyncPdu where
  flags : SyncToggleFlags
  deriving DecidableEq

/-- An event of the slow path. -/
inductive InputEvent where
  | sync (pdu : SyncPdu)
  | unused
  | scanCode (pdu : ScanCodePdu)
  | unicode (pdu : UnicodePdu)
  | mouse (pdu : MousePdu)
  | mouseX (pdu : MouseXPdu)
  | mouseRel (pdu : MouseRelPdu)
  deriving DecidableEq

section Encode

/-- Every event has six bytes behind its type. -/
def eventSize : Nat := 6

/-- The flags with the sign of the rotation and its low eight bits. -/
def MousePdu.flagsRaw (mouse : MousePdu) : BitVec 16 :=
  mouse.flags.bits ||| (if mouse.numberOfWheelRotationUnits < 0 then PointerFlags.wheelNegative else 0) |||
    (mouse.numberOfWheelRotationUnits.toBitVec.setWidth 8).setWidth 16

def MousePdu.bytes (mouse : MousePdu) : Bytes :=
  littleEndian 2 mouse.flagsRaw.toNat ++
    (littleEndian 2 mouse.xPosition.toNat ++ littleEndian 2 mouse.yPosition.toNat)

def MousePdu.encode (mouse : MousePdu) : Encoding := .ensureSize "MousePdu" eventSize <| .write mouse.bytes

def MouseXPdu.bytes (mouse : MouseXPdu) : Bytes :=
  littleEndian 2 mouse.flags.bits.toNat ++
    (littleEndian 2 mouse.xPosition.toNat ++ littleEndian 2 mouse.yPosition.toNat)

def MouseXPdu.encode (mouse : MouseXPdu) : Encoding := .ensureSize "MouseXPdu" eventSize <| .write mouse.bytes

def MouseRelPdu.bytes (mouse : MouseRelPdu) : Bytes :=
  littleEndian 2 mouse.flags.bits.toNat ++
    (littleEndian 2 mouse.xDelta.toUInt16.toNat ++ littleEndian 2 mouse.yDelta.toUInt16.toNat)

def MouseRelPdu.encode (mouse : MouseRelPdu) : Encoding :=
  .ensureSize "MouseRelPdu" eventSize <| .write mouse.bytes

def ScanCodePdu.bytes (key : ScanCodePdu) : Bytes :=
  littleEndian 2 key.flags.bits.toNat ++ (littleEndian 2 key.keyCode.toNat ++ List.replicate 2 0)

def ScanCodePdu.encode (key : ScanCodePdu) : Encoding := .ensureSize "ScanCodePdu" eventSize <| .write key.bytes

def UnicodePdu.bytes (key : UnicodePdu) : Bytes :=
  littleEndian 2 key.flags.bits.toNat ++ (littleEndian 2 key.unicodeCode.toNat ++ List.replicate 2 0)

def UnicodePdu.encode (key : UnicodePdu) : Encoding := .ensureSize "UnicodePdu" eventSize <| .write key.bytes

def SyncPdu.bytes (sync : SyncPdu) : Bytes :=
  List.replicate 2 0 ++ littleEndian 4 sync.flags.bits.toNat

def SyncPdu.encode (sync : SyncPdu) : Encoding := .ensureSize "SyncPdu" eventSize <| .write sync.bytes

def UnusedPdu.bytes : Bytes := List.replicate 6 0

def UnusedPdu.encode : Encoding := .ensureSize "UnusedPdu" eventSize <| .write UnusedPdu.bytes

namespace InputEvent

def eventType : InputEvent → UInt16
  | .sync _ => 0x0000
  | .unused => 0x0002
  | .scanCode _ => 0x0004
  | .unicode _ => 0x0005
  | .mouse _ => 0x8001
  | .mouseX _ => 0x8002
  | .mouseRel _ => 0x8004

def encodePdu : InputEvent → Encoding
  | .sync pdu => pdu.encode
  | .unused => UnusedPdu.encode
  | .scanCode pdu => pdu.encode
  | .unicode pdu => pdu.encode
  | .mouse pdu => pdu.encode
  | .mouseX pdu => pdu.encode
  | .mouseRel pdu => pdu.encode

/-- The time of an event is written as zero. -/
def encode (event : InputEvent) : Encoding :=
  .ensureSize "InputEvent" eventSize <|
    .andThen (.write (List.replicate 4 0 ++ littleEndian 2 event.eventType.toNat)) event.encodePdu

def size : InputEvent → Nat := fun _ => eventSize + eventSize

def pduBytes : InputEvent → Bytes
  | .sync pdu => pdu.bytes
  | .unused => UnusedPdu.bytes
  | .scanCode pdu => pdu.bytes
  | .unicode pdu => pdu.bytes
  | .mouse pdu => pdu.bytes
  | .mouseX pdu => pdu.bytes
  | .mouseRel pdu => pdu.bytes

def bytes (event : InputEvent) : Bytes :=
  List.replicate 4 0 ++ littleEndian 2 event.eventType.toNat ++ event.pduBytes

end InputEvent

namespace InputEventPdu

def size (events : List InputEvent) : Nat := 4 + (events.map InputEvent.size).sum

def encode (events : List InputEvent) : Encoding :=
  .ensureSize "InputEventPdu" (size events) <|
    if events.length < UInt16.size then
      .andThen (.write (littleEndian 2 events.length ++ List.replicate 2 0)) <|
        .all (events.map InputEvent.encode)
    else .fail (.invalidField "input events count")

def bytes (events : List InputEvent) : Bytes :=
  littleEndian 2 events.length ++ List.replicate 2 0 ++ events.flatMap InputEvent.bytes

end InputEventPdu
end Encode

section Decode

/-- The rotation that these flags tell. -/
def MousePdu.wheelRotation (flagsRaw : BitVec 16) : Int16 :=
  let units := Int16.ofBitVec ((flagsRaw.setWidth 8).setWidth 16)
  if (Flags.fromBitsTruncate flagsRaw : PointerFlags).contains PointerFlags.wheelNegative then -units else units

def MousePdu.decode : Decoding MousePdu := do
  ensureSize eventSize
  let flagsRaw ← readU16
  let xPosition ← readU16
  let yPosition ← readU16
  return { flags := .fromBitsTruncate flagsRaw.toBitVec
           numberOfWheelRotationUnits := wheelRotation flagsRaw.toBitVec, xPosition, yPosition }

def MouseXPdu.decode : Decoding MouseXPdu := do
  ensureSize eventSize
  let flags ← readU16
  let xPosition ← readU16
  let yPosition ← readU16
  return { flags := .fromBitsTruncate flags.toBitVec, xPosition, yPosition }

def MouseRelPdu.decode : Decoding MouseRelPdu := do
  ensureSize eventSize
  let flags ← readU16
  let xDelta ← readU16
  let yDelta ← readU16
  return { flags := .fromBitsTruncate flags.toBitVec, xDelta := xDelta.toInt16, yDelta := yDelta.toInt16 }

def ScanCodePdu.decode : Decoding ScanCodePdu := do
  ensureSize eventSize
  let flags ← readU16
  let keyCode ← readU16
  let _ ← readSlice 2
  return { flags := .fromBitsTruncate flags.toBitVec, keyCode }

def UnicodePdu.decode : Decoding UnicodePdu := do
  ensureSize eventSize
  let flags ← readU16
  let unicodeCode ← readU16
  let _ ← readSlice 2
  return { flags := .fromBitsTruncate flags.toBitVec, unicodeCode }

def SyncPdu.decode : Decoding SyncPdu := do
  ensureSize eventSize
  let _ ← readSlice 2
  let flags ← readU32
  return { flags := .fromBitsTruncate flags.toBitVec }

def UnusedPdu.decode : Decoding Unit := do
  ensureSize eventSize
  let _ ← readSlice 6
  return ()

def InputEvent.decode : Decoding InputEvent := do
  ensureSize eventSize
  let _eventTime ← readU32
  let eventType ← readU16
  match eventType with
  | 0x0000 => return .sync (← SyncPdu.decode)
  | 0x0002 => do
    let _ ← UnusedPdu.decode
    return .unused
  | 0x0004 => return .scanCode (← ScanCodePdu.decode)
  | 0x0005 => return .unicode (← UnicodePdu.decode)
  | 0x8001 => return .mouse (← MousePdu.decode)
  | 0x8002 => return .mouseX (← MouseXPdu.decode)
  | 0x8004 => return .mouseRel (← MouseRelPdu.decode)
  | _ => fail (.invalidField "eventType" "invalid input event type")

def InputEventPdu.decode : Decoding (List InputEvent) := do
  ensureSize 4
  let numberOfEvents ← readU16
  let _ ← readSlice 2
  times numberOfEvents.toNat InputEvent.decode

end Decode

section RoundTrip
variable {events : List InputEvent}

/-- A mouse event as the server has it. -/
def MousePdu.received (mouse : MousePdu) : MousePdu :=
  { mouse with
    flags := .fromBitsTruncate mouse.flagsRaw
    numberOfWheelRotationUnits := wheelRotation mouse.flagsRaw }

/-- An event as the server has it. -/
def InputEvent.received : InputEvent → InputEvent
  | .mouse pdu => .mouse pdu.received
  | event => event

theorem MousePdu.decode_reads (mouse : MousePdu) : Reads MousePdu.decode mouse.bytes mouse.received := by
  apply Reads.ensureSize
  · apply (readU16_reads (UInt16.ofBitVec mouse.flagsRaw)).bind
    apply (readU16_reads mouse.xPosition).bind
    exact (readU16_reads mouse.yPosition).map _
  · simp [MousePdu.bytes, eventSize]

theorem MouseXPdu.decode_reads (mouse : MouseXPdu) : Reads MouseXPdu.decode mouse.bytes mouse := by
  apply Reads.ensureSize
  · apply (readU16_reads (UInt16.ofBitVec mouse.flags.bits)).bind
    apply (readU16_reads mouse.xPosition).bind
    exact ((readU16_reads mouse.yPosition).map _).of_eq (by simp)
  · simp [MouseXPdu.bytes, eventSize]

theorem MouseRelPdu.decode_reads (mouse : MouseRelPdu) : Reads MouseRelPdu.decode mouse.bytes mouse := by
  apply Reads.ensureSize
  · apply (readU16_reads (UInt16.ofBitVec mouse.flags.bits)).bind
    apply (readU16_reads mouse.xDelta.toUInt16).bind
    exact ((readU16_reads mouse.yDelta.toUInt16).map _).of_eq (by simp)
  · simp [MouseRelPdu.bytes, eventSize]

theorem ScanCodePdu.decode_reads (key : ScanCodePdu) : Reads ScanCodePdu.decode key.bytes key := by
  apply Reads.ensureSize
  · apply (readU16_reads (UInt16.ofBitVec key.flags.bits)).bind
    apply (readU16_reads key.keyCode).bind
    exact ((padding_reads 2).map _).of_eq (by simp)
  · simp [ScanCodePdu.bytes, eventSize]

theorem UnicodePdu.decode_reads (key : UnicodePdu) : Reads UnicodePdu.decode key.bytes key := by
  apply Reads.ensureSize
  · apply (readU16_reads (UInt16.ofBitVec key.flags.bits)).bind
    apply (readU16_reads key.unicodeCode).bind
    exact ((padding_reads 2).map _).of_eq (by simp)
  · simp [UnicodePdu.bytes, eventSize]

theorem SyncPdu.decode_reads (sync : SyncPdu) : Reads SyncPdu.decode sync.bytes sync := by
  apply Reads.ensureSize
  · apply (padding_reads 2).bind
    exact ((readU32_reads (UInt32.ofBitVec sync.flags.bits)).map _).of_eq (by simp)
  · simp [SyncPdu.bytes, eventSize]

theorem UnusedPdu.decode_reads : Reads UnusedPdu.decode UnusedPdu.bytes () :=
  ((padding_reads 6).map fun _ => ()).ensureSize (Nat.le_refl 6)

/-- Six bytes follow the type of an event, whatever the event. -/
theorem InputEvent.pduBytes_length (event : InputEvent) : event.pduBytes.length = eventSize := by
  cases event <;> simp [pduBytes, SyncPdu.bytes, UnusedPdu.bytes, ScanCodePdu.bytes, UnicodePdu.bytes,
    MousePdu.bytes, MouseXPdu.bytes, MouseRelPdu.bytes, eventSize]

theorem InputEvent.bytes_length (event : InputEvent) : event.bytes.length = event.size := by
  rw [bytes, List.length_append, pduBytes_length]
  simp [InputEvent.size, eventSize]

private theorem InputEvent.encodePdu_writes (event : InputEvent) : event.encodePdu.Writes event.pduBytes := by
  have length := event.pduBytes_length
  cases event <;> exact (Encoding.write_writes _).ensureSize _ (Nat.le_of_eq length.symm)

theorem InputEvent.encode_writes (event : InputEvent) : event.encode.Writes event.bytes := by
  have long : eventSize ≤ event.bytes.length := by
    rw [event.bytes_length]
    exact Nat.le_add_right ..
  exact ((Encoding.write_writes _).andThen event.encodePdu_writes).ensureSize _ long

theorem InputEvent.decode_reads (event : InputEvent) : Reads InputEvent.decode event.bytes event.received := by
  have long : eventSize ≤ event.bytes.length := by
    rw [event.bytes_length]
    exact Nat.le_add_right ..
  apply Reads.ensureSize _ long
  have time := readU32_reads 0
  rw [InputEvent.bytes, List.append_assoc]
  apply time.bind
  apply (readU16_reads event.eventType).bind
  cases event with
  | sync pdu => exact pdu.decode_reads.map _
  | unused => exact UnusedPdu.decode_reads.map _
  | scanCode pdu => exact pdu.decode_reads.map _
  | unicode pdu => exact pdu.decode_reads.map _
  | mouse pdu => exact pdu.decode_reads.map _
  | mouseX pdu => exact pdu.decode_reads.map _
  | mouseRel pdu => exact pdu.decode_reads.map _

theorem InputEventPdu.bytes_length (events : List InputEvent) :
    (InputEventPdu.bytes events).length = InputEventPdu.size events := by
  have each : events.map (fun event => event.bytes.length) = events.map InputEvent.size :=
    List.map_congr_left fun event _ => event.bytes_length
  rw [InputEventPdu.bytes, InputEventPdu.size, List.length_append, List.length_flatMap, each]
  simp

theorem InputEventPdu.encode_writes (small : events.length < UInt16.size) :
    (InputEventPdu.encode events).Writes (InputEventPdu.bytes events) := by
  have written := Encoding.all_writes fun event (_ : event ∈ events) => InputEvent.encode_writes event
  apply Encoding.Writes.ensureSize _ _ (Nat.le_of_eq (InputEventPdu.bytes_length events).symm)
  rw [if_pos small]
  exact (Encoding.write_writes _).andThen written

theorem InputEventPdu.decode_reads (small : events.length < UInt16.size) :
    Reads InputEventPdu.decode (InputEventPdu.bytes events) (events.map InputEvent.received) := by
  have count : events.length.toUInt16.toNat = events.length := UInt16.toNat_ofNat_of_lt' small
  have number := readU16_reads events.length.toUInt16
  rw [count] at number
  have long : 4 ≤ (InputEventPdu.bytes events).length := by
    rw [InputEventPdu.bytes_length]
    exact Nat.le_add_right ..
  apply Reads.ensureSize _ long
  rw [InputEventPdu.bytes, List.append_assoc]
  apply number.bind
  apply (padding_reads 2).bind
  rw [count]
  exact times_reads fun event _ => event.decode_reads

end RoundTrip

section Safety

/-! Every read is behind a check of the room for it. -/

theorem MousePdu.decode_safe : SafeFrom 0 MousePdu.decode :=
  ensureSize_safe (readU16_takes.bind_safe 4 fun _ => readU16_takes.bind_safe 2 fun _ => (readU16_takes.map _).safe)

theorem MouseXPdu.decode_safe : SafeFrom 0 MouseXPdu.decode :=
  ensureSize_safe (readU16_takes.bind_safe 4 fun _ => readU16_takes.bind_safe 2 fun _ => (readU16_takes.map _).safe)

theorem MouseRelPdu.decode_safe : SafeFrom 0 MouseRelPdu.decode :=
  ensureSize_safe (readU16_takes.bind_safe 4 fun _ => readU16_takes.bind_safe 2 fun _ => (readU16_takes.map _).safe)

theorem ScanCodePdu.decode_safe : SafeFrom 0 ScanCodePdu.decode :=
  ensureSize_safe (readU16_takes.bind_safe 4 fun _ => readU16_takes.bind_safe 2 fun _ =>
    ((readSlice_takes 2).map _).safe)

theorem UnicodePdu.decode_safe : SafeFrom 0 UnicodePdu.decode :=
  ensureSize_safe (readU16_takes.bind_safe 4 fun _ => readU16_takes.bind_safe 2 fun _ =>
    ((readSlice_takes 2).map _).safe)

theorem SyncPdu.decode_safe : SafeFrom 0 SyncPdu.decode :=
  ensureSize_safe ((readSlice_takes 2).bind_safe 4 fun _ => (readU32_takes.map _).safe)

theorem UnusedPdu.decode_safe : SafeFrom 0 UnusedPdu.decode := ensureSize_safe ((readSlice_takes 6).map _).safe

theorem InputEvent.decode_safe : SafeFrom 0 InputEvent.decode := by
  apply ensureSize_safe
  apply readU32_takes.bind_safe 2
  intro _
  apply readU16_takes.bind_safe 0
  intro eventType
  split
  · exact SyncPdu.decode_safe.bind fun _ => pure_safe _ 0
  · exact UnusedPdu.decode_safe.bind fun _ => pure_safe _ 0
  · exact ScanCodePdu.decode_safe.bind fun _ => pure_safe _ 0
  · exact UnicodePdu.decode_safe.bind fun _ => pure_safe _ 0
  · exact MousePdu.decode_safe.bind fun _ => pure_safe _ 0
  · exact MouseXPdu.decode_safe.bind fun _ => pure_safe _ 0
  · exact MouseRelPdu.decode_safe.bind fun _ => pure_safe _ 0
  · exact fail_safe _ 0

/-- No bytes make the decoder of a slow-path input PDU panic. -/
theorem InputEventPdu.decode_safe : SafeFrom 0 InputEventPdu.decode := by
  apply ensureSize_safe
  apply readU16_takes.bind_safe 2
  intro numberOfEvents
  apply (readSlice_takes 2).bind_safe 0
  intro _
  exact times_safe InputEvent.decode_safe _

end Safety
end Osxrdp.InputEvents
