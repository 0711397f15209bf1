import Osxrdp.FastPath
import Osxrdp.InputEvents
import Osxrdp.Rectangles

/-! `rdp/headers.rs` and the data units under its headers: what a client and a
server tell each other on the I/O channel. The capability sets and what only a
server reports are not looked into. -/
namespace Osxrdp.ShareData
open Bitflags (Flags)
open FastPath (CompressionFlags CompressionType)
open Rectangles
open Gfx (InclusiveRectangle)
open InputEvents
open Bytes (littleEndian littleEndian_length)
open WireDecoding (Decoding)
open WireDecoding.Decoding
open WireEncoding (Encoding)

section Kinds

/-- The priority of a message. -/
inductive StreamPriority where
  | undefined
  | low
  | medium
  | high
  deriving DecidableEq, Repr

def StreamPriority.asU8 : StreamPriority → UInt8
  | .undefined => 0
  | .low => 1
  | .medium => 2
  | .high => 4

def StreamPriority.fromU8 : UInt8 → Option StreamPriority
  | 0 => some .undefined
  | 1 => some .low
  | 2 => some .medium
  | 4 => some .high
  | _ => none

/-- The kinds of data units. -/
inductive ShareControlPduType where
  | demandActivePdu
  | confirmActivePdu
  | deactivateAllPdu
  | dataPdu
  | serverRedirect
  deriving DecidableEq, Repr

def ShareControlPduType.asU16 : ShareControlPduType → UInt16
  | .demandActivePdu => 0x1
  | .confirmActivePdu => 0x3
  | .deactivateAllPdu => 0x6
  | .dataPdu => 0x7
  | .serverRedirect => 0xA

/-- `ShareControlPduType::from_u16` -/
def ShareControlPduType.fromU16 : UInt16 → Option ShareControlPduType
  | 0x1 => some .demandActivePdu
  | 0x3 => some .confirmActivePdu
  | 0x6 => some .deactivateAllPdu
  | 0x7 => some .dataPdu
  | 0xA => some .serverRedirect
  | _ => none

/-- The kinds of data that are handed on as bytes. -/
inductive RawKind where
  | update
  | pointer
  | playSound
  | setKeyboardIndicators
  | bitmapCachePersistentList
  | bitmapCacheErrorPdu
  | setKeyboardImeStatus
  | offscreenCacheErrorPdu
  | drawNineGridErrorPdu
  | drawGdiPusErrorPdu
  | arcStatusPdu
  | statusInfoPdu
  deriving DecidableEq, Repr

/-- The kinds of data messages. -/
inductive ShareDataPduType where
  | control
  | input
  | synchronize
  | refreshRectangle
  | suppressOutput
  | shutdownRequest
  | shutdownDenied
  | saveSessionInfo
  | fontList
  | fontMap
  | setErrorInfoPdu
  | monitorLayoutPdu
  | frameAcknowledgePdu
  | raw (kind : RawKind)
  deriving DecidableEq, Repr

namespace ShareDataPduType

def asU8 : ShareDataPduType → UInt8
  | .raw .update => 0x02
  | .control => 0x14
  | .raw .pointer => 0x1B
  | .input => 0x1C
  | .synchronize => 0x1F
  | .refreshRectangle => 0x21
  | .raw .playSound => 0x22
  | .suppressOutput => 0x23
  | .shutdownRequest => 0x24
  | .shutdownDenied => 0x25
  | .saveSessionInfo => 0x26
  | .fontList => 0x27
  | .fontMap => 0x28
  | .raw .setKeyboardIndicators => 0x29
  | .raw .bitmapCachePersistentList => 0x2B
  | .raw .bitmapCacheErrorPdu => 0x2C
  | .raw .setKeyboardImeStatus => 0x2D
  | .raw .offscreenCacheErrorPdu => 0x2E
  | .setErrorInfoPdu => 0x2F
  | .raw .drawNineGridErrorPdu => 0x30
  | .raw .drawGdiPusErrorPdu => 0x31
  | .raw .arcStatusPdu => 0x32
  | .raw .statusInfoPdu => 0x36
  | .monitorLayoutPdu => 0x37
  | .frameAcknowledgePdu => 0x38

/-- `ShareDataPduType::from_u8` -/
def fromU8 : UInt8 → Option ShareDataPduType
  | 0x02 => some (.raw .update)
  | 0x14 => some .control
  | 0x1B => some (.raw .pointer)
  | 0x1C => some .input
  | 0x1F => some .synchronize
  | 0x21 => some .refreshRectangle
  | 0x22 => some (.raw .playSound)
  | 0x23 => some .suppressOutput
  | 0x24 => some .shutdownRequest
  | 0x25 => some .shutdownDenied
  | 0x26 => some .saveSessionInfo
  | 0x27 => some .fontList
  | 0x28 => some .fontMap
  | 0x29 => some (.raw .setKeyboardIndicators)
  | 0x2B => some (.raw .bitmapCachePersistentList)
  | 0x2C => some (.raw .bitmapCacheErrorPdu)
  | 0x2D => some (.raw .setKeyboardImeStatus)
  | 0x2E => some (.raw .offscreenCacheErrorPdu)
  | 0x2F => some .setErrorInfoPdu
  | 0x30 => some (.raw .drawNineGridErrorPdu)
  | 0x31 => some (.raw .drawGdiPusErrorPdu)
  | 0x32 => some (.raw .arcStatusPdu)
  | 0x36 => some (.raw .statusInfoPdu)
  | 0x37 => some .monitorLayoutPdu
  | 0x38 => some .frameAcknowledgePdu
  | _ => none

/-- A kind of message is known by its number. -/
theorem fromU8_asU8 (kind : ShareDataPduType) : fromU8 kind.asU8 = some kind := by
  cases kind with
  | raw kind => cases kind <;> rfl
  | _ => rfl

end ShareDataPduType

/-- What is asked of control, or granted. -/
inductive ControlAction where
  | requestControl
  | grantedControl
  | detach
  | cooperate
  deriving DecidableEq, Repr

def ControlAction.asU16 : ControlAction → UInt16
  | .requestControl => 1
  | .grantedControl => 2
  | .detach => 3
  | .cooperate => 4

def ControlAction.fromU16 : UInt16 → Option ControlAction
  | 1 => some .requestControl
  | 2 => some .grantedControl
  | 3 => some .detach
  | 4 => some .cooperate
  | _ => none

namespace SequenceFlags

def first : BitVec 16 := 1
def last : BitVec 16 := 2
def all : BitVec 16 := first ||| last

end SequenceFlags

/-- Where a font list stands among several. -/
abbrev SequenceFlags := Flags SequenceFlags.all

end Kinds

section Units

/-- A request for control, or its grant. -/
structure ControlPdu where
  action : ControlAction
  grantId : UInt16
  controlId : UInt32
  deriving DecidableEq, Repr

/-- A font list, or a font map. -/
structure FontPdu where
  number : UInt16
  totalNumber : UInt16
  flags : SequenceFlags
  entrySize : UInt16
  deriving DecidableEq

/-- The data units that are not looked into. -/
inductive ForeignKind where
  | serverDemandActive
  | clientConfirmActive
  | monitorLayout
  | saveSessionInfo
  | serverSetErrorInfo
  deriving DecidableEq, Repr

/-- Their codecs. -/
structure Foreign (α : Type) where
  encode : ForeignKind → α → Encoding
  size : ForeignKind → α → Nat
  decode : ForeignKind → Decoding α

/-- A data message. The kinds that are not modelled hold a value of their own. -/
inductive ShareDataPdu (α : Type) where
  | synchronize (targetUserId : UInt16)
  | control (pdu : ControlPdu)
  | fontList (pdu : FontPdu)
  | fontMap (pdu : FontPdu)
  | monitorLayout (pdu : α)
  | saveSessionInfo (pdu : α)
  | frameAcknowledge (frameId : UInt32)
  | serverSetErrorInfo (pdu : α)
  | input (events : List InputEvent)
  | shutdownRequest
  | shutdownDenied
  | suppressOutput (desktopRect : Option InclusiveRectangle)
  | refreshRectangle (areasToRefresh : List InclusiveRectangle)
  | raw (kind : RawKind) (buffer : Bytes)
  deriving DecidableEq

/-- A data message with its header. -/
structure ShareDataHeader (α : Type) where
  shareDataPdu : ShareDataPdu α
  streamPriority : StreamPriority
  compressionFlags : CompressionFlags
  compressionType : CompressionType
  deriving DecidableEq

/-- What a data unit holds. -/
inductive ShareControlPdu (α : Type) where
  | serverDemandActive (pdu : α)
  | clientConfirmActive (pdu : α)
  | data (header : ShareDataHeader α)
  | serverDeactivateAll
  deriving DecidableEq

/-- A data unit with its header. -/
structure ShareControlHeader (α : Type) where
  shareControlPdu : ShareControlPdu α
  pduSource : UInt16
  shareId : UInt32
  deriving DecidableEq

end Units

section Encode
variable {α : Type}

def SynchronizePdu.encode (targetUserId : UInt16) : Encoding :=
  .ensureSize "SynchronizePdu" 4 <| .write (littleEndian 2 1 ++ littleEndian 2 targetUserId.toNat)

def ControlPdu.encode (pdu : ControlPdu) : Encoding :=
  .ensureSize "ControlPdu" 8 <|
    .write (littleEndian 2 pdu.action.asU16.toNat ++ (littleEndian 2 pdu.grantId.toNat ++
      littleEndian 4 pdu.controlId.toNat))

def FontPdu.encode (pdu : FontPdu) : Encoding :=
  .ensureSize "FontPdu" 8 <|
    .write (littleEndian 2 pdu.number.toNat ++ (littleEndian 2 pdu.totalNumber.toNat ++
      (littleEndian 2 pdu.flags.bits.toNat ++ littleEndian 2 pdu.entrySize.toNat)))

def FrameAcknowledgePdu.encode (frameId : UInt32) : Encoding :=
  .ensureSize "FrameAcknowledgePdu" 4 <| .write (littleEndian 4 frameId.toNat)

namespace SuppressOutputPdu

def size (desktopRect : Option InclusiveRectangle) : Nat := 4 + (desktopRect.map fun _ => 8).getD 0

def encode (desktopRect : Option InclusiveRectangle) : Encoding :=
  .ensureSize "SuppressOutputPdu" (size desktopRect) <| match desktopRect with
    | some rect => .andThen (.write (1 :: List.replicate 3 0)) rect.encode
    | none => .write (0 :: List.replicate 3 0)

end SuppressOutputPdu

namespace RefreshRectanglePdu

def size (areasToRefresh : List InclusiveRectangle) : Nat := 4 + (areasToRefresh.map fun _ => 8).sum

def encode (areasToRefresh : List InclusiveRectangle) : Encoding :=
  .ensureSize "RefreshRectanglePdu" (size areasToRefresh) <|
    if areasToRefresh.length < UInt8.size then
      .andThen (.write (areasToRefresh.length.toUInt8 :: List.replicate 3 0)) <|
        .all (areasToRefresh.map InclusiveRectangle.encode)
    else .fail (.invalidField "nAreas")

end RefreshRectanglePdu

def ServerDeactivateAll.encode : Encoding :=
  .ensureSize "Server Deactivate All" 3 <| .write (littleEndian 2 1 ++ [0])

namespace ShareDataPdu

/-- The kind of a message. -/
def shareHeaderType : ShareDataPdu α → ShareDataPduType
  | .synchronize _ => .synchronize
  | .control _ => .control
  | .fontList _ => .fontList
  | .fontMap _ => .fontMap
  | .monitorLayout _ => .monitorLayoutPdu
  | .saveSessionInfo _ => .saveSessionInfo
  | .frameAcknowledge _ => .frameAcknowledgePdu
  | .serverSetErrorInfo _ => .setErrorInfoPdu
  | .input _ => .input
  | .shutdownRequest => .shutdownRequest
  | .shutdownDenied => .shutdownDenied
  | .suppressOutput _ => .suppressOutput
  | .refreshRectangle _ => .refreshRectangle
  | .raw kind _ => .raw kind

/-- The size of a message. -/
def size (foreign : Foreign α) : ShareDataPdu α → Nat
  | .synchronize _ => 4
  | .control _ => 8
  | .fontList _ | .fontMap _ => 8
  | .monitorLayout pdu => foreign.size .monitorLayout pdu
  | .saveSessionInfo pdu => foreign.size .saveSessionInfo pdu
  | .frameAcknowledge _ => 4
  | .serverSetErrorInfo pdu => foreign.size .serverSetErrorInfo pdu
  | .input events => InputEventPdu.size events
  | .shutdownRequest | .shutdownDenied => 0
  | .suppressOutput desktopRect => SuppressOutputPdu.size desktopRect
  | .refreshRectangle areasToRefresh => RefreshRectanglePdu.size areasToRefresh
  | .raw _ buffer => buffer.length

/-- `encode` of a message. -/
def encode (foreign : Foreign α) : ShareDataPdu α → Encoding
  | .synchronize targetUserId => SynchronizePdu.encode targetUserId
  | .control pdu => pdu.encode
  | .fontList pdu | .fontMap pdu => pdu.encode
  | .monitorLayout pdu => foreign.encode .monitorLayout pdu
  | .saveSessionInfo pdu => foreign.encode .saveSessionInfo pdu
  | .frameAcknowledge frameId => FrameAcknowledgePdu.encode frameId
  | .serverSetErrorInfo pdu => foreign.encode .serverSetErrorInfo pdu
  | .input events => InputEventPdu.encode events
  | .shutdownRequest | .shutdownDenied => .write []
  | .suppressOutput desktopRect => SuppressOutputPdu.encode desktopRect
  | .refreshRectangle areasToRefresh => RefreshRectanglePdu.encode areasToRefresh
  | .raw _ _ => .fail (.invalidField "Encoding not implemented")

end ShareDataPdu

namespace ShareDataHeader

def size (foreign : Foreign α) (header : ShareDataHeader α) : Nat := 8 + header.shareDataPdu.size foreign

/-- The length of the data without its first four bytes, which are not counted. -/
def uncompressedLength (foreign : Foreign α) (header : ShareDataHeader α) : Nat :=
  header.shareDataPdu.size foreign + 1 + 1 + 2

/-- `ShareDataHeader::encode` -/
def encode (foreign : Foreign α) (header : ShareDataHeader α) : Encoding :=
  .ensureSize "ShareDataHeader" (header.size foreign) <|
    if header.compressionFlags = .empty then
      .andThen (.write [0, header.streamPriority.asU8]) <|
        if header.uncompressedLength foreign < UInt16.size then
          .andThen (.write (littleEndian 2 (header.uncompressedLength foreign) ++
              ([header.shareDataPdu.shareHeaderType.asU8,
                UInt8.ofBitVec header.compressionFlags.bits ||| header.compressionType.asU8] ++ littleEndian 2 0)))
            (header.shareDataPdu.encode foreign)
        else .fail (.invalidField "uncompressedLength")
    else .fail (.invalidField "Compression is not implemented")

end ShareDataHeader

namespace ShareControlPdu

def shareHeaderType : ShareControlPdu α → ShareControlPduType
  | .serverDemandActive _ => .demandActivePdu
  | .clientConfirmActive _ => .confirmActivePdu
  | .data _ => .dataPdu
  | .serverDeactivateAll => .deactivateAllPdu

def size (foreign : Foreign α) : ShareControlPdu α → Nat
  | .serverDemandActive pdu => foreign.size .serverDemandActive pdu
  | .clientConfirmActive pdu => foreign.size .clientConfirmActive pdu
  | .data header => header.size foreign
  | .serverDeactivateAll => 3

def encode (foreign : Foreign α) : ShareControlPdu α → Encoding
  | .serverDemandActive pdu => foreign.encode .serverDemandActive pdu
  | .clientConfirmActive pdu => foreign.encode .clientConfirmActive pdu
  | .data header => header.encode foreign
  | .serverDeactivateAll => ServerDeactivateAll.encode

end ShareControlPdu

def protocolVersion : UInt16 := 0x10

namespace ShareControlHeader

def size (foreign : Foreign α) (header : ShareControlHeader α) : Nat := 10 + header.shareControlPdu.size foreign

/-- The fields before the data unit. -/
def fieldBytes (header : ShareControlHeader α) (totalLength : Nat) : Bytes :=
  littleEndian 2 totalLength ++ (littleEndian 2 (protocolVersion |||
    header.shareControlPdu.shareHeaderType.asU16).toNat ++
    (littleEndian 2 header.pduSource.toNat ++ littleEndian 4 header.shareId.toNat))

/-- `ShareControlHeader::encode` -/
def encode (foreign : Foreign α) (header : ShareControlHeader α) : Encoding :=
  .ensureSize "ShareControlHeader" (header.size foreign) <|
    if header.shareControlPdu.size foreign + 10 < UInt16.size then
      .andThen (.write (header.fieldBytes (header.shareControlPdu.size foreign + 10)))
        (header.shareControlPdu.encode foreign)
    else .fail (.invalidField "len")

end ShareControlHeader
end Encode

section Decode
variable {α : Type}

/-- `src.remaining()`, which takes nothing. -/
def readRemaining : Decoding Bytes := fun src => some (.ok (src, src))

def SynchronizePdu.decode : Decoding UInt16 := do
  ensureSize 4
  let messageType ← readU16
  if messageType ≠ 1 then fail (.invalidField "messageType" "invalid message type") else readU16

def ControlPdu.decode : Decoding ControlPdu := do
  ensureSize 8
  match ControlAction.fromU16 (← readU16) with
  | none => fail (.invalidField "action" "invalid control action")
  | some action => do
    let grantId ← readU16
    let controlId ← readU32
    return { action, grantId, controlId }

def FontPdu.decode : Decoding FontPdu := do
  ensureSize 8
  let number ← readU16
  let totalNumber ← readU16
  match (Flags.fromBits (← readU16).toBitVec : Option SequenceFlags) with
  | none => fail (.invalidField "flags" "invalid sequence flags")
  | some flags => do
    let entrySize ← readU16
    return { number, totalNumber, flags, entrySize }

def FrameAcknowledgePdu.decode : Decoding UInt32 := do
  ensureSize 4
  readU32

/-- `SuppressOutputPdu::decode`: a rectangle is there when output is allowed. -/
def SuppressOutputPdu.decode : Decoding (Option InclusiveRectangle) := do
  ensureSize 4
  let allowDisplayUpdates ← readU8
  if allowDisplayUpdates = 1 then
    let _ ← readSlice 3
    return some (← InclusiveRectangle.decode)
  else if allowDisplayUpdates = 0 then
    let _ ← readSlice 3
    return none
  else fail (.invalidField "allowDisplayUpdates" "invalid display update type")

/-- `RefreshRectanglePdu::decode` -/
def RefreshRectanglePdu.decode : Decoding (List InclusiveRectangle) := do
  ensureSize 4
  let numberOfAreas ← readU8
  let _ ← readSlice 3
  times numberOfAreas.toNat InclusiveRectangle.decode

/-- `ServerDeactivateAll::decode` -/
def ServerDeactivateAll.decode : Decoding Unit := do
  ensureSize 3
  let lengthSourceDescriptor ← readU16
  ensureSize lengthSourceDescriptor.toNat
  let _ ← readSlice lengthSourceDescriptor.toNat
  return ()

/-- `ShareDataPdu::from_type` -/
def ShareDataPdu.fromType (foreign : Foreign α) : ShareDataPduType → Decoding (ShareDataPdu α)
  | .synchronize => return .synchronize (← SynchronizePdu.decode)
  | .control => return .control (← ControlPdu.decode)
  | .fontList => return .fontList (← FontPdu.decode)
  | .fontMap => return .fontMap (← FontPdu.decode)
  | .monitorLayoutPdu => return .monitorLayout (← foreign.decode .monitorLayout)
  | .saveSessionInfo => return .saveSessionInfo (← foreign.decode .saveSessionInfo)
  | .frameAcknowledgePdu => return .frameAcknowledge (← FrameAcknowledgePdu.decode)
  | .setErrorInfoPdu => return .serverSetErrorInfo (← foreign.decode .serverSetErrorInfo)
  | .input => return .input (← InputEventPdu.decode)
  | .shutdownRequest => return .shutdownRequest
  | .shutdownDenied => return .shutdownDenied
  | .suppressOutput => return .suppressOutput (← SuppressOutputPdu.decode)
  | .refreshRectangle => return .refreshRectangle (← RefreshRectanglePdu.decode)
  | .raw kind => return .raw kind (← readRemaining)

/-- `ShareDataHeader::decode` -/
def ShareDataHeader.decode (foreign : Foreign α) : Decoding (ShareDataHeader α) := do
  ensureSize 8
  let _ ← readSlice 1
  match StreamPriority.fromU8 (← readU8) with
  | none => fail (.invalidField "streamPriority" "Invalid stream priority")
  | some streamPriority => do
    let _ ← readU16
    match ShareDataPduType.fromU8 (← readU8) with
    | none => fail (.invalidField "pduType" "Invalid pdu type")
    | some pduType => do
      let compressionFlagsWithType ← readU8
      match CompressionType.fromU8 (compressionFlagsWithType &&& 0xF) with
      | none => fail (.invalidField "compressionType" "Invalid compression type")
      | some compressionType => do
        let _ ← readU16
        let shareDataPdu ← ShareDataPdu.fromType foreign pduType
        return { shareDataPdu, streamPriority, compressionType
                 compressionFlags := .fromBitsTruncate (compressionFlagsWithType &&& ~~~0xF).toBitVec }

/-- `ShareControlPdu::from_type` -/
def ShareControlPdu.fromType (foreign : Foreign α) : ShareControlPduType → Decoding (ShareControlPdu α)
  | .demandActivePdu => return .serverDemandActive (← foreign.decode .serverDemandActive)
  | .confirmActivePdu => return .clientConfirmActive (← foreign.decode .clientConfirmActive)
  | .dataPdu => return .data (← ShareDataHeader.decode foreign)
  | .deactivateAllPdu => do
    ServerDeactivateAll.decode
    return .serverDeactivateAll
  | .serverRedirect => fail (.invalidField "share_type" "unexpected share control PDU type")

namespace ShareControlHeader

/-- What a data unit is padded with, up to the length that its header tells. -/
def skipPadding (headerLength totalLength : Nat) : Decoding Unit :=
  if headerLength = totalLength then return ()
  else if totalLength < headerLength then fail (.notEnoughBytes totalLength headerLength)
  else do
    ensureSize (totalLength - headerLength)
    let _ ← readSlice (totalLength - headerLength)
    return ()

/-- `ShareControlHeader::decode` -/
def decode (foreign : Foreign α) : Decoding (ShareControlHeader α) := do
  ensureSize 10
  let totalLength ← readU16
  let pduTypeWithVersion ← readU16
  let pduSource ← readU16
  let shareId ← readU32
  match ShareControlPduType.fromU16 (pduTypeWithVersion &&& 0xF) with
  | none => fail (.invalidField "pdu_type" "invalid pdu type")
  | some pduType =>
    if pduTypeWithVersion &&& ~~~0xF ≠ protocolVersion then
      fail (.invalidField "pdu_version" "invalid PDU version")
    else
      let shareControlPdu ← ShareControlPdu.fromType foreign pduType
      let header : ShareControlHeader α := { shareControlPdu, pduSource, shareId }
      if pduType = .dataPdu then skipPadding (header.size foreign) totalLength.toNat
      return header

end ShareControlHeader
end Decode

section RoundTrip
variable {α : Type} {foreign : Foreign α} {pdu : ShareDataPdu α} {header : ShareDataHeader α}
  {control : ShareControlHeader α}

namespace ShareDataPdu

/-- What `encode` writes of a message. -/
def bytes : ShareDataPdu α → Bytes
  | .synchronize targetUserId => littleEndian 2 1 ++ littleEndian 2 targetUserId.toNat
  | .control pdu =>
    littleEndian 2 pdu.action.asU16.toNat ++ (littleEndian 2 pdu.grantId.toNat ++ littleEndian 4 pdu.controlId.toNat)
  | .fontList pdu | .fontMap pdu =>
    littleEndian 2 pdu.number.toNat ++ (littleEndian 2 pdu.totalNumber.toNat ++
      (littleEndian 2 pdu.flags.bits.toNat ++ littleEndian 2 pdu.entrySize.toNat))
  | .frameAcknowledge frameId => littleEndian 4 frameId.toNat
  | .input events => InputEventPdu.bytes events
  | .suppressOutput (some desktopRect) => 1 :: List.replicate 3 0 ++ rectangleBytes desktopRect
  | .suppressOutput none => 0 :: List.replicate 3 0
  | .refreshRectangle areasToRefresh =>
    areasToRefresh.length.toUInt8 :: List.replicate 3 0 ++ areasToRefresh.flatMap rectangleBytes
  | .shutdownRequest | .shutdownDenied | .monitorLayout _ | .saveSessionInfo _ | .serverSetErrorInfo _
  | .raw _ _ => []

/-- The lists fit into the fields that count them, and the data is of a kind
that is encoded here. -/
def Fits : ShareDataPdu α → Prop
  | .monitorLayout _ | .saveSessionInfo _ | .serverSetErrorInfo _ | .raw _ _ => False
  | .input events => events.length < UInt16.size
  | .refreshRectangle areasToRefresh => areasToRefresh.length < UInt8.size
  | .synchronize _ | .control _ | .fontList _ | .fontMap _ | .frameAcknowledge _ | .shutdownRequest
  | .shutdownDenied | .suppressOutput _ => True

/-- The data as the other side has it. -/
def received : ShareDataPdu α → ShareDataPdu α
  | .input events => .input (events.map InputEvent.received)
  | pdu => pdu

private theorem received_size (pdu : ShareDataPdu α) : pdu.received.size foreign = pdu.size foreign := by
  cases pdu with
  | input events =>
    simp only [received, size, InputEventPdu.size, List.map_map]
    rfl
  | _ => rfl

/-- A message takes its size. -/
theorem bytes_length (foreign : Foreign α) (fits : pdu.Fits) : pdu.bytes.length = pdu.size foreign := by
  cases pdu with
  | input events => exact InputEventPdu.bytes_length events
  | suppressOutput desktopRect => cases desktopRect <;> simp [bytes, size, SuppressOutputPdu.size, rectangleBytes]
  | refreshRectangle areasToRefresh =>
    simp only [bytes, size, RefreshRectanglePdu.size, List.length_append, List.length_flatMap, List.length_cons,
      List.length_replicate]
    rw [List.map_congr_left fun rectangle _ => (by simp [rectangleBytes] : (rectangleBytes rectangle).length = 8)]
  | monitorLayout pdu | saveSessionInfo pdu | serverSetErrorInfo pdu | raw kind buffer => exact fits.elim
  | shutdownRequest | shutdownDenied => rfl
  | synchronize targetUserId | frameAcknowledge frameId => simp [bytes, size]
  | control pdu | fontList pdu | fontMap pdu => simp [bytes, size]

/-- What `encode` writes of a message that fits. -/
theorem encode_writes (fits : pdu.Fits) : (pdu.encode foreign).Writes pdu.bytes := by
  have length := bytes_length foreign fits
  have sized : ∀ {bytes : Bytes} {size : Nat} (context : String), bytes.length = size →
      (Encoding.ensureSize context size (.write bytes)).Writes bytes :=
    fun context length => (Encoding.write_writes _).ensureSize context (Nat.le_of_eq length.symm)
  cases pdu with
  | input events => exact InputEventPdu.encode_writes fits
  | suppressOutput desktopRect =>
    apply Encoding.Writes.ensureSize _ _ (Nat.le_of_eq length.symm)
    cases desktopRect with
    | none => exact Encoding.write_writes _
    | some rectangle => exact (Encoding.write_writes _).andThen (rectangle_writes rectangle)
  | refreshRectangle areasToRefresh =>
    apply Encoding.Writes.ensureSize _ _ (Nat.le_of_eq length.symm)
    have few : areasToRefresh.length < UInt8.size := fits
    rw [if_pos few]
    exact (Encoding.write_writes _).andThen (Encoding.all_writes fun rectangle _ => rectangle_writes rectangle)
  | monitorLayout pdu | saveSessionInfo pdu | serverSetErrorInfo pdu | raw kind buffer => exact fits.elim
  | shutdownRequest | shutdownDenied => exact Encoding.write_writes _
  | synchronize targetUserId | frameAcknowledge frameId => exact sized _ length
  | control pdu | fontList pdu | fontMap pdu => exact sized _ length

private theorem fromType_reads (fits : pdu.Fits) :
    Reads (fromType foreign pdu.shareHeaderType) pdu.bytes pdu.received := by
  cases pdu with
  | synchronize targetUserId =>
    have read : Reads SynchronizePdu.decode (synchronize (α := α) targetUserId).bytes targetUserId := by
      apply Reads.ensureSize _ (by simp [bytes])
      apply (readU16_reads 1).bind
      rw [if_neg fun other => other rfl]
      exact readU16_reads targetUserId
    exact read.map ShareDataPdu.synchronize
  | control pdu =>
    have read : Reads ControlPdu.decode (control (α := α) pdu).bytes pdu := by
      apply Reads.ensureSize _ (by simp [bytes])
      apply (readU16_reads pdu.action.asU16).bind
      have action : ControlAction.fromU16 pdu.action.asU16 = some pdu.action := by
        cases pdu.action <;> rfl
      simp only [action]
      exact (readU16_reads pdu.grantId).bind ((readU32_reads pdu.controlId).map _)
    exact read.map ShareDataPdu.control
  | fontList pdu | fontMap pdu =>
    have read : Reads FontPdu.decode (fontList (α := α) pdu).bytes pdu := by
      apply Reads.ensureSize _ (by simp [bytes])
      apply (readU16_reads pdu.number).bind
      apply (readU16_reads pdu.totalNumber).bind
      apply (readU16_reads (UInt16.ofBitVec pdu.flags.bits)).bind
      simp only [Flags.fromBits_bits]
      exact (readU16_reads pdu.entrySize).map _
    exact read.map _
  | frameAcknowledge frameId =>
    have read : Reads FrameAcknowledgePdu.decode (frameAcknowledge (α := α) frameId).bytes frameId :=
      (readU32_reads frameId).ensureSize (by simp)
    exact read.map ShareDataPdu.frameAcknowledge
  | input events => exact (InputEventPdu.decode_reads fits).map ShareDataPdu.input
  | shutdownRequest | shutdownDenied => exact pure_reads _
  | suppressOutput desktopRect =>
    have read : Reads SuppressOutputPdu.decode (suppressOutput (α := α) desktopRect).bytes desktopRect := by
      cases desktopRect with
      | none =>
        apply Reads.ensureSize _ (Nat.le_refl 4)
        apply (readU8_reads 0).bind
        exact (padding_reads 3).map _
      | some rectangle =>
        apply Reads.ensureSize _ (by simp [bytes])
        apply (readU8_reads 1).bind
        exact (padding_reads 3).bind ((rectangle_reads rectangle).map _)
    exact read.map ShareDataPdu.suppressOutput
  | refreshRectangle areasToRefresh =>
    have few : areasToRefresh.length.toUInt8.toNat = areasToRefresh.length := UInt8.toNat_ofNat_of_lt' fits
    have read : Reads RefreshRectanglePdu.decode (refreshRectangle (α := α) areasToRefresh).bytes areasToRefresh := by
      apply Reads.ensureSize _ (by simp [bytes])
      apply (readU8_reads areasToRefresh.length.toUInt8).bind
      apply (padding_reads 3).bind
      rw [few]
      exact (times_reads fun rectangle _ => rectangle_reads rectangle).of_eq (List.map_id _)
    exact read.map ShareDataPdu.refreshRectangle
  | monitorLayout pdu | saveSessionInfo pdu | serverSetErrorInfo pdu | raw kind buffer => exact fits.elim

end ShareDataPdu

namespace ShareDataHeader

/-- Data that is not compressed, of a length that its field can tell. -/
def Fits (foreign : Foreign α) (header : ShareDataHeader α) : Prop :=
  header.shareDataPdu.Fits ∧ header.compressionFlags = .empty ∧ header.uncompressedLength foreign < UInt16.size

def received (header : ShareDataHeader α) : ShareDataHeader α :=
  { header with shareDataPdu := header.shareDataPdu.received }

/-- What `encode` writes of a data message. -/
def bytes (foreign : Foreign α) (header : ShareDataHeader α) : Bytes :=
  [0, header.streamPriority.asU8] ++ (littleEndian 2 (header.uncompressedLength foreign) ++
    ([header.shareDataPdu.shareHeaderType.asU8,
      UInt8.ofBitVec header.compressionFlags.bits ||| header.compressionType.asU8] ++ littleEndian 2 0) ++
        header.shareDataPdu.bytes)

theorem bytes_length (fits : header.Fits foreign) : (header.bytes foreign).length = header.size foreign := by
  have length := ShareDataPdu.bytes_length foreign fits.1
  simp only [bytes, size, List.length_append, List.length_cons, List.length_nil, littleEndian_length, length]
  omega

/-- What `encode` writes, where the sizes fit. -/
theorem encode_writes (fits : header.Fits foreign) : (header.encode foreign).Writes (header.bytes foreign) := by
  apply Encoding.Writes.ensureSize _ _ (Nat.le_of_eq (bytes_length fits).symm)
  rw [if_pos fits.2.1, if_pos fits.2.2]
  exact (Encoding.write_writes _).andThen ((Encoding.write_writes _).andThen (ShareDataPdu.encode_writes fits.1))

/-- A data message that fits is read back as it is received. -/
theorem decode_reads (fits : header.Fits foreign) :
    Reads (decode foreign) (header.bytes foreign) header.received := by
  obtain ⟨pdu, priority, flags, compression⟩ := header
  obtain ⟨unit, rfl, small⟩ := fits
  have known : StreamPriority.fromU8 priority.asU8 = some priority := by cases priority <;> rfl
  have packed : CompressionType.fromU8 ((UInt8.ofBitVec (Flags.empty : CompressionFlags).bits |||
    compression.asU8) &&& 0xF) =
      some compression := by cases compression <;> rfl
  have unpacked : (Flags.fromBitsTruncate
      ((UInt8.ofBitVec (Flags.empty : CompressionFlags).bits ||| compression.asU8) &&& ~~~0xF).toBitVec :
        CompressionFlags) =
        .empty := by cases compression <;> rfl
  have kind := ShareDataPduType.fromU8_asU8 pdu.shareHeaderType
  have length : (ShareDataHeader.uncompressedLength foreign
      (⟨pdu, priority, .empty, compression⟩ : ShareDataHeader α)).toUInt16.toNat = _ :=
        UInt16.toNat_ofNat_of_lt' small
  have counted := readU16_reads (ShareDataHeader.uncompressedLength foreign
    (⟨pdu, priority, .empty, compression⟩ : ShareDataHeader α)).toUInt16
  rw [length] at counted
  apply Reads.ensureSize
  · apply (readSlice_reads [0]).bind
    apply (readU8_reads priority.asU8).bind
    simp only [known, List.append_assoc]
    apply counted.bind
    apply (readU8_reads pdu.shareHeaderType.asU8).bind
    simp only [kind]
    apply (readU8_reads (UInt8.ofBitVec (Flags.empty : CompressionFlags).bits ||| compression.asU8)).bind
    simp only [packed]
    apply (readU16_reads 0).bind
    exact ((ShareDataPdu.fromType_reads unit).map _).of_eq (by rw [unpacked]; rfl)
  · simp only [bytes, List.length_append, List.length_cons, List.length_nil, littleEndian_length]
    omega

end ShareDataHeader
namespace ShareControlPdu

/-- The data unit fits its fields. -/
def Fits (foreign : Foreign α) : ShareControlPdu α → Prop
  | .data header => header.Fits foreign
  | .serverDeactivateAll => True
  | .serverDemandActive _ | .clientConfirmActive _ => False

def received : ShareControlPdu α → ShareControlPdu α
  | .data header => .data header.received
  | pdu => pdu

def bytes (foreign : Foreign α) : ShareControlPdu α → Bytes
  | .data header => header.bytes foreign
  | .serverDeactivateAll => littleEndian 2 1 ++ [0]
  | .serverDemandActive _ | .clientConfirmActive _ => []

variable {control : ShareControlPdu α}

private theorem received_size (control : ShareControlPdu α) :
    control.received.size foreign = control.size foreign := by
  cases control with
  | data header => exact congrArg (8 + ·) header.shareDataPdu.received_size
  | _ => rfl

theorem bytes_length (fits : control.Fits foreign) : (control.bytes foreign).length = control.size foreign := by
  cases control with
  | data header => exact ShareDataHeader.bytes_length fits
  | serverDeactivateAll => rfl
  | serverDemandActive pdu | clientConfirmActive pdu => exact fits.elim

theorem encode_writes (fits : control.Fits foreign) : (control.encode foreign).Writes (control.bytes foreign) := by
  cases control with
  | data header => exact ShareDataHeader.encode_writes fits
  | serverDeactivateAll => exact (Encoding.write_writes _).ensureSize _ (Nat.le_refl 3)
  | serverDemandActive pdu | clientConfirmActive pdu => exact fits.elim

private theorem fromType_reads (fits : control.Fits foreign) :
    Reads (fromType foreign control.shareHeaderType) (control.bytes foreign) control.received := by
  cases control with
  | data header => exact (ShareDataHeader.decode_reads fits).map ShareControlPdu.data
  | serverDeactivateAll =>
    have read : Reads ServerDeactivateAll.decode (littleEndian 2 1 ++ [0]) () := by
      apply Reads.ensureSize _ (Nat.le_refl 3)
      apply (readU16_reads 1).bind
      apply Reads.ensureSize _ (Nat.le_refl 1)
      exact (readSlice_reads [0]).map _
    exact read.map fun _ => ShareControlPdu.serverDeactivateAll
  | serverDemandActive pdu | clientConfirmActive pdu => exact fits.elim

end ShareControlPdu

namespace ShareControlHeader

/-- The length with the padding fits into its field. Only data is padded. -/
structure Fits (foreign : Foreign α) (control : ShareControlHeader α) (padding : Bytes) : Prop where
  pdu : control.shareControlPdu.Fits foreign
  small : control.size foreign + padding.length < UInt16.size
  padded : control.shareControlPdu.shareHeaderType = .dataPdu ∨ padding = []

def received (control : ShareControlHeader α) : ShareControlHeader α :=
  { control with shareControlPdu := control.shareControlPdu.received }

/-- The bytes of a data unit with padding behind it that its header counts. -/
def bytes (foreign : Foreign α) (control : ShareControlHeader α) (padding : Bytes) : Bytes :=
  control.fieldBytes (control.size foreign + padding.length) ++ (control.shareControlPdu.bytes foreign ++ padding)

variable {padding : Bytes}

theorem bytes_length (fits : control.Fits foreign padding) :
    (control.bytes foreign padding).length = control.size foreign + padding.length := by
  simp only [bytes, fieldBytes, size, List.length_append, littleEndian_length, ShareControlPdu.bytes_length fits.pdu]
  omega

/-- What `encode` writes, without padding. -/
theorem encode_writes (fits : control.Fits foreign []) :
    (control.encode foreign).Writes (control.bytes foreign []) := by
  have total : control.size foreign + ([] : Bytes).length = control.shareControlPdu.size foreign + 10 := by
    rw [size, List.length_nil]
    omega
  have small := total ▸ fits.small
  apply Encoding.Writes.ensureSize _ _ (Nat.le_of_eq (bytes_length fits).symm)
  rw [if_pos small, bytes, total, List.append_nil]
  exact (Encoding.write_writes _).andThen (ShareControlPdu.encode_writes fits.pdu)

private theorem skipPadding_reads (headerLength : Nat) (padding : Bytes) :
    Reads (skipPadding headerLength (headerLength + padding.length)) padding () := by
  unfold skipPadding
  by_cases none : padding.length = 0
  · obtain rfl := List.eq_nil_of_length_eq_zero none
    have whole : headerLength = headerLength + ([] : Bytes).length := rfl
    rw [if_pos whole]
    exact pure_reads ()
  · have left : headerLength + padding.length - headerLength = padding.length := Nat.add_sub_cancel_left ..
    rw [if_neg (by omega), if_neg (by omega), left]
    exact Reads.ensureSize ((readSlice_reads padding).map _) (Nat.le_refl _)

/-- A data unit that fits is read back, padding skipped. -/
theorem decode_reads (fits : control.Fits foreign padding) :
    Reads (decode foreign) (control.bytes foreign padding) control.received := by
  have kind : ShareControlPduType.fromU16
      ((protocolVersion ||| control.shareControlPdu.shareHeaderType.asU16) &&& 0xF) =
        some control.shareControlPdu.shareHeaderType := by
    cases control.shareControlPdu.shareHeaderType <;> rfl
  have version : ¬ (protocolVersion ||| control.shareControlPdu.shareHeaderType.asU16) &&& ~~~0xF ≠
    protocolVersion := by
    cases control.shareControlPdu.shareHeaderType <;> decide
  have total : (control.size foreign + padding.length).toUInt16.toNat = control.size foreign + padding.length :=
    UInt16.toNat_ofNat_of_lt' fits.small
  have same : control.received.size foreign = control.size foreign :=
    congrArg (10 + ·) (ShareControlPdu.received_size control.shareControlPdu)
  apply Reads.ensureSize
  · simp only [bytes, fieldBytes, List.append_assoc]
    apply (readU16_reads_nat fits.small).bind
    apply (readU16_reads (protocolVersion ||| control.shareControlPdu.shareHeaderType.asU16)).bind
    apply (readU16_reads control.pduSource).bind
    apply (readU32_reads control.shareId).bind
    simp only [kind]
    rw [if_neg version]
    apply (ShareControlPdu.fromType_reads fits.pdu).bind
    have skipped : Reads (skipPadding (control.received.size foreign)
        (control.size foreign + padding.length).toUInt16.toNat) padding () := by
      rw [same, total]
      exact skipPadding_reads _ padding
    by_cases isData : control.shareControlPdu.shareHeaderType = .dataPdu
    · rw [if_pos isData]
      exact Reads.map skipped fun _ => control.received
    · rw [if_neg isData, fits.padded.resolve_left isData]
      exact pure_reads control.received
  · rw [bytes_length fits, size]
    omega

end ShareControlHeader
end RoundTrip

section Refused
variable {α : Type} {foreign : Foreign α} {room : Nat} {bytes : Bytes}

/-- Data of which nothing is foreign. -/
def ShareDataPdu.Native : ShareDataPdu α → Prop
  | .monitorLayout _ | .saveSessionInfo _ | .serverSetErrorInfo _ => False
  | _ => True

def ShareControlPdu.Native : ShareControlPdu α → Prop
  | .data header => header.shareDataPdu.Native
  | .serverDeactivateAll => True
  | .serverDemandActive _ | .clientConfirmActive _ => False

private theorem ShareDataPdu.fits_of_encode {pdu : ShareDataPdu α} (native : pdu.Native)
    (encoded : pdu.encode foreign room = some (.ok bytes)) : pdu.Fits := by
  cases pdu with
  | input events =>
    have body := (Encoding.ensureSize_eq_ok encoded).2
    split at body
    · assumption
    · cases body
  | refreshRectangle areasToRefresh =>
    have body := (Encoding.ensureSize_eq_ok encoded).2
    split at body
    · assumption
    · cases body
  | monitorLayout pdu | saveSessionInfo pdu | serverSetErrorInfo pdu => exact native
  | raw kind buffer => cases encoded
  | _ => trivial

private theorem ShareControlPdu.fits_of_encode {control : ShareControlPdu α} (native : control.Native)
    (encoded : control.encode foreign room = some (.ok bytes)) : control.Fits foreign := by
  cases control with
  | data header =>
    have body := (Encoding.ensureSize_eq_ok encoded).2
    split at body
    · obtain ⟨_, _, _, later, _⟩ := Encoding.andThen_eq_ok body
      split at later
      · obtain ⟨_, _, _, unit, _⟩ := Encoding.andThen_eq_ok later
        exact ⟨ShareDataPdu.fits_of_encode native unit, ‹_›, ‹_›⟩
      · cases later
    · cases body
  | serverDeactivateAll => trivial
  | serverDemandActive pdu | clientConfirmActive pdu => exact native

private theorem ShareControlHeader.fits_of_encode {control : ShareControlHeader α}
    (native : control.shareControlPdu.Native)
    (encoded : control.encode foreign room = some (.ok bytes)) : control.Fits foreign [] := by
  have body := (Encoding.ensureSize_eq_ok encoded).2
  split at body
  · obtain ⟨_, _, _, unit, _⟩ := Encoding.andThen_eq_ok body
    have small : control.size foreign < UInt16.size := by
      unfold ShareControlHeader.size
      omega
    exact ⟨ShareControlPdu.fits_of_encode native unit, small, .inr rfl⟩
  · cases body

/-- What is encoded at all is received as it was, also where a client pads it
and counts the padding in the header. -/
theorem encoded_is_received {control : ShareControlHeader α} (native : control.shareControlPdu.Native)
    (encoded : control.encode foreign room = some (.ok bytes)) (rest : Bytes) :
    bytes.length = control.size foreign ∧
      ShareControlHeader.decode foreign (bytes ++ rest) = some (.ok (control.received, rest)) ∧
      ∀ padding : Bytes, control.size foreign + padding.length < UInt16.size →
        (control.shareControlPdu.shareHeaderType = .dataPdu ∨ padding = []) →
          ShareControlHeader.decode foreign
            (littleEndian 2 (bytes.length + padding.length) ++ bytes.drop 2 ++ padding ++ rest) =
              some (.ok (control.received, rest)) := by
  have plain := ShareControlHeader.fits_of_encode native encoded
  obtain ⟨enough, _⟩ := Encoding.ensureSize_eq_ok encoded
  have length := ShareControlHeader.bytes_length plain
  have written := ShareControlHeader.encode_writes plain room (by rw [length]; exact enough)
  rw [encoded] at written
  cases written
  refine ⟨length, ShareControlHeader.decode_reads plain rest, ?_⟩
  intro padding small padded
  have whole : littleEndian 2 ((control.bytes foreign []).length + padding.length) ++
      (control.bytes foreign []).drop 2 ++ padding = control.bytes foreign padding := by
    have cut : (control.bytes foreign []).drop 2 =
        (littleEndian 2 (protocolVersion ||| control.shareControlPdu.shareHeaderType.asU16).toNat ++
          (littleEndian 2 control.pduSource.toNat ++ littleEndian 4 control.shareId.toNat)) ++
            control.shareControlPdu.bytes foreign := by
      simp only [ShareControlHeader.bytes, ShareControlHeader.fieldBytes, List.append_nil, List.append_assoc]
      exact List.drop_left' (littleEndian_length ..)
    rw [length, cut]
    simp only [ShareControlHeader.bytes, ShareControlHeader.fieldBytes, List.append_assoc, List.length_nil,
      Nat.add_zero]
  rw [whole]
  exact ShareControlHeader.decode_reads ⟨plain.pdu, small, padded⟩ rest

/-- A turn of the wheel, as a client sends it. -/
def wheelHeader : ShareControlHeader Empty where
  shareControlPdu := .data {
    shareDataPdu := .input [.mouse ⟨.fromBitsTruncate InputEvents.PointerFlags.verticalWheel, 120, 0, 0⟩]
    streamPriority := .undefined
    compressionFlags := .empty
    compressionType := .k8 }
  pduSource := 1007
  shareId := 66538

/-- Nothing is foreign. -/
def noForeign : Foreign Empty where
  encode _ pdu := pdu.elim
  size _ pdu := pdu.elim
  decode _ := fail (.invalidField "" "")

/-- A turn of the wheel, in a data unit. -/
theorem wheel_is_received : ∃ bytes, wheelHeader.encode noForeign 64 = some (.ok bytes) ∧
    ShareControlHeader.decode noForeign (bytes ++ [7]) = some (.ok (wheelHeader, [7])) ∧
    ShareControlHeader.decode noForeign (littleEndian 2 (bytes.length + 2) ++ bytes.drop 2 ++ [0, 0] ++ [7]) =
      some (.ok (wheelHeader, [7])) := by
  have native : wheelHeader.shareControlPdu.Native := trivial
  have encoded : wheelHeader.encode noForeign 64 = some (.ok _) := rfl
  have received := encoded_is_received native encoded [7]
  exact ⟨_, encoded, received.2.1, received.2.2 [0, 0] (by decide) (.inl rfl)⟩

end Refused

section Safety
variable {α : Type} {foreign : Foreign α}

private theorem ShareDataPdu.fromType_safe (foreignSafe : ∀ kind, SafeFrom 0 (foreign.decode kind))
    (kind : ShareDataPduType) : SafeFrom 0 (fromType foreign kind) := by
  have sized : ∀ {β : Type} {d : Decoding β} (g : β → ShareDataPdu α), SafeFrom 0 d →
      SafeFrom 0 (do return g (← d)) := fun g safe => safe.bind fun _ => pure_safe _ 0
  cases kind with
  | control =>
    refine sized _ (ensureSize_safe (readU16_takes.bind_safe 6 fun action => ?_))
    split
    · exact fail_safe _ 6
    · exact readU16_takes.bind_safe 4 fun _ => (readU32_takes.map _).safe
  | input => exact sized _ InputEventPdu.decode_safe
  | synchronize =>
    refine sized _ (ensureSize_safe (readU16_takes.bind_safe 2 fun messageType => ?_))
    split
    · exact fail_safe _ 2
    · exact readU16_takes.safe
  | refreshRectangle =>
    exact sized _ (ensureSize_safe (readU8_takes.bind_safe 3 fun _ => (readSlice_takes 3).bind_safe 0 fun _ =>
      times_safe rectangle_safe _))
  | suppressOutput =>
    refine sized _ (ensureSize_safe (readU8_takes.bind_safe 3 fun allowed => ?_))
    split
    · exact (readSlice_takes 3).bind_safe 0 fun _ => rectangle_safe.bind fun _ => pure_safe _ 0
    · split
      · exact ((readSlice_takes 3).map _).safe
      · exact fail_safe _ 3
  | shutdownRequest | shutdownDenied => exact pure_safe _ 0
  | saveSessionInfo | setErrorInfoPdu | monitorLayoutPdu => exact sized _ (foreignSafe _)
  | fontList | fontMap =>
    refine sized _ (ensureSize_safe (readU16_takes.bind_safe 6 fun _ => readU16_takes.bind_safe 4 fun _ =>
      readU16_takes.bind_safe 2 fun flags => ?_))
    split
    · exact fail_safe _ 2
    · exact (readU16_takes.map _).safe
  | frameAcknowledgePdu => exact sized _ (ensureSize_safe readU32_takes.safe)
  | raw kind => exact fun _ _ => Option.some_ne_none _

/-- A data message is read without a panic when the others are. -/
theorem ShareDataHeader.decode_safe (foreignSafe : ∀ kind, SafeFrom 0 (foreign.decode kind)) :
    SafeFrom 0 (ShareDataHeader.decode foreign) := by
  refine ensureSize_safe ((readSlice_takes 1).bind_safe 7 fun _ => readU8_takes.bind_safe 6 fun priority => ?_)
  split
  · exact fail_safe _ 6
  · refine readU16_takes.bind_safe 4 fun _ => readU8_takes.bind_safe 3 fun pduType => ?_
    split
    · exact fail_safe _ 3
    · refine readU8_takes.bind_safe 2 fun compression => ?_
      split
      · exact fail_safe _ 2
      · exact readU16_takes.bind_safe 0 fun _ => (ShareDataPdu.fromType_safe foreignSafe _).bind fun _ =>
        pure_safe _ 0

private theorem ShareControlPdu.fromType_safe (foreignSafe : ∀ kind, SafeFrom 0 (foreign.decode kind))
    (kind : ShareControlPduType) : SafeFrom 0 (fromType foreign kind) := by
  cases kind with
  | demandActivePdu | confirmActivePdu => exact (foreignSafe _).bind fun _ => pure_safe _ 0
  | deactivateAllPdu =>
    refine SafeFrom.bind (ensureSize_safe (readU16_takes.bind_safe 1 fun length src _ => ?_)) fun _ => pure_safe _ 0
    exact ensureSize_safe ((readSlice_takes _).map _).safe src (Nat.zero_le _)
  | dataPdu => exact (ShareDataHeader.decode_safe foreignSafe).bind fun _ => pure_safe _ 0
  | serverRedirect => exact fail_safe _ 0

private theorem ShareControlHeader.skipPadding_safe (headerLength totalLength : Nat) :
    SafeFrom 0 (skipPadding headerLength totalLength) := by
  unfold skipPadding
  split
  · exact pure_safe _ 0
  · split
    · exact fail_safe _ 0
    · exact ensureSize_safe ((readSlice_takes _).map _).safe

/-- A data unit is read without a panic when the others are. -/
theorem ShareControlHeader.decode_safe (foreignSafe : ∀ kind, SafeFrom 0 (foreign.decode kind)) :
    SafeFrom 0 (ShareControlHeader.decode foreign) := by
  refine ensureSize_safe (readU16_takes.bind_safe 8 fun total => readU16_takes.bind_safe 6 fun kind =>
    readU16_takes.bind_safe 4 fun source => readU32_takes.bind_safe 0 fun id => ?_)
  split
  · exact fail_safe _ 0
  · split
    · exact fail_safe _ 0
    · refine (ShareControlPdu.fromType_safe foreignSafe _).bind fun pdu => ?_
      split
      · exact (skipPadding_safe _ _).bind fun _ => pure_safe _ 0
      · exact pure_safe _ 0

end Safety
end Osxrdp.ShareData
