import Osxrdp.Bitflags
import Osxrdp.Rectangles
import Osxrdp.GfxDecoding

/-! The graphics messages of a server as the vendored crate writes and reads
them, those included that this server never sends. -/
namespace Osxrdp.GfxEncoding
open Bitflags (Flags)
open Rectangles
open Gfx (Avc420BitmapStream CapabilitySet CapabilityVersion CreateSurfacePdu InclusiveRectangle
  MapSurfaceToOutputPdu PixelFormat QuantQuality StartFramePdu Timestamp)
open GfxDecoding.CapabilitySet (size)
open Bytes (littleEndian littleEndian_length)
open WireDecoding (Decoding)
open WireDecoding.Decoding
open WireEncoding (Encoding)

section Kinds

/-- The codecs of a painted part. -/
inductive Codec1Type where
  | uncompressed
  | remoteFx
  | clearCodec
  | planar
  | avc420
  | alpha
  | avc444
  | avc444v2
  deriving DecidableEq, Repr

/-- `Codec1Type`, as it is written. -/
def Codec1Type.asU16 : Codec1Type → UInt16
  | .uncompressed => 0x0
  | .remoteFx => 0x3
  | .clearCodec => 0x8
  | .planar => 0xa
  | .avc420 => 0xb
  | .alpha => 0xc
  | .avc444 => 0xe
  | .avc444v2 => 0xf

/-- `Codec1Type::from_u16` -/
def Codec1Type.fromU16 : UInt16 → Option Codec1Type
  | 0x0 => some .uncompressed
  | 0x3 => some .remoteFx
  | 0x8 => some .clearCodec
  | 0xa => some .planar
  | 0xb => some .avc420
  | 0xc => some .alpha
  | 0xe => some .avc444
  | 0xf => some .avc444v2
  | _ => none

/-- The codec of a progressive part. -/
inductive Codec2Type where
  | remoteFxProgressive
  deriving DecidableEq, Repr

def Codec2Type.asU16 : Codec2Type → UInt16
  | .remoteFxProgressive => 0x9

def Codec2Type.fromU16 : UInt16 → Option Codec2Type
  | 0x9 => some .remoteFxProgressive
  | _ => none

/-- `PixelFormat`, as it is written. -/
def PixelFormat.asU8 : PixelFormat → UInt8
  | .xRgb => 0x20
  | .aRgb => 0x21

/-- `PixelFormat::from_u8` -/
def PixelFormat.fromU8 : UInt8 → Option PixelFormat
  | 0x20 => some .xRgb
  | 0x21 => some .aRgb
  | _ => none

/-- The kinds of messages that a server sends. -/
inductive ServerPduType where
  | wireToSurface1
  | wireToSurface2
  | deleteEncodingContext
  | solidFill
  | surfaceToSurface
  | surfaceToCache
  | cacheToSurface
  | evictCacheEntry
  | createSurface
  | deleteSurface
  | startFrame
  | endFrame
  | resetGraphics
  | mapSurfaceToOutput
  | cacheImportReply
  | capabilitiesConfirm
  | mapSurfaceToWindow
  | mapSurfaceToScaledOutput
  | mapSurfaceToScaledWindow
  deriving DecidableEq, Repr

/-- `ServerPduType`, as it is written. -/
def ServerPduType.asU16 : ServerPduType → UInt16
  | .wireToSurface1 => 0x01
  | .wireToSurface2 => 0x02
  | .deleteEncodingContext => 0x03
  | .solidFill => 0x04
  | .surfaceToSurface => 0x05
  | .surfaceToCache => 0x06
  | .cacheToSurface => 0x07
  | .evictCacheEntry => 0x08
  | .createSurface => 0x09
  | .deleteSurface => 0x0a
  | .startFrame => 0x0b
  | .endFrame => 0x0c
  | .resetGraphics => 0x0e
  | .mapSurfaceToOutput => 0x0f
  | .cacheImportReply => 0x11
  | .capabilitiesConfirm => 0x13
  | .mapSurfaceToWindow => 0x15
  | .mapSurfaceToScaledOutput => 0x17
  | .mapSurfaceToScaledWindow => 0x18

/-- `ServerPduType::from_u16` -/
def ServerPduType.fromU16 : UInt16 → Option ServerPduType
  | 0x01 => some .wireToSurface1
  | 0x02 => some .wireToSurface2
  | 0x03 => some .deleteEncodingContext
  | 0x04 => some .solidFill
  | 0x05 => some .surfaceToSurface
  | 0x06 => some .surfaceToCache
  | 0x07 => some .cacheToSurface
  | 0x08 => some .evictCacheEntry
  | 0x09 => some .createSurface
  | 0x0a => some .deleteSurface
  | 0x0b => some .startFrame
  | 0x0c => some .endFrame
  | 0x0e => some .resetGraphics
  | 0x0f => some .mapSurfaceToOutput
  | 0x11 => some .cacheImportReply
  | 0x13 => some .capabilitiesConfirm
  | 0x15 => some .mapSurfaceToWindow
  | 0x17 => some .mapSurfaceToScaledOutput
  | 0x18 => some .mapSurfaceToScaledWindow
  | _ => none

/-- A codec is known by its number. -/
theorem Codec1Type.fromU16_asU16 (codec : Codec1Type) : fromU16 codec.asU16 = some codec := by
  cases codec <;> rfl

/-- The progressive codec is known by its number. -/
theorem Codec2Type.fromU16_asU16 (codec : Codec2Type) : fromU16 codec.asU16 = some codec := by
  cases codec
  rfl

/-- A pixel format is known by its number. -/
theorem PixelFormat.fromU8_asU8 (format : PixelFormat) :
    PixelFormat.fromU8 (PixelFormat.asU8 format) = some format := by
  cases format <;> rfl

/-- A kind of message is known by its number. -/
theorem ServerPduType.fromU16_asU16 (kind : ServerPduType) : fromU16 kind.asU16 = some kind := by
  cases kind <;> rfl

end Kinds

section Messages

/-- The one flag of a monitor: it is the primary one. -/
abbrev MonitorFlags := Flags 1#32

/-- A monitor, with its edges as they are written. -/
structure Monitor where
  left : Int32
  top : Int32
  right : Int32
  bottom : Int32
  flags : MonitorFlags
  deriving DecidableEq

/-- The desktop takes a new size. -/
structure ResetGraphicsPdu where
  width : UInt32
  height : UInt32
  monitors : List Monitor
  deriving DecidableEq

/-- A part of a surface is painted. -/
structure WireToSurface1Pdu where
  surfaceId : UInt16
  codecId : Codec1Type
  pixelFormat : PixelFormat
  destinationRectangle : InclusiveRectangle
  bitmapData : Bytes
  deriving DecidableEq, Repr

/-- A part of a surface is painted progressively. -/
structure WireToSurface2Pdu where
  surfaceId : UInt16
  codecId : Codec2Type
  codecContextId : UInt32
  pixelFormat : PixelFormat
  bitmapData : Bytes
  deriving DecidableEq, Repr

/-- A colour with its alpha. -/
structure Color where
  b : UInt8
  g : UInt8
  r : UInt8
  xa : UInt8
  deriving DecidableEq, Repr

/-- A point of a surface. -/
structure Point where
  x : UInt16
  y : UInt16
  deriving DecidableEq, Repr

/-- Rectangles are filled with a colour. -/
structure SolidFillPdu where
  surfaceId : UInt16
  fillPixel : Color
  rectangles : List InclusiveRectangle
  deriving DecidableEq, Repr

/-- A part of a surface is copied to points of another. -/
structure SurfaceToSurfacePdu where
  sourceSurfaceId : UInt16
  destinationSurfaceId : UInt16
  sourceRectangle : InclusiveRectangle
  destinationPoints : List Point
  deriving DecidableEq, Repr

/-- A part of a surface is kept in the cache. -/
structure SurfaceToCachePdu where
  surfaceId : UInt16
  cacheKey : UInt64
  cacheSlot : UInt16
  sourceRectangle : InclusiveRectangle
  deriving DecidableEq, Repr

/-- A part that was kept is painted at points of a surface. -/
structure CacheToSurfacePdu where
  cacheSlot : UInt16
  surfaceId : UInt16
  destinationPoints : List Point
  deriving DecidableEq, Repr

/-- A surface is shown at another size. -/
structure MapSurfaceToScaledOutputPdu where
  surfaceId : UInt16
  outputOriginX : UInt32
  outputOriginY : UInt32
  targetWidth : UInt32
  targetHeight : UInt32
  deriving DecidableEq, Repr

/-- A surface is shown in a window, at another size. -/
structure MapSurfaceToScaledWindowPdu where
  surfaceId : UInt16
  windowId : UInt64
  mappedWidth : UInt32
  mappedHeight : UInt32
  targetWidth : UInt32
  targetHeight : UInt32
  deriving DecidableEq, Repr

/-- A message of the server, as the wire has it. -/
inductive ServerPdu where
  | wireToSurface1 (pdu : WireToSurface1Pdu)
  | wireToSurface2 (pdu : WireToSurface2Pdu)
  | deleteEncodingContext (surfaceId : UInt16) (codecContextId : UInt32)
  | solidFill (pdu : SolidFillPdu)
  | surfaceToSurface (pdu : SurfaceToSurfacePdu)
  | surfaceToCache (pdu : SurfaceToCachePdu)
  | cacheToSurface (pdu : CacheToSurfacePdu)
  | evictCacheEntry (cacheSlot : UInt16)
  | createSurface (pdu : CreateSurfacePdu)
  | deleteSurface (surfaceId : UInt16)
  | startFrame (pdu : StartFramePdu)
  | endFrame (frameId : UInt32)
  | resetGraphics (pdu : ResetGraphicsPdu)
  | mapSurfaceToOutput (pdu : MapSurfaceToOutputPdu)
  | capabilitiesConfirm (confirmed : CapabilitySet)
  | cacheImportReply (cacheSlots : List UInt16)
  | mapSurfaceToScaledOutput (pdu : MapSurfaceToScaledOutputPdu)
  | mapSurfaceToScaledWindow (pdu : MapSurfaceToScaledWindowPdu)
  deriving DecidableEq

end Messages

section Encode

/-- `cast_length!`, and the length that was cast. -/
def castLength (width : Nat) (field : String) (length : Nat) : Encoding :=
  if length < 256 ^ width then .write (littleEndian width length) else .fail (.invalidField field)

def Monitor.encode (monitor : Monitor) : Encoding :=
  .ensureSize "Monitor" 20 <| .write <|
    littleEndian 4 monitor.left.toUInt32.toNat ++ (littleEndian 4 monitor.top.toUInt32.toNat ++
      (littleEndian 4 monitor.right.toUInt32.toNat ++ (littleEndian 4 monitor.bottom.toUInt32.toNat ++
        littleEndian 4 monitor.flags.bits.toNat)))

def Color.encode (color : Color) : Encoding :=
  .ensureSize "GfxColor" 4 <| .write [color.b, color.g, color.r, color.xa]

def Point.encode (point : Point) : Encoding :=
  .ensureSize "GfxPoint" 4 <| .write (littleEndian 2 point.x.toNat ++ littleEndian 2 point.y.toNat)

namespace Timestamp

/-- Each part is within its bits. -/
def Fits (timestamp : Timestamp) : Prop :=
  timestamp.milliseconds < 1024 ∧ timestamp.seconds < 64 ∧ timestamp.minutes < 64 ∧ timestamp.hours < 1024

instance (timestamp : Timestamp) : Decidable (Fits timestamp) := inferInstanceAs (Decidable (_ ∧ _))

/-- A time of day in one word. -/
def bits (timestamp : Timestamp) : Nat :=
  timestamp.milliseconds.toNat + timestamp.seconds.toNat * 2 ^ 10 + timestamp.minutes.toNat * 2 ^ 16 +
    timestamp.hours.toNat * 2 ^ 22

/-- `set_bits` panics on a value that is not within its bits. -/
def encode (timestamp : Timestamp) : Encoding :=
  .ensureSize "Timestamp" 4 <| if Fits timestamp then .write (littleEndian 4 (bits timestamp)) else .panic

end Timestamp

section Capabilities

/-- `CapabilityVersion`, as it is written. -/
def CapabilityVersion.asU32 : CapabilityVersion → UInt32
  | .v8 => 0x80004
  | .v8_1 => 0x80105
  | .v10 => 0xa0002
  | .v10_1 => 0xa0100
  | .v10_2 => 0xa0200
  | .v10_3 => 0xa0301
  | .v10_4 => 0xa0400
  | .v10_5 => 0xa0502
  | .v10_6 => 0xa0600
  | .v10_6Err => 0xa0601
  | .v10_7 => 0xa0701
  | .unknown => 0xa0702

namespace CapabilitySet

/-- The flags of a set, or the data that it carries in their place. -/
def flagsOrData : CapabilitySet → UInt32 ⊕ Bytes
  | .v8 flags | .v8_1 flags | .v10 flags | .v10_2 flags | .v10_3 flags | .v10_4 flags | .v10_5 flags
  | .v10_6 flags | .v10_6Err flags | .v10_7 flags => .inl flags
  | .v10_1 => .inr (List.replicate 16 0)
  | .unknown data => .inr data

/-- The data of a set. -/
def data (set : CapabilitySet) : Bytes :=
  match flagsOrData set with
  | .inl flags => littleEndian 4 flags.toNat
  | .inr data => data

/-- `CapabilitySet::encode`, with the length of its data in front of it. -/
def encode (set : CapabilitySet) : Encoding :=
  .ensureSize "GfxCapabilitySet" (size set) <|
    .andThen (.write (littleEndian 4 (CapabilityVersion.asU32 set.version).toNat)) <|
      .andThen (castLength 4 "dataLength" (size set - 8)) <| .write (data set)

end CapabilitySet

end Capabilities

namespace ResetGraphicsPdu

/-- The size of this message is fixed; what the monitors leave is padding. -/
def encode (pdu : ResetGraphicsPdu) : Encoding :=
  .ensureSize "ResetGraphicsPdu" 332 <|
    .andThen (.write (littleEndian 4 pdu.width.toNat ++ littleEndian 4 pdu.height.toNat)) <|
      .andThen (castLength 4 "nMonitors" pdu.monitors.length) <|
        .andThen (.all (pdu.monitors.map Monitor.encode)) <|
          if pdu.monitors.length ≤ 16 then .write (List.replicate (320 - pdu.monitors.length * 20) 0) else .panic

end ResetGraphicsPdu

namespace WireToSurface1Pdu

def size (pdu : WireToSurface1Pdu) : Nat := 17 + pdu.bitmapData.length

def encode (pdu : WireToSurface1Pdu) : Encoding :=
  .ensureSize "WireToSurface1Pdu" pdu.size <|
    .andThen (.write (littleEndian 2 pdu.surfaceId.toNat ++ (littleEndian 2 pdu.codecId.asU16.toNat ++
        [PixelFormat.asU8 pdu.pixelFormat]))) <|
      .andThen pdu.destinationRectangle.encode <|
        .andThen (castLength 4 "BitmapDataLen" pdu.bitmapData.length) <| .write pdu.bitmapData

end WireToSurface1Pdu

namespace WireToSurface2Pdu

def size (pdu : WireToSurface2Pdu) : Nat := 13 + pdu.bitmapData.length

def encode (pdu : WireToSurface2Pdu) : Encoding :=
  .ensureSize "WireToSurface2Pdu" pdu.size <|
    .andThen (.write (littleEndian 2 pdu.surfaceId.toNat ++ (littleEndian 2 pdu.codecId.asU16.toNat ++
        (littleEndian 4 pdu.codecContextId.toNat ++ [PixelFormat.asU8 pdu.pixelFormat])))) <|
      .andThen (castLength 4 "BitmapDataLen" pdu.bitmapData.length) <| .write pdu.bitmapData

end WireToSurface2Pdu

namespace SolidFillPdu

def size (pdu : SolidFillPdu) : Nat := 8 + pdu.rectangles.length * 8

def encode (pdu : SolidFillPdu) : Encoding :=
  .ensureSize "CacheToSurfacePdu" pdu.size <|
    .andThen (.write (littleEndian 2 pdu.surfaceId.toNat)) <|
      .andThen pdu.fillPixel.encode <|
        .andThen (castLength 2 "number of rectangles" pdu.rectangles.length) <|
          .all (pdu.rectangles.map InclusiveRectangle.encode)

end SolidFillPdu

namespace SurfaceToSurfacePdu

def size (pdu : SurfaceToSurfacePdu) : Nat := 14 + pdu.destinationPoints.length * 4

def encode (pdu : SurfaceToSurfacePdu) : Encoding :=
  .ensureSize "SurfaceToSurfacePdu" pdu.size <|
    .andThen (.write (littleEndian 2 pdu.sourceSurfaceId.toNat ++
        littleEndian 2 pdu.destinationSurfaceId.toNat)) <|
      .andThen pdu.sourceRectangle.encode <|
        .andThen (castLength 2 "DestinationPoints" pdu.destinationPoints.length) <|
          .all (pdu.destinationPoints.map Point.encode)

end SurfaceToSurfacePdu

def SurfaceToCachePdu.encode (pdu : SurfaceToCachePdu) : Encoding :=
  .ensureSize "SurfaceToCachePdu" 20 <|
    .andThen (.write (littleEndian 2 pdu.surfaceId.toNat ++ (littleEndian 8 pdu.cacheKey.toNat ++
      littleEndian 2 pdu.cacheSlot.toNat))) pdu.sourceRectangle.encode

namespace CacheToSurfacePdu

def size (pdu : CacheToSurfacePdu) : Nat := 6 + pdu.destinationPoints.length * 4

def encode (pdu : CacheToSurfacePdu) : Encoding :=
  .ensureSize "CacheToSurfacePdu" pdu.size <|
    .andThen (.write (littleEndian 2 pdu.cacheSlot.toNat ++ littleEndian 2 pdu.surfaceId.toNat)) <|
      .andThen (castLength 2 "npoints" pdu.destinationPoints.length) <|
        .all (pdu.destinationPoints.map Point.encode)

end CacheToSurfacePdu

def DeleteEncodingContextPdu.encode (surfaceId : UInt16) (codecContextId : UInt32) : Encoding :=
  .ensureSize "DeleteEncodingContextPdu" 6 <|
    .write (littleEndian 2 surfaceId.toNat ++ littleEndian 4 codecContextId.toNat)

def EvictCacheEntryPdu.encode (cacheSlot : UInt16) : Encoding :=
  .ensureSize "EvictCacheEntryPdu" 2 <| .write (littleEndian 2 cacheSlot.toNat)

/-- The pixel format takes four bytes here. -/
def CreateSurfacePdu.encode (pdu : CreateSurfacePdu) : Encoding :=
  .ensureSize "CreateSurfacePdu" 10 <| .write <|
    littleEndian 2 pdu.surfaceId.toNat ++ (littleEndian 2 pdu.width.toNat ++ (littleEndian 2 pdu.height.toNat ++
      littleEndian 4 (PixelFormat.asU8 pdu.pixelFormat).toNat))

def DeleteSurfacePdu.encode (surfaceId : UInt16) : Encoding :=
  .ensureSize "DeleteSurfacePdu" 2 <| .write (littleEndian 2 surfaceId.toNat)

def StartFramePdu.encode (pdu : StartFramePdu) : Encoding :=
  .ensureSize "StartFramePdu" 8 <|
    .andThen (Timestamp.encode pdu.timestamp) (.write (littleEndian 4 pdu.frameId.toNat))

def EndFramePdu.encode (frameId : UInt32) : Encoding :=
  .ensureSize "EndFramePdu" 4 <| .write (littleEndian 4 frameId.toNat)

def MapSurfaceToOutputPdu.encode (pdu : MapSurfaceToOutputPdu) : Encoding :=
  .ensureSize "MapSurfaceToOutputPdu" 12 <| .write <|
    littleEndian 2 pdu.surfaceId.toNat ++ (littleEndian 2 0 ++ (littleEndian 4 pdu.outputOriginX.toNat ++
      littleEndian 4 pdu.outputOriginY.toNat))

def CacheImportReplyPdu.encode (cacheSlots : List UInt16) : Encoding :=
  .ensureSize "CacheImportReplyPdu" (2 + cacheSlots.length * 2) <|
    .andThen (castLength 2 "Count" cacheSlots.length) <|
      .write (cacheSlots.flatMap fun cacheSlot => littleEndian 2 cacheSlot.toNat)

def MapSurfaceToScaledOutputPdu.encode (pdu : MapSurfaceToScaledOutputPdu) : Encoding :=
  .ensureSize "MapSurfaceToScaledOutputPdu" 20 <| .write <|
    littleEndian 2 pdu.surfaceId.toNat ++ (littleEndian 2 0 ++ (littleEndian 4 pdu.outputOriginX.toNat ++
      (littleEndian 4 pdu.outputOriginY.toNat ++ (littleEndian 4 pdu.targetWidth.toNat ++
        littleEndian 4 pdu.targetHeight.toNat))))

/-- The room is not checked here. -/
def MapSurfaceToScaledWindowPdu.encode (pdu : MapSurfaceToScaledWindowPdu) : Encoding :=
  .write <| littleEndian 2 pdu.surfaceId.toNat ++ (littleEndian 8 pdu.windowId.toNat ++
    (littleEndian 4 pdu.mappedWidth.toNat ++ (littleEndian 4 pdu.mappedHeight.toNat ++
      (littleEndian 4 pdu.targetWidth.toNat ++ littleEndian 4 pdu.targetHeight.toNat))))

namespace ServerPdu

/-- The kind of a message. -/
def pduType : ServerPdu → ServerPduType
  | .wireToSurface1 _ => .wireToSurface1
  | .wireToSurface2 _ => .wireToSurface2
  | .deleteEncodingContext _ _ => .deleteEncodingContext
  | .solidFill _ => .solidFill
  | .surfaceToSurface _ => .surfaceToSurface
  | .surfaceToCache _ => .surfaceToCache
  | .cacheToSurface _ => .cacheToSurface
  | .evictCacheEntry _ => .evictCacheEntry
  | .createSurface _ => .createSurface
  | .deleteSurface _ => .deleteSurface
  | .startFrame _ => .startFrame
  | .endFrame _ => .endFrame
  | .resetGraphics _ => .resetGraphics
  | .mapSurfaceToOutput _ => .mapSurfaceToOutput
  | .capabilitiesConfirm _ => .capabilitiesConfirm
  | .cacheImportReply _ => .cacheImportReply
  | .mapSurfaceToScaledOutput _ => .mapSurfaceToScaledOutput
  | .mapSurfaceToScaledWindow _ => .mapSurfaceToScaledWindow

/-- The size of a message without its header. -/
def bodySize : ServerPdu → Nat
  | .wireToSurface1 pdu => pdu.size
  | .wireToSurface2 pdu => pdu.size
  | .deleteEncodingContext _ _ => 6
  | .solidFill pdu => pdu.size
  | .surfaceToSurface pdu => pdu.size
  | .surfaceToCache _ => 20
  | .cacheToSurface pdu => pdu.size
  | .evictCacheEntry _ => 2
  | .createSurface _ => 10
  | .deleteSurface _ => 2
  | .startFrame _ => 8
  | .endFrame _ => 4
  | .resetGraphics _ => 332
  | .mapSurfaceToOutput _ => 12
  | .capabilitiesConfirm confirmed => GfxDecoding.CapabilitySet.size confirmed
  | .cacheImportReply cacheSlots => 2 + cacheSlots.length * 2
  | .mapSurfaceToScaledOutput _ => 20
  | .mapSurfaceToScaledWindow _ => 26

/-- The size that the header tells. -/
def size (pdu : ServerPdu) : Nat := 8 + pdu.bodySize

/-- `encode` of the body. -/
def encodeBody : ServerPdu → Encoding
  | .wireToSurface1 pdu => pdu.encode
  | .wireToSurface2 pdu => pdu.encode
  | .deleteEncodingContext surfaceId codecContextId => DeleteEncodingContextPdu.encode surfaceId codecContextId
  | .solidFill pdu => pdu.encode
  | .surfaceToSurface pdu => pdu.encode
  | .surfaceToCache pdu => pdu.encode
  | .cacheToSurface pdu => pdu.encode
  | .evictCacheEntry cacheSlot => EvictCacheEntryPdu.encode cacheSlot
  | .createSurface pdu => CreateSurfacePdu.encode pdu
  | .deleteSurface surfaceId => DeleteSurfacePdu.encode surfaceId
  | .startFrame pdu => StartFramePdu.encode pdu
  | .endFrame frameId => EndFramePdu.encode frameId
  | .resetGraphics pdu => pdu.encode
  | .mapSurfaceToOutput pdu => MapSurfaceToOutputPdu.encode pdu
  | .capabilitiesConfirm confirmed => CapabilitySet.encode confirmed
  | .cacheImportReply cacheSlots => CacheImportReplyPdu.encode cacheSlots
  | .mapSurfaceToScaledOutput pdu => pdu.encode
  | .mapSurfaceToScaledWindow pdu => pdu.encode

/-- `ServerPdu::encode` -/
def encode (pdu : ServerPdu) : Encoding :=
  .ensureSize "GfxServerPdu" pdu.size <|
    .andThen (.write (littleEndian 2 pdu.pduType.asU16.toNat ++ littleEndian 2 0)) <|
      .andThen (castLength 4 "bufferLen" pdu.size) pdu.encodeBody

end ServerPdu
end Encode

section Decode

def Monitor.decode : Decoding Monitor := do
  ensureSize 20
  let left ← readI32
  let top ← readI32
  let right ← readI32
  let bottom ← readI32
  match Flags.fromBits (← readU32).toBitVec with
  | none => fail (.invalidField "flags" "invalid monitor flags")
  | some flags => return { left, top, right, bottom, flags }

def Color.decode : Decoding Color := do
  ensureSize 4
  let b ← readU8
  let g ← readU8
  let r ← readU8
  let xa ← readU8
  return { b, g, r, xa }

def Point.decode : Decoding Point := do
  ensureSize 4
  let x ← readU16
  let y ← readU16
  return { x, y }

namespace Timestamp

/-- The time in a word. -/
def ofBits (bits : Nat) : Timestamp where
  milliseconds := (bits % 2 ^ 10).toUInt16
  seconds := (bits / 2 ^ 10 % 2 ^ 6).toUInt8
  minutes := (bits / 2 ^ 16 % 2 ^ 6).toUInt8
  hours := (bits / 2 ^ 22 % 2 ^ 10).toUInt16

def decode : Decoding Timestamp := do
  ensureSize 4
  return ofBits (← readU32).toNat

end Timestamp

/-- The room for the number of monitors is not checked, nor that for the padding. -/
def ResetGraphicsPdu.decode : Decoding ResetGraphicsPdu := do
  ensureSize 8
  let width ← readU32
  if width > 32766 then fail (.invalidField "width" "invalid reset graphics width")
  else do
    let height ← readU32
    if height > 32766 then fail (.invalidField "height" "invalid reset graphics height")
    else do
      let monitorCount ← readU32
      if monitorCount > 16 then fail (.invalidField "height" "invalid reset graphics monitor count")
      else do
        let monitors ← times monitorCount.toNat Monitor.decode
        let _ ← readSlice (320 - monitors.length * 20)
        return { width, height, monitors }

def readCodec1Type : Decoding Codec1Type := do
  match Codec1Type.fromU16 (← readU16) with
  | none => fail (.invalidField "CodecId" "invalid codec ID")
  | some codecId => return codecId

def readCodec2Type : Decoding Codec2Type := do
  match Codec2Type.fromU16 (← readU16) with
  | none => fail (.invalidField "CodecId" "invalid codec ID")
  | some codecId => return codecId

def readPixelFormat : Decoding PixelFormat := do
  match PixelFormat.fromU8 (← readU8) with
  | none => fail (.invalidField "PixelFormat" "invalid pixel format")
  | some pixelFormat => return pixelFormat

/-- Data behind its length. -/
def readBitmapData : Decoding Bytes := do
  let bitmapDataLength ← readU32
  ensureSize bitmapDataLength.toNat
  readSlice bitmapDataLength.toNat

def WireToSurface1Pdu.decode : Decoding WireToSurface1Pdu := do
  ensureSize 17
  let surfaceId ← readU16
  let codecId ← readCodec1Type
  let pixelFormat ← readPixelFormat
  let destinationRectangle ← InclusiveRectangle.decode
  let bitmapData ← readBitmapData
  return { surfaceId, codecId, pixelFormat, destinationRectangle, bitmapData }

def WireToSurface2Pdu.decode : Decoding WireToSurface2Pdu := do
  ensureSize 13
  let surfaceId ← readU16
  let codecId ← readCodec2Type
  let codecContextId ← readU32
  let pixelFormat ← readPixelFormat
  let bitmapData ← readBitmapData
  return { surfaceId, codecId, codecContextId, pixelFormat, bitmapData }

def SolidFillPdu.decode : Decoding SolidFillPdu := do
  ensureSize 8
  let surfaceId ← readU16
  let fillPixel ← Color.decode
  let rectanglesCount ← readU16
  ensureSize (rectanglesCount.toNat * 8)
  let rectangles ← times rectanglesCount.toNat InclusiveRectangle.decode
  return { surfaceId, fillPixel, rectangles }

def SurfaceToSurfacePdu.decode : Decoding SurfaceToSurfacePdu := do
  ensureSize 14
  let sourceSurfaceId ← readU16
  let destinationSurfaceId ← readU16
  let sourceRectangle ← InclusiveRectangle.decode
  let destinationPointsCount ← readU16
  let destinationPoints ← times destinationPointsCount.toNat Point.decode
  return { sourceSurfaceId, destinationSurfaceId, sourceRectangle, destinationPoints }

def SurfaceToCachePdu.decode : Decoding SurfaceToCachePdu := do
  ensureSize 20
  let surfaceId ← readU16
  let cacheKey ← readU64
  let cacheSlot ← readU16
  let sourceRectangle ← InclusiveRectangle.decode
  return { surfaceId, cacheKey, cacheSlot, sourceRectangle }

def CacheToSurfacePdu.decode : Decoding CacheToSurfacePdu := do
  ensureSize 6
  let cacheSlot ← readU16
  let surfaceId ← readU16
  let destinationPointsCount ← readU16
  let destinationPoints ← times destinationPointsCount.toNat Point.decode
  return { cacheSlot, surfaceId, destinationPoints }

/-- Of the four bytes of the pixel format only the first counts. -/
def CreateSurfacePdu.decode : Decoding CreateSurfacePdu := do
  ensureSize 10
  let surfaceId ← readU16
  let width ← readU16
  let height ← readU16
  match PixelFormat.fromU8 (← readU32).toUInt8 with
  | none => fail (.invalidField "pixelFormat" "invalid pixel format")
  | some pixelFormat => return { surfaceId, width, height, pixelFormat }

def StartFramePdu.decode : Decoding StartFramePdu := do
  ensureSize 8
  let timestamp ← Timestamp.decode
  let frameId ← readU32
  return { timestamp, frameId }

def MapSurfaceToOutputPdu.decode : Decoding MapSurfaceToOutputPdu := do
  ensureSize 12
  let surfaceId ← readU16
  let _reserved ← readU16
  let outputOriginX ← readU32
  let outputOriginY ← readU32
  return { surfaceId, outputOriginX, outputOriginY }

def CacheImportReplyPdu.decode : Decoding (List UInt16) := do
  ensureSize 2
  let entriesCount ← readU16
  times entriesCount.toNat readU16

def MapSurfaceToScaledOutputPdu.decode : Decoding MapSurfaceToScaledOutputPdu := do
  ensureSize 20
  let surfaceId ← readU16
  let _reserved ← readU16
  let outputOriginX ← readU32
  let outputOriginY ← readU32
  let targetWidth ← readU32
  let targetHeight ← readU32
  return { surfaceId, outputOriginX, outputOriginY, targetWidth, targetHeight }

def MapSurfaceToScaledWindowPdu.decode : Decoding MapSurfaceToScaledWindowPdu := do
  ensureSize 26
  let surfaceId ← readU16
  let windowId ← readU64
  let mappedWidth ← readU32
  let mappedHeight ← readU32
  let targetWidth ← readU32
  let targetHeight ← readU32
  return { surfaceId, windowId, mappedWidth, mappedHeight, targetWidth, targetHeight }

def QuantQuality.decode : Decoding QuantQuality := do
  ensureSize 2
  let data ← readU8
  let quality ← readU8
  return { quantizationParameter := data &&& 0x3f, progressive := data &&& 0x80 ≠ 0, quality }

/-- `remaining` does not take what it looks at. -/
def lookAtRemaining : Decoding Bytes := fun src => some (.ok (src, src))

def Avc420BitmapStream.decode : Decoding Avc420BitmapStream := do
  ensureSize 4
  let numRegions ← readU32
  let rectangles ← times numRegions.toNat InclusiveRectangle.decode
  let quantQualVals ← times numRegions.toNat QuantQuality.decode
  let data ← lookAtRemaining
  return { rectangles, quantQualVals, data }

namespace ServerPdu

/-- The body of a kind. -/
def decodeBody : ServerPduType → Decoding ServerPdu
  | .wireToSurface1 => do return .wireToSurface1 (← WireToSurface1Pdu.decode)
  | .wireToSurface2 => do return .wireToSurface2 (← WireToSurface2Pdu.decode)
  | .deleteEncodingContext => do
    ensureSize 6
    let surfaceId ← readU16
    return .deleteEncodingContext surfaceId (← readU32)
  | .solidFill => do return .solidFill (← SolidFillPdu.decode)
  | .surfaceToSurface => do return .surfaceToSurface (← SurfaceToSurfacePdu.decode)
  | .surfaceToCache => do return .surfaceToCache (← SurfaceToCachePdu.decode)
  | .cacheToSurface => do return .cacheToSurface (← CacheToSurfacePdu.decode)
  | .evictCacheEntry => do
    ensureSize 2
    return .evictCacheEntry (← readU16)
  | .createSurface => do return .createSurface (← CreateSurfacePdu.decode)
  | .deleteSurface => do
    ensureSize 2
    return .deleteSurface (← readU16)
  | .startFrame => do return .startFrame (← StartFramePdu.decode)
  | .endFrame => do
    ensureSize 4
    return .endFrame (← readU32)
  | .resetGraphics => do return .resetGraphics (← ResetGraphicsPdu.decode)
  | .mapSurfaceToOutput => do return .mapSurfaceToOutput (← MapSurfaceToOutputPdu.decode)
  | .capabilitiesConfirm => do return .capabilitiesConfirm (← GfxDecoding.CapabilitySet.decode)
  | .cacheImportReply => do return .cacheImportReply (← CacheImportReplyPdu.decode)
  | .mapSurfaceToScaledOutput => do return .mapSurfaceToScaledOutput (← MapSurfaceToScaledOutputPdu.decode)
  | .mapSurfaceToScaledWindow => do return .mapSurfaceToScaledWindow (← MapSurfaceToScaledWindowPdu.decode)
  | .mapSurfaceToWindow => fail (.invalidField "pduType" "invalid pdu type")

/-- `ServerPdu::decode`: the length in the header is checked against what was decoded. -/
def decode : Decoding ServerPdu := do
  ensureSize 8
  match ServerPduType.fromU16 (← readU16) with
  | none => fail (.invalidField "serverPduType" "invalid pdu type")
  | some pduType => do
    let _flags ← readU16
    let pduLength ← readU32
    let serverPdu ← decodeBody pduType
    if serverPdu.size ≠ pduLength.toNat then fail (.invalidField "len" "invalid pdu length")
    else return serverPdu

end ServerPdu
end Decode

end Osxrdp.GfxEncoding
