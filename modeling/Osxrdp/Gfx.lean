import Osxrdp.FramePipeline
import Osxrdp.WireEncoding

/-! `gfx.rs`: the server side of the graphics channel, and what it uses of the
vendored graphics PDUs. The clock and the allocation of a buffer to encode into
are outside. -/
namespace Osxrdp.Gfx
open WireEncoding (EncodeError Encoding)

/-- The flags of an RDPGFX 8 set. -/
abbrev CapabilitiesV8Flags := UInt32

namespace CapabilitiesV8Flags

def empty : CapabilitiesV8Flags := 0

end CapabilitiesV8Flags

/-- The flags of an RDPGFX 8.1 set. AVC420 is off unless one of them allows it. -/
abbrev CapabilitiesV81Flags := UInt32

namespace CapabilitiesV81Flags

def smallCache : CapabilitiesV81Flags := 0x02
def avc420Enabled : CapabilitiesV81Flags := 0x10

def contains (flags other : CapabilitiesV81Flags) : Bool := flags &&& other == other

end CapabilitiesV81Flags

/-- The flags of an RDPGFX 10 set. AVC420 is on unless one of them forbids it. -/
abbrev CapabilitiesV10Flags := UInt32

namespace CapabilitiesV10Flags

def avcDisabled : CapabilitiesV10Flags := 0x20

def contains (flags other : CapabilitiesV10Flags) : Bool := flags &&& other == other

end CapabilitiesV10Flags

/-- The flags of the sets from RDPGFX 10.3 on. -/
abbrev CapabilitiesV103Flags := UInt32

namespace CapabilitiesV103Flags

def avcDisabled : CapabilitiesV103Flags := 0x20

def contains (flags other : CapabilitiesV103Flags) : Bool := flags &&& other == other

end CapabilitiesV103Flags

/-- A capability set that a client advertises. -/
inductive CapabilitySet where
  | v8 (flags : CapabilitiesV8Flags)
  | v8_1 (flags : CapabilitiesV81Flags)
  | v10 (flags : CapabilitiesV10Flags)
  | v10_1
  | v10_2 (flags : CapabilitiesV10Flags)
  | v10_3 (flags : CapabilitiesV103Flags)
  | v10_4 (flags : UInt32)
  | v10_5 (flags : UInt32)
  | v10_6 (flags : UInt32)
  | v10_6Err (flags : UInt32)
  | v10_7 (flags : UInt32)
  | unknown (data : Bytes)
  deriving DecidableEq, Repr

/-- The version that a set is for. -/
inductive CapabilityVersion where
  | v8
  | v8_1
  | v10
  | v10_1
  | v10_2
  | v10_3
  | v10_4
  | v10_5
  | v10_6
  | v10_6Err
  | v10_7
  | unknown
  deriving DecidableEq, Repr

def CapabilitySet.version : CapabilitySet → CapabilityVersion
  | .v8 _ => .v8
  | .v8_1 _ => .v8_1
  | .v10 _ => .v10
  | .v10_1 => .v10_1
  | .v10_2 _ => .v10_2
  | .v10_3 _ => .v10_3
  | .v10_4 _ => .v10_4
  | .v10_5 _ => .v10_5
  | .v10_6 _ => .v10_6
  | .v10_6Err _ => .v10_6Err
  | .v10_7 _ => .v10_7
  | .unknown _ => .unknown

/-- The PDUs that a client can send; an acknowledgement is only logged. -/
inductive ClientPdu where
  | frameAcknowledge
  | capabilitiesAdvertise (caps : List CapabilitySet)
  deriving DecidableEq, Repr

/-- A rectangle that holds its right and bottom edges. -/
structure InclusiveRectangle where
  left : UInt16
  top : UInt16
  right : UInt16
  bottom : UInt16
  deriving DecidableEq, Repr

/-- A monitor of the client's desktop. -/
structure Monitor where
  left : Int
  top : Int
  right : Int
  bottom : Int
  primary : Bool
  deriving DecidableEq, Repr

/-- How the pixels of a surface are stored. -/
inductive PixelFormat where
  | xRgb
  | aRgb
  deriving DecidableEq, Repr

/-- The codec of a frame for a surface. -/
inductive Codec1Type where
  | avc420
  deriving DecidableEq, Repr

/-- A time of day. -/
structure Timestamp where
  milliseconds : UInt16
  seconds : UInt8
  minutes : UInt8
  hours : UInt16
  deriving DecidableEq, Repr

/-- The desktop takes a new size. -/
structure ResetGraphicsPdu where
  width : UInt32
  height : UInt32
  monitors : List Monitor
  deriving DecidableEq, Repr

/-- A surface is made. -/
structure CreateSurfacePdu where
  surfaceId : UInt16
  width : UInt16
  height : UInt16
  pixelFormat : PixelFormat
  deriving DecidableEq, Repr

/-- A surface is shown from a position of the output on. -/
structure MapSurfaceToOutputPdu where
  surfaceId : UInt16
  outputOriginX : UInt32
  outputOriginY : UInt32
  deriving DecidableEq, Repr

/-- A frame begins. -/
structure StartFramePdu where
  timestamp : Timestamp
  frameId : UInt32
  deriving DecidableEq, Repr

/-- A part of a surface is painted. -/
structure WireToSurface1Pdu where
  surfaceId : UInt16
  codecId : Codec1Type
  pixelFormat : PixelFormat
  destinationRectangle : InclusiveRectangle
  bitmapData : Bytes
  deriving DecidableEq, Repr

/-- The PDUs that this server sends. -/
inductive ServerPdu where
  | capabilitiesConfirm (confirmed : CapabilitySet)
  | resetGraphics (pdu : ResetGraphicsPdu)
  | createSurface (pdu : CreateSurfacePdu)
  | mapSurfaceToOutput (pdu : MapSurfaceToOutputPdu)
  | startFrame (pdu : StartFramePdu)
  | wireToSurface1 (pdu : WireToSurface1Pdu)
  | endFrame (frameId : UInt32)
  deriving DecidableEq, Repr

/-- How an access unit was quantised. -/
structure QuantQuality where
  quantizationParameter : UInt8
  progressive : Bool
  quality : UInt8
  deriving DecidableEq, Repr

/-- H.264 data with the regions it paints. -/
structure Avc420BitmapStream where
  rectangles : List InclusiveRectangle
  quantQualVals : List QuantQuality
  data : Bytes
  deriving DecidableEq, Repr

section Encode

def littleEndian16 (n : UInt16) : Bytes := [n.toUInt8, (n >>> 8).toUInt8]

def littleEndian32 (n : UInt32) : Bytes :=
  [n.toUInt8, (n >>> 8).toUInt8, (n >>> 16).toUInt8, (n >>> 24).toUInt8]

/-- `InclusiveRectangle::encode`, into a buffer with room for the rectangle. -/
def InclusiveRectangle.encode (rectangle : InclusiveRectangle) : Encoding :=
  .ensureSize "InclusiveRectangle" 8 <| .write <| littleEndian16 rectangle.left ++
    littleEndian16 rectangle.top ++ littleEndian16 rectangle.right ++ littleEndian16 rectangle.bottom

/-- `set_bits(0..6, _)` panics on a value of more than six bits. -/
def QuantQuality.encode (quant : QuantQuality) : Encoding :=
  .ensureSize "GfxQuantQuality" 2 <|
    if quant.quantizationParameter < 64 then
      let data := quant.quantizationParameter
      .write [if quant.progressive then data ||| 0x80 else data &&& 0x7f, quant.quality]
    else .panic

/-- The bytes that the stream takes. -/
def Avc420BitmapStream.size (stream : Avc420BitmapStream) : Nat :=
  4 + stream.rectangles.length * 10 + stream.data.length

/-- `Avc420BitmapStream::encode`: the regions, their qualities, the data. -/
def Avc420BitmapStream.encode (stream : Avc420BitmapStream) : Encoding :=
  let count : Encoding :=
    if stream.rectangles.length < UInt32.size
    then .write (littleEndian32 (.ofNat stream.rectangles.length)) else .fail (.invalidField "len")
  .ensureSize "Avc420BitmapStream" stream.size <|
    count.andThen (.all (stream.rectangles.map InclusiveRectangle.encode))
      |>.andThen (.all (stream.quantQualVals.map QuantQuality.encode))
      |>.andThen (.write stream.data)

/-- A stream whose parameters fit six bits, one for each rectangle, fills a
buffer of its size. -/
theorem Avc420BitmapStream.encode_fills (stream : Avc420BitmapStream)
    (counted : stream.rectangles.length < UInt32.size)
    (paired : stream.quantQualVals.length = stream.rectangles.length)
    (sixBits : ∀ quant ∈ stream.quantQualVals, quant.quantizationParameter < 64) :
    stream.encode.Fills stream.size := by
  have count : (Encoding.write (littleEndian32 (.ofNat stream.rectangles.length))).Fills 4 :=
    Encoding.write_fills _
  have rectangles : (Encoding.all (stream.rectangles.map InclusiveRectangle.encode)).Fills
      (stream.rectangles.length * 8) := by
    rw [← List.length_map (f := InclusiveRectangle.encode)]
    apply Encoding.all_fills
    intro encoding member
    obtain ⟨rectangle, _, rfl⟩ := List.mem_map.mp member
    apply Encoding.Fills.ensureSize
    exact Encoding.write_fills _
  have quants : (Encoding.all (stream.quantQualVals.map QuantQuality.encode)).Fills
      (stream.quantQualVals.length * 2) := by
    rw [← List.length_map (f := QuantQuality.encode)]
    apply Encoding.all_fills
    intro encoding member
    obtain ⟨quant, among, rfl⟩ := List.mem_map.mp member
    apply Encoding.Fills.ensureSize
    rw [if_pos (sixBits quant among)]
    exact Encoding.write_fills _
  have whole := ((count.andThen rectangles).andThen quants).andThen (Encoding.write_fills stream.data)
  have size : stream.size = 4 + stream.rectangles.length * 8 + stream.quantQualVals.length * 2 +
      stream.data.length := by
    unfold Avc420BitmapStream.size
    omega
  unfold Avc420BitmapStream.encode
  apply Encoding.Fills.ensureSize
  rw [if_pos counted, size]
  exact whole

end Encode

/-- `ironrdp_core::encode_vec`, given the size of a PDU and its `encode`. -/
abbrev EncodeVec := Nat → Encoding → Option (Except EncodeError Bytes)

/-- `encode_vec` hands the PDU a buffer of the size it asks for. -/
def Allocates (encodeVec : EncodeVec) : Prop :=
  ∀ size encode bytes, encode size = some (.ok bytes) → bytes.length = size →
    encodeVec size encode = some (.ok bytes)

/-- A buffer of zeros of the size asked for. -/
def zeroedBuffer : EncodeVec := fun size encode =>
  (encode size).map fun result => result.map fun bytes => bytes ++ List.replicate (size - bytes.length) 0

/-- A buffer of zeros is one that `encode_vec` can make. -/
theorem zeroedBuffer_allocates : Allocates zeroedBuffer := by
  intro size encode bytes written length
  simp [zeroedBuffer, written, length, Except.map]

/-- How far the channel is. -/
inductive GfxState where
  | waitingCapabilities
  | ready
  | active
  deriving DecidableEq, Repr

/-- The server's end of the graphics channel. `pending` is what has been queued for the client. -/
structure GfxServer where
  state : GfxState
  clientCaps : Option (List CapabilitySet)
  surfaceId : UInt16
  frameId : UInt32
  pending : List ServerPdu
  desktopWidth : UInt16
  desktopHeight : UInt16
  channelId : Option UInt32
  drdynvcChannelId : Option UInt16
  needsKeyframe : Bool
  avc420Enabled : Bool
  deriving DecidableEq, Repr

/-- The wall clock in milliseconds, as the time of a frame. -/
def Timestamp.ofMillis (ms : UInt64) : Timestamp where
  milliseconds := (ms % 1000).toUInt16
  seconds := ((ms / 1000) % 60).toUInt8
  minutes := ((ms / 60000) % 60).toUInt8
  hours := ((ms / 3600000) % 24).toUInt16

/-- `saturating_sub(1)` -/
def lastIndex (n : UInt16) : UInt16 := if n = 0 then 0 else n - 1

/-- 8.1 is confirmed before 8, and 8 without flags when the client has neither. -/
def confirmedSet (caps : List CapabilitySet) : CapabilitySet :=
  if (caps.find? fun | .v8_1 _ => true | _ => false).isSome then
    .v8_1 (CapabilitiesV81Flags.smallCache ||| CapabilitiesV81Flags.avc420Enabled)
  else match caps.find? fun | .v8 _ => true | _ => false with
  | some best => best
  | none => .v8 CapabilitiesV8Flags.empty

/-- The arms of the scan in `client_supports_avc420`. -/
def CapabilitySet.permitsAvc420 : CapabilitySet → Bool
  | .v8_1 flags => CapabilitiesV81Flags.contains flags CapabilitiesV81Flags.avc420Enabled
  | .v10 flags | .v10_2 flags => !CapabilitiesV10Flags.contains flags CapabilitiesV10Flags.avcDisabled
  | .v10_3 flags => !CapabilitiesV103Flags.contains flags CapabilitiesV103Flags.avcDisabled
  | _ => false

namespace GfxServer

/-- A channel that was not opened, for a desktop of the size. -/
def new (desktopWidth desktopHeight : UInt16) : GfxServer where
  state := .waitingCapabilities
  clientCaps := none
  surfaceId := 1
  frameId := 0
  pending := []
  desktopWidth := desktopWidth
  desktopHeight := desktopHeight
  channelId := none
  drdynvcChannelId := none
  needsKeyframe := true
  avc420Enabled := true

/-- The message is queued. -/
def push (gfx : GfxServer) (pdu : ServerPdu) : GfxServer :=
  { gfx with pending := gfx.pending ++ [pdu] }

/-- Frames can be sent. -/
def isActive (gfx : GfxServer) : Bool := gfx.state == .active

/-- The one rectangle of a frame. -/
def frameRectangle (width height : UInt16) : InclusiveRectangle where
  left := 0
  top := 0
  right := lastIndex width
  bottom := lastIndex height

/-- A frame as one region that covers it. -/
def avc420Stream (data : Bytes) (width height : UInt16) (quantParameter : UInt8) (isKeyframe : Bool) :
    Avc420BitmapStream where
  rectangles := [frameRectangle width height]
  quantQualVals := [{
    quantizationParameter := quantParameter
    progressive := false
    quality := if isKeyframe then quantParameter
      else min (UInt8.ofNat (min (quantParameter.toNat + 4) 255)) 51 }]
  data := data

/-- `none` is a panic. The counter of frames wraps, as it does in a release build. -/
def sendAvc420Frame (encodeVec : EncodeVec) (now : UInt64) (gfx : GfxServer) (h264Data : Bytes)
    (width height : UInt16) (quantParameter : UInt8) (isKeyframe : Bool) : Option GfxServer :=
  if gfx.state ≠ .active then some gfx
  else
    let frameId := gfx.frameId
    let gfx := { gfx with frameId := frameId + 1 }.push
      (.startFrame { timestamp := .ofMillis now, frameId })
    let stream := avc420Stream h264Data width height quantParameter isKeyframe
    match encodeVec stream.size stream.encode with
    | none => none
    | some (.error _) => some gfx
    | some (.ok bitmapData) => some <| gfx.push (.wireToSurface1 {
        surfaceId := gfx.surfaceId
        codecId := .avc420
        pixelFormat := .xRgb
        destinationRectangle := frameRectangle width height
        bitmapData := bitmapData }) |>.push (.endFrame frameId)

/-- Whether some advertised set permits AVC420. -/
def clientSupportsAvc420 (gfx : GfxServer) : Bool :=
  match gfx.clientCaps with
  | some caps => caps.any CapabilitySet.permitsAvc420
  | none => false

/-- `init_surface`: the channel is active, the desktop's size is sent, a surface of it made and
mapped, and a keyframe awaited. -/
def initSurface (gfx : GfxServer) : GfxServer :=
  let gfx := { gfx with needsKeyframe := true }
    |>.push (.resetGraphics {
      width := gfx.desktopWidth.toUInt32
      height := gfx.desktopHeight.toUInt32
      monitors := [{
        left := 0
        top := 0
        right := (gfx.desktopWidth.toNat : Int) - 1
        bottom := (gfx.desktopHeight.toNat : Int) - 1
        primary := true }] })
    |>.push (.createSurface {
      surfaceId := gfx.surfaceId
      width := gfx.desktopWidth
      height := gfx.desktopHeight
      pixelFormat := .xRgb })
    |>.push (.mapSurfaceToOutput { surfaceId := gfx.surfaceId, outputOriginX := 0, outputOriginY := 0 })
  { gfx with state := .active }

/-- `handle_capabilities_advertise`. Without a set that permits AVC420 the channel stays
as it is, and the display falls back to bitmaps. -/
def handleCapabilitiesAdvertise (gfx : GfxServer) (caps : List CapabilitySet) : GfxServer :=
  let gfx := { gfx with clientCaps := some caps }
  let avcOk := gfx.clientSupportsAvc420
  let gfx := { gfx with avc420Enabled := avcOk }
  if !avcOk then gfx
  else { gfx.push (.capabilitiesConfirm (confirmedSet caps)) with state := .ready }.initSurface

/-- The size that the next surface is made with. -/
def setDesktopSize (gfx : GfxServer) (width height : UInt16) : GfxServer :=
  { gfx with desktopWidth := width, desktopHeight := height }

/-- The static channel that the dynamic one is carried in. -/
def setDrdynvcChannelId (gfx : GfxServer) (id : UInt16) : GfxServer :=
  { gfx with drdynvcChannelId := some id }

/-- A keyframe has come. -/
def clearNeedsKeyframe (gfx : GfxServer) : GfxServer := { gfx with needsKeyframe := false }

/-- What is queued is taken out. -/
def drainPending (gfx : GfxServer) : GfxServer × List ServerPdu := ({ gfx with pending := [] }, gfx.pending)

/-- The channel opens. What was advertised before is forgotten. -/
def start (gfx : GfxServer) (channelId : UInt32) : GfxServer × List ServerPdu :=
  ({ gfx with
    state := .waitingCapabilities
    channelId := some channelId
    clientCaps := none
    pending := [] }, [])

/-- `none` is a payload that does not decode. -/
def process (gfx : GfxServer) : Option ClientPdu → GfxServer × List ServerPdu
  | none => (gfx, [])
  | some (.capabilitiesAdvertise caps) => (gfx.handleCapabilitiesAdvertise caps).drainPending
  | some .frameAcknowledge => gfx.drainPending

/-- The channel closes. -/
def close (gfx : GfxServer) : GfxServer :=
  { gfx with state := .waitingCapabilities, channelId := none }

section Lemmas
variable {gfx : GfxServer} {encodeVec : EncodeVec}

theorem isActive_iff : gfx.isActive = true ↔ gfx.state = .active := beq_iff_eq

/-- What `init_surface` queues. -/
def surfacePdus (gfx : GfxServer) : List ServerPdu :=
  [.resetGraphics {
      width := gfx.desktopWidth.toUInt32
      height := gfx.desktopHeight.toUInt32
      monitors := [{
        left := 0
        top := 0
        right := (gfx.desktopWidth.toNat : Int) - 1
        bottom := (gfx.desktopHeight.toNat : Int) - 1
        primary := true }] },
    .createSurface {
      surfaceId := gfx.surfaceId
      width := gfx.desktopWidth
      height := gfx.desktopHeight
      pixelFormat := .xRgb },
    .mapSurfaceToOutput { surfaceId := gfx.surfaceId, outputOriginX := 0, outputOriginY := 0 }]

theorem initSurface_eq (gfx : GfxServer) : gfx.initSurface = { gfx with
    state := .active
    needsKeyframe := true
    pending := gfx.pending ++ gfx.surfacePdus } := by
  simp [initSurface, push, surfacePdus]

theorem surfacePdus_frameless (gfx : GfxServer) (frame : WireToSurface1Pdu) :
    ServerPdu.wireToSurface1 frame ∉ gfx.surfacePdus := by
  simp [surfacePdus]

/-- Capabilities that do not support AVC420 only switch the flag off. -/
theorem handleCapabilitiesAdvertise_refused {caps : List CapabilitySet}
    (refused : caps.any CapabilitySet.permitsAvc420 = false) :
    gfx.handleCapabilitiesAdvertise caps =
      { gfx with clientCaps := some caps, avc420Enabled := false } := by
  simp [handleCapabilitiesAdvertise, clientSupportsAvc420, refused]

/-- A client that permits AVC420 gets its confirmation, and a surface. -/
theorem handleCapabilitiesAdvertise_supported {caps : List CapabilitySet}
    (supported : caps.any CapabilitySet.permitsAvc420 = true) :
    gfx.handleCapabilitiesAdvertise caps = { gfx with
      clientCaps := some caps
      avc420Enabled := true
      state := .active
      needsKeyframe := true
      pending := gfx.pending ++ .capabilitiesConfirm (confirmedSet caps) :: gfx.surfacePdus } := by
  simp [handleCapabilitiesAdvertise, clientSupportsAvc420, supported, initSurface_eq, push, surfacePdus]

theorem drainPending_queued (empty : gfx.pending = []) (pdus : List ServerPdu) :
    { gfx with pending := gfx.pending ++ pdus }.drainPending = (gfx, pdus) := by
  cases gfx
  cases empty
  rfl

theorem start_empty (empty : gfx.pending = []) (channelId : UInt32) : gfx.start channelId =
    ({ gfx with state := .waitingCapabilities, channelId := some channelId, clientCaps := none }, []) := by
  cases gfx
  cases empty
  rfl

/-- An acknowledgement changes nothing. -/
theorem process_frameAcknowledge (empty : gfx.pending = []) :
    gfx.process (some .frameAcknowledge) = (gfx, []) := by
  cases gfx
  cases empty
  rfl

/-- A client that permits no AVC420 is sent nothing. -/
theorem process_refused (empty : gfx.pending = []) {caps : List CapabilitySet}
    (refused : caps.any CapabilitySet.permitsAvc420 = false) :
    gfx.process (some (.capabilitiesAdvertise caps)) =
      ({ gfx with clientCaps := some caps, avc420Enabled := false }, []) := by
  rw [process, handleCapabilitiesAdvertise_refused refused, drainPending, empty]

/-- A client that permits AVC420 is sent the confirmation and the surface. -/
theorem process_supported (empty : gfx.pending = []) {caps : List CapabilitySet}
    (supported : caps.any CapabilitySet.permitsAvc420 = true) :
    gfx.process (some (.capabilitiesAdvertise caps)) =
      ({ gfx with
        clientCaps := some caps
        avc420Enabled := true
        state := .active
        needsKeyframe := true }, .capabilitiesConfirm (confirmedSet caps) :: gfx.surfacePdus) := by
  rw [process, handleCapabilitiesAdvertise_supported supported, drainPending, empty]
  rfl

/-- The frame of a surface as `send_avc420_frame` queues it. -/
def framePdus (gfx : GfxServer) (now : UInt64) (width height : UInt16) (bitmapData : Bytes) :
    List ServerPdu :=
  [.startFrame { timestamp := .ofMillis now, frameId := gfx.frameId },
    .wireToSurface1 {
      surfaceId := gfx.surfaceId
      codecId := .avc420
      pixelFormat := .xRgb
      destinationRectangle := frameRectangle width height
      bitmapData := bitmapData },
    .endFrame gfx.frameId]

/-- With a six-bit quantization parameter an active server queues the whole frame. -/
theorem sendAvc420Frame_active (allocates : Allocates encodeVec) (now : UInt64) (active : gfx.state = .active)
    (data : Bytes) (width height : UInt16) {quantParameter : UInt8} (isKeyframe : Bool)
    (sixBits : quantParameter < 64) :
    ∃ bitmapData, gfx.sendAvc420Frame encodeVec now data width height quantParameter isKeyframe =
      some { gfx with
        frameId := gfx.frameId + 1
        pending := gfx.pending ++ gfx.framePdus now width height bitmapData } := by
  have fills := (avc420Stream data width height quantParameter isKeyframe).encode_fills
    (by simp [avc420Stream, UInt32.size]) rfl (by simpa [avc420Stream] using sixBits)
  obtain ⟨bytes, written, length⟩ := fills _ (Nat.le_refl _)
  refine ⟨bytes, ?_⟩
  simp [sendAvc420Frame, active, allocates _ _ _ written length, push, framePdus]

/-- On a channel that is not active nothing is queued. -/
theorem sendAvc420Frame_inactive (now : UInt64) (inactive : gfx.state ≠ .active) (data : Bytes)
    (width height : UInt16) (quantParameter : UInt8) (isKeyframe : Bool) :
    gfx.sendAvc420Frame encodeVec now data width height quantParameter isKeyframe = some gfx :=
  if_pos inactive

end Lemmas

end GfxServer

end Osxrdp.Gfx
