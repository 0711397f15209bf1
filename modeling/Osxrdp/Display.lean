import Osxrdp.DisplayMode
import Osxrdp.FramePipeline
import Osxrdp.Runs
import Osxrdp.Watch

/-! `display.rs`: the display handler of the server and its update streams.
What macOS answers, to a query, a capture or an encode, is an input of the
function that asks. A stream is driven one half of its loop at a time, since a
layout request can come in whenever it waits. -/
namespace Osxrdp.Display
open DisplayMode FramePipeline
open Watch (Sender Receiver)

/-- What the frames are captured as, as the command line chose it. -/
inductive CaptureMode where
  | bgra
  | h264
  deriving DecidableEq, Repr

/-- The VideoToolbox session, as far as the stream reads it: its size. -/
structure VtH264Encoder where
  width : UInt16
  height : UInt16
  deriving DecidableEq, Repr

/-- An H.264 access unit on its way to the client. -/
structure Avc420Update where
  data : Bytes
  width : UInt16
  height : UInt16
  isKeyframe : Bool
  deriving DecidableEq, Repr

/-- What `next_update` returns for the client. -/
inductive DisplayUpdate where
  | resize (size : DesktopSize)
  | bitmap (update : BitmapUpdate)
  | avc420 (update : Avc420Update)
  deriving DecidableEq, Repr

/-- How one `encode` ends: VideoToolbox may deliver data, deliver nothing in
time, or refuse the frame. -/
inductive EncodeOutcome where
  | delivered (data : Bytes) (isKeyframe : Bool)
  | nothing
  | failed
  deriving DecidableEq, Repr

/-- `VtH264Encoder::encode`: an access unit, nothing for now, or an error. -/
def VtH264Encoder.encode (encoder : VtH264Encoder) : EncodeOutcome → Except Unit (Option Avc420Update)
  | .delivered data isKeyframe =>
    if data.isEmpty then .ok none
    else .ok (some { data, width := encoder.width, height := encoder.height, isKeyframe })
  | .nothing => .ok none
  | .failed => .error ()

/-- A ScreenCaptureKit stream: its configuration, and whether it is running. -/
structure AsyncSCStream where
  width : UInt16
  height : UInt16
  mode : CaptureMode
  running : Bool
  deriving DecidableEq, Repr

/-- Where a stream takes its frames from: ScreenCaptureKit, or a copy of the display. -/
inductive CaptureSource where
  | sckit (stream : AsyncSCStream)
  | cgDisplay
  deriving DecidableEq, Repr

/-- What a step shows from outside: values returned, calls of `create_stream`,
sizes sent on `resize_tx`, and changes of the physical mode by a switch. -/
inductive Event where
  | size (size : DesktopSize)
  | started (targetSize : DesktopSize)
  | update (update : DisplayUpdate)
  | ended
  | failed
  | createStream
  | sent (size : DesktopSize)
  | modeChanged
  deriving DecidableEq, Repr

section Streams

/-- The stream that `updates` returns. It has a receiver of its own for the sizes that
layout requests send. -/
structure MacDisplayUpdates where
  capture : CaptureSource
  streamSize : DesktopSize
  targetSize : DesktopSize
  mode : CaptureMode
  bgraPipeline : BgraFramePipeline
  resizeRx : Receiver
  h264Encoder : Option VtH264Encoder
  missedFrames : UInt32
  deriving DecidableEq, Repr

/-- Whether `create_stream` and `VtH264Encoder::new` succeed. -/
structure Created where
  stream : Bool
  encoder : Bool
  deriving DecidableEq, Repr

/-- What `stream.next()` gives. For an image, `lock` is the pixel data, if the
buffer could be locked. -/
inductive Sample where
  | ended
  | noImage
  | image (width height : Nat) (lock : Option PrevFrame)
  deriving DecidableEq, Repr

/-- What macOS answers during one iteration of the loop of `next_update`. -/
structure Capture where
  sample : Sample
  displayBgra : Option PrevFrame
  cvPixelBuffer : Bool
  created : Created
  encoded : EncodeOutcome
  deriving DecidableEq, Repr

namespace MacDisplayUpdates

/-- The capture source of a new stream; `none` when `create_stream` fails. -/
def startCapture (streamSize : DesktopSize) (mode : CaptureMode) (useCgDisplay created : Bool) :
    Option CaptureSource :=
  if useCgDisplay then some .cgDisplay
  else if created then
    some (.sckit { width := streamSize.width, height := streamSize.height, mode, running := true })
  else none

/-- The encoder of a new stream, if its mode has one; `none` when that fails. -/
def startEncoder (streamSize : DesktopSize) (mode : CaptureMode) (created : Bool) :
    Option (Option VtH264Encoder) :=
  match mode with
  | .bgra => some none
  | .h264 => if created then some (some ⟨streamSize.width, streamSize.height⟩) else none

/-- `MacDisplayUpdates::start`. `created` says whether the capture stream and the encoder
could be made. -/
def start (streamSize targetSize : DesktopSize) (mode : CaptureMode) (aspectMode : AspectMode)
    (resizeRx : Receiver) (useCgDisplay : Bool) (created : Created) : Option MacDisplayUpdates :=
  (startCapture streamSize mode useCgDisplay created.stream).bind fun capture =>
    (startEncoder streamSize mode created.encoder).map fun h264Encoder =>
      { capture, streamSize, targetSize, mode, bgraPipeline := .new targetSize aspectMode,
        resizeRx, h264Encoder, missedFrames := 0 }

/-- Step 1 of `next_update`: take a pending resize over. -/
def takeResize (avc420Enabled : Bool) (tx : Sender (Option DesktopSize)) (updates : MacDisplayUpdates) :
    Option DisplayUpdate × MacDisplayUpdates :=
  if updates.resizeRx.hasChanged tx then
    let (newSize, resizeRx) := updates.resizeRx.borrowAndUpdate tx
    let updates := { updates with resizeRx }
    match newSize with
    | none => (none, updates)
    | some size =>
      let updates := { updates with
        targetSize := size, bgraPipeline := updates.bgraPipeline.setTarget size }
      if updates.mode = .bgra ∨ avc420Enabled = false then (some (.resize size), updates)
      else (none, updates)
  else (none, updates)

/-- Step 2, also taken after a pushed frame. -/
def popUpdate (updates : MacDisplayUpdates) : Option DisplayUpdate × MacDisplayUpdates :=
  let (update, bgraPipeline) := updates.bgraPipeline.popUpdate
  (update.map .bitmap, { updates with bgraPipeline })

/-- Steps 1 and 2 together: up to the wait for a frame slot. -/
def poll (avc420Enabled : Bool) (tx : Sender (Option DesktopSize)) (updates : MacDisplayUpdates) :
    Option DisplayUpdate × MacDisplayUpdates :=
  match updates.takeResize avc420Enabled tx with
  | (some update, updates) => (some update, updates)
  | (none, updates) => updates.popUpdate

/-- The end of `recreate_stream`: new size, new encoder, fresh pipeline. -/
def resizeStream (updates : MacDisplayUpdates) (size : DesktopSize) (created : Created) :
    Bool × MacDisplayUpdates :=
  let updates := { updates with streamSize := size }
  if updates.mode = .h264 then
    if created.encoder then
      (true, { updates with
        h264Encoder := some ⟨size.width, size.height⟩, bgraPipeline := updates.bgraPipeline.reset })
    else (false, updates)
  else (true, { updates with bgraPipeline := updates.bgraPipeline.reset })

/-- `recreate_stream`, with its success and the calls of `create_stream`. -/
def recreateStream (updates : MacDisplayUpdates) (size : DesktopSize) (created : Created) :
    Bool × MacDisplayUpdates × List Event :=
  match updates.capture with
  | .sckit stream =>
    if created.stream then
      let stream := { stream with
        width := size.width, height := size.height, mode := updates.mode, running := true }
      let (ok, updates) := { updates with capture := .sckit stream }.resizeStream size created
      (ok, updates, [.createStream])
    else (false, { updates with capture := .sckit { stream with running := false } }, [.createStream])
  | .cgDisplay =>
    let (ok, updates) := updates.resizeStream size created
    (ok, updates, [])

/-- `push_frame` followed by `pop_update`. -/
def pushFrame (platform : Platform) (updates : MacDisplayUpdates) (frame : PrevFrame) :
    Option (MacDisplayUpdates × List Event) :=
  (updates.bgraPipeline.pushFrame platform frame).map fun bgraPipeline =>
    let (update, updates) := { updates with bgraPipeline }.popUpdate
    (updates, (update.map .update).toList)

/-- A BGRA capture through CoreGraphics, which may give nothing. -/
def pushCapture (platform : Platform) (forced : Bool) (updates : MacDisplayUpdates) :
    Option PrevFrame → Option (MacDisplayUpdates × Bool × List Event)
  | none => some (updates, forced, [])
  | some frame => (updates.pushFrame platform frame).map fun (updates, shown) =>
      (updates, forced, shown)

/-- A forced keyframe replaces the encoder by a new one of its size, if one can
be created. -/
def forceKeyframe (updates : MacDisplayUpdates) (encoder : VtH264Encoder) (forced : Bool)
    (created : Created) : MacDisplayUpdates :=
  if forced && created.encoder then { updates with h264Encoder := some ⟨encoder.width, encoder.height⟩ }
  else updates

/-- `handle_ycbcr_frame`; the flag returned is `force_keyframe` afterwards. -/
def handleYcbcrFrame (updates : MacDisplayUpdates) (forced : Bool) (lock : Option PrevFrame)
    (capture : Capture) : MacDisplayUpdates × Bool × List Event :=
  match updates.h264Encoder with
  | none => (updates, forced, [])
  | some encoder =>
    let updates := updates.forceKeyframe encoder forced capture.created
    match lock with
    | none => (updates, false, [.failed])
    | some _ => match encoder.encode capture.encoded with
      | .ok (some update) => (updates, false, [.update (.avc420 update)])
      | .ok none | .error () => (updates, false, [])

/-- The size check on a ScreenCaptureKit frame. -/
def followFrameSize (updates : MacDisplayUpdates) (frameSize : DesktopSize) (created : Created) :
    Bool × MacDisplayUpdates × List Event :=
  if frameSize ≠ updates.streamSize then updates.recreateStream frameSize created
  else (true, updates, [])

/-- A ScreenCaptureKit image, pushed as BGRA or encoded. -/
def handleImage (platform : Platform) (avc420Enabled forced : Bool) (updates : MacDisplayUpdates)
    (lock : Option PrevFrame) (capture : Capture) : Option (MacDisplayUpdates × Bool × List Event) :=
  if updates.mode = .bgra ∨ avc420Enabled = false then
    match lock with
    | none => some (updates, forced, [.failed])
    | some frame => (updates.pushFrame platform frame).map fun (updates, shown) =>
        (updates, forced, shown)
  else some (updates.handleYcbcrFrame forced lock capture)

/-- Steps 3 and 4 for a ScreenCaptureKit source. `none` is a panic. -/
def sckitFrame (platform : Platform) (avc420Enabled forced : Bool) (updates : MacDisplayUpdates)
    (capture : Capture) : Option (MacDisplayUpdates × Bool × List Event) :=
  match capture.sample with
  | .ended => some (updates, forced, [.ended])
  | .noImage =>
    let updates := { updates with missedFrames := updates.missedFrames + 1 }
    if updates.missedFrames ≥ 30 then
      let (ok, updates, events) := updates.recreateStream updates.streamSize capture.created
      some (if ok then { updates with missedFrames := 0 } else updates, forced, events)
    else some (updates, forced, [])
  | .image width height lock =>
    let (ok, updates, events) := { updates with missedFrames := 0 }.followFrameSize
      ⟨width.toUInt16, height.toUInt16⟩ capture.created
    if ok then
      (updates.handleImage platform avc420Enabled forced lock capture).map
        fun (updates, forced, shown) => (updates, forced, events ++ shown)
    else some (updates, forced, events)

/-- Steps 3 and 4 for a CoreGraphics source. -/
def cgDisplayFrame (platform : Platform) (avc420Enabled forced : Bool) (updates : MacDisplayUpdates)
    (capture : Capture) : Option (MacDisplayUpdates × Bool × List Event) :=
  if updates.mode = .bgra ∨ avc420Enabled = false then
    updates.pushCapture platform forced capture.displayBgra
  else if capture.cvPixelBuffer then
    match updates.h264Encoder with
    | none => updates.pushCapture platform forced capture.displayBgra
    | some encoder =>
      let updates := updates.forceKeyframe encoder forced capture.created
      match encoder.encode capture.encoded with
      | .ok (some update) => some (updates, false, [.update (.avc420 update)])
      | .ok none => some (updates, false, [])
      | .error () => updates.pushCapture platform false capture.displayBgra
  else updates.pushCapture platform forced capture.displayBgra

/-- What `next_update` does with one captured frame, and whether a keyframe is still asked for. -/
def frame (platform : Platform) (avc420Enabled forced : Bool) (updates : MacDisplayUpdates)
    (capture : Capture) : Option (MacDisplayUpdates × Bool × List Event) :=
  match updates.capture with
  | .sckit _ => updates.sckitFrame platform avc420Enabled forced capture
  | .cgDisplay => updates.cgDisplayFrame platform avc420Enabled forced capture

end MacDisplayUpdates
end Streams

section Handler

/-- The display handler, which outlives the connections. Each stream gets a clone of its
receiver, with what that has seen. -/
structure MacDisplay where
  currentSize : Option DesktopSize
  nativeSize : Option DesktopSize
  resizeTx : Sender (Option DesktopSize)
  resizeRx : Receiver
  mode : CaptureMode
  aspectMode : AspectMode
  modeSwitcher : Option DisplayModeSwitcher
  modeSwitchPending : Option DesktopSize
  cgDisplayForced : Bool
  deriving DecidableEq, Repr

/-- `cg_display_size`. -/
def cgDisplaySize (host : Host) : DesktopSize :=
  ⟨max host.active.width.toUInt16 1, max host.active.height.toUInt16 1⟩

/-- The size a client asks for, as a desktop size. -/
def clientSize (clientW clientH : UInt32) : DesktopSize :=
  ⟨max clientW.toUInt16 1, max clientH.toUInt16 1⟩

/-- `f64::round() as u16`, for a number that is not negative. -/
def roundToU16 (q : ℚ) : UInt16 := (min (round q).toNat 65535).toUInt16

/-- The size of `AspectMode::Native`. A client height of zero makes its ratio
infinite, or not a number when the width is zero as well. -/
def nativeModeSize (fl : Rounding 53) (native : DesktopSize) (clientW clientH : UInt32) : DesktopSize :=
  let nativeRatio := fl.div native.width.toNat native.height.toNat
  let wider : Bool := if clientH = 0 then decide (clientW ≠ 0)
    else decide (fl.div clientW.toNat clientH.toNat > nativeRatio)
  let (adjW, adjH) := if wider then (fl.mul clientH.toNat nativeRatio, (clientH.toNat : ℚ))
    else ((clientW.toNat : ℚ), fl.div clientW.toNat nativeRatio)
  ⟨max (roundToU16 adjW) 1, max (roundToU16 adjH) 1⟩

namespace MacDisplay

/-- `with_mode`. -/
def withMode (mode : CaptureMode) (aspectMode : AspectMode) : MacDisplay where
  currentSize := none
  nativeSize := none
  resizeTx := (Watch.channel none).1
  resizeRx := (Watch.channel (none : Option DesktopSize)).2
  mode := mode
  aspectMode := aspectMode
  modeSwitcher := none
  modeSwitchPending := none
  cgDisplayForced := false

/-- The native size after `ensure_native_size`. -/
def native (host : Host) (display : MacDisplay) : DesktopSize :=
  display.nativeSize.getD (cgDisplaySize host)

/-- The native size is asked of the display when it is not known. -/
def ensureNativeSize (host : Host) (display : MacDisplay) : MacDisplay :=
  { display with nativeSize := some (display.native host) }

/-- `MacDisplay::size`: the size of the last layout request, or the native one. -/
def size (host : Host) (display : MacDisplay) : DesktopSize × MacDisplay :=
  match display.currentSize with
  | some size => (size, display)
  | none => (display.native host, display.ensureNativeSize host)

/-- The target size of a stream that `updates` creates. -/
def targetSize (host : Host) (display : MacDisplay) : DesktopSize :=
  display.currentSize.getD (display.native host)

/-- After a mode switch frames are copied from the display. -/
def usesCgDisplay (display : MacDisplay) : Bool :=
  display.modeSwitchPending.isSome || display.cgDisplayForced

/-- `updates`, from the end of its wait for a layout on. An error of `start`
comes before the original receiver is advanced. -/
def updates (host : Host) (display : MacDisplay) (created : Created) :
    Option MacDisplayUpdates × MacDisplay × List Event :=
  let calls := if display.usesCgDisplay then [] else [.createStream]
  let ready := { display with modeSwitchPending := none }.ensureNativeSize host
  let started := MacDisplayUpdates.start (display.native host) (display.targetSize host)
    display.mode display.aspectMode display.resizeRx display.usesCgDisplay created
  match started with
  | none => (none, ready, calls ++ [.failed])
  | some updates =>
    (some updates, { ready with resizeRx := (display.resizeRx.borrowAndUpdate display.resizeTx).2 },
      calls ++ [.started (display.targetSize host)])

/-- The end of `request_layout`, for a size that needs no mode switch. -/
def announce (display : MacDisplay) (size : DesktopSize) : MacDisplay × List Event :=
  if display.currentSize = some size then (display, [])
  else ({ display with currentSize := some size, resizeTx := display.resizeTx.send (some size) },
    [.sent size])

/-- The exit of `request_layout` after a switch, which may find nothing new. -/
def announceSwitched (display : MacDisplay) (size : DesktopSize) : MacDisplay × List Event :=
  if display.currentSize = some size then (display, [])
  else ({ display with
      nativeSize := none, currentSize := some size, modeSwitchPending := some size,
      cgDisplayForced := true, resizeTx := display.resizeTx.send (some size) },
    [.sent size])

/-- `request_layout` with the dimensions of the first monitor. -/
def requestLayout (fl : Rounding 53) (host : Host) (display : MacDisplay)
    (monitor : Option (UInt32 × UInt32)) (outcome : SwitchOutcome) : Host × MacDisplay × List Event :=
  match monitor with
  | none => (host, display, [])
  | some (clientW, clientH) =>
    match display.aspectMode with
    | .native =>
      (host, display.announce (nativeModeSize fl (display.native host) clientW clientH))
    | .fit =>
      let client := clientSize clientW clientH
      let switcher := display.modeSwitcher.getD (.new host)
      let (result, switcher, after) :=
        switcher.switchToBestMode host client.width.toUInt32 client.height.toUInt32 outcome
      let changes := if after.active = host.active then [] else [.modeChanged]
      let display := { display with modeSwitcher := some switcher }
      let (display, announced) := match result with
        | some (w, h) => display.announceSwitched ⟨w.toUInt16, h.toUInt16⟩
        | none => display.announce client
      (after, display, changes ++ announced)

/-- `client_disconnected`: the restored display has its native size asked for anew. -/
def clientDisconnected (host : Host) (display : MacDisplay) (outcome : RestoreOutcome) :
    Host × MacDisplay :=
  let (host, modeSwitcher) := match display.modeSwitcher with
    | none => (host, none)
    | some switcher =>
      let (_, switcher, host) := switcher.restore host outcome
      (host, some switcher)
  (host, { display with modeSwitcher, currentSize := none, nativeSize := none, modeSwitchPending := none })

end MacDisplay
end Handler

section System

/-- A live stream, together with the native size it was created under, and
whether it has returned a resize. -/
structure Live where
  updates : MacDisplayUpdates
  native : DesktopSize
  resized : Bool
  deriving DecidableEq, Repr

/-- The handler, the display it drives and the streams that are alive. -/
structure World where
  host : Host
  display : MacDisplay
  streams : List Live
  avc420Enabled : Bool
  forceKeyframe : Bool
  deriving DecidableEq, Repr

/-- The calls of the server, and changes of the flags it shares. A stream is
named by its position among the live ones. -/
inductive Op where
  | size
  | requestLayout (monitor : Option (UInt32 × UInt32)) (outcome : SwitchOutcome)
  | updates (created : Created)
  | poll (stream : Nat)
  | frame (stream : Nat) (capture : Capture)
  | drop (stream : Nat)
  | clientDisconnected (outcome : RestoreOutcome)
  | setAvc420Enabled (enabled : Bool)
  | setForceKeyframe (forced : Bool)
  deriving DecidableEq, Repr

/-- A handler that has served no client. -/
def World.fresh (host : Host) (mode : CaptureMode) (aspectMode : AspectMode) : World :=
  { host, display := .withMode mode aspectMode, streams := [], avc420Enabled := true,
    forceKeyframe := false }

def DisplayUpdate.isResize : DisplayUpdate → Bool
  | .resize _ => true
  | .bitmap _ | .avc420 _ => false

/-- A poll of a live stream that captures nothing. -/
def Live.poll (avc420Enabled : Bool) (tx : Sender (Option DesktopSize)) (live : Live) :
    Option DisplayUpdate × Live :=
  let (update, updates) := live.updates.poll avc420Enabled tx
  (update, { live with updates, resized := live.resized || update.any DisplayUpdate.isResize })

/-- The end of the connection, whose streams are dropped. -/
def World.disconnect (world : World) (outcome : RestoreOutcome) : World :=
  let (host, display) := world.display.clientDisconnected world.host outcome
  { world with host, display }

/-- The end of a connection: its streams are dropped, then the handler is told. -/
def World.endConnection (world : World) (outcome : RestoreOutcome) : World :=
  { world with streams := [] }.disconnect outcome

/-- One operation on the handler, on its streams or on the flags that are shared with the
server. An operation on a stream that is not there does not happen. -/
def step (platform : Platform) : Runs.System World Op Event
  | world, .size =>
    let (size, display) := world.display.size world.host
    some ({ world with display }, [.size size])
  | world, .requestLayout monitor outcome =>
    let (host, display, events) :=
      world.display.requestLayout platform.fl world.host monitor outcome
    some ({ world with host, display }, events)
  | world, .updates created =>
    let (started, display, events) := world.display.updates world.host created
    let live := started.toList.map fun updates =>
      { updates, native := world.display.native world.host, resized := false }
    some ({ world with display, streams := world.streams ++ live }, events)
  | world, .poll index =>
    world.streams[index]?.map fun live =>
      let (update, live) := live.poll world.avc420Enabled world.display.resizeTx
      ({ world with streams := world.streams.set index live }, (update.map .update).toList)
  | world, .frame index capture =>
    world.streams[index]?.bind fun live =>
      (live.updates.frame platform world.avc420Enabled world.forceKeyframe capture).map
        fun (updates, forceKeyframe, events) =>
          ({ world with streams := world.streams.set index { live with updates }, forceKeyframe },
            events)
  | world, .drop index =>
    world.streams[index]?.map fun _ =>
      ({ world with streams := world.streams.eraseIdx index }, [])
  | world, .clientDisconnected outcome => some (world.disconnect outcome, [])
  | world, .setAvc420Enabled avc420Enabled => some ({ world with avc420Enabled }, [])
  | world, .setForceKeyframe forceKeyframe => some ({ world with forceKeyframe }, [])

end System
end Osxrdp.Display
