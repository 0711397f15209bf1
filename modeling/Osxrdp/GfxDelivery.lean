import Osxrdp.GfxRoundTrip
import Osxrdp.GfxRouting

/-! What a client reads of the graphics channel: every message that was sent, and
in them the video that was routed there. -/
namespace Osxrdp.GfxDelivery
open Bitflags (Flags)
open Display (Avc420Update DisplayUpdate)
open Gfx
open GfxRouting
open Runs (run run_cons)
open WireEncoding (EncodeError)

section Wire

/-- A monitor as the wire has it. -/
def monitor (monitor : Gfx.Monitor) : GfxEncoding.Monitor where
  left := .ofInt monitor.left
  top := .ofInt monitor.top
  right := .ofInt monitor.right
  bottom := .ofInt monitor.bottom
  flags := if monitor.primary then ⟨1, rfl⟩ else .empty

/-- A message of this server among all graphics messages. -/
def wire : ServerPdu → GfxEncoding.ServerPdu
  | .capabilitiesConfirm confirmed => .capabilitiesConfirm confirmed
  | .resetGraphics pdu => .resetGraphics {
      width := pdu.width
      height := pdu.height
      monitors := pdu.monitors.map monitor }
  | .createSurface pdu => .createSurface pdu
  | .mapSurfaceToOutput pdu => .mapSurfaceToOutput pdu
  | .startFrame pdu => .startFrame pdu
  | .wireToSurface1 pdu => .wireToSurface1 {
      surfaceId := pdu.surfaceId
      codecId := .avc420
      pixelFormat := pdu.pixelFormat
      destinationRectangle := pdu.destinationRectangle
      bitmapData := pdu.bitmapData }
  | .endFrame frameId => .endFrame frameId

/-- What a `DvcMessage` is encoded to. -/
def payload (encodeVec : EncodeVec) (pdu : ServerPdu) : Option (Except EncodeError Bytes) :=
  encodeVec (wire pdu).size (wire pdu).encode

/-- A client PDU that was read of some payload. -/
def FromWire (pdu : ClientPdu) : Prop :=
  ∃ payload read rest, GfxDecoding.ClientPdu.decode payload = some (.ok (read, rest)) ∧ read.handled = pdu

end Wire

section Client

/-- What a client reads of a payload. -/
def clientReads (payload : Bytes) : Option GfxEncoding.ServerPdu :=
  match GfxEncoding.ServerPdu.decode payload with
  | some (.ok (pdu, _)) => some pdu
  | _ => none

/-- The video that a message carries, and where it goes. -/
def video : GfxEncoding.ServerPdu → Option (InclusiveRectangle × Avc420BitmapStream)
  | .wireToSurface1 pdu =>
    if pdu.codecId = .avc420 then match GfxEncoding.Avc420BitmapStream.decode pdu.bitmapData with
      | some (.ok (stream, _)) => some (pdu.destinationRectangle, stream)
      | _ => none
    else none
  | _ => none

/-- An update as a client is to have it. -/
def shown (avc : Avc420Update) : InclusiveRectangle × Avc420BitmapStream :=
  (GfxServer.frameRectangle avc.width avc.height,
    GfxServer.avc420Stream avc.data avc.width avc.height 28 avc.isKeyframe)

end Client

section Runs

/-- The messages that were written out. -/
def sent (events : List Event) : List ServerPdu :=
  events.filterMap fun
    | .sent pdu => some pdu
    | _ => none

/-- The update that a step puts on the channel and writes out. -/
def delivered (server : RdpServer) : Input → Option Avc420Update
  | .update update now .written =>
    if server.gfx.channelId.isSome && server.gfx.drdynvcChannelId.isSome then
      routed server (.update update now .written)
    else none
  | _ => none

/-- The frames that are routed to the channel and written out, in order. -/
def deliveredFrames (encodeVec : EncodeVec) : RdpServer → List Input → List Avc420Update
  | _, [] => []
  | server, input :: rest => match step encodeVec server input with
    | none => []
    | some (next, _) => (delivered server input).toList ++ deliveredFrames encodeVec next rest

/-- The desktops that the decoder of a client takes. -/
def Bounded (width height : UInt16) : Prop := width ≤ 32766 ∧ height ≤ 32766

instance (width height : UInt16) : Decidable (Bounded width height) := inferInstanceAs (Decidable (_ ∧ _))

/-- What the messages can carry over. A payload comes from the wire. -/
def Carries : Input → Prop
  | .clientAccepted _ sizes => ∀ size ∈ sizes, Bounded size.width size.height
  | .process (some pdu) _ => FromWire pdu
  | .update (.resize size) _ _ => Bounded size.width size.height
  | .update (.avc420 avc) _ _ => Bounded avc.width avc.height ∧ 39 + avc.data.length < UInt32.size
  | _ => True

end Runs

section Messages
variable {gfx : GfxServer} {encodeVec : EncodeVec}

private theorem ofMillis_fits (ms : UInt64) : GfxEncoding.Timestamp.Fits (.ofMillis ms) := by
  have milliseconds : (ms % 1000).toNat < 1000 := by
    rw [UInt64.toNat_mod]
    exact Nat.mod_lt _ (by decide)
  have sixty (n : UInt64) : (n % 60).toNat < 60 := by
    rw [UInt64.toNat_mod]
    exact Nat.mod_lt _ (by decide)
  have hours : (ms / 3600000 % 24).toNat < 24 := by
    rw [UInt64.toNat_mod]
    exact Nat.mod_lt _ (by decide)
  have short {n : UInt64} {bound : Nat} (small : n.toNat < bound) : n.toUInt16.toNat < bound := by
    rw [UInt64.toNat_toUInt16]
    exact Nat.lt_of_le_of_lt (Nat.mod_le _ _) small
  have tiny {n : UInt64} {bound : Nat} (small : n.toNat < bound) : n.toUInt8.toNat < bound := by
    rw [UInt64.toNat_toUInt8]
    exact Nat.lt_of_le_of_lt (Nat.mod_le _ _) small
  refine ⟨UInt16.lt_iff_toNat_lt.mpr ?_, UInt8.lt_iff_toNat_lt.mpr ?_, UInt8.lt_iff_toNat_lt.mpr ?_,
    UInt16.lt_iff_toNat_lt.mpr ?_⟩
  · exact Nat.lt_trans (short milliseconds) (by decide)
  · exact Nat.lt_trans (tiny (sixty _)) (by decide)
  · exact Nat.lt_trans (tiny (sixty _)) (by decide)
  · exact Nat.lt_trans (short hours) (by decide)

private theorem surface_fits (bounded : Bounded gfx.desktopWidth gfx.desktopHeight) :
    ∀ pdu ∈ gfx.surfacePdus, (wire pdu).Fits := by
  have wide : gfx.desktopWidth.toUInt32 ≤ 32766 := by
    rw [UInt32.le_iff_toNat_le, UInt16.toNat_toUInt32]
    exact UInt16.le_iff_toNat_le.mp bounded.1
  have high : gfx.desktopHeight.toUInt32 ≤ 32766 := by
    rw [UInt32.le_iff_toNat_le, UInt16.toNat_toUInt32]
    exact UInt16.le_iff_toNat_le.mp bounded.2
  have small {n : Nat} (short : n ≤ 340) : n < UInt32.size := Nat.lt_of_le_of_lt short (by decide)
  simp only [GfxServer.surfacePdus, List.forall_mem_cons]
  refine ⟨⟨⟨wide, high, ?_⟩, ?_⟩, ⟨trivial, ?_⟩, ⟨trivial, ?_⟩, List.forall_mem_nil _⟩
  · exact (by decide : 1 ≤ 16)
  · exact small (Nat.le_refl 340)
  · exact small (by decide : 18 ≤ 340)
  · exact small (by decide : 20 ≤ 340)

/-- What is confirmed has no flag without a name if the client's sets have none. -/
theorem confirmed_fits {caps : List CapabilitySet} (named : ∀ set ∈ caps, GfxEncoding.CapabilitySet.Named set) :
    (wire (.capabilitiesConfirm (confirmedSet caps))).Fits := by
  have small : 20 < UInt32.size := by decide
  unfold confirmedSet
  split
  · exact ⟨rfl, small⟩
  · split
    · rename_i best found
      have member := List.mem_of_find?_eq_some found
      have plain := List.find?_some found
      cases best with
      | v8 flags => exact ⟨named _ member, small⟩
      | _ => cases plain
    · exact ⟨rfl, small⟩

end Messages

section Frames
variable {gfx : GfxServer} {encodeVec : EncodeVec} {avc : Avc420Update}

private theorem shown_fits (avc : Avc420Update) : GfxEncoding.Avc420BitmapStream.Fits (shown avc).2 where
  counted := (by decide : 1 < UInt32.size)
  paired := rfl
  sixBits := by
    intro quant among
    rw [List.mem_singleton.mp among]
    exact (by decide : (28 : UInt8) < 64)

/-- What carries the video of an update. -/
def bitmapData (avc : Avc420Update) : Bytes := GfxEncoding.Avc420BitmapStream.bytes (shown avc).2

/-- A frame takes 14 bytes more than its access unit. -/
theorem bitmapData_length (avc : Avc420Update) : (bitmapData avc).length = 14 + avc.data.length :=
  GfxEncoding.Avc420BitmapStream.bytes_length (shown_fits avc)

/-- A frame is queued as three messages. -/
theorem sendAvc420Frame_queues (allocates : Allocates encodeVec) (now : UInt64) (active : gfx.state = .active)
    (avc : Avc420Update) : gfx.sendAvc420Frame encodeVec now avc.data avc.width avc.height 28 avc.isKeyframe =
      some { gfx with
        frameId := gfx.frameId + 1
        pending := gfx.pending ++ gfx.framePdus now avc.width avc.height (bitmapData avc) } := by
  have length := GfxEncoding.Avc420BitmapStream.bytes_length (shown_fits avc)
  have written := GfxEncoding.Avc420BitmapStream.encode_writes (shown_fits avc) _ (Nat.le_of_eq length)
  have encoded : encodeVec (shown avc).2.size (shown avc).2.encode = some (.ok (bitmapData avc)) :=
    allocates _ _ _ written length
  simp only [shown] at encoded
  simp [GfxServer.sendAvc420Frame, active, encoded, GfxServer.push, GfxServer.framePdus]

private theorem frame_fits (now : UInt64) (small : 39 + avc.data.length < UInt32.size) :
    ∀ pdu ∈ gfx.framePdus now avc.width avc.height (bitmapData avc), (wire pdu).Fits := by
  have size : 8 + (17 + (bitmapData avc).length) < UInt32.size := by
    rw [bitmapData_length]
    omega
  simp only [GfxServer.framePdus, List.forall_mem_cons]
  refine ⟨⟨ofMillis_fits now, ?_⟩, ⟨trivial, size⟩, ⟨trivial, ?_⟩, List.forall_mem_nil _⟩
  · exact (by decide : 16 < UInt32.size)
  · exact (by decide : 12 < UInt32.size)

private theorem frame_video (now : UInt64) (avc : Avc420Update) :
    (gfx.framePdus now avc.width avc.height (bitmapData avc)).filterMap (fun pdu => video (wire pdu)) =
      [shown avc] := by
  have read : video (.wireToSurface1 ⟨gfx.surfaceId, .avc420, .xRgb,
      GfxServer.frameRectangle avc.width avc.height, bitmapData avc⟩) = some (shown avc) := by
    simp only [video, ↓reduceIte, bitmapData, GfxEncoding.Avc420BitmapStream.decode_bytes (shown_fits avc)]
    rfl
  simp only [GfxServer.framePdus, List.filterMap_cons, wire, video, List.filterMap_nil]
  simp only [video] at read
  rw [read]

end Frames

section Steps
variable {server next : RdpServer} {gfx : GfxServer} {encodeVec : EncodeVec} {avc : Avc420Update} {input : Input}
  {emitted : List Event}

/-- Nothing is pending between steps, and the client takes the desktop. -/
structure Ready (gfx : GfxServer) : Prop where
  pending : gfx.pending = []
  bounded : Bounded gfx.desktopWidth gfx.desktopHeight

/-- What is sent fits its messages and carries the video of these updates. -/
structure Sends (pdus : List ServerPdu) (frames : List Avc420Update) : Prop where
  fits : ∀ pdu ∈ pdus, (wire pdu).Fits
  video : pdus.filterMap (fun pdu => video (wire pdu)) = frames.map shown

theorem Sends.nil : Sends [] [] := ⟨List.forall_mem_nil _, rfl⟩

theorem Sends.append {first second : List ServerPdu} {frames later : List Avc420Update}
    (sends : Sends first frames) (sendsLater : Sends second later) : Sends (first ++ second) (frames ++ later) where
  fits := List.forall_mem_append.mpr ⟨sends.fits, sendsLater.fits⟩
  video := by rw [List.filterMap_append, List.map_append, sends.video, sendsLater.video]

/-- What a new surface sends carries no video. -/
theorem surface_sends (bounded : Bounded gfx.desktopWidth gfx.desktopHeight) : Sends gfx.surfacePdus [] :=
  ⟨surface_fits bounded, rfl⟩

/-- What a frame sends carries its video. -/
theorem frame_sends (now : UInt64) (small : 39 + avc.data.length < UInt32.size) :
    Sends (gfx.framePdus now avc.width avc.height (bitmapData avc)) [avc] :=
  ⟨frame_fits now small, frame_video now avc⟩

private theorem sent_append (first second : List Event) : sent (first ++ second) = sent first ++ sent second :=
  List.filterMap_append ..

private theorem sent_queued (pdus : List ServerPdu) (isKeyframe : Bool) :
    sent (pdus.map (Event.queued · isKeyframe)) = [] := by
  induction pdus with
  | nil => rfl
  | cons pdu rest ih => exact ih

private theorem sent_sent (pdus : List ServerPdu) : sent (pdus.map Event.sent) = pdus := by
  induction pdus with
  | nil => rfl
  | cons pdu rest ih => exact congrArg (pdu :: ·) ih

private theorem sent_handOut (gfx : GfxServer) (pdus : List ServerPdu) (isKeyframe : Bool) (flush : Flush) :
    sent (handOut gfx pdus isKeyframe flush) =
      if flush = .written ∧ gfx.channelId.isSome ∧ gfx.drdynvcChannelId.isSome then pdus else [] := by
  rw [handOut, sent_append, sent_queued, List.nil_append]
  unfold flushPending
  cases gfx.channelId with
  | none => simp [sent]
  | some channelId => cases gfx.drdynvcChannelId with
    | none => simp [sent]
    | some drdynvcId =>
      by_cases written : flush = .written
      · simp [written, sent_sent]
      · simp [written, sent]

/-- Nothing is sent where only what is quiet is told. -/
theorem sent_quiet (quiet : Quiet emitted) : sent emitted = [] := by
  apply List.filterMap_eq_nil_iff.mpr
  intro event member
  rcases quiet event member with rfl | rfl <;> rfl

private theorem delivered_unrouted (unrouted : routed server input = none) : delivered server input = none := by
  cases input with
  | update update now flush =>
    cases flush with
    | written => simp only [delivered, unrouted, ite_self]
    | encodeFailed | writeFailed => rfl
  | _ => rfl

private theorem delivered_routed {now : UInt64} {flush : Flush}
    (routed : routed server (.update (.avc420 avc) now flush) = some avc) :
    (delivered server (.update (.avc420 avc) now flush)).toList =
      if flush = .written ∧ server.gfx.channelId.isSome ∧ server.gfx.drdynvcChannelId.isSome then [avc]
      else [] := by
  cases flush with
  | written =>
    simp only [delivered, routed, Bool.and_eq_true, true_and]
    split <;> rfl
  | encodeFailed | writeFailed => rfl

/-- `client_accepted` sets the desktop to one of those it finds. -/
theorem clientAccepted_ready (ready : Ready server.gfx) (drdynvcId : Option UInt16) {sizes : List DesktopSize}
    (bounded : ∀ size ∈ sizes, Bounded size.width size.height) :
    Ready (server.clientAccepted drdynvcId sizes).gfx := by
  have resized : ∀ gfx : GfxServer, Ready gfx → Ready (sizes.foldl (fun gfx size =>
      if gfx.desktopWidth ≠ size.width ∨ gfx.desktopHeight ≠ size.height
      then gfx.setDesktopSize size.width size.height else gfx) gfx) := by
    induction sizes with
    | nil => exact fun gfx ready => ready
    | cons size rest ih =>
      intro gfx ready
      rw [List.foldl_cons]
      apply ih fun size member => bounded size (List.mem_cons_of_mem _ member)
      split
      · exact ⟨ready.pending, bounded size (by simp)⟩
      · exact ready
  cases drdynvcId with
  | none => exact resized server.gfx ready
  | some id => exact resized (server.gfx.setDrdynvcChannelId id) ⟨ready.pending, ready.bounded⟩

/-- The channel as `dispatch_display` has it before it queues a frame. -/
def readied (gfx : GfxServer) (avc : Avc420Update) : GfxServer :=
  let gfx := if avc.isKeyframe then gfx.clearNeedsKeyframe else gfx
  if gfx.desktopWidth ≠ avc.width ∨ gfx.desktopHeight ≠ avc.height
  then (gfx.setDesktopSize avc.width avc.height).initSurface else gfx

/-- The channel is ready for the frame's size. -/
structure Readied (gfx : GfxServer) (avc : Avc420Update) : Prop where
  active : (readied gfx avc).state = .active
  channelId : (readied gfx avc).channelId = gfx.channelId
  drdynvcChannelId : (readied gfx avc).drdynvcChannelId = gfx.drdynvcChannelId
  bounded : Bounded (readied gfx avc).desktopWidth (readied gfx avc).desktopHeight
  queued : Sends (readied gfx avc).pending []

private theorem readied_active (ready : Ready gfx) (active : gfx.state = .active)
    (bounded : Bounded avc.width avc.height) : Readied gfx avc := by
  let cleared := if avc.isKeyframe then gfx.clearNeedsKeyframe else gfx
  have same : cleared = { gfx with needsKeyframe := cleared.needsKeyframe } := by
    dsimp only [cleared]
    cases avc.isKeyframe <;> rfl
  have shape : readied gfx avc = if cleared.desktopWidth ≠ avc.width ∨ cleared.desktopHeight ≠ avc.height
      then (cleared.setDesktopSize avc.width avc.height).initSurface else cleared := rfl
  rw [same] at shape
  split at shape
  · rw [GfxServer.initSurface_eq] at shape
    refine ⟨by rw [shape], by rw [shape]; rfl, by rw [shape]; rfl, by rw [shape]; exact bounded, ?_⟩
    rw [shape]
    have plain : (GfxServer.setDesktopSize { gfx with needsKeyframe := cleared.needsKeyframe } avc.width
      avc.height).pending = [] := ready.pending
    dsimp only
    rw [plain, List.nil_append]
    exact surface_sends bounded
  · refine ⟨by rw [shape]; exact active, by rw [shape], by rw [shape], by rw [shape]; exact ready.bounded, ?_⟩
    rw [shape]
    dsimp only
    rw [ready.pending]
    exact .nil

/-- A routed frame is sent, unless writing fails. -/
theorem dispatchAvc420_sends (allocates : Allocates encodeVec) (ready : Ready server.gfx)
    (bounded : Bounded avc.width avc.height) (small : 39 + avc.data.length < UInt32.size) {now : UInt64}
    {flush : Flush} (dispatched : server.dispatchAvc420 encodeVec now avc flush = some (next, emitted)) :
    Ready next.gfx ∧ Sends (sent emitted) (delivered server (.update (.avc420 avc) now flush)).toList := by
  have shape : server.dispatchAvc420 encodeVec now avc flush =
      if !server.gfx.isActive then some ({ server with forceKeyframe := true }, [])
      else if server.gfx.needsKeyframe && !avc.isKeyframe then
        some ({ server with forceKeyframe := true }, [.skipped])
      else server.sendFrame encodeVec now (readied server.gfx avc) avc flush := rfl
  rw [shape] at dispatched
  split at dispatched
  · rename_i inactive
    cases dispatched
    have unrouted : routed server (.update (.avc420 avc) now flush) = none := by
      simp only [Bool.not_eq_true'] at inactive
      simp [routed, inactive]
    rw [delivered_unrouted unrouted]
    exact ⟨ready, .nil⟩
  · rename_i isActive
    simp only [Bool.not_eq_true', Bool.not_eq_false] at isActive
    split at dispatched
    · rename_i waits
      cases dispatched
      have unrouted : routed server (.update (.avc420 avc) now flush) = none := by simp [routed, waits]
      rw [delivered_unrouted unrouted]
      exact ⟨ready, .nil⟩
    · rename_i goes
      have route : routed server (.update (.avc420 avc) now flush) = some avc := by simp [routed, isActive, goes]
      obtain ⟨stays, channelId, drdynvcId, bounds, queued⟩ :=
        readied_active ready (GfxServer.isActive_iff.mp isActive) bounded
      have whole := queued.append (@frame_sends (readied server.gfx avc) avc now small)
      rw [RdpServer.sendFrame, sendAvc420Frame_queues allocates now stays avc, Option.map_some] at dispatched
      cases dispatched
      refine ⟨⟨rfl, bounds⟩, ?_⟩
      have goal : Sends (if flush = .written ∧ (readied server.gfx avc).channelId.isSome ∧
          (readied server.gfx avc).drdynvcChannelId.isSome then (readied server.gfx avc).pending ++
            (readied server.gfx avc).framePdus now avc.width avc.height (bitmapData avc) else [])
          (delivered server (.update (.avc420 avc) now flush)).toList := by
        rw [delivered_routed route, channelId, drdynvcId]
        split
        · exact whole
        · exact .nil
      rw [sent_handOut]
      exact goal

private theorem named_of_wire {caps : List CapabilitySet} (fromWire : FromWire (.capabilitiesAdvertise caps)) :
    ∀ set ∈ caps, GfxEncoding.CapabilitySet.Named set := by
  obtain ⟨payload, read, rest, decoded, handled⟩ := fromWire
  have named := GfxEncoding.ClientPdu.decode_named payload read rest decoded
  cases read with
  | frameAcknowledge pdu => cases handled
  | capabilitiesAdvertise sets =>
    cases handled
    exact named

/-- What is sent beside the frames carries no video. -/
theorem moves_send (ready : Ready server.gfx) (carries : Carries input) (moves : Moves server input next emitted)
    (unrouted : routed server input = none) (served : ∀ id sizes, input ≠ .clientAccepted id sizes) :
    Ready next.gfx ∧ Sends (sent emitted) [] := by
  cases moves with
  | accept => exact ⟨ready, .nil⟩
  | clientAccepted drdynvcId sizes id width height => exact absurd rfl (served drdynvcId sizes)
  | reset input _ channelId caps => exact ⟨⟨ready.pending, ready.bounded⟩, .nil⟩
  | other input _ phase force caps enabled emitted quiet =>
    rw [sent_quiet quiet]
    exact ⟨⟨ready.pending, ready.bounded⟩, .nil⟩
  | confirm caps flush phase supported =>
    have named := named_of_wire carries
    refine ⟨⟨ready.pending, ready.bounded⟩, ?_⟩
    rw [sent_append, sent_queued, List.nil_append]
    split
    · rw [sent_sent]
      have surface := surface_sends ready.bounded
      exact ⟨List.forall_mem_cons.mpr ⟨confirmed_fits named, surface.fits⟩, surface.video⟩
    · exact .nil
  | resize size now flush active enabled =>
    refine ⟨⟨ready.pending, carries⟩, ?_⟩
    rw [sent_handOut]
    split
    · exact @surface_sends (server.gfx.setDesktopSize size.width size.height) carries
    · exact .nil
  | skip avc now flush active needed _ => exact ⟨ready, .nil⟩
  | frame avc now flush active route sized bitmapData =>
    rw [unrouted] at route
    cases route
  | resizedFrame avc now flush active route unsized bitmapData =>
    rw [unrouted] at route
    cases route

/-- Between steps nothing is pending, and what a step sends is what it delivers. -/
theorem step_sends (allocates : Allocates encodeVec) (ready : Ready server.gfx) (carries : Carries input)
    (stepped : step encodeVec server input = some (next, emitted)) :
    Ready next.gfx ∧ Sends (sent emitted) (delivered server input).toList := by
  have beside (unrouted : routed server input = none) (served : ∀ id sizes, input ≠ .clientAccepted id sizes) :
      Ready next.gfx ∧ Sends (sent emitted) (delivered server input).toList := by
    rw [delivered_unrouted unrouted]
    exact moves_send ready carries (step_moves allocates ready.pending stepped) unrouted served
  cases input with
  | clientAccepted drdynvcId sizes =>
    change (if server.phase = .accepting then some _ else none) = _ at stepped
    split at stepped
    · cases stepped
      exact ⟨clientAccepted_ready ready drdynvcId carries, .nil⟩
    · cases stepped
  | update update now flush =>
    cases update with
    | avc420 avc =>
      change (if server.phase = .clientLoop then server.dispatchAvc420 encodeVec now avc flush else none) = _
        at stepped
      split at stepped
      · exact dispatchAvc420_sends allocates ready carries.1 carries.2 stepped
      · cases stepped
    | resize size => exact beside rfl (fun _ _ same => by cases same)
    | bitmap bitmap => exact beside rfl (fun _ _ same => by cases same)
  | process payload flush => exact beside rfl (fun _ _ same => by cases same)
  | accept | start channelId | close | disconnect => exact beside rfl (fun _ _ same => by cases same)

/-- Every run sends what can be encoded, and the video that was routed. -/
theorem run_sends (allocates : Allocates encodeVec) {inputs : List Input} {final : RdpServer}
    {events : List Event} (ready : Ready server.gfx) (carries : ∀ input ∈ inputs, Carries input)
    (ran : run (step encodeVec) server inputs = some (final, events)) :
    Sends (sent events) (deliveredFrames encodeVec server inputs) := by
  induction inputs generalizing server events with
  | nil =>
    cases ran
    exact .nil
  | cons input rest ih =>
    obtain ⟨next, emitted, later, stepped, ranRest, rfl⟩ := run_cons.mp ran
    obtain ⟨kept, sends⟩ := step_sends allocates ready (carries input (by simp)) stepped
    have tail := ih kept (fun input member => carries input (List.mem_cons_of_mem _ member)) ranRest
    rw [sent_append, deliveredFrames, stepped]
    exact sends.append tail

end Steps

section Delivery
variable {encodeVec : EncodeVec}

/-- **Video arrives.** Whatever the server goes through, every message that it sends
is encoded, the client reads back what was sent, and the video in it is that of the
updates that were routed and written out, in their order, bit for bit. -/
theorem video_arrives (allocates : Allocates encodeVec) {size : DesktopSize}
    (bounded : Bounded size.width size.height) {inputs : List Input} (carries : ∀ input ∈ inputs, Carries input)
    {final : RdpServer} {events : List Event}
    (ran : run (step encodeVec) (.listening size) inputs = some (final, events)) :
    ∃ payloads : List Bytes,
      (sent events).map (payload encodeVec) = payloads.map (fun bytes => some (.ok bytes)) ∧
      payloads.map clientReads = (sent events).map (fun pdu => some (wire pdu)) ∧
      (payloads.filterMap clientReads).filterMap video =
        (deliveredFrames encodeVec (.listening size) inputs).map shown := by
  have ready : Ready (RdpServer.listening size).gfx := ⟨rfl, bounded⟩
  obtain ⟨fits, videos⟩ := run_sends allocates ready carries ran
  have encoded : ∀ pdu ∈ sent events, payload encodeVec pdu = some (.ok (wire pdu).bytes) := by
    intro pdu member
    have length := GfxEncoding.ServerPdu.bytes_length (fits pdu member).body
    exact allocates _ _ _ (GfxEncoding.ServerPdu.encode_writes (fits pdu member) _ (Nat.le_of_eq length)) length
  have read : ∀ pdu ∈ sent events, clientReads (wire pdu).bytes = some (wire pdu) := by
    intro pdu member
    have decoded := GfxEncoding.ServerPdu.decode_reads (fits pdu member) []
    rw [List.append_nil] at decoded
    simp only [clientReads, decoded]
  refine ⟨(sent events).map fun pdu => (wire pdu).bytes, ?_, ?_, ?_⟩
  · rw [List.map_map]
    exact List.map_congr_left encoded
  · rw [List.map_map]
    exact List.map_congr_left read
  · rw [← videos, List.filterMap_map, List.filterMap_filterMap]
    apply List.filterMap_congr
    intro pdu member
    simp only [Function.comp_apply, read pdu member, Option.bind_some]

/-- A connection with video before and after a resize; one frame cannot be written. -/
def watched : List Input :=
  [.accept, .clientAccepted (some 1004) [⟨1280, 800⟩], .start 3,
    .process (some (.capabilitiesAdvertise [.v8_1 0x12])) .written,
    .update (.avc420 ⟨[1, 2], 1280, 800, true⟩) 0 .written,
    .update (.avc420 ⟨[3], 1280, 800, false⟩) 1 .writeFailed,
    .update (.resize ⟨1024, 768⟩) 2 .written, .update (.avc420 ⟨[4], 1024, 768, false⟩) 3 .written,
    .update (.avc420 ⟨[5, 6], 1024, 768, true⟩) 4 .written]

/-- Frames that are watched, with a resize between them. -/
theorem watched_video_arrives : ∃ final events, ∃ payloads : List Bytes,
    run (step zeroedBuffer) (.listening ⟨1280, 800⟩) watched = some (final, events) ∧
      (sent events).map (payload zeroedBuffer) = payloads.map (fun bytes => some (.ok bytes)) ∧
      (payloads.filterMap clientReads).filterMap video =
        [shown ⟨[1, 2], 1280, 800, true⟩, shown ⟨[5, 6], 1024, 768, true⟩] := by
  have succeeds : (run (step zeroedBuffer) (.listening ⟨1280, 800⟩) watched).isSome := by decide
  obtain ⟨⟨final, events⟩, ran⟩ := Option.isSome_iff_exists.mp succeeds
  have advertised : FromWire (.capabilitiesAdvertise [.v8_1 0x12]) :=
    ⟨[0x12, 0, 0, 0, 22, 0, 0, 0, 1, 0, 0x05, 0x01, 0x08, 0, 4, 0, 0, 0, 0x12, 0, 0, 0], _, _, rfl, rfl⟩
  have carries : ∀ input ∈ watched, Carries input := by
    have desktop : Bounded 1280 800 := by decide
    have smaller : Bounded 1024 768 := by decide
    simp only [watched, List.forall_mem_cons]
    refine ⟨trivial, ?_, trivial, advertised, ⟨desktop, by decide⟩, ⟨desktop, by decide⟩, smaller,
      ⟨smaller, by decide⟩, ⟨smaller, by decide⟩, List.forall_mem_nil _⟩
    exact List.forall_mem_cons.mpr ⟨desktop, List.forall_mem_nil _⟩
  obtain ⟨payloads, encoded, _, arrived⟩ := video_arrives zeroedBuffer_allocates (by decide) carries ran
  have frames : deliveredFrames zeroedBuffer (.listening ⟨1280, 800⟩) watched =
      [⟨[1, 2], 1280, 800, true⟩, ⟨[5, 6], 1024, 768, true⟩] := by decide
  rw [frames] at arrived
  exact ⟨final, events, payloads, ran, encoded, arrived⟩

end Delivery

end Osxrdp.GfxDelivery
