import Osxrdp.Display
import Osxrdp.Gfx

/-! The graphics channel in a running server: connections come and go over one
`GfxServer`, to which `client_accepted`, the channel's callbacks and the display
task of `client_loop` all turn. -/
namespace Osxrdp.GfxRouting
open Display (Avc420Update DisplayUpdate)
open Gfx

/-- What becomes of PDUs that are handed out: encoding them for their channels
or writing them may fail. -/
inductive Flush where
  | written
  | encodeFailed
  | writeFailed
  deriving DecidableEq, Repr

/-- Whether a client is connected, and served. -/
inductive Phase where
  | idle
  | accepting
  | clientLoop
  deriving DecidableEq, Repr

/-- The server with its graphics channel, as far as connections, display updates and the
client's graphics messages change it. -/
structure RdpServer where
  phase : Phase
  gfx : GfxServer
  forceKeyframe : Bool
  deriving DecidableEq, Repr

/-- What is seen of a step. `queued` tells, for a frame, whether the update was
a keyframe; a PDU is queued and handed out in one step. -/
inductive Event where
  | accepted
  | queued (pdu : ServerPdu) (isKeyframe : Bool)
  | skipped
  | sent (pdu : ServerPdu)
  | deactivateAll
  | disconnected
  deriving DecidableEq, Repr

/-- `sizes` are the display sizes that `client_accepted` finds after each bitmap
capability; `payload` is what a message on the channel decodes to. -/
inductive Input where
  | accept
  | clientAccepted (drdynvcId : Option UInt16) (sizes : List DesktopSize)
  | start (channelId : UInt32)
  | process (payload : Option ClientPdu) (flush : Flush)
  | close
  | update (update : DisplayUpdate) (now : UInt64) (flush : Flush)
  | disconnect
  deriving DecidableEq, Repr

/-- The display task sends what it drained, if both channel ids are known. -/
def flushPending (gfx : GfxServer) (pending : List ServerPdu) (flush : Flush) : List Event :=
  match gfx.channelId, gfx.drdynvcChannelId with
  | some _, some _ => if flush = .written then pending.map Event.sent else []
  | _, _ => []

/-- PDUs handed out by the display task. -/
def handOut (gfx : GfxServer) (pdus : List ServerPdu) (isKeyframe : Bool) (flush : Flush) : List Event :=
  pdus.map (Event.queued · isKeyframe) ++ flushPending gfx pdus flush

namespace RdpServer

/-- The end of a connection. What the channel's next client finds is what this one left. -/
def disconnect (server : RdpServer) : RdpServer × List Event :=
  ({ server with phase := .idle }, [.disconnected])

/-- The part of `client_accepted` that concerns the graphics channel. -/
def clientAccepted (server : RdpServer) (drdynvcId : Option UInt16) (sizes : List DesktopSize) :
    RdpServer :=
  let gfx := match drdynvcId with
    | some id => server.gfx.setDrdynvcChannelId id
    | none => server.gfx
  let gfx := sizes.foldl (fun gfx size =>
    if gfx.desktopWidth ≠ size.width ∨ gfx.desktopHeight ≠ size.height
    then gfx.setDesktopSize size.width size.height else gfx) gfx
  { server with phase := .clientLoop, gfx }

/-- The answers go out with the response of the static channel; if they cannot,
the client loop ends. -/
def respond (server : RdpServer) (response : List ServerPdu) (flush : Flush) : RdpServer × List Event :=
  let queued := response.map (Event.queued · false)
  if flush = .written then (server, queued ++ response.map Event.sent)
  else (server.disconnect.1, queued ++ server.disconnect.2)

/-- A message of the client on the graphics channel, and what is written in answer. -/
def process (server : RdpServer) (payload : Option ClientPdu) (flush : Flush) : RdpServer × List Event :=
  let (gfx, response) := server.gfx.process payload
  { server with gfx }.respond response flush

/-- A resize stays in place while the graphics channel carries the picture.
Otherwise the client is deactivated and accepted again. -/
def dispatchResize (server : RdpServer) (size : DesktopSize) (flush : Flush) : RdpServer × List Event :=
  if server.gfx.isActive && server.gfx.avc420Enabled then
    let gfx := (server.gfx.setDesktopSize size.width size.height).initSurface
    let (gfx, pending) := gfx.drainPending
    ({ server with gfx }, handOut gfx pending false flush)
  else if flush = .written then ({ server with phase := .accepting }, [.deactivateAll])
  else server.disconnect

/-- Queue the frame, drain, and flush. `none` is a panic. -/
def sendFrame (encodeVec : EncodeVec) (now : UInt64) (server : RdpServer) (gfx : GfxServer)
    (avc : Avc420Update) (flush : Flush) : Option (RdpServer × List Event) :=
  (gfx.sendAvc420Frame encodeVec now avc.data avc.width avc.height 28 avc.isKeyframe).map fun gfx =>
    let (gfx, pending) := gfx.drainPending
    ({ server with gfx }, handOut gfx pending avc.isKeyframe flush)

/-- The display task's way with an access unit: skipped, or sent behind what was queued,
after a new surface when its size is another. -/
def dispatchAvc420 (encodeVec : EncodeVec) (now : UInt64) (server : RdpServer) (avc : Avc420Update)
    (flush : Flush) : Option (RdpServer × List Event) :=
  let gfx := server.gfx
  if !gfx.isActive then some ({ server with forceKeyframe := true }, [])
  else if gfx.needsKeyframe && !avc.isKeyframe then
    some ({ server with forceKeyframe := true }, [.skipped])
  else
    let gfx := if avc.isKeyframe then gfx.clearNeedsKeyframe else gfx
    let gfx := if gfx.desktopWidth ≠ avc.width ∨ gfx.desktopHeight ≠ avc.height
      then (gfx.setDesktopSize avc.width avc.height).initSurface else gfx
    server.sendFrame encodeVec now gfx avc flush

/-- `main` makes the server with its `GfxServer`, and listens. -/
def listening (size : DesktopSize) : RdpServer where
  phase := .idle
  gfx := .new size.width size.height
  forceKeyframe := false

/-- A step that only a connection takes. -/
def whileConnected (server : RdpServer) (result : RdpServer × List Event) :
    Option (RdpServer × List Event) :=
  if server.phase = .idle then none else some result

end RdpServer

/-- The channel's callbacks come at any point of a connection. -/
def step (encodeVec : EncodeVec) : Runs.System RdpServer Input Event
  | server, .accept =>
    if server.phase = .idle then some ({ server with phase := .accepting }, [.accepted]) else none
  | server, .clientAccepted drdynvcId sizes =>
    if server.phase = .accepting then some (server.clientAccepted drdynvcId sizes, []) else none
  | server, .start channelId => server.whileConnected ({ server with gfx := (server.gfx.start channelId).1 }, [])
  | server, .process payload flush => server.whileConnected (server.process payload flush)
  | server, .close => server.whileConnected ({ server with gfx := server.gfx.close }, [])
  | server, .disconnect => server.whileConnected server.disconnect
  | server, .update update now flush =>
    if server.phase = .clientLoop then
      match update with
      | .resize size => some (server.dispatchResize size flush)
      | .avc420 avc => server.dispatchAvc420 encodeVec now avc flush
      | .bitmap _ => if flush = .written then some (server, []) else some server.disconnect
    else none

/-- The frame that a step puts on the graphics channel, if it does. -/
def routed (server : RdpServer) : Input → Option Avc420Update
  | .update (.avc420 avc) _ _ =>
    if server.gfx.isActive && !(server.gfx.needsKeyframe && !avc.isKeyframe) then some avc else none
  | _ => none

/-- The size of the surface that a step hands out to be created, if it does. -/
def created (server : RdpServer) : Input → Option DesktopSize
  | .process (some (.capabilitiesAdvertise caps)) _ =>
    if caps.any CapabilitySet.permitsAvc420 then some ⟨server.gfx.desktopWidth, server.gfx.desktopHeight⟩ else none
  | .update (.resize size) _ _ => if server.gfx.isActive && server.gfx.avc420Enabled then some size else none
  | .update (.avc420 avc) now flush => (routed server (.update (.avc420 avc) now flush)).bind fun avc =>
    if server.gfx.desktopWidth = avc.width ∧ server.gfx.desktopHeight = avc.height then none
    else some ⟨avc.width, avc.height⟩
  | _ => none

/-- The step neither opens a connection nor hands out a frame or a surface. -/
structure Idle (server : RdpServer) (input : Input) : Prop where
  unrouted : routed server input = none
  uncreated : created server input = none
  opened : input ≠ .accept

/-- Events that put nothing on the graphics channel. -/
def Quiet (emitted : List Event) : Prop :=
  ∀ event ∈ emitted, event = .deactivateAll ∨ event = .disconnected

section Steps
variable {encodeVec : EncodeVec} {server next : RdpServer} {input : Input} {emitted : List Event}

/-- The ways a step can go, from a server with nothing pending. -/
inductive Moves (server : RdpServer) : Input → RdpServer → List Event → Prop
  | accept : Moves server .accept { server with phase := .accepting } [.accepted]
  | clientAccepted (drdynvcId : Option UInt16) (sizes : List DesktopSize) (id : Option UInt16)
      (width height : UInt16) : Moves server (.clientAccepted drdynvcId sizes)
      { server with
        phase := .clientLoop
        gfx := { server.gfx with drdynvcChannelId := id, desktopWidth := width, desktopHeight := height } } []
  | reset (input : Input) (idle : Idle server input) (channelId : Option UInt32)
      (caps : Option (List CapabilitySet)) : Moves server input { server with
        gfx := { server.gfx with state := .waitingCapabilities, channelId, clientCaps := caps } } []
  | other (input : Input) (idle : Idle server input) (phase : Phase) (force : Bool)
      (caps : Option (List CapabilitySet)) (enabled : Bool) (emitted : List Event) (quiet : Quiet emitted) :
      Moves server input { server with
        phase, forceKeyframe := force
        gfx := { server.gfx with clientCaps := caps, avc420Enabled := enabled } } emitted
  | confirm (caps : List CapabilitySet) (flush : Flush) (phase : Phase)
      (supported : caps.any CapabilitySet.permitsAvc420 = true) :
      Moves server (.process (some (.capabilitiesAdvertise caps)) flush)
        { server with
          phase
          gfx := { server.gfx with
            clientCaps := some caps, avc420Enabled := true, state := .active, needsKeyframe := true } }
        ((.capabilitiesConfirm (confirmedSet caps) :: server.gfx.surfacePdus).map (Event.queued · false) ++
          if flush = .written then
            (.capabilitiesConfirm (confirmedSet caps) :: server.gfx.surfacePdus).map Event.sent
          else [.disconnected])
  | resize (size : DesktopSize) (now : UInt64) (flush : Flush) (active : server.gfx.state = .active)
      (enabled : server.gfx.avc420Enabled = true) :
      Moves server (.update (.resize size) now flush)
        { server with
          gfx := { server.gfx.setDesktopSize size.width size.height with
            state := .active, needsKeyframe := true } }
        (handOut server.gfx (server.gfx.setDesktopSize size.width size.height).surfacePdus false flush)
  | skip (avc : Avc420Update) (now : UInt64) (flush : Flush) (active : server.gfx.state = .active)
      (needed : server.gfx.needsKeyframe = true) (unrouted : routed server (.update (.avc420 avc) now flush) = none) :
      Moves server (.update (.avc420 avc) now flush) { server with forceKeyframe := true } [.skipped]
  | frame (avc : Avc420Update) (now : UInt64) (flush : Flush) (active : server.gfx.state = .active)
      (route : routed server (.update (.avc420 avc) now flush) = some avc)
      (sized : server.gfx.desktopWidth = avc.width ∧ server.gfx.desktopHeight = avc.height)
      (bitmapData : Bytes) :
      Moves server (.update (.avc420 avc) now flush)
        { server with
          gfx := { server.gfx with
            needsKeyframe := server.gfx.needsKeyframe && !avc.isKeyframe
            frameId := server.gfx.frameId + 1 } }
        (handOut server.gfx (server.gfx.framePdus now avc.width avc.height bitmapData) avc.isKeyframe flush)
  | resizedFrame (avc : Avc420Update) (now : UInt64) (flush : Flush) (active : server.gfx.state = .active)
      (route : routed server (.update (.avc420 avc) now flush) = some avc)
      (unsized : ¬ (server.gfx.desktopWidth = avc.width ∧ server.gfx.desktopHeight = avc.height))
      (bitmapData : Bytes) :
      Moves server (.update (.avc420 avc) now flush)
        { server with
          gfx := { server.gfx.setDesktopSize avc.width avc.height with
            state := .active
            needsKeyframe := true
            frameId := server.gfx.frameId + 1 } }
        (handOut server.gfx ((server.gfx.setDesktopSize avc.width avc.height).surfacePdus ++
          server.gfx.framePdus now avc.width avc.height bitmapData) avc.isKeyframe flush)

private theorem whileConnected_some {result : RdpServer × List Event}
    (stepped : server.whileConnected result = some (next, emitted)) : result = (next, emitted) := by
  unfold RdpServer.whileConnected at stepped
  split at stepped
  · exact nomatch stepped
  · exact Option.some.inj stepped

private theorem quiet_nil : Quiet [] := nofun

private theorem clientAccepted_eq (server : RdpServer) (drdynvcId : Option UInt16) (sizes : List DesktopSize) :
    ∃ id width height, server.clientAccepted drdynvcId sizes = { server with
      phase := .clientLoop
      gfx := { server.gfx with drdynvcChannelId := id, desktopWidth := width, desktopHeight := height } } := by
  have resized (gfx : GfxServer) : ∃ width height,
      sizes.foldl (fun gfx size =>
        if gfx.desktopWidth ≠ size.width ∨ gfx.desktopHeight ≠ size.height
        then gfx.setDesktopSize size.width size.height else gfx) gfx =
      { gfx with desktopWidth := width, desktopHeight := height } := by
    induction sizes generalizing gfx with
    | nil => exact ⟨gfx.desktopWidth, gfx.desktopHeight, rfl⟩
    | cons size rest ih =>
      rw [List.foldl_cons]
      split
      · obtain ⟨width, height, same⟩ := ih (gfx.setDesktopSize size.width size.height)
        exact ⟨width, height, same⟩
      · exact ih gfx
  unfold RdpServer.clientAccepted
  cases drdynvcId with
  | none =>
    obtain ⟨width, height, same⟩ := resized server.gfx
    exact ⟨server.gfx.drdynvcChannelId, width, height, by dsimp only; rw [same]⟩
  | some id =>
    obtain ⟨width, height, same⟩ := resized (server.gfx.setDrdynvcChannelId id)
    exact ⟨some id, width, height, by dsimp only; rw [same]; rfl⟩

private theorem respond_silent {input : Input} (idle : Idle server input)
    {caps : Option (List CapabilitySet)} {enabled : Bool} {flush : Flush}
    (responded : { server with
      gfx := { server.gfx with clientCaps := caps, avc420Enabled := enabled } }.respond [] flush =
        (next, emitted)) : Moves server input next emitted := by
  unfold RdpServer.respond at responded
  split at responded
  · cases responded
    exact .other _ idle server.phase server.forceKeyframe caps enabled [] quiet_nil
  · cases responded
    exact .other _ idle .idle server.forceKeyframe caps enabled _ (by simp [Quiet, RdpServer.disconnect])

private theorem process_moves (empty : server.gfx.pending = []) (payload : Option ClientPdu) (flush : Flush)
    (processed : server.process payload flush = (next, emitted)) :
    Moves server (.process payload flush) next emitted := by
  unfold RdpServer.process at processed
  match payload with
  | none => exact respond_silent ⟨rfl, rfl, nofun⟩ processed
  | some .frameAcknowledge =>
    rw [GfxServer.process_frameAcknowledge empty] at processed
    exact respond_silent ⟨rfl, rfl, nofun⟩ processed
  | some (.capabilitiesAdvertise caps) =>
    cases supported : caps.any CapabilitySet.permitsAvc420 with
    | false =>
      rw [GfxServer.process_refused empty supported] at processed
      exact respond_silent ⟨rfl, by simp [created, supported], nofun⟩ processed
    | true =>
      rw [GfxServer.process_supported empty supported] at processed
      dsimp only [RdpServer.respond] at processed
      split at processed
      · rename_i written
        cases processed
        cases written
        exact .confirm caps .written server.phase supported
      · rename_i unwritten
        cases processed
        have moves : Moves server _ _ _ := .confirm caps flush .idle supported
        rwa [if_neg unwritten] at moves

private theorem dispatchResize_moves (empty : server.gfx.pending = []) (size : DesktopSize) (now : UInt64)
    (flush : Flush) (dispatched : server.dispatchResize size flush = (next, emitted)) :
    Moves server (.update (.resize size) now flush) next emitted := by
  unfold RdpServer.dispatchResize at dispatched
  split at dispatched
  · rename_i inPlace
    rw [Bool.and_eq_true] at inPlace
    have active : server.gfx.state = .active := GfxServer.isActive_iff.mp inPlace.1
    let resized := server.gfx.setDesktopSize size.width size.height
    have drained := @GfxServer.drainPending_queued
      { resized with state := .active, needsKeyframe := true } empty resized.surfacePdus
    rw [GfxServer.initSurface_eq] at dispatched
    dsimp only at drained dispatched
    rw [drained] at dispatched
    cases dispatched
    exact .resize size now flush active inPlace.2
  · rename_i elsewhere
    have idle : Idle server (.update (.resize size) now flush) := ⟨rfl, if_neg elsewhere, nofun⟩
    split at dispatched
    · cases dispatched
      exact .other _ idle .accepting server.forceKeyframe _ _ _ (by simp [Quiet])
    · cases dispatched
      exact .other _ idle .idle server.forceKeyframe _ _ _ (by simp [Quiet])

private theorem cleared_eq (gfx : GfxServer) (isKeyframe : Bool) :
    (if isKeyframe then gfx.clearNeedsKeyframe else gfx) =
      { gfx with needsKeyframe := gfx.needsKeyframe && !isKeyframe } := by
  cases isKeyframe with
  | true => simp [GfxServer.clearNeedsKeyframe]
  | false => simp

/-- A frame for an active channel goes out behind what was queued before it. -/
theorem sendFrame_eq (allocates : Allocates encodeVec) (gfx : GfxServer) (empty : gfx.pending = [])
    (active : gfx.state = .active) (queued : List ServerPdu) (avc : Avc420Update) (now : UInt64)
    (flush : Flush) : ∃ bitmapData,
      server.sendFrame encodeVec now { gfx with pending := gfx.pending ++ queued } avc flush =
        some ({ server with gfx := { gfx with frameId := gfx.frameId + 1 } },
          handOut gfx (queued ++ gfx.framePdus now avc.width avc.height bitmapData) avc.isKeyframe flush) := by
  let before := { gfx with pending := gfx.pending ++ queued }
  have stillActive : before.state = .active := active
  obtain ⟨bitmapData, sent⟩ := before.sendAvc420Frame_active allocates now stillActive avc.data
    avc.width avc.height avc.isKeyframe (by decide : (28 : UInt8) < 64)
  have drained := @GfxServer.drainPending_queued { gfx with frameId := gfx.frameId + 1 } empty
    (queued ++ gfx.framePdus now avc.width avc.height bitmapData)
  refine ⟨bitmapData, ?_⟩
  rw [← List.append_assoc] at drained
  rw [RdpServer.sendFrame, sent, Option.map_some]
  exact congrArg (fun (after, pending) =>
    some ({ server with gfx := after }, handOut after pending avc.isKeyframe flush)) drained

private theorem dispatchAvc420_moves (allocates : Allocates encodeVec) (empty : server.gfx.pending = [])
    (avc : Avc420Update) (now : UInt64) (flush : Flush)
    (dispatched : server.dispatchAvc420 encodeVec now avc flush = some (next, emitted)) :
    Moves server (.update (.avc420 avc) now flush) next emitted := by
  unfold RdpServer.dispatchAvc420 at dispatched
  by_cases active : server.gfx.state = .active
  · have isActive : server.gfx.isActive = true := GfxServer.isActive_iff.mpr active
    simp only [isActive, Bool.not_true, Bool.false_eq_true, if_false] at dispatched
    split at dispatched
    · rename_i waits
      cases dispatched
      refine .skip avc now flush active (Bool.and_eq_true_iff.mp waits).1 ?_
      simp [routed, isActive, waits]
    · rename_i ready
      have route : routed server (.update (.avc420 avc) now flush) = some avc := by
        simp [routed, isActive, ready]
      rw [cleared_eq] at dispatched
      let cleared := { server.gfx with needsKeyframe := server.gfx.needsKeyframe && !avc.isKeyframe }
      by_cases sized : server.gfx.desktopWidth = avc.width ∧ server.gfx.desktopHeight = avc.height
      · obtain ⟨bitmapData, sent⟩ := @sendFrame_eq _ server allocates cleared empty active [] avc now flush
        rw [if_neg (by simp [sized.1, sized.2])] at dispatched
        rw [List.append_nil] at sent
        cases sent.symm.trans dispatched
        exact .frame avc now flush active route sized bitmapData
      · let resized := { server.gfx.setDesktopSize avc.width avc.height with
          state := .active, needsKeyframe := true }
        obtain ⟨bitmapData, sent⟩ :=
          @sendFrame_eq _ server allocates resized empty rfl resized.surfacePdus avc now flush
        rw [if_pos (by simpa [Classical.or_iff_not_imp_left] using sized), GfxServer.initSurface_eq] at dispatched
        cases sent.symm.trans dispatched
        exact .resizedFrame avc now flush active route sized bitmapData
  · have inactive : server.gfx.isActive = false := by simpa [GfxServer.isActive] using active
    simp only [inactive, Bool.not_false, if_true] at dispatched
    cases dispatched
    have unrouted : routed server (.update (.avc420 avc) now flush) = none := by simp [routed, inactive]
    have idle : Idle server (.update (.avc420 avc) now flush) := ⟨unrouted, by simp [created, unrouted], nofun⟩
    exact .other _ idle server.phase true _ _ [] quiet_nil

/-- All that a step can do when nothing is queued before it, as it never is between steps. -/
theorem step_moves (allocates : Allocates encodeVec) (empty : server.gfx.pending = [])
    (stepped : step encodeVec server input = some (next, emitted)) : Moves server input next emitted := by
  cases input with
  | accept =>
    change (if server.phase = .idle then some _ else none) = _ at stepped
    split at stepped
    · cases stepped
      exact .accept
    · exact nomatch stepped
  | clientAccepted drdynvcId sizes =>
    change (if server.phase = .accepting then some _ else none) = _ at stepped
    split at stepped
    · cases stepped
      obtain ⟨id, width, height, same⟩ := clientAccepted_eq server drdynvcId sizes
      rw [same]
      exact .clientAccepted drdynvcId sizes id width height
    · exact nomatch stepped
  | start channelId =>
    rw [step, GfxServer.start_empty empty] at stepped
    cases whileConnected_some stepped
    exact .reset (.start channelId) ⟨rfl, rfl, nofun⟩ (some channelId) none
  | process payload flush => exact process_moves empty payload flush (whileConnected_some stepped)
  | close =>
    cases whileConnected_some stepped
    exact .reset .close ⟨rfl, rfl, nofun⟩ none server.gfx.clientCaps
  | disconnect =>
    cases whileConnected_some stepped
    exact .other .disconnect ⟨rfl, rfl, nofun⟩ .idle server.forceKeyframe _ _ _ (by simp [Quiet])
  | update update now flush =>
    change (if server.phase = .clientLoop then _ else none) = _ at stepped
    split at stepped
    · cases update with
      | resize size => exact dispatchResize_moves empty size now flush (Option.some.inj stepped)
      | avc420 avc => exact dispatchAvc420_moves allocates empty avc now flush stepped
      | bitmap bitmap =>
        change (if flush = .written then some _ else some _) = _ at stepped
        split at stepped
        · cases stepped
          exact .other (.update (.bitmap bitmap) now flush) ⟨rfl, rfl, nofun⟩
            server.phase server.forceKeyframe _ _ [] quiet_nil
        · cases stepped
          exact .other (.update (.bitmap bitmap) now flush) ⟨rfl, rfl, nofun⟩ .idle server.forceKeyframe _ _ _
            (by simp [Quiet])
    · exact nomatch stepped

/-- No step leaves anything pending or gives the surface another id. -/
theorem moves_keep (moves : Moves server input next emitted) :
    next.gfx.pending = server.gfx.pending ∧ next.gfx.surfaceId = server.gfx.surfaceId := by
  cases moves <;> exact ⟨rfl, rfl⟩

end Steps

end Osxrdp.GfxRouting
