import Osxrdp.GfxRouting

/-! What a client has been told when a frame reaches it. The `GfxServer` and its
state outlive connections, and the configured size changes apart from the
surface, so a frame may come before either has been told to this client. -/
namespace Osxrdp.SurfaceNegotiation
open Display (Avc420Update)
open GfxRouting Gfx
open Runs (Throughout)

/-- What has been sent on the current connection: whether capabilities were
confirmed, and the surface created last. -/
structure Client where
  confirmed : Bool
  surface : Option CreateSurfacePdu
  deriving DecidableEq, Repr

namespace Client

/-- Nothing is known of a connection that begins. -/
def unconnected : Client := ⟨false, none⟩

/-- What the client keeps of what it is sent. -/
def receive (client : Client) : Event → Client
  | .accepted => unconnected
  | .sent (.capabilitiesConfirm _) => { client with confirmed := true }
  | .sent (.createSurface surface) => { client with surface := some surface }
  | _ => client

/-- The client at the end of a history. -/
def after (past : List Event) : Client := past.foldl receive unconnected

end Client

/-- The rectangle is on the surface. -/
def Inside (rectangle : InclusiveRectangle) (surface : CreateSurfacePdu) : Prop :=
  rectangle.right < surface.width ∧ rectangle.bottom < surface.height

instance (rectangle : InclusiveRectangle) (surface : CreateSurfacePdu) : Decidable (Inside rectangle surface) :=
  inferInstanceAs (Decidable (_ ∧ _))

/-- The frame is for the surface that this client was given last. -/
def Client.Shows (client : Client) (frame : WireToSurface1Pdu) : Prop :=
  client.confirmed = true ∧ ∃ surface, client.surface = some surface ∧
    surface.surfaceId = frame.surfaceId ∧ Inside frame.destinationRectangle surface

instance (client : Client) (frame : WireToSurface1Pdu) : Decidable (client.Shows frame) :=
  inferInstanceAs (Decidable (_ ∧ ∃ surface ∈ client.surface, _))

instance (client : Client) : ∀ event : Event,
    Decidable (∀ frame, event = .sent (.wireToSurface1 frame) → client.Shows frame)
  | .sent (.wireToSurface1 frame) =>
    decidable_of_iff (client.Shows frame) ⟨by rintro shows _ ⟨⟩; exact shows, fun all => all frame rfl⟩
  | .sent (.capabilitiesConfirm _) | .sent (.resetGraphics _) | .sent (.createSurface _)
  | .sent (.mapSurfaceToOutput _) | .sent (.startFrame _) | .sent (.endFrame _)
  | .accepted | .queued _ _ | .skipped | .deactivateAll | .disconnected => isTrue nofun

/-- Every frame sent can be shown by the client as it is then. -/
def Client.Turns (client : Client) (events : List Event) : Prop :=
  Throughout (fun before event => ∀ frame, event = .sent (.wireToSurface1 frame) →
    (before.foldl Client.receive client).Shows frame) events

instance (client : Client) (events : List Event) : Decidable (client.Turns events) :=
  inferInstanceAs (Decidable (Throughout _ events))

/-- Every frame that is sent is for a surface negotiated on its connection. -/
def Negotiated (past : List Event) : Prop := Client.unconnected.Turns past

instance (past : List Event) : Decidable (Negotiated past) :=
  inferInstanceAs (Decidable (Client.unconnected.Turns past))

/-- What the display task hands out of the channel is written. -/
def written (gfx : GfxServer) (flush : Flush) : Bool :=
  gfx.channelId.isSome && gfx.drdynvcChannelId.isSome && flush == .written

/-- The frame that a step writes to the client, if it does. -/
def carried (server : RdpServer) : Input → Option Avc420Update
  | .update update now flush => if written server.gfx flush then routed server (.update update now flush) else none
  | _ => none

/-- What has been done on a connection: whether an advertisement has been
accepted and answered, and the size that its surface was last given. -/
structure Setup where
  answered : Bool
  surfaceSize : Option DesktopSize
  deriving DecidableEq, Repr

namespace Setup

/-- Nothing was answered. -/
def unopened : Setup := ⟨false, none⟩

/-- A batch that is not written changes nothing, and a configured size alone
gives the surface no other. -/
def note (setup : Setup) (server : RdpServer) (input : Input) : Setup :=
  match input, created server input with
  | .accept, _ => unopened
  | .process _ flush, some size => if flush = .written then ⟨true, some size⟩ else setup
  | .update _ _ flush, some size =>
    if written server.gfx flush then { setup with surfaceSize := some size } else setup
  | _, _ => setup

/-- The client to which this has been done. -/
def client (setup : Setup) (surfaceId : UInt16) : Client where
  confirmed := setup.answered
  surface := setup.surfaceSize.map fun size =>
    { surfaceId, width := size.width, height := size.height, pixelFormat := .xRgb }

end Setup

/-- A frame is written only behind the answer to an advertisement. If it has the
configured size, the surface has not been given a smaller one; if not, it is not
empty. -/
def SurfaceHeld (setup : Setup) (server : RdpServer) (input : Input) : Prop :=
  ∀ avc ∈ carried server input, setup.answered = true ∧
    if server.gfx.desktopWidth = avc.width ∧ server.gfx.desktopHeight = avc.height then
      ∃ size ∈ setup.surfaceSize, lastIndex avc.width < size.width ∧ lastIndex avc.height < size.height
    else avc.width ≠ 0 ∧ avc.height ≠ 0

instance (setup : Setup) (server : RdpServer) (input : Input) : Decidable (SurfaceHeld setup server input) :=
  inferInstanceAs (Decidable (∀ avc ∈ carried server input, _ ∧ _))

/-- Nothing waits to be sent, and the client has been told what was done. -/
structure Tracked (setup : Setup) (server : RdpServer) (past : List Event) : Prop where
  empty : server.gfx.pending = []
  told : Client.after past = setup.client server.gfx.surfaceId

section Steps
variable {server next : RdpServer} {input : Input} {past emitted : List Event}

private theorem Client.after_append (past emitted : List Event) :
    Client.after (past ++ emitted) = emitted.foldl Client.receive (Client.after past) :=
  List.foldl_append

/-- Queueing tells the client nothing. -/
theorem receive_queued (client : Client) (pdus : List ServerPdu) (isKeyframe : Bool) :
    (pdus.map (Event.queued · isKeyframe)).foldl Client.receive client = client := by
  induction pdus with
  | nil => rfl
  | cons pdu rest ih => exact ih

private theorem Client.turns_append {client : Client} : client.Turns (past ++ emitted) ↔
    client.Turns past ∧ (past.foldl Client.receive client).Turns emitted := by
  unfold Client.Turns
  rw [Runs.throughout_append]
  simp only [List.foldl_append]

private theorem turns_of_frameless {client : Client}
    (frameless : ∀ frame, Event.sent (.wireToSurface1 frame) ∉ emitted) : client.Turns emitted :=
  Runs.throughout_of_forall fun _ member _ frame same => (frameless frame (same ▸ member)).elim

private theorem queued_frameless (pdus : List ServerPdu) (isKeyframe : Bool) (frame : WireToSurface1Pdu) :
    Event.sent (.wireToSurface1 frame) ∉ pdus.map (Event.queued · isKeyframe) := by
  intro member
  obtain ⟨_, _, same⟩ := List.mem_map.mp member
  exact nomatch same

private theorem flushPending_eq (gfx : GfxServer) (pdus : List ServerPdu) (flush : Flush) :
    flushPending gfx pdus flush = if written gfx flush then pdus.map Event.sent else [] := by
  unfold flushPending written
  cases gfx.channelId with
  | none => rfl
  | some channelId =>
    cases gfx.drdynvcChannelId with
    | none => rfl
    | some drdynvcId => cases flush <;> rfl

private theorem receive_handOut (client : Client) (gfx : GfxServer) (pdus : List ServerPdu) (isKeyframe : Bool)
    (flush : Flush) : (handOut gfx pdus isKeyframe flush).foldl Client.receive client =
      if written gfx flush then (pdus.map Event.sent).foldl Client.receive client else client := by
  rw [handOut, List.foldl_append, receive_queued, flushPending_eq]
  split <;> rfl

private theorem receive_quiet {client : Client} (quiet : Quiet emitted) :
    emitted.foldl Client.receive client = client := by
  induction emitted with
  | nil => rfl
  | cons event rest ih =>
    obtain ⟨here, later⟩ := List.forall_mem_cons.mp quiet
    rcases here with rfl | rfl
    · exact ih later
    · exact ih later

/-- What creates a surface leaves the client with it. -/
theorem receive_surfacePdus (client : Client) (gfx : GfxServer) :
    (gfx.surfacePdus.map Event.sent).foldl Client.receive client =
      { client with surface := some ⟨gfx.surfaceId, gfx.desktopWidth, gfx.desktopHeight, .xRgb⟩ } := rfl

private theorem receive_framePdus (client : Client) (gfx : GfxServer) (now : UInt64) (width height : UInt16)
    (bitmapData : Bytes) :
    ((gfx.framePdus now width height bitmapData).map Event.sent).foldl Client.receive client = client := rfl

private theorem note_idle {setup : Setup} (idle : Idle server input) : setup.note server input = setup := by
  obtain ⟨_, uncreated, opened⟩ := idle
  unfold Setup.note
  rw [uncreated]
  cases input with
  | accept => exact absurd rfl opened
  | _ => rfl

/-- A frame that is handed out behind `pdus` finds the client that they leave. -/
theorem frame_turns (client : Client) (pdus : List ServerPdu)
    (frameless : ∀ frame, ServerPdu.wireToSurface1 frame ∉ pdus) (isKeyframe : Bool) (gfx : GfxServer)
    (now : UInt64) (width height : UInt16) (bitmapData : Bytes) :
    client.Turns ((pdus ++ gfx.framePdus now width height bitmapData).map (Event.queued · isKeyframe) ++
        (pdus ++ gfx.framePdus now width height bitmapData).map Event.sent) ↔
      ((pdus.map Event.sent).foldl Client.receive client).Shows {
        surfaceId := gfx.surfaceId
        codecId := .avc420
        pixelFormat := .xRgb
        destinationRectangle := GfxServer.frameRectangle width height
        bitmapData := bitmapData } := by
  have early : client.Turns (pdus.map Event.sent) := by
    apply turns_of_frameless
    intro frame member
    obtain ⟨pdu, among, same⟩ := List.mem_map.mp member
    cases same
    exact frameless frame among
  rw [Client.turns_append, and_iff_right (turns_of_frameless (queued_frameless _ _)), receive_queued,
    List.map_append, Client.turns_append, and_iff_right early]
  simp only [GfxServer.framePdus, List.map_cons, List.map_nil, Client.Turns, Runs.throughout_cons]
  constructor
  · rintro ⟨_, turn, _⟩
    exact turn _ rfl
  · refine fun shows => ⟨nofun, ?_, nofun, Runs.throughout_nil⟩
    rintro _ ⟨⟩
    exact shows

private theorem held_of_unrouted {setup : Setup} (unrouted : routed server input = none) :
    SurfaceHeld setup server input := by
  intro avc carries
  unfold carried at carries
  split at carries
  · rw [unrouted] at carries
    split at carries
    · exact nomatch carries
    · exact nomatch carries
  · exact nomatch carries

private theorem map_sent_frameless {pdus : List ServerPdu}
    (frameless : ∀ frame, ServerPdu.wireToSurface1 frame ∉ pdus) (frame : WireToSurface1Pdu) :
    Event.sent (.wireToSurface1 frame) ∉ pdus.map Event.sent := by
  intro member
  obtain ⟨pdu, among, same⟩ := List.mem_map.mp member
  cases same
  exact frameless frame among

private theorem handOut_frameless {pdus : List ServerPdu}
    (frameless : ∀ frame, ServerPdu.wireToSurface1 frame ∉ pdus) (gfx : GfxServer) (isKeyframe : Bool)
    (flush : Flush) (frame : WireToSurface1Pdu) :
    Event.sent (.wireToSurface1 frame) ∉ handOut gfx pdus isKeyframe flush := by
  intro member
  rw [handOut, flushPending_eq] at member
  rcases List.mem_append.mp member with queued | flushed
  · exact queued_frameless _ _ frame queued
  · split at flushed
    · exact map_sent_frameless frameless frame flushed
    · exact nomatch flushed

private theorem lastIndex_lt_iff (n : UInt16) : lastIndex n < n ↔ n ≠ 0 := by
  unfold lastIndex
  split
  · rename_i zero
    simp [zero]
  · rename_i nonzero
    exact iff_of_true (by grind) nonzero

/-- A routed frame is shown by the client exactly when the surface is held. -/
theorem routed_turns_iff {setup : Setup} {client : Client} {avc : Avc420Update} {now : UInt64}
    {flush : Flush} (route : routed server (.update (.avc420 avc) now flush) = some avc)
    (pdus : List ServerPdu) (frameless : ∀ frame, ServerPdu.wireToSurface1 frame ∉ pdus)
    (bitmapData : Bytes)
    (shows : ((pdus.map Event.sent).foldl Client.receive client).Shows {
        surfaceId := server.gfx.surfaceId
        codecId := .avc420
        pixelFormat := .xRgb
        destinationRectangle := GfxServer.frameRectangle avc.width avc.height
        bitmapData := bitmapData } ↔ setup.answered = true ∧
      if server.gfx.desktopWidth = avc.width ∧ server.gfx.desktopHeight = avc.height then
        ∃ size ∈ setup.surfaceSize, lastIndex avc.width < size.width ∧ lastIndex avc.height < size.height
      else avc.width ≠ 0 ∧ avc.height ≠ 0) :
    client.Turns (handOut server.gfx
        (pdus ++ server.gfx.framePdus now avc.width avc.height bitmapData) avc.isKeyframe flush) ↔
      SurfaceHeld setup server (.update (.avc420 avc) now flush) := by
  have carries : carried server (.update (.avc420 avc) now flush) = if written server.gfx flush
      then routed server (.update (.avc420 avc) now flush) else none := rfl
  rw [handOut, SurfaceHeld, carries, flushPending_eq]
  split
  · rw [frame_turns _ pdus frameless, shows, route]
    simp
  · rw [List.append_nil]
    exact iff_of_true (turns_of_frameless (queued_frameless _ _)) fun _ carries => nomatch carries

/-- The client shows a frame of the configured size when its surface is as large. -/
theorem client_shows_iff (setup : Setup) (gfx : GfxServer) (width height : UInt16)
    (bitmapData : Bytes) : (setup.client gfx.surfaceId).Shows {
        surfaceId := gfx.surfaceId
        codecId := .avc420
        pixelFormat := .xRgb
        destinationRectangle := GfxServer.frameRectangle width height
        bitmapData := bitmapData } ↔ setup.answered = true ∧
      ∃ size ∈ setup.surfaceSize, lastIndex width < size.width ∧ lastIndex height < size.height := by
  unfold Client.Shows Setup.client
  refine and_congr_right fun _ => ?_
  cases setup.surfaceSize with
  | none => simp
  | some size => simp [Inside, GfxServer.frameRectangle]

/-- A frame keeps to the surface exactly when it is held, and the note of what
was done tells what the client is told. -/
theorem step_negotiated {setup : Setup} (tracked : Tracked setup server past)
    (moves : Moves server input next emitted) :
    ((Client.after past).Turns emitted ↔ SurfaceHeld setup server input) ∧
      Tracked (setup.note server input) next (past ++ emitted) := by
  obtain ⟨empty, told⟩ := tracked
  obtain ⟨pending, surfaceId⟩ := moves_keep moves
  have silent (frameless : ∀ frame, Event.sent (.wireToSurface1 frame) ∉ emitted)
      (unrouted : routed server input = none) :
      (Client.after past).Turns emitted ↔ SurfaceHeld setup server input :=
    iff_of_true (turns_of_frameless frameless) (held_of_unrouted unrouted)
  have follows (received : emitted.foldl Client.receive (setup.client server.gfx.surfaceId) =
      (setup.note server input).client server.gfx.surfaceId) :
      Tracked (setup.note server input) next (past ++ emitted) :=
    ⟨pending.trans empty, by rw [Client.after_append, told, received, surfaceId]⟩
  cases moves with
  | accept => exact ⟨silent (by simp) rfl, follows rfl⟩
  | clientAccepted drdynvcId sizes id width height => exact ⟨silent (by simp) rfl, follows rfl⟩
  | reset _ idle channelId caps =>
    exact ⟨silent (by simp) idle.unrouted, follows (by rw [note_idle idle]; rfl)⟩
  | other _ idle phase force caps enabled _ quiet =>
    refine ⟨silent (fun frame member => ?_) idle.unrouted, follows ?_⟩
    · rcases quiet _ member with same | same
      · cases same
      · cases same
    · rw [note_idle idle, receive_quiet quiet]
  | confirm caps flush phase supported =>
    have frameless (frame : WireToSurface1Pdu) : ServerPdu.wireToSurface1 frame ∉
        .capabilitiesConfirm (confirmedSet caps) :: server.gfx.surfacePdus := by
      simp [GfxServer.surfacePdus]
    refine ⟨silent (fun frame member => ?_) rfl, follows ?_⟩
    · rcases List.mem_append.mp member with queued | answered
      · exact queued_frameless _ _ frame queued
      · split at answered
        · exact map_sent_frameless frameless frame answered
        · simp at answered
    · rw [List.foldl_append, receive_queued]
      simp only [Setup.note, created, supported, if_true]
      split
      · rfl
      · rfl
  | resize size now flush active enabled =>
    refine ⟨silent (handOut_frameless (GfxServer.surfacePdus_frameless _) _ _ _) rfl, follows ?_⟩
    have inPlace : created server (.update (.resize size) now flush) = some size :=
      if_pos (by rw [GfxServer.isActive_iff.mpr active, enabled]; rfl)
    simp only [receive_handOut, receive_surfacePdus, Setup.note, inPlace]
    split
    · rfl
    · rfl
  | skip avc now flush active needed unrouted =>
    have idle : Idle server (.update (.avc420 avc) now flush) := ⟨unrouted, by simp [created, unrouted], by simp⟩
    exact ⟨silent (by simp) unrouted, follows (by rw [note_idle idle]; rfl)⟩
  | frame avc now flush active route sized bitmapData =>
    constructor
    · refine routed_turns_iff route [] (by simp) bitmapData ?_
      rw [if_pos sized, told]
      exact client_shows_iff setup server.gfx avc.width avc.height bitmapData
    · apply follows
      have uncreated : created server (.update (.avc420 avc) now flush) = none := by simp [created, route, sized]
      simp only [receive_handOut, receive_framePdus, ite_self, Setup.note, uncreated]
  | resizedFrame avc now flush active route unsized bitmapData =>
    let resized := server.gfx.setDesktopSize avc.width avc.height
    constructor
    · refine routed_turns_iff route resized.surfacePdus (GfxServer.surfacePdus_frameless _) bitmapData ?_
      rw [if_neg unsized, told]
      refine and_congr_right fun _ => ?_
      simp [resized, GfxServer.surfacePdus, GfxServer.setDesktopSize, Client.receive, Inside,
        GfxServer.frameRectangle, lastIndex_lt_iff]
    · apply follows
      have opens : created server (.update (.avc420 avc) now flush) = some ⟨avc.width, avc.height⟩ := by
        simp [created, route, unsized]
      rw [receive_handOut, List.map_append, List.foldl_append, receive_surfacePdus]
      simp only [receive_framePdus, Setup.note, opens]
      split
      · rfl
      · rfl

end Steps

/-- **Every frame is for a surface negotiated on its connection exactly when each
one written follows an answer to an advertisement on it, and is no larger than
its surface was last made there.** -/
theorem negotiated_iff {encodeVec : EncodeVec} (allocates : Allocates encodeVec) (size : DesktopSize)
    {inputs : List Input} {final : RdpServer} {events : List Event}
    (ran : Runs.run (step encodeVec) (.listening size) inputs = some (final, events)) :
    Negotiated events ↔ Runs.Meets (Runs.noting Setup.note (step encodeVec))
      (fun _ (setup, server) input => SurfaceHeld setup server input) []
      (Setup.unopened, RdpServer.listening size) inputs := by
  obtain ⟨setup, noted⟩ : ∃ setup, Runs.run (Runs.noting Setup.note (step encodeVec))
      (Setup.unopened, .listening size) inputs = some ((setup, final), events) := Runs.run_noting ran
  have start : Tracked .unopened (.listening size) [] := ⟨rfl, rfl⟩
  have whole : Negotiated ([] ++ events) ↔
      Negotiated [] ∧ Runs.Meets (Runs.noting Setup.note (step encodeVec))
        (fun _ (setup, server) input => SurfaceHeld setup server input) []
        (Setup.unopened, RdpServer.listening size) inputs := by
    refine Runs.history_iff_meets Negotiated (fun (setup, server) past => Tracked setup server past) ?_ ?_ start noted
    · rintro ⟨setup, server⟩ past input ⟨after, next⟩ emitted tracked stepped
      obtain ⟨moved, rfl⟩ := Runs.noting_eq_some.mp stepped
      unfold Negotiated
      rw [Client.turns_append]
      exact and_congr_right fun _ => (step_negotiated tracked (step_moves allocates tracked.empty moved)).1
    · rintro ⟨setup, server⟩ past input ⟨after, next⟩ emitted tracked stepped
      obtain ⟨moved, rfl⟩ := Runs.noting_eq_some.mp stepped
      exact (step_negotiated tracked (step_moves allocates tracked.empty moved)).2
  exact whole.trans (and_iff_right Runs.throughout_nil)

/-- A client closes the channel before it leaves. The next one is sent frames
only once its own channel is set up, for a display of another size. -/
def orderlyReconnection : List Input :=
  [.accept, .clientAccepted (some 1004) [⟨1280, 800⟩], .start 3,
    .process (some (.capabilitiesAdvertise [.v10 0])) .written,
    .update (.avc420 ⟨[1], 1280, 800, true⟩) 0 .written, .close, .disconnect,
    .accept, .clientAccepted (some 1004) [⟨1920, 1080⟩],
    .update (.avc420 ⟨[2], 1920, 1080, true⟩) 1 .written, .start 3,
    .process (some (.capabilitiesAdvertise [.v10 0])) .written,
    .update (.avc420 ⟨[3], 1920, 1080, true⟩) 2 .written]

/-- A client that comes back. -/
theorem renegotiated_surface_shows_frames : ∃ final events,
    Runs.run (step zeroedBuffer) (.listening ⟨1280, 800⟩) orderlyReconnection = some (final, events) ∧
      Negotiated events := by
  have succeeds : (Runs.run (step zeroedBuffer) (.listening ⟨1280, 800⟩) orderlyReconnection).isSome := by
    decide
  obtain ⟨⟨final, events⟩, ran⟩ := Option.isSome_iff_exists.mp succeeds
  exact ⟨final, events, ran, (negotiated_iff zeroedBuffer_allocates ⟨1280, 800⟩ ran).mpr (by decide)⟩

/-- A client vanishes, and the next one is sent a frame before its channel has started. -/
theorem inherited_pipeline_sends_unnegotiated_frame : ∃ final events,
    Runs.run (step zeroedBuffer) (.listening ⟨1280, 800⟩)
      [.accept, .clientAccepted (some 1004) [⟨1280, 800⟩], .start 3,
        .process (some (.capabilitiesAdvertise [.v10 0])) .written,
        .update (.avc420 ⟨[1], 1280, 800, true⟩) 0 .written, .disconnect,
        .accept, .clientAccepted (some 1004) [⟨1280, 800⟩],
        .update (.avc420 ⟨[2], 1280, 800, true⟩) 1 .written] = some (final, events) ∧
      ¬ Negotiated events :=
  ⟨_, _, rfl, by decide⟩

end Osxrdp.SurfaceNegotiation
