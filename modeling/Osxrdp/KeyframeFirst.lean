import Osxrdp.GfxRouting

/-! A client decodes P-frames from the keyframe before them. The flag
`needs_keyframe` keeps track of whether the current surface has had one, as long
as every frame that is routed has the size of the surface. -/
namespace Osxrdp.KeyframeFirst
open Display (Avc420Update)
open GfxRouting Gfx
open Runs (Throughout)

/-- `CreateSurface` starts over, and a keyframe queued is one seen. -/
def markKeyframe (seen : Bool) : Event → Bool
  | .queued (.createSurface _) _ => false
  | .queued (.wireToSurface1 _) isKeyframe => seen || isKeyframe
  | _ => seen

/-- A keyframe has been queued since the latest `init_surface`. -/
def keyframeSinceInit (past : List Event) : Bool := past.foldl markKeyframe false

/-- A surface is fresh until a frame for it was queued. -/
def markFresh (fresh : Bool) : Event → Bool
  | .queued (.createSurface _) _ => true
  | .queued (.wireToSurface1 _) _ => false
  | _ => fresh

/-- The latest surface has been created and has had no frame. -/
def surfaceFresh (past : List Event) : Bool := past.foldl markFresh false

/-- While the pipeline is active its flag tells whether the surface still waits
for a keyframe. -/
def FlagAgrees (server : RdpServer) (past : List Event) : Prop :=
  server.gfx.state = .active → (server.gfx.needsKeyframe = true ↔ keyframeSinceInit past = false)

/-- The first frame queued for a surface is a keyframe. -/
def FirstIsKeyframe (past : List Event) : Prop :=
  Throughout (fun before event => surfaceFresh before = true →
    ∀ frame isKeyframe, event = .queued (.wireToSurface1 frame) isKeyframe → isKeyframe = true) past

/-- A P-frame is skipped only while no keyframe has been queued for the surface. -/
def SkipsUndecodable (past : List Event) : Prop :=
  Throughout (fun before event => event = .skipped → keyframeSinceInit before = false) past

/-- The flag tells of the surface, of which the first frame was a keyframe, and what was
skipped could not have been decoded. -/
structure KeyframeLeads (server : RdpServer) (past : List Event) : Prop where
  flag : FlagAgrees server past
  first : FirstIsKeyframe past
  skips : SkipsUndecodable past

/-- A frame that is routed has the size configured for the surface. -/
def FramesSized (server : RdpServer) (input : Input) : Prop :=
  ∀ avc, routed server input = some avc →
    server.gfx.desktopWidth = avc.width ∧ server.gfx.desktopHeight = avc.height

instance (server : RdpServer) (input : Input) : Decidable (FramesSized server input) :=
  inferInstanceAs (Decidable (∀ avc ∈ routed server input,
    server.gfx.desktopWidth = avc.width ∧ server.gfx.desktopHeight = avc.height))

/-- Every P-frame queued has a keyframe of its surface before it. -/
def Decodable (past : List Event) : Prop :=
  Throughout (fun before event => ∀ frame, event = .queued (.wireToSurface1 frame) false →
    keyframeSinceInit before = true) past

section Steps
variable {server next : RdpServer} {input : Input} {past emitted : List Event}

/-- Events are marked one after the other. -/
theorem keyframeSinceInit_append (past emitted : List Event) :
    keyframeSinceInit (past ++ emitted) = emitted.foldl markKeyframe (keyframeSinceInit past) :=
  List.foldl_append

/-- Events that neither queue nor skip. -/
def Inert (emitted : List Event) : Prop :=
  ∀ event ∈ emitted, event ≠ .skipped ∧ ∀ pdu isKeyframe, event ≠ .queued pdu isKeyframe

private theorem inert_keyframe (inert : Inert emitted) (seen : Bool) :
    emitted.foldl markKeyframe seen = seen := by
  induction emitted with
  | nil => rfl
  | cons event rest ih =>
    have here := inert event (by simp)
    rw [List.foldl_cons]
    cases event with
    | queued pdu isKeyframe => exact (here.2 pdu isKeyframe rfl).elim
    | _ => exact ih fun later member => inert later (List.mem_cons_of_mem _ member)

private theorem fresh_unseen (past : List Event) :
    surfaceFresh past = true → keyframeSinceInit past = false := by
  induction past using List.reverseRecOn with
  | nil => exact fun _ => rfl
  | append_singleton past event ih =>
    intro fresh
    unfold surfaceFresh at fresh
    rw [List.foldl_append] at fresh
    rw [keyframeSinceInit_append]
    cases event with
    | queued pdu isKeyframe =>
      cases pdu with
      | createSurface surface => rfl
      | wireToSurface1 frame => exact nomatch fresh
      | _ => exact ih fresh
    | _ => exact ih fresh

private theorem decodable_first (decodable : Decodable past) : FirstIsKeyframe past := by
  refine decodable.imp fun before event played fresh frame isKeyframe same => ?_
  by_contra predicted
  rw [Bool.not_eq_true] at predicted
  rw [predicted] at same
  exact Bool.false_ne_true ((fresh_unseen before fresh).symm.trans (played frame same))

/-- Where the surface stands, and whether it has had a keyframe. -/
structure Tracked (server : RdpServer) (past : List Event) : Prop where
  empty : server.gfx.pending = []
  flag : FlagAgrees server past
  decodable : Decodable past
  skips : SkipsUndecodable past

private theorem Tracked.leads (tracked : Tracked server past) : KeyframeLeads server past :=
  ⟨tracked.flag, decodable_first tracked.decodable, tracked.skips⟩

private theorem flushPending_inert (gfx : GfxServer) (pdus : List ServerPdu) (flush : Flush) :
    Inert (flushPending gfx pdus flush) := by
  intro event member
  unfold flushPending at member
  split at member
  · split at member
    · obtain ⟨pdu, _, rfl⟩ := List.mem_map.mp member
      exact ⟨nofun, nofun⟩
    · exact nomatch member
  · exact nomatch member

private theorem Tracked.inert (tracked : Tracked server past) (inert : Inert emitted)
    (empty : next.gfx.pending = [])
    (flag : next.gfx.state = .active →
      server.gfx.state = .active ∧ next.gfx.needsKeyframe = server.gfx.needsKeyframe) :
    Tracked next (past ++ emitted) := by
  refine ⟨empty, fun active => ?_, ?_, ?_⟩
  · obtain ⟨before, same⟩ := flag active
    rw [keyframeSinceInit_append, inert_keyframe inert, same]
    exact tracked.flag before
  · refine Runs.throughout_append.mpr ⟨tracked.decodable, Runs.throughout_of_forall ?_⟩
    exact fun event member _ frame same => ((inert event member).2 _ _ same).elim
  · refine Runs.throughout_append.mpr ⟨tracked.skips, Runs.throughout_of_forall ?_⟩
    exact fun event member _ same => ((inert event member).1 same).elim

/-- A new surface waits for its keyframe. -/
theorem Tracked.surface (tracked : Tracked server past) (pdus : List ServerPdu) (isKeyframe : Bool)
    {tail : List Event} (inert : Inert tail) (empty : next.gfx.pending = [])
    (needed : next.gfx.needsKeyframe = true) (frameless : ∀ frame, ServerPdu.wireToSurface1 frame ∉ pdus)
    (created : ∀ seen, (pdus.map (Event.queued · isKeyframe)).foldl markKeyframe seen = false) :
    Tracked next (past ++ (pdus.map (Event.queued · isKeyframe) ++ tail)) := by
  refine ⟨empty, fun _ => ?_, ?_, ?_⟩
  · rw [keyframeSinceInit_append, List.foldl_append, created, inert_keyframe inert]
    exact iff_of_true needed rfl
  · refine Runs.throughout_append.mpr ⟨tracked.decodable, Runs.throughout_of_forall ?_⟩
    rintro event member _ frame rfl
    rcases List.mem_append.mp member with queued | after
    · obtain ⟨pdu, among, same⟩ := List.mem_map.mp queued
      cases same
      exact (frameless frame among).elim
    · exact ((inert _ after).2 _ _ rfl).elim
  · refine Runs.throughout_append.mpr ⟨tracked.skips, Runs.throughout_of_forall ?_⟩
    rintro event member _ rfl
    rcases List.mem_append.mp member with queued | after
    · obtain ⟨_, _, same⟩ := List.mem_map.mp queued
      exact nomatch same
    · exact ((inert _ after).1 rfl).elim

private theorem surfacePdus_created (gfx : GfxServer) (isKeyframe seen : Bool) :
    (gfx.surfacePdus.map (Event.queued · isKeyframe)).foldl markKeyframe seen = false := rfl

/-- A frame of the surface's size is a keyframe, or comes after one. -/
theorem Tracked.frame (tracked : Tracked server past) (active : server.gfx.state = .active)
    {isKeyframe : Bool} (ready : isKeyframe = false → server.gfx.needsKeyframe = false) (now : UInt64)
    (width height : UInt16) (bitmapData : Bytes) (flush : Flush)
    (empty : next.gfx.pending = [])
    (needed : next.gfx.needsKeyframe = (server.gfx.needsKeyframe && !isKeyframe)) :
    Tracked next (past ++ handOut server.gfx (server.gfx.framePdus now width height bitmapData)
      isKeyframe flush) := by
  have inert := flushPending_inert server.gfx (server.gfx.framePdus now width height bitmapData) flush
  have flag := tracked.flag active
  have seen : isKeyframe = false → keyframeSinceInit past = true := by
    intro predicted
    rw [ready predicted] at flag
    simpa using flag
  refine ⟨empty, fun _ => ?_, ?_, ?_⟩
  · have marked : keyframeSinceInit (past ++ handOut server.gfx
        (server.gfx.framePdus now width height bitmapData) isKeyframe flush) =
        (keyframeSinceInit past || isKeyframe) := by
      rw [keyframeSinceInit_append, handOut, List.foldl_append, inert_keyframe inert]
      rfl
    rw [marked, needed]
    cases isKeyframe with
    | true => simp
    | false => simp [ready rfl, seen rfl]
  · refine Runs.throughout_append.mpr ⟨tracked.decodable, ?_⟩
    refine Runs.throughout_append.mpr ⟨?_, Runs.throughout_of_forall ?_⟩
    · simp only [GfxServer.framePdus, List.map_cons, List.map_nil, Runs.throughout_cons]
      refine ⟨nofun, ?_, nofun, Runs.throughout_nil⟩
      rintro _ ⟨⟩
      rw [keyframeSinceInit_append]
      exact seen rfl
    · exact fun event member _ frame same => ((inert event member).2 _ _ same).elim
  · refine Runs.throughout_append.mpr ⟨tracked.skips, ?_⟩
    refine Runs.throughout_append.mpr ⟨?_, Runs.throughout_of_forall ?_⟩
    · exact Runs.throughout_of_forall (by simp)
    · exact fun event member _ same => ((inert event member).1 same).elim

/-- A frame of another size leaves the flag set for a keyframe already sent, or
puts a P-frame first. -/
theorem resizedFrame_fails {avc : Avc420Update} {now : UInt64} {flush : Flush}
    {bitmapData : Bytes} (surface : GfxServer)
    (active : next.gfx.state = .active) (needed : next.gfx.needsKeyframe = true) :
    ¬ KeyframeLeads next (past ++ handOut server.gfx (surface.surfacePdus ++
      server.gfx.framePdus now avc.width avc.height bitmapData) avc.isKeyframe flush) := by
  intro leads
  cases keyframe : avc.isKeyframe with
  | true =>
    have unseen := (leads.flag active).mp needed
    rw [keyframeSinceInit_append, handOut, List.foldl_append,
      inert_keyframe (flushPending_inert _ _ _), keyframe] at unseen
    cases unseen
  | false =>
    have first := (Runs.throughout_append.mp (Runs.throughout_append.mp leads.first).2).1
    rw [keyframe] at first
    simp only [GfxServer.framePdus, GfxServer.surfacePdus, List.map_cons, List.map_nil, List.cons_append,
      List.nil_append, Runs.throughout_cons] at first
    have fresh := first.2.2.2.2.1 (by rw [surfaceFresh, List.foldl_append]; rfl) _ false rfl
    cases fresh

/-- The step keeps track unless it routes a frame of another size. -/
theorem step_tracked (tracked : Tracked server past) (moves : Moves server input next emitted) :
    Tracked next (past ++ emitted) ∧ FramesSized server input ∨
      ¬ KeyframeLeads next (past ++ emitted) ∧ ¬ FramesSized server input := by
  have sized (unrouted : routed server input = none) : FramesSized server input :=
    fun avc route => nomatch unrouted.symm.trans route
  cases moves with
  | accept => exact .inl ⟨tracked.inert (by simp [Inert]) tracked.empty fun active => ⟨active, rfl⟩, sized rfl⟩
  | clientAccepted drdynvcId sizes id width height =>
    exact .inl ⟨tracked.inert (by simp [Inert]) tracked.empty fun active => ⟨active, rfl⟩, sized rfl⟩
  | reset _ idle channelId caps =>
    exact .inl ⟨tracked.inert (by simp [Inert]) tracked.empty nofun, sized idle.unrouted⟩
  | other _ idle phase force caps enabled _ quiet =>
    refine .inl ⟨tracked.inert ?_ tracked.empty fun active => ⟨active, rfl⟩, sized idle.unrouted⟩
    intro event member
    rcases quiet event member with rfl | rfl
    · exact ⟨nofun, nofun⟩
    · exact ⟨nofun, nofun⟩
  | confirm caps flush phase supported =>
    refine .inl ⟨tracked.surface _ false ?_ tracked.empty rfl ?_ fun _ => rfl, sized rfl⟩
    · split
      · exact fun event member => by
          obtain ⟨pdu, _, rfl⟩ := List.mem_map.mp member
          exact ⟨nofun, nofun⟩
      · simp [Inert]
    · simp [GfxServer.surfacePdus]
  | resize size now flush active enabled =>
    exact .inl ⟨tracked.surface _ false (flushPending_inert _ _ _) tracked.empty rfl
      (GfxServer.surfacePdus_frameless _) (surfacePdus_created _ false), sized rfl⟩
  | skip avc now flush active needed unrouted =>
    refine .inl ⟨⟨tracked.empty, ?_, ?_, ?_⟩, sized unrouted⟩
    · intro active
      rw [keyframeSinceInit_append]
      exact tracked.flag active
    · exact Runs.throughout_append.mpr ⟨tracked.decodable, Runs.throughout_of_forall (by simp)⟩
    · refine Runs.throughout_append.mpr ⟨tracked.skips, ?_⟩
      rw [Runs.throughout_cons, List.append_nil]
      exact ⟨fun _ => (tracked.flag active).mp needed, Runs.throughout_nil⟩
  | frame avc now flush active route same bitmapData =>
    refine .inl ⟨tracked.frame active ?_ now avc.width avc.height bitmapData flush tracked.empty rfl, ?_⟩
    · intro predicted
      simpa [routed, GfxServer.isActive, active, predicted] using route
    · rintro other routes
      cases route.symm.trans routes
      exact same
  | resizedFrame avc now flush active route unsized bitmapData =>
    exact .inr ⟨resizedFrame_fails _ rfl rfl, fun all => unsized (all avc route)⟩

end Steps

/-- **Every surface starts with a keyframe exactly when frames have its size.** -/
theorem keyframe_first_iff {encodeVec : EncodeVec} (allocates : Allocates encodeVec) (size : DesktopSize)
    (inputs : List Input) :
    Runs.Always (Runs.recorded (step encodeVec)) (fun (server, past) => KeyframeLeads server past)
        (.listening size, []) inputs ↔
      Runs.Meets (step encodeVec) (fun _ => FramesSized) [] (.listening size) inputs := by
  have start : Tracked (.listening size) [] := ⟨rfl, nofun, Runs.throughout_nil, Runs.throughout_nil⟩
  refine Runs.always_recorded_iff_meets KeyframeLeads Tracked ?_ ?_ start.leads start
  · intro server past input next emitted _ tracked stepped
    obtain ⟨kept, sized⟩ | ⟨fails, unsized⟩ := step_tracked tracked (step_moves allocates tracked.empty stepped)
    · exact iff_of_true kept.leads sized
    · exact iff_of_false fails unsized
  · intro server past input next emitted _ tracked sized stepped
    obtain ⟨kept, _⟩ | ⟨_, unsized⟩ := step_tracked tracked (step_moves allocates tracked.empty stepped)
    · exact kept
    · exact (unsized sized).elim

/-- Frames of the size that the client was set up with. -/
theorem sized_frames_keep_keyframe_first :
    Runs.Always (Runs.recorded (step zeroedBuffer)) (fun (server, past) => KeyframeLeads server past)
      (.listening ⟨1280, 800⟩, [])
      [.accept, .clientAccepted (some 1004) [⟨1280, 800⟩], .start 3,
        .process (some (.capabilitiesAdvertise [.v10 0])) .written,
        .update (.avc420 ⟨[1], 1280, 800, false⟩) 0 .written,
        .update (.avc420 ⟨[2], 1280, 800, true⟩) 1 .written,
        .update (.avc420 ⟨[3], 1280, 800, false⟩) 2 .written] :=
  (keyframe_first_iff zeroedBuffer_allocates ⟨1280, 800⟩ _).mpr (by decide)

/-- A keyframe of a new size is sent, and the flag still asks for one. -/
theorem resized_keyframe_leaves_flag_set : ∃ final events,
    Runs.run (step zeroedBuffer) (.listening ⟨1280, 800⟩)
      [.accept, .clientAccepted (some 1004) [⟨1280, 800⟩], .start 3,
        .process (some (.capabilitiesAdvertise [.v10 0])) .written,
        .update (.avc420 ⟨[1], 1280, 720, true⟩) 0 .written] = some (final, events) ∧
      ¬ KeyframeLeads final events := by
  refine ⟨_, _, rfl, fun leads => ?_⟩
  have unseen := (leads.flag rfl).mp rfl
  exact nomatch unseen

end Osxrdp.KeyframeFirst
