import Osxrdp.DisplaySteps

/-! The pixel format of what `next_update` passes to `push_frame`. The format of
a ScreenCaptureKit stream is fixed when the stream is created; whether a frame
of it is pushed as BGRA is decided when the frame comes, from a shared flag. -/
namespace Osxrdp.PixelFormats
open Display DisplayMode FramePipeline DisplaySteps

/-- The pixel formats that are asked of ScreenCaptureKit. -/
inductive SckPixelFormat where
  | bgra
  | yCbCr420v
  deriving DecidableEq, Repr

/-- The format that `create_stream_inner` configures. -/
def sckFormat : CaptureMode → SckPixelFormat
  | .bgra => .bgra
  | .h264 => .yCbCr420v

/-- A buffer passed to `push_frame`, and the format of the capture it is from. -/
structure Push where
  frame : PrevFrame
  format : SckPixelFormat
  deriving DecidableEq, Repr

/-- `capture_display_bgra` draws into a BGRA context. -/
def displayPush (displayBgra : Option PrevFrame) : List Push :=
  (displayBgra.map fun frame => ⟨frame, .bgra⟩).toList

/-- A sample has the format of the stream it came from, which is the one before
any recreation. -/
def sckitPushes (avc420Enabled : Bool) (updates : MacDisplayUpdates) (stream : AsyncSCStream)
    (capture : Capture) : List Push :=
  match capture.sample with
  | .image width height lock =>
    let (ok, updates, _) := { updates with missedFrames := 0 }.followFrameSize
      ⟨width.toUInt16, height.toUInt16⟩ capture.created
    if ok = true ∧ (updates.mode = .bgra ∨ avc420Enabled = false) then
      (lock.map fun frame => ⟨frame, sckFormat stream.mode⟩).toList
    else []
  | .ended | .noImage => []

/-- What a copy of the display pushes into the pipeline. -/
def cgDisplayPushes (avc420Enabled : Bool) (updates : MacDisplayUpdates) (capture : Capture) : List Push :=
  if updates.mode = .bgra ∨ avc420Enabled = false then displayPush capture.displayBgra
  else if capture.cvPixelBuffer then
    match updates.h264Encoder with
    | none => displayPush capture.displayBgra
    | some encoder => match encoder.encode capture.encoded with
      | .ok _ => []
      | .error () => displayPush capture.displayBgra
  else displayPush capture.displayBgra

/-- The buffers that one iteration of `next_update` passes to `push_frame`. -/
def framePushes (avc420Enabled : Bool) (updates : MacDisplayUpdates) (capture : Capture) : List Push :=
  match updates.capture with
  | .sckit stream => sckitPushes avc420Enabled updates stream capture
  | .cgDisplay => cgDisplayPushes avc420Enabled updates capture

/-- What a step pushes into the pipeline. -/
def pushes (world : World) : Op → List Push
  | .frame index capture => (world.streams[index]?.map fun live =>
      framePushes world.avc420Enabled live.updates capture).getD []
  | _ => []

/-- The display as it pushes frames. A push that panics is seen before the end. -/
def pushing (platform : Platform) : Runs.System (Option World) Op Push
  | none, _ => none
  | some world, op => some ((Display.step platform world op).map Prod.fst, pushes world op)

section Pipeline
variable {platform : Platform} {avc420Enabled forced : Bool} {updates : MacDisplayUpdates}
  {capture : Capture}

/-- `push_frame` and `pop_update` for each buffer in turn. -/
def pushAll (platform : Platform) (pipeline : BgraFramePipeline) (pushes : List Push) :
    Option BgraFramePipeline :=
  pushes.foldlM (fun pipeline push =>
    (pipeline.pushFrame platform push.frame).map fun pipeline => pipeline.popUpdate.2) pipeline

/-- The pipeline after an iteration of the loop, if there is an after. -/
def pipelineAfter (framed : Option (MacDisplayUpdates × Bool × List Event)) : Option BgraFramePipeline :=
  framed.map fun (updates, _, _) => updates.bgraPipeline

private theorem pushFrame_pipeline (platform : Platform) (updates : MacDisplayUpdates) (frame : PrevFrame)
    (format : SckPixelFormat) :
    (updates.pushFrame platform frame).map (fun (updates, _) => updates.bgraPipeline) =
      pushAll platform updates.bgraPipeline [⟨frame, format⟩] := by
  simp [pushAll, MacDisplayUpdates.pushFrame, MacDisplayUpdates.popUpdate, Function.comp_def]

private theorem pushCapture_pipeline (platform : Platform) (forced : Bool) (updates : MacDisplayUpdates)
    (displayBgra : Option PrevFrame) :
    pipelineAfter (updates.pushCapture platform forced displayBgra) =
      pushAll platform updates.bgraPipeline (displayPush displayBgra) := by
  cases displayBgra with
  | none => rfl
  | some frame =>
    rw [displayPush, Option.map_some, Option.toList_some, ← pushFrame_pipeline]
    simp [pipelineAfter, MacDisplayUpdates.pushCapture, Function.comp_def]

private theorem pushAll_nil (pipeline : BgraFramePipeline) : pushAll platform pipeline [] = some pipeline := rfl

private theorem forceKeyframe_pipeline (updates : MacDisplayUpdates) (encoder : VtH264Encoder)
    (forced : Bool) (created : Created) :
    (updates.forceKeyframe encoder forced created).bgraPipeline = updates.bgraPipeline := by
  unfold MacDisplayUpdates.forceKeyframe
  split
  · rfl
  · rfl

private theorem handleYcbcrFrame_pipeline (updates : MacDisplayUpdates) (forced : Bool)
    (lock : Option PrevFrame) (capture : Capture) :
    (updates.handleYcbcrFrame forced lock capture).1.bgraPipeline = updates.bgraPipeline := by
  unfold MacDisplayUpdates.handleYcbcrFrame
  cases updates.h264Encoder with
  | none => rfl
  | some encoder =>
    cases lock with
    | none => exact forceKeyframe_pipeline ..
    | some frame =>
      dsimp only
      split <;> exact forceKeyframe_pipeline ..

private theorem handleImage_pipeline (platform : Platform) (avc420Enabled forced : Bool)
    (updates : MacDisplayUpdates) (lock : Option PrevFrame) (capture : Capture) (format : SckPixelFormat) :
    pipelineAfter (updates.handleImage platform avc420Enabled forced lock capture) =
      pushAll platform updates.bgraPipeline
        (if updates.mode = .bgra ∨ avc420Enabled = false then
          (lock.map fun frame => (⟨frame, format⟩ : Push)).toList else []) := by
  unfold MacDisplayUpdates.handleImage
  by_cases bitmaps : updates.mode = .bgra ∨ avc420Enabled = false
  · rw [if_pos bitmaps, if_pos bitmaps]
    cases lock with
    | none => rfl
    | some frame =>
      rw [Option.map_some, Option.toList_some, ← pushFrame_pipeline]
      simp [pipelineAfter, Function.comp_def]
  · rw [if_neg bitmaps, if_neg bitmaps, pushAll_nil, pipelineAfter, Option.map_some]
    exact congrArg some (handleYcbcrFrame_pipeline updates forced lock capture)

private theorem sckitFrame_pipeline (platform : Platform) (avc420Enabled forced : Bool)
    (updates : MacDisplayUpdates) (stream : AsyncSCStream) (capture : Capture) :
    ∃ start, (start = updates.bgraPipeline ∨ start = updates.bgraPipeline.reset) ∧
      pipelineAfter (updates.sckitFrame platform avc420Enabled forced capture) =
        pushAll platform start (sckitPushes avc420Enabled updates stream capture) := by
  cases sample : capture.sample with
  | ended =>
    refine ⟨_, .inl rfl, ?_⟩
    simp [MacDisplayUpdates.sckitFrame, sckitPushes, sample, pipelineAfter, pushAll_nil]
  | noImage =>
    simp only [MacDisplayUpdates.sckitFrame, sckitPushes, sample, pushAll_nil]
    split
    · obtain ⟨recreated, _⟩ := recreateStream_prepares
        { updates with missedFrames := updates.missedFrames + 1 } updates.streamSize capture.created
      refine ⟨_, recreated.pipeline, congrArg some ?_⟩
      dsimp only
      split <;> rfl
    · exact ⟨_, .inl rfl, rfl⟩
  | image width height lock =>
    obtain ⟨followed, _⟩ := followFrameSize_prepares { updates with missedFrames := 0 }
      ⟨width.toUInt16, height.toUInt16⟩ capture.created
    refine ⟨_, followed.pipeline, ?_⟩
    simp only [MacDisplayUpdates.sckitFrame, sckitPushes, sample]
    generalize { updates with missedFrames := 0 }.followFrameSize ⟨width.toUInt16, height.toUInt16⟩
      capture.created = result
    obtain ⟨ok, next, events⟩ := result
    cases ok with
    | false => rfl
    | true =>
      have handled := handleImage_pipeline platform avc420Enabled forced next lock capture (sckFormat stream.mode)
      simpa [pipelineAfter, Function.comp_def] using handled

private theorem cgDisplayFrame_pipeline (platform : Platform) (avc420Enabled forced : Bool)
    (updates : MacDisplayUpdates) (capture : Capture) :
    pipelineAfter (updates.cgDisplayFrame platform avc420Enabled forced capture) =
      pushAll platform updates.bgraPipeline (cgDisplayPushes avc420Enabled updates capture) := by
  unfold MacDisplayUpdates.cgDisplayFrame cgDisplayPushes
  by_cases bitmaps : updates.mode = .bgra ∨ avc420Enabled = false
  · rw [if_pos bitmaps, if_pos bitmaps]
    exact pushCapture_pipeline ..
  · rw [if_neg bitmaps, if_neg bitmaps]
    by_cases captured : capture.cvPixelBuffer = true
    · rw [if_pos captured, if_pos captured]
      cases updates.h264Encoder with
      | none => exact pushCapture_pipeline ..
      | some encoder =>
        have kept := forceKeyframe_pipeline updates encoder forced capture.created
        cases encoded : encoder.encode capture.encoded with
        | ok output =>
          cases output with
          | none => simp only [encoded, pipelineAfter, Option.map_some, kept, pushAll_nil]
          | some update => simp only [encoded, pipelineAfter, Option.map_some, kept, pushAll_nil]
        | error failure =>
          simp only [encoded]
          rw [← kept]
          exact pushCapture_pipeline ..
    · rw [if_neg captured, if_neg captured]
      exact pushCapture_pipeline ..

/-- What an iteration of the loop makes of the pipeline comes from its pushes
alone, on the pipeline as it was or as a recreation of the stream left it. -/
theorem frame_pipeline (platform : Platform) (avc420Enabled forced : Bool) (updates : MacDisplayUpdates)
    (capture : Capture) :
    ∃ start, (start = updates.bgraPipeline ∨ start = updates.bgraPipeline.reset) ∧
      pipelineAfter (updates.frame platform avc420Enabled forced capture) =
        pushAll platform start (framePushes avc420Enabled updates capture) := by
  cases source : updates.capture with
  | sckit stream =>
    simp only [MacDisplayUpdates.frame, framePushes, source]
    exact sckitFrame_pipeline platform avc420Enabled forced updates stream capture
  | cgDisplay =>
    refine ⟨_, .inl rfl, ?_⟩
    simp only [MacDisplayUpdates.frame, framePushes, source]
    exact cgDisplayFrame_pipeline platform avc420Enabled forced updates capture

end Pipeline

/-- A ScreenCaptureKit stream has the mode of the updates that read it. -/
def Configured (updates : MacDisplayUpdates) : Prop :=
  ∀ stream, updates.capture = .sckit stream → stream.mode = updates.mode

/-- An image that gets as far as its pixels: it can be locked, and it has the
stream's size or stream and encoder can be recreated at its own. -/
def Handled (updates : MacDisplayUpdates) (capture : Capture) : Prop :=
  match capture.sample with
  | .image width height (some _) =>
    (⟨width.toUInt16, height.toUInt16⟩ : DesktopSize) = updates.streamSize ∨ capture.created = ⟨true, true⟩
  | .ended | .noImage | .image _ _ none => False

instance (updates : MacDisplayUpdates) (capture : Capture) : Decidable (Handled updates capture) := by
  unfold Handled
  split <;> infer_instance

/-- No ScreenCaptureKit image is handled in H.264 mode while the flag is off. -/
def NoVideoFallback (_ : List Push) (state : Option World) (op : Op) : Prop :=
  match state, op with
  | some world, .frame index capture => ∀ live ∈ world.streams[index]?,
    live.updates.capture ≠ .cgDisplay → live.updates.mode = .h264 → Handled live.updates capture →
      world.avc420Enabled = true
  | _, _ => True

instance (past : List Push) (state : Option World) (op : Op) : Decidable (NoVideoFallback past state op) := by
  unfold NoVideoFallback
  split <;> infer_instance

/-- Only BGRA pixels were taken for BGRA. -/
def OnlyBgra (past : List Push) : Prop := ∀ push ∈ past, push.format = .bgra

instance (past : List Push) : Decidable (OnlyBgra past) := inferInstanceAs (Decidable (∀ _ ∈ _, _))

section Formats
variable {platform : Platform} {avc420Enabled forced flag : Bool} {before after : MacDisplayUpdates}
  {capture : Capture} {events : List Event}

private theorem onlyBgra_append {past emitted : List Push} :
    OnlyBgra (past ++ emitted) ↔ OnlyBgra past ∧ OnlyBgra emitted := List.forall_mem_append

private theorem displayPush_bgra (displayBgra : Option PrevFrame) : OnlyBgra (displayPush displayBgra) := by
  cases displayBgra with
  | none => exact List.forall_mem_nil _
  | some frame => simp [OnlyBgra, displayPush]

private theorem cgDisplayPushes_bgra (avc420Enabled : Bool) (updates : MacDisplayUpdates) (capture : Capture) :
    OnlyBgra (cgDisplayPushes avc420Enabled updates capture) := by
  unfold cgDisplayPushes
  split
  · exact displayPush_bgra _
  · split
    · split
      · exact displayPush_bgra _
      · split
        · exact List.forall_mem_nil _
        · exact displayPush_bgra _
    · exact displayPush_bgra _

/-- In H.264 mode a recreation needs both a new stream and a new encoder. -/
theorem followFrameSize_ok_iff (updates : MacDisplayUpdates) {stream : AsyncSCStream}
    (source : updates.capture = .sckit stream) (video : updates.mode = .h264) (size : DesktopSize)
    (created : Created) : (updates.followFrameSize size created).1 = true ↔
      size = updates.streamSize ∨ created = ⟨true, true⟩ := by
  unfold MacDisplayUpdates.followFrameSize
  by_cases same : size = updates.streamSize
  · rw [if_neg (not_not_intro same)]
    exact iff_of_true rfl (.inl same)
  · rw [if_pos same, or_iff_right same]
    obtain ⟨streamCreated, encoderCreated⟩ := created
    cases streamCreated with
    | false => simp [MacDisplayUpdates.recreateStream, source]
    | true =>
      cases encoderCreated with
      | false => simp [MacDisplayUpdates.recreateStream, MacDisplayUpdates.resizeStream, source, video]
      | true => simp [MacDisplayUpdates.recreateStream, MacDisplayUpdates.resizeStream, source, video]

private theorem sckitPushes_bgra_iff {updates : MacDisplayUpdates} {stream : AsyncSCStream}
    (source : updates.capture = .sckit stream) (sameMode : stream.mode = updates.mode)
    (avc420Enabled : Bool) (capture : Capture) :
    OnlyBgra (sckitPushes avc420Enabled updates stream capture) ↔
      (updates.mode = .h264 → Handled updates capture → avc420Enabled = true) := by
  unfold sckitPushes Handled
  cases capture.sample with
  | ended => exact iff_of_true (List.forall_mem_nil _) fun _ => False.elim
  | noImage => exact iff_of_true (List.forall_mem_nil _) fun _ => False.elim
  | image width height lock =>
    cases lock with
    | none =>
      refine iff_of_true ?_ fun _ => False.elim
      dsimp only
      split <;> exact List.forall_mem_nil _
    | some frame =>
      obtain ⟨followed, _⟩ := followFrameSize_prepares { updates with missedFrames := 0 }
        ⟨width.toUInt16, height.toUInt16⟩ capture.created
      have sameMode' := followed.target.mode
      dsimp only at sameMode' ⊢
      rw [sameMode', sameMode]
      cases mode : updates.mode with
      | bgra =>
        refine iff_of_true ?_ nofun
        split
        · simp [OnlyBgra, sckFormat]
        · exact List.forall_mem_nil _
      | h264 =>
        have followed := followFrameSize_ok_iff { updates with missedFrames := 0 } source mode
          ⟨width.toUInt16, height.toUInt16⟩ capture.created
        rw [mode] at followed
        simp only [followed]
        cases avc420Enabled with
        | true => simp [OnlyBgra]
        | false => simp [OnlyBgra, sckFormat]

/-- Only a ScreenCaptureKit image in H.264 mode is ever taken for BGRA. -/
theorem framePushes_bgra_iff {updates : MacDisplayUpdates} (configured : Configured updates)
    (avc420Enabled : Bool) (capture : Capture) :
    OnlyBgra (framePushes avc420Enabled updates capture) ↔ (updates.capture ≠ .cgDisplay →
      updates.mode = .h264 → Handled updates capture → avc420Enabled = true) := by
  unfold framePushes
  cases source : updates.capture with
  | cgDisplay => exact iff_of_true (cgDisplayPushes_bgra _ _ _) fun other => (other rfl).elim
  | sckit stream =>
    rw [sckitPushes_bgra_iff source (configured stream source)]
    have other : CaptureSource.sckit stream ≠ .cgDisplay := nofun
    exact ⟨fun holds _ => holds, fun holds => holds other⟩

private theorem prepares_configured (prepares : Prepares before after) (configured : Configured before) :
    Configured after := by
  intro stream source
  rw [prepares.target.mode]
  rcases prepares.capture with kept | ⟨old, new, oldSource, newSource, mode⟩
  · exact configured stream (kept ▸ source)
  · obtain rfl := CaptureSource.sckit.inj (source.symm.trans newSource)
    rcases mode with same | same
    · exact same.trans (configured old oldSource)
    · exact same

private theorem frame_configured (configured : Configured before)
    (framed : before.frame platform avc420Enabled forced capture = some (after, flag, events)) :
    Configured after := by
  cases frame_moves framed with
  | rest prepared calls shown prepares creates unpushed => exact prepares_configured prepares configured
  | push prepared after calls shown prepares creates frame captured pushed =>
    have ready := prepares_configured prepares configured
    obtain ⟨pipeline, _, shown⟩ := Option.map_eq_some_iff.mp pushed
    cases shown
    exact ready

private theorem poll_configured (avc420Enabled : Bool) (tx : Watch.Sender (Option DesktopSize))
    (configured : Configured before) : Configured (before.poll avc420Enabled tx).2 := by
  obtain ⟨size, _, _, ⟨_, polled⟩ | ⟨_, polled⟩⟩ | ⟨_, polled⟩ := poll_cases before avc420Enabled tx
  · rw [polled]
    exact configured
  · rw [polled]
    exact configured
  · rw [polled]
    exact configured

private theorem updates_configured (host : Host) (display : MacDisplay) (created : Created) :
    ∀ updates ∈ (display.updates host created).1, Configured updates := by
  intro updates started
  obtain ⟨capture, captured, encoded⟩ := Option.bind_eq_some_iff.mp (updates_start started)
  obtain ⟨encoder, _, rfl⟩ := Option.map_eq_some_iff.mp encoded
  rintro stream rfl
  unfold MacDisplayUpdates.startCapture at captured
  split at captured
  · cases captured
  · split at captured
    · cases captured
      rfl
    · cases captured

end Formats

/-- Every stream of the world reads a capture of its own mode. -/
def AllConfigured (world : World) : Prop := ∀ live ∈ world.streams, Configured live.updates

section Runs
variable {platform : Platform} {world next : World} {op : Op} {events : List Event}

/-- A step keeps the streams in their configuration. -/
theorem step_configured (configured : AllConfigured world)
    (stepped : Display.step platform world op = some (next, events)) : AllConfigured next := by
  cases step_transition stepped with
  | updates created =>
    refine List.forall_mem_append.mpr ⟨configured, fun live member => ?_⟩
    obtain ⟨updates, started, rfl⟩ := List.mem_map.mp member
    exact updates_configured world.host world.display created updates (Option.mem_toList.mp started)
  | poll index live found =>
    exact forall_mem_set configured (poll_configured world.avc420Enabled world.display.resizeTx
      (configured live (List.mem_of_getElem? found)))
  | frame index capture live updates forceKeyframe events found framed =>
    exact forall_mem_set configured (frame_configured (configured live (List.mem_of_getElem? found)) framed)
  | drop index live found => exact fun live member => configured live (List.mem_of_mem_eraseIdx member)
  | size => exact configured
  | noMonitor outcome => exact configured
  | requestLayout client outcome => exact configured
  | clientDisconnected outcome => exact configured
  | setAvc420Enabled enabled => exact configured
  | setForceKeyframe forced => exact configured

/-- A step pushes only BGRA exactly when it handles no video frame as a bitmap. -/
theorem pushes_bgra_iff (configured : AllConfigured world) (past : List Push) (op : Op) :
    OnlyBgra (pushes world op) ↔ NoVideoFallback past (some world) op := by
  cases op with
  | frame index capture =>
    cases found : world.streams[index]? with
    | none => simp [pushes, NoVideoFallback, found, OnlyBgra]
    | some live =>
      have pushed := framePushes_bgra_iff (configured live (List.mem_of_getElem? found))
        world.avc420Enabled capture
      simpa [pushes, NoVideoFallback, found] using pushed
  | _ => exact iff_of_true (List.forall_mem_nil _) trivial

end Runs

/-- **Every buffer pushed as BGRA is BGRA exactly when no ScreenCaptureKit image
is handled in H.264 mode while the client does without AVC420.** -/
theorem only_bgra_iff (platform : Platform) (host : Host) (mode : CaptureMode) (aspectMode : AspectMode)
    {ops : List Op} {final : Option World} {pushed : List Push}
    (ran : Runs.run (pushing platform) (some (.fresh host mode aspectMode)) ops = some (final, pushed)) :
    OnlyBgra pushed ↔
      Runs.Meets (pushing platform) NoVideoFallback [] (some (.fresh host mode aspectMode)) ops := by
  have start : ∀ world ∈ some (World.fresh host mode aspectMode), AllConfigured world := by
    rintro _ ⟨⟩
    exact List.forall_mem_nil _
  have whole : OnlyBgra ([] ++ pushed) ↔ OnlyBgra [] ∧
      Runs.Meets (pushing platform) NoVideoFallback [] (some (.fresh host mode aspectMode)) ops := by
    refine Runs.history_iff_meets OnlyBgra (fun state _ => ∀ world ∈ state, AllConfigured world) ?_ ?_ start ran
    · intro state past op next emitted configured stepped
      cases state with
      | none => cases stepped
      | some world =>
        cases stepped
        rw [onlyBgra_append, pushes_bgra_iff (configured world rfl) past op]
    · intro state past op next emitted configured stepped
      cases state with
      | none => cases stepped
      | some world =>
        cases stepped
        intro next moved
        obtain ⟨⟨_, events⟩, stepped, rfl⟩ := Option.map_eq_some_iff.mp moved
        exact step_configured (configured world rfl) stepped
  exact whole.trans (and_iff_right (List.forall_mem_nil _))

/-- A locked image of two by two pixels, from a stream that macOS recreates at its size. -/
def smallImage (stride : Nat) (data : Bytes) : Capture where
  sample := .image 2 2 (some { data, stride, width := 2, height := 2 })
  displayBgra := none
  cvPixelBuffer := false
  created := ⟨true, true⟩
  encoded := .nothing

/-- A client without AVC420 is served by a stream in BGRA mode. -/
def bitmapRun : List Op :=
  [.updates ⟨true, true⟩, .setAvc420Enabled false, .frame 0 (smallImage 8 (List.replicate 16 255))]

/-- A stream of bitmaps. -/
theorem bitmap_stream_pushes_bgra : ∃ final pushed,
    Runs.run (pushing exactPlatform) (some (.fresh laptop .bgra .native)) bitmapRun = some (final, pushed) ∧
      OnlyBgra pushed := by
  have succeeds : (Runs.run (pushing exactPlatform) (some (.fresh laptop .bgra .native)) bitmapRun).isSome := by
    decide
  obtain ⟨⟨final, pushed⟩, ran⟩ := Option.isSome_iff_exists.mp succeeds
  exact ⟨final, pushed, ran, (only_bgra_iff exactPlatform laptop .bgra .native ran).mpr (by decide)⟩

/-- The client of a stream in H.264 mode opts out, and the next video frame is
pushed as if it were BGRA. -/
theorem opted_out_client_gets_video_as_bgra : ∃ final pushed,
    Runs.run (pushing exactPlatform) (some (.fresh laptop .h264 .native))
      [.updates ⟨true, true⟩, .setAvc420Enabled false,
        .frame 0 (smallImage 2 [16, 16, 16, 16, 128, 128])] = some (final, pushed) ∧ ¬OnlyBgra pushed :=
  ⟨_, _, rfl, by decide⟩

end Osxrdp.PixelFormats
