import Osxrdp.EncoderSession

/-! The size that an H.264 frame carries is its encoder's. A ScreenCaptureKit
stream follows the size of its frames, as far as encoders can be created; a
stream of the display never looks at the size of what it captures. -/
namespace Osxrdp.EncodedSizes
open Display DisplaySteps FramePipeline
open EncoderSession (EncoderCall encoderCalls encoded frame_encodes recreateCalls recreateStream_replaces
  returnedFrame sckitCalls)

/-- An encoded frame as it is returned, and the size of the buffer it was encoded from. -/
structure Encoded where
  bufferW : Nat
  bufferH : Nat
  update : Avc420Update
  deriving DecidableEq, Repr

/-- The size given to a frame is that of its pixels. -/
def Encoded.TrueSize (encoded : Encoded) : Prop :=
  encoded.update.width.toNat = encoded.bufferW ∧ encoded.update.height.toNat = encoded.bufferH

instance : DecidablePred Encoded.TrueSize := fun _ => inferInstanceAs (Decidable (_ ∧ _))

/-- Every frame that was returned has its true size. -/
def TrueSizes (past : List Encoded) : Prop := ∀ encoded ∈ past, encoded.TrueSize

instance (past : List Encoded) : Decidable (TrueSizes past) :=
  inferInstanceAs (Decidable (∀ encoded ∈ past, encoded.TrueSize))

/-- For a turn that waits for a frame, `displayW` and `displayH` are the size of
the buffer that a capture of the display gives. -/
inductive Input where
  | poll (avc420Enabled : Bool) (tx : Watch.Sender (Option DesktopSize))
  | frame (avc420Enabled forced : Bool) (capture : Capture) (displayW displayH : Nat)

/-- The size of the buffer that is encoded, if one is. -/
def bufferSize (updates : MacDisplayUpdates) (capture : Capture) (displayW displayH : Nat) : Nat × Nat :=
  match updates.capture, capture.sample with
  | .sckit _, .image width height _ => (width, height)
  | .sckit _, .ended | .sckit _, .noImage | .cgDisplay, _ => (displayW, displayH)

/-- A stream under the turns of its loop; the events are the encoded frames. -/
def encoding (platform : Platform) : Runs.System MacDisplayUpdates Input Encoded
  | updates, .poll avc420Enabled tx => some ((updates.poll avc420Enabled tx).2, [])
  | updates, .frame avc420Enabled forced capture displayW displayH =>
    (updates.frame platform avc420Enabled forced capture).map fun (next, _, events) =>
      (next, (returnedFrame events).toList.map fun update =>
        let (bufferW, bufferH) := bufferSize updates capture displayW displayH
        { bufferW, bufferH, update })

/-- The encoder gives a frame for the buffer it is handed. -/
def delivers : EncodeOutcome → Bool
  | .delivered data _ => !data.isEmpty
  | .nothing | .failed => false

/-- The encoder was created for the size that the stream is at. -/
def EncoderMatches (updates : MacDisplayUpdates) : Prop :=
  updates.h264Encoder = some ⟨updates.streamSize.width, updates.streamSize.height⟩

instance (updates : MacDisplayUpdates) : Decidable (EncoderMatches updates) :=
  inferInstanceAs (Decidable (_ = _))

/-- The sizes that a stream can tell: those of the frames of ScreenCaptureKit that
fit `u16`, as long as no encoder is missing for the size it is at, and on the
display the size it started with. -/
def SizeKnown (updates : MacDisplayUpdates) (capture : Capture) (displayW displayH : Nat) : Prop :=
  match updates.capture, capture.sample with
  | .sckit _, .image width height _ => width < 65536 ∧ height < 65536 ∧
    (updates.streamSize = ⟨width.toUInt16, height.toUInt16⟩ → EncoderMatches updates)
  | .sckit _, .ended | .sckit _, .noImage => True
  | .cgDisplay, _ =>
    displayW = updates.streamSize.width.toNat ∧ displayH = updates.streamSize.height.toNat

/-- Whenever a frame is encoded and delivered, its size is known. -/
def EncodesKnown (updates : MacDisplayUpdates) : Input → Prop
  | .poll _ _ => True
  | .frame avc420Enabled forced capture displayW displayH =>
    .encode ∈ encoderCalls avc420Enabled forced updates capture → delivers capture.encoded = true →
      SizeKnown updates capture displayW displayH

instance (updates : MacDisplayUpdates) (capture : Capture) (displayW displayH : Nat) :
    Decidable (SizeKnown updates capture displayW displayH) :=
  let decides : ∀ source sample, Decidable
      (SizeKnown { updates with capture := source } { capture with sample } displayW displayH)
    | .sckit _, .image .. => inferInstanceAs (Decidable (_ ∧ _ ∧ (_ → _)))
    | .sckit _, .ended | .sckit _, .noImage => isTrue trivial
    | .cgDisplay, _ => inferInstanceAs (Decidable (_ ∧ _))
  decides updates.capture capture.sample

instance (updates : MacDisplayUpdates) : DecidablePred (EncodesKnown updates)
  | .poll _ _ => isTrue trivial
  | .frame _ _ _ _ _ => inferInstanceAs (Decidable (_ → _ → _))

section Streams
variable {platform : Platform} {avc420Enabled forced flag : Bool} {before updates after : MacDisplayUpdates}
  {capture : Capture} {events : List Display.Event}

/-- Capture, size, mode and encoder of a stream are left alone. -/
structure SameStream (before after : MacDisplayUpdates) : Prop where
  capture : after.capture = before.capture
  streamSize : after.streamSize = before.streamSize
  mode : after.mode = before.mode
  h264Encoder : after.h264Encoder = before.h264Encoder

theorem SameStream.refl (updates : MacDisplayUpdates) : SameStream updates updates :=
  ⟨rfl, rfl, rfl, rfl⟩

theorem SameStream.trans (first : SameStream before updates) (second : SameStream updates after) :
    SameStream before after :=
  ⟨second.capture.trans first.capture, second.streamSize.trans first.streamSize,
    second.mode.trans first.mode, second.h264Encoder.trans first.h264Encoder⟩

private theorem pushFrame_sameStream {frame : PrevFrame}
    (pushed : before.pushFrame platform frame = some (after, events)) : SameStream before after := by
  obtain ⟨pipeline, _, shown⟩ := Option.map_eq_some_iff.mp pushed
  obtain ⟨rfl, rfl⟩ := Prod.mk.inj shown
  exact ⟨rfl, rfl, rfl, rfl⟩

private theorem pushCapture_sameStream {displayBgra : Option PrevFrame}
    (pushed : before.pushCapture platform forced displayBgra = some (after, flag, events)) :
    SameStream before after := by
  cases displayBgra with
  | none =>
    cases pushed
    exact .refl _
  | some frame =>
    obtain ⟨⟨_, shown⟩, queued, same⟩ := Option.map_eq_some_iff.mp pushed
    cases same
    exact pushFrame_sameStream queued

/-- A forced keyframe copies the size of the encoder it replaces. -/
theorem forceKeyframe_sameStream {encoder : VtH264Encoder} (held : updates.h264Encoder = some encoder)
    (forced : Bool) (created : Created) : SameStream updates (updates.forceKeyframe encoder forced created) := by
  unfold MacDisplayUpdates.forceKeyframe
  split
  · exact ⟨rfl, rfl, rfl, held.symm⟩
  · exact .refl _

private theorem handleYcbcrFrame_sameStream (updates : MacDisplayUpdates) (forced : Bool) (lock : Option PrevFrame)
    (capture : Capture) : SameStream updates (updates.handleYcbcrFrame forced lock capture).1 := by
  unfold MacDisplayUpdates.handleYcbcrFrame
  cases held : updates.h264Encoder with
  | none => exact .refl _
  | some encoder =>
    have same := forceKeyframe_sameStream held forced capture.created
    cases lock with
    | none => exact same
    | some frame =>
      dsimp only
      split <;> exact same

private theorem handleImage_sameStream {lock : Option PrevFrame}
    (handled : before.handleImage platform avc420Enabled forced lock capture = some (after, flag, events)) :
    SameStream before after := by
  unfold MacDisplayUpdates.handleImage at handled
  by_cases bitmaps : before.mode = .bgra ∨ avc420Enabled = false
  · rw [if_pos bitmaps] at handled
    cases lock with
    | none =>
      cases handled
      exact .refl _
    | some frame =>
      obtain ⟨⟨_, shown⟩, pushed, same⟩ := Option.map_eq_some_iff.mp handled
      cases same
      exact pushFrame_sameStream pushed
  · rw [if_neg bitmaps] at handled
    have same := handleYcbcrFrame_sameStream before forced lock capture
    rwa [Option.some.inj handled] at same

/-- A stream of the display keeps its size and its encoder for good. -/
theorem cgDisplayFrame_sameStream
    (framed : before.cgDisplayFrame platform avc420Enabled forced capture = some (after, flag, events)) :
    SameStream before after := by
  unfold MacDisplayUpdates.cgDisplayFrame at framed
  by_cases bitmaps : before.mode = .bgra ∨ avc420Enabled = false
  · rw [if_pos bitmaps] at framed
    exact pushCapture_sameStream framed
  · rw [if_neg bitmaps] at framed
    by_cases captured : capture.cvPixelBuffer = true
    · rw [if_pos captured] at framed
      cases held : before.h264Encoder with
      | none =>
        simp only [held] at framed
        exact pushCapture_sameStream framed
      | some encoder =>
        simp only [held] at framed
        have same := forceKeyframe_sameStream held forced capture.created
        split at framed
        · cases framed
          exact same
        · cases framed
          exact same
        · exact same.trans (pushCapture_sameStream framed)
    · rw [if_neg captured] at framed
      exact pushCapture_sameStream framed

private theorem resizeStream_encoder {size : DesktopSize} {created : Created}
    (ok : (before.resizeStream size created).1 = true) (video : before.mode = .h264) :
    (before.resizeStream size created).2.h264Encoder = some ⟨size.width, size.height⟩ := by
  unfold MacDisplayUpdates.resizeStream at ok ⊢
  by_cases made : created.encoder = true
  · simp [made, video]
  · simp [made, video] at ok

private theorem poll_sameStream (updates : MacDisplayUpdates) (avc420Enabled : Bool)
    (tx : Watch.Sender (Option DesktopSize)) : SameStream updates (updates.poll avc420Enabled tx).2 := by
  obtain ⟨size, _, _, ⟨_, polled⟩ | ⟨_, polled⟩⟩ | ⟨_, polled⟩ := poll_cases updates avc420Enabled tx
  · rw [polled]
    exact ⟨rfl, rfl, rfl, rfl⟩
  · rw [polled]
    exact ⟨rfl, rfl, rfl, rfl⟩
  · rw [polled]
    exact ⟨rfl, rfl, rfl, rfl⟩

/-- A recreation that succeeds has created an encoder of the new size. -/
theorem recreateStream_encoder (video : before.mode = .h264) {size : DesktopSize} {created : Created}
    (ok : (before.recreateStream size created).1 = true) :
    (before.recreateStream size created).2.1.h264Encoder = some ⟨size.width, size.height⟩ := by
  unfold MacDisplayUpdates.recreateStream at ok ⊢
  cases source : before.capture with
  | sckit stream =>
    simp only [source] at ok ⊢
    by_cases made : created.stream = true
    · rw [if_pos made] at ok ⊢
      exact resizeStream_encoder ok video
    · rw [if_neg made] at ok
      cases ok
  | cgDisplay =>
    simp only [source] at ok ⊢
    exact resizeStream_encoder ok video

private theorem followFrameSize_encoder (before : MacDisplayUpdates) (video : before.mode = .h264)
    (size : DesktopSize)
    (created : Created) (ok : (before.followFrameSize size created).1 = true) :
    (before.followFrameSize size created).2.1.h264Encoder =
      if before.streamSize = size then before.h264Encoder else some ⟨size.width, size.height⟩ := by
  unfold MacDisplayUpdates.followFrameSize at ok ⊢
  by_cases same : before.streamSize = size
  · simp [same]
  · have different : size ≠ before.streamSize := fun equal => same equal.symm
    rw [if_pos different] at ok ⊢
    rw [if_neg same]
    exact recreateStream_encoder video ok

private theorem encode_not_mem_recreateCalls (updates : MacDisplayUpdates) (created : Created) :
    EncoderCall.encode ∉ recreateCalls updates created := by
  intro member
  have new := (recreateStream_replaces updates updates.streamSize created).only _ member
  cases new

/-- An image is encoded with the stream's encoder, or with a new one when its size is new. -/
theorem sckitFrame_encoder {width height : Nat} {lock : Option PrevFrame} (video : before.mode = .h264)
    (sample : capture.sample = .image width height lock)
    (framed : before.sckitFrame platform avc420Enabled forced capture = some (after, flag, events))
    (called : .encode ∈ sckitCalls avc420Enabled forced before capture) :
    after.h264Encoder = if before.streamSize = ⟨width.toUInt16, height.toUInt16⟩ then before.h264Encoder
      else some ⟨width.toUInt16, height.toUInt16⟩ := by
  simp only [MacDisplayUpdates.sckitFrame, sample] at framed
  simp only [sckitCalls, sample] at called
  have follows := followFrameSize_encoder { before with missedFrames := 0 } video
    ⟨width.toUInt16, height.toUInt16⟩ capture.created
  generalize { before with missedFrames := 0 }.followFrameSize ⟨width.toUInt16, height.toUInt16⟩
    capture.created = result at framed called follows
  obtain ⟨ok, followed, calls⟩ := result
  cases ok with
  | false =>
    simp only [Bool.false_eq_true, ↓reduceIte, List.append_nil] at called
    split at called
    · exact (encode_not_mem_recreateCalls _ _ called).elim
    · cases called
  | true =>
    obtain ⟨⟨_, _, shown⟩, handled, appended⟩ := Option.map_eq_some_iff.mp framed
    cases appended
    exact (handleImage_sameStream handled).h264Encoder.trans (follows rfl)

/-- Only an image of ScreenCaptureKit is encoded. -/
theorem sckitCalls_image (called : .encode ∈ sckitCalls avc420Enabled forced before capture) :
    ∃ width height lock, capture.sample = .image width height lock := by
  unfold sckitCalls at called
  cases sample : capture.sample with
  | ended =>
    rw [sample] at called
    cases called
  | noImage =>
    simp only [sample] at called
    split at called
    · exact (encode_not_mem_recreateCalls _ _ called).elim
    · cases called
  | image width height lock => exact ⟨width, height, lock, rfl⟩

end Streams

section Sizes
variable {platform : Platform} {before after : MacDisplayUpdates} {input : Input} {emitted : List Encoded}

/-- A stream in H.264 mode; one of the display has the encoder it started with. -/
structure Tracks (updates : MacDisplayUpdates) : Prop where
  mode : updates.mode = .h264
  display : updates.capture = .cgDisplay → EncoderMatches updates

/-- The frame that is returned carries the size of the encoder that is left, and
there is one exactly when `encode` is called and delivers. -/
theorem returned_iff {avc420Enabled forced flag : Bool} {capture : Capture} {events : List Display.Event}
    (framed : before.frame platform avc420Enabled forced capture = some (after, flag, events)) :
    if .encode ∈ encoderCalls avc420Enabled forced before capture ∧ delivers capture.encoded = true then
      ∃ encoder update, after.h264Encoder = some encoder ∧ returnedFrame events = some update ∧
        update.width = encoder.width ∧ update.height = encoder.height
    else returnedFrame events = none := by
  have encodes := frame_encodes framed
  generalize encoderCalls avc420Enabled forced before capture = calls at encodes ⊢
  generalize after.h264Encoder = left at encodes ⊢
  generalize returnedFrame events = returned at encodes ⊢
  cases encodes with
  | skip news after replaces =>
    rw [if_neg]
    rintro ⟨called, _⟩
    cases replaces.only _ called
  | encode news encoder replaces =>
    unfold encoded VtH264Encoder.encode
    cases outcome : capture.encoded with
    | nothing => simp [delivers]
    | failed => simp [delivers]
    | delivered data isKeyframe =>
      cases data with
      | nil => simp [delivers]
      | cons byte rest => simp [delivers]

private theorem toNat_eq_iff {value : UInt16} {n : Nat} : value.toNat = n ↔ n < 65536 ∧ value = n.toUInt16 := by
  constructor
  · rintro rfl
    exact ⟨value.toNat_lt, UInt16.ofNat_toNat.symm⟩
  · rintro ⟨small, rfl⟩
    exact UInt16.toNat_ofNat_of_lt' small

/-- A frame of ScreenCaptureKit is given its true size exactly when that is known. -/
theorem image_trueSize_iff {streamSize : DesktopSize} {held : Option VtH264Encoder} {encoder : VtH264Encoder}
    {width height : Nat}
    (left : some encoder = if streamSize = ⟨width.toUInt16, height.toUInt16⟩ then held
      else some ⟨width.toUInt16, height.toUInt16⟩) :
    (encoder.width.toNat = width ∧ encoder.height.toNat = height) ↔
      width < 65536 ∧ height < 65536 ∧ (streamSize = ⟨width.toUInt16, height.toUInt16⟩ →
        held = some ⟨streamSize.width, streamSize.height⟩) := by
  rw [toNat_eq_iff, toNat_eq_iff]
  by_cases same : streamSize = ⟨width.toUInt16, height.toUInt16⟩
  · rw [if_pos same] at left
    subst left
    rw [imp_iff_right same, same, Option.some.injEq, VtH264Encoder.mk.injEq]
    tauto
  · rw [if_neg same] at left
    cases left
    tauto

/-- A stream of ScreenCaptureKit does not turn into one of the display. -/
theorem frame_cgDisplay {avc420Enabled forced flag : Bool} {capture : Capture} {events : List Display.Event}
    (framed : before.frame platform avc420Enabled forced capture = some (after, flag, events))
    (display : after.capture = .cgDisplay) : before.capture = .cgDisplay := by
  have prepared {prepared : MacDisplayUpdates} (prepares : Prepares before prepared)
      (display : prepared.capture = .cgDisplay) : before.capture = .cgDisplay := by
    rcases prepares.capture with kept | ⟨_, _, _, recreated, _⟩
    · exact kept.symm.trans display
    · cases recreated.symm.trans display
  cases frame_moves framed with
  | rest _ calls shown prepares creates unpushed => exact prepared prepares display
  | push _ _ calls shown prepares creates frame captured pushed =>
    exact prepared prepares ((pushFrame_sameStream pushed).capture.symm.trans display)

/-- A captured frame is given its true size, or is not encoded. -/
theorem frame_tracks {avc420Enabled forced flag : Bool} {capture : Capture} {events : List Display.Event}
    (tracks : Tracks before)
    (framed : before.frame platform avc420Enabled forced capture = some (after, flag, events)) : Tracks after := by
  refine ⟨(frame_same framed).1.mode.trans tracks.mode, fun display => ?_⟩
  have source := frame_cgDisplay framed display
  have framed := framed
  unfold MacDisplayUpdates.frame at framed
  rw [source] at framed
  have same := cgDisplayFrame_sameStream framed
  unfold EncoderMatches
  rw [same.h264Encoder, same.streamSize]
  exact tracks.display source

/-- A frame that is encoded and delivered has its true size exactly when that is known. -/
theorem encoded_trueSize_iff {avc420Enabled forced flag : Bool} {capture : Capture} {events : List Display.Event}
    (tracks : Tracks before)
    (framed : before.frame platform avc420Enabled forced capture = some (after, flag, events))
    (called : .encode ∈ encoderCalls avc420Enabled forced before capture) {encoder : VtH264Encoder}
    (left : after.h264Encoder = some encoder) (displayW displayH : Nat) :
    (encoder.width.toNat = (bufferSize before capture displayW displayH).1 ∧
        encoder.height.toNat = (bufferSize before capture displayW displayH).2) ↔
      SizeKnown before capture displayW displayH := by
  unfold MacDisplayUpdates.frame at framed
  unfold encoderCalls at called
  unfold bufferSize SizeKnown
  cases source : before.capture with
  | sckit stream =>
    rw [source] at framed called
    obtain ⟨width, height, lock, sample⟩ := sckitCalls_image called
    have follows := sckitFrame_encoder tracks.mode sample framed called
    rw [left] at follows
    simp only [sample]
    exact image_trueSize_iff follows
  | cgDisplay =>
    rw [source] at framed
    have started := tracks.display source
    unfold EncoderMatches at started
    rw [← (cgDisplayFrame_sameStream framed).h264Encoder, left] at started
    cases started
    dsimp only
    exact and_congr eq_comm eq_comm

/-- A turn returns frames of their true size exactly when the sizes it encodes are known. -/
theorem encoding_iff (tracks : Tracks before) (stepped : encoding platform before input = some (after, emitted)) :
    Tracks after ∧ (TrueSizes emitted ↔ EncodesKnown before input) := by
  cases input with
  | poll avc420Enabled tx =>
    cases stepped
    have same := poll_sameStream before avc420Enabled tx
    refine ⟨⟨same.mode.trans tracks.mode, fun display => ?_⟩, iff_of_true (List.forall_mem_nil _) trivial⟩
    unfold EncoderMatches
    rw [same.h264Encoder, same.streamSize]
    exact tracks.display (same.capture.symm.trans display)
  | frame avc420Enabled forced capture displayW displayH =>
    obtain ⟨⟨_, flag, events⟩, framed, same⟩ := Option.map_eq_some_iff.mp stepped
    cases same
    refine ⟨frame_tracks tracks framed, ?_⟩
    have returned := returned_iff framed
    by_cases shown : .encode ∈ encoderCalls avc420Enabled forced before capture ∧ delivers capture.encoded = true
    · rw [if_pos shown] at returned
      obtain ⟨encoder, update, left, returned, width, height⟩ := returned
      have known := encoded_trueSize_iff tracks framed shown.1 left displayW displayH
      have condition : EncodesKnown before (.frame avc420Enabled forced capture displayW displayH) ↔
          SizeKnown before capture displayW displayH := by
        simp only [EncodesKnown, shown.1, shown.2, forall_const]
      rw [condition, ← known, returned]
      simp [TrueSizes, Encoded.TrueSize, width, height]
    · rw [if_neg shown] at returned
      rw [returned]
      exact iff_of_true (List.forall_mem_nil _) fun called delivered => (shown ⟨called, delivered⟩).elim

end Sizes

/-- **H.264 frames carry their true size exactly when a stream knows the size of
what it encodes**, for both capture sources, whatever is forced or resized. -/
theorem frames_carry_true_size_iff (platform : Platform) (streamSize targetSize : DesktopSize)
    (aspectMode : AspectMode) (resizeRx : Watch.Receiver) (useCgDisplay : Bool) (created : Created)
    (updates : MacDisplayUpdates)
    (started : MacDisplayUpdates.start streamSize targetSize .h264 aspectMode resizeRx useCgDisplay created =
      some updates) {inputs : List Input} {final : MacDisplayUpdates} {events : List Encoded}
    (ran : Runs.run (encoding platform) updates inputs = some (final, events)) :
    TrueSizes events ↔
      Runs.Meets (encoding platform) (fun _ => EncodesKnown) [] updates inputs := by
  have tracks : Tracks updates := by
    obtain ⟨capture, _, started⟩ := Option.bind_eq_some_iff.mp started
    obtain ⟨encoder, made, rfl⟩ := Option.map_eq_some_iff.mp started
    refine ⟨rfl, fun _ => ?_⟩
    unfold MacDisplayUpdates.startEncoder at made
    dsimp only at made
    split at made
    · cases made
      rfl
    · cases made
  have whole : TrueSizes ([] ++ events) ↔
      TrueSizes [] ∧ Runs.Meets (encoding platform) (fun _ => EncodesKnown) [] updates inputs := by
    apply Runs.history_iff_meets TrueSizes (fun updates _ => Tracks updates)
    · intro _ past _ _ _ tracks stepped
      exact List.forall_mem_append.trans (and_congr_right fun _ => (encoding_iff tracks stepped).2)
    · exact fun _ _ _ _ _ tracks stepped => (encoding_iff tracks stepped).1
    · exact tracks
    · exact ran
  exact whole.trans (and_iff_right (List.forall_mem_nil _))

/-- A frame of ScreenCaptureKit that the encoder takes. -/
def encodedImage (width height : Nat) : Capture where
  sample := .image width height (some ⟨[], 0, 0, 0⟩)
  displayBgra := none
  cvPixelBuffer := false
  created := ⟨true, true⟩
  encoded := .delivered [1] true

/-- The display changes twice under a stream of ScreenCaptureKit. -/
def changingDisplay : List Input :=
  [.frame true false (encodedImage 1440 900) 0 0, .frame true false (encodedImage 1920 1200) 0 0,
    .frame true true (encodedImage 1024 768) 0 0]

/-- A display that changes its size while it is encoded. -/
theorem changing_display_is_followed : ∃ updates final events,
    MacDisplayUpdates.start ⟨1440, 900⟩ ⟨1440, 900⟩ .h264 .fit ⟨0⟩ false ⟨true, true⟩ = some updates ∧
      Runs.run (encoding exactPlatform) updates changingDisplay = some (final, events) ∧
      TrueSizes events := by
  obtain ⟨updates, started⟩ : ∃ updates, MacDisplayUpdates.start ⟨1440, 900⟩ ⟨1440, 900⟩ .h264 .fit ⟨0⟩ false
    ⟨true, true⟩ = some updates := ⟨_, rfl⟩
  have succeeds : (Runs.run (encoding exactPlatform) updates changingDisplay).isSome := by
    cases started
    decide
  obtain ⟨⟨final, events⟩, ran⟩ := Option.isSome_iff_exists.mp succeeds
  refine ⟨updates, final, events, started, ran,
    (frames_carry_true_size_iff exactPlatform _ _ _ _ _ _ updates started ran).mpr ?_⟩
  cases started
  decide

/-- A stream of the display goes on with the encoder of 1440×900 when the display
changes to 1024×768. -/
theorem changed_display_is_mislabelled : ∃ updates final events,
    MacDisplayUpdates.start ⟨1440, 900⟩ ⟨1440, 900⟩ .h264 .fit ⟨0⟩ true ⟨true, true⟩ = some updates ∧
      Runs.run (encoding exactPlatform) updates
        [.frame true false { EncoderSession.displayCapture with encoded := .delivered [1] true } 1024 768] =
          some (final, events) ∧
      ¬TrueSizes events :=
  ⟨_, _, _, rfl, rfl, by decide⟩

end Osxrdp.EncodedSizes
