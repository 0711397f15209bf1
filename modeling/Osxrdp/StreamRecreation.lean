import Osxrdp.DisplaySteps

/-! `recreate_stream` stops the old capture stream before it creates the new
one, and adopts the new size before it creates the encoder. Each early return
leaves what was done so far in place, and its callers only log the error. -/
namespace Osxrdp.StreamRecreation
open Display

/-- The size that the capture stream is configured for. -/
def configuredSize (updates : MacDisplayUpdates) : Option DesktopSize :=
  match updates.capture with
  | .sckit stream => some ⟨stream.width, stream.height⟩
  | .cgDisplay => none

/-- The stream captures. -/
def running (updates : MacDisplayUpdates) : Bool :=
  match updates.capture with
  | .sckit stream => stream.running
  | .cgDisplay => false

/-- Stream, `stream_size` and, in H.264 mode, encoder agree on a size. -/
structure AgreesOn (size : DesktopSize) (updates : MacDisplayUpdates) : Prop where
  configured : configuredSize updates = some size
  streamSize : updates.streamSize = size
  encoder : updates.mode = .h264 → updates.h264Encoder = some ⟨size.width, size.height⟩

/-- What a recreation may leave behind: a running stream, at the new size with a
reset pipeline if it succeeds, and at the size from before if it does not. -/
structure AllOrNothing (before : MacDisplayUpdates) (size : DesktopSize) (ok : Bool)
    (after : MacDisplayUpdates) : Prop where
  running : running after = true
  all : ok = true → AgreesOn size after ∧ after.bgraPipeline = before.bgraPipeline.reset
  nothing : ok = false → ∃ old, AgreesOn old before ∧ AgreesOn old after

/-- Nothing can go wrong with the encoder, or nothing changes when it does. -/
def EncoderSettled (before : MacDisplayUpdates) (size : DesktopSize) (created : Created) : Prop :=
  before.mode = .h264 → created.encoder = true ∨ AgreesOn size before

section Outcomes
variable {before : MacDisplayUpdates} {stream : AsyncSCStream} {size : DesktopSize} {created : Created}

private theorem resizeStream_ok (before : MacDisplayUpdates) (size : DesktopSize)
    (needed : before.mode = .h264 → created.encoder = true) :
    (before.resizeStream size created).1 = true ∧
      (before.resizeStream size created).2.capture = before.capture ∧
      (before.resizeStream size created).2.streamSize = size ∧
      ((before.resizeStream size created).2.mode = .h264 →
        (before.resizeStream size created).2.h264Encoder = some ⟨size.width, size.height⟩) ∧
      (before.resizeStream size created).2.bgraPipeline = before.bgraPipeline.reset := by
  unfold MacDisplayUpdates.resizeStream
  by_cases video : before.mode = .h264
  · simp [video, needed video]
  · simp [video]

/-- What a recreation leaves when it succeeds. -/
theorem recreateStream_all (source : before.capture = .sckit stream) (madeStream : created.stream = true)
    (needed : before.mode = .h264 → created.encoder = true) :
    AllOrNothing before size (before.recreateStream size created).1 (before.recreateStream size created).2.1 := by
  simp only [MacDisplayUpdates.recreateStream, source, madeStream, ↓reduceIte]
  obtain ⟨ok, capture, streamSize, encoder, reset⟩ :=
    resizeStream_ok { before with capture := .sckit { stream with
      width := size.width, height := size.height, mode := before.mode, running := true } } size needed
  refine ⟨?_, fun _ => ⟨⟨?_, streamSize, encoder⟩, reset⟩, fun failed => ?_⟩
  · rw [running, capture]
  · rw [configuredSize, capture]
  · rw [ok] at failed
    cases failed

/-- A recreation whose encoder fails leaves everything as it was only if the size
was the new one already. -/
theorem recreateStream_nothing_iff (source : before.capture = .sckit stream) (madeStream : created.stream = true)
    (video : before.mode = .h264) (failed : created.encoder = false) :
    AllOrNothing before size (before.recreateStream size created).1 (before.recreateStream size created).2.1 ↔
      AgreesOn size before := by
  have recreated : before.recreateStream size created =
      (false, { before with
        capture := .sckit { stream with
          width := size.width, height := size.height, mode := before.mode, running := true },
        streamSize := size }, [.createStream]) := by
    simp only [MacDisplayUpdates.recreateStream, source, madeStream, ↓reduceIte,
      MacDisplayUpdates.resizeStream, video, failed, Bool.false_eq_true]
  rw [recreated]
  constructor
  · intro settled
    obtain ⟨old, agreed, agrees⟩ := settled.nothing rfl
    have same : size = old := Option.some.inj agrees.configured
    rw [same]
    exact agreed
  · intro agreed
    exact ⟨rfl, nofun, fun _ => ⟨size, agreed, rfl, rfl, agreed.encoder⟩⟩

end Outcomes

/-- **A recreation is all or nothing exactly when the stream can be created, and
in H.264 mode the encoder too, unless nothing was to change.** -/
theorem recreate_stream_all_or_nothing_iff (before : MacDisplayUpdates) (stream : AsyncSCStream)
    (source : before.capture = .sckit stream) (size : DesktopSize) (created : Created) :
    AllOrNothing before size (before.recreateStream size created).1 (before.recreateStream size created).2.1 ↔
      created.stream = true ∧ EncoderSettled before size created := by
  by_cases madeStream : created.stream = true
  · rw [and_iff_right madeStream]
    by_cases needed : before.mode = .h264 → created.encoder = true
    · exact iff_of_true (recreateStream_all source madeStream needed) fun video => .inl (needed video)
    · have video : before.mode = .h264 := by
        by_contra bitmaps
        exact needed fun video => (bitmaps video).elim
      have failed : created.encoder = false := by
        by_contra made
        exact needed fun _ => Bool.eq_true_of_not_eq_false made
      rw [recreateStream_nothing_iff source madeStream video failed, EncoderSettled, imp_iff_right video, failed]
      simp only [Bool.false_eq_true, false_or]
  · refine iff_of_false ?_ fun both => madeStream both.1
    intro settled
    have stopped := settled.running
    simp [MacDisplayUpdates.recreateStream, source, madeStream, running] at stopped

/-- A stream of the display, encoded. -/
def encodedStream : MacDisplayUpdates where
  capture := .sckit ⟨1440, 900, .h264, true⟩
  streamSize := ⟨1440, 900⟩
  targetSize := ⟨1440, 900⟩
  mode := .h264
  bgraPipeline := .new ⟨1440, 900⟩ .fit
  resizeRx := ⟨0⟩
  h264Encoder := some ⟨1440, 900⟩
  missedFrames := 0

/-- A stream that stalls, with an encoder that cannot be made. -/
theorem stalled_stream_is_recreated :
    AllOrNothing encodedStream ⟨1440, 900⟩ (encodedStream.recreateStream ⟨1440, 900⟩ ⟨true, false⟩).1
      (encodedStream.recreateStream ⟨1440, 900⟩ ⟨true, false⟩).2.1 :=
  (recreate_stream_all_or_nothing_iff encodedStream _ rfl ⟨1440, 900⟩ ⟨true, false⟩).mpr
    ⟨rfl, fun _ => .inr ⟨rfl, rfl, fun _ => rfl⟩⟩

/-- The display grows, the stream follows and the encoder cannot be created. -/
theorem failed_encoder_leaves_new_size :
    ¬AllOrNothing encodedStream ⟨1920, 1200⟩ (encodedStream.recreateStream ⟨1920, 1200⟩ ⟨true, false⟩).1
      (encodedStream.recreateStream ⟨1920, 1200⟩ ⟨true, false⟩).2.1 := by
  intro settled
  obtain ⟨old, agreed, agrees⟩ := settled.nothing rfl
  have same : (⟨1440, 900⟩ : DesktopSize) = ⟨1920, 1200⟩ := agreed.streamSize.trans agrees.streamSize.symm
  exact absurd same (by decide)

/-- The next frame of the new size is taken to match, and its encoder is not
created again. -/
theorem failed_encoder_is_not_retried (before : MacDisplayUpdates) (stream : AsyncSCStream)
    (source : before.capture = .sckit stream) (size : DesktopSize) (created : Created)
    (madeStream : created.stream = true) (again : Created) :
    let after := (before.recreateStream size created).2.1
    after.followFrameSize size again = (true, after, []) := by
  have adopted : (before.recreateStream size created).2.1.streamSize = size := by
    simp only [MacDisplayUpdates.recreateStream, source, madeStream, ↓reduceIte,
      MacDisplayUpdates.resizeStream]
    split
    · split <;> rfl
    · rfl
  simp only [MacDisplayUpdates.followFrameSize, adopted, ne_eq, not_true_eq_false, ↓reduceIte]

end Osxrdp.StreamRecreation
