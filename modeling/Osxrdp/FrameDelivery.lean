import Osxrdp.SurfaceDelivery

/-! From a captured frame to the picture of a client without graphics extensions:
the pipeline of the display, the encoder with its framebuffer, the fragments on
the wire and the stream that arrives in pieces. -/
namespace Osxrdp.FrameDelivery
open FramePipeline FramePipeline.BgraFramePipeline
open DisplayEncoder (FindDifferentRectsSub UpdateEncoder noneHandle)
open EncoderConvergence (FindsSubDifferences OnDesktop encode)
open FrameConvergence
open Framebuffers (Readable sub_spec)
open Raster (Rect Picture paint paintAll)
open Runs (run run_step)
open SurfaceDelivery (Carries applyMessage)
open UpdateFragments (Message UpdateFragmenter clientReceives clientReceives_frames run_send send)

section Pipeline
variable {platform : Platform} {mode : AspectMode} {desktop target : DesktopSize}
  {last : Option (DesktopSize × PrevFrame)} {pipeline : BgraFramePipeline} {popped : List BitmapUpdate}
  {frame src : PrevFrame} {bitmap : BitmapUpdate}

/-- A size no larger than the desktop. -/
def Small (desktop size : DesktopSize) : Prop :=
  size.width.toNat ≤ desktop.width.toNat ∧ size.height.toNat ≤ desktop.height.toNat

/-- Calls that show nothing outside the desktop: fitted frames get the size of the
target, native ones keep their own. -/
def StaysOn (mode : AspectMode) (desktop : DesktopSize) : Call → Prop
  | .pushFrame src =>
    mode = .native → src.width ≤ desktop.width.toNat ∧ src.height ≤ desktop.height.toNat
  | .setTarget size => mode = .fit → Small desktop size
  | .popUpdate | .reset => True

/-- What was popped and what is queued lie on the desktop. -/
structure Ready (fl : Rounding 53) (mode : AspectMode) (desktop target : DesktopSize)
    (last : Option (DesktopSize × PrevFrame)) (pipeline : BgraFramePipeline)
    (popped : List BitmapUpdate) : Prop extends Converging fl mode target last pipeline popped where
  small : mode = .fit → Small desktop target
  onDesktop : ∀ update ∈ popped ++ pipeline.pending, OnDesktop desktop update

private theorem makeBitmap_onDesktop (valid : frame.Valid) (width : frame.width ≤ desktop.width.toNat)
    (height : frame.height ≤ desktop.height.toNat) (made : makeBitmap frame = some bitmap) :
    OnDesktop desktop bitmap := by
  obtain ⟨_, remade, originX, originY, widthEq, heightEq, dataEq, strideEq⟩ := makeBitmap_valid valid
  obtain rfl := Option.some.inj (made.symm.trans remade)
  have strideLe := valid.stride_le
  have dataLe := valid.data_le
  have widthLe := valid.width_le
  have heightLe := valid.height_le
  refine ⟨⟨?_, ?_, ?_, ?_⟩, ?_, ?_⟩ <;> simp only [widthEq, heightEq, dataEq, strideEq, originX, originY,
    UInt16.toNat_zero, Nat.zero_add] <;> assumption

private theorem queueRect_onDesktop (onDesktop : OnDesktop desktop bitmap) {pending queued : List BitmapUpdate}
    (held : ∀ update ∈ pending, OnDesktop desktop update) {rect : Rect}
    (inside : rect.InArea bitmap.width.val.toNat bitmap.height.val.toNat)
    (ran : queueRect bitmap pending rect = some queued) : ∀ update ∈ queued, OnDesktop desktop update := by
  have right := onDesktop.readable.right_le
  have bottom := onDesktop.readable.bottom_le
  have within := inside
  obtain ⟨_, _, inRight, inBottom⟩ := within
  unfold queueRect at ran
  split at ran
  · rename_i width height madeWidth madeHeight
    obtain ⟨part, cut, isPart⟩ := sub_spec onDesktop.readable rect (toUInt16_toNat (by omega))
      (toUInt16_toNat (by omega)) (toNat_of_nonZeroU16 madeWidth (by omega))
        (toNat_of_nonZeroU16 madeHeight (by omega)) inside
    rw [cut] at ran
    obtain rfl := Option.some.inj ran
    exact List.forall_mem_append.mpr ⟨held, List.forall_mem_singleton.mpr (onDesktop.of_part isPart inside)⟩
  · obtain rfl := Option.some.inj ran
    exact held

private theorem queueRects_onDesktop (onDesktop : OnDesktop desktop bitmap) {rects : List Rect}
    (inside : ∀ rect ∈ rects, rect.InArea bitmap.width.val.toNat bitmap.height.val.toNat)
    {pending queued : List BitmapUpdate} (held : ∀ update ∈ pending, OnDesktop desktop update)
    (ran : rects.foldlM (queueRect bitmap) pending = some queued) : ∀ update ∈ queued, OnDesktop desktop update := by
  induction rects generalizing pending with
  | nil =>
    obtain rfl := Option.some.inj ran
    exact held
  | cons rect rest ih =>
    obtain ⟨inside, insideRest⟩ := List.forall_mem_cons.mp inside
    rw [List.foldlM_cons] at ran
    obtain ⟨middle, first, later⟩ := Option.bind_eq_some_iff.mp ran
    exact ih insideRest (queueRect_onDesktop onDesktop held inside first) later

private theorem queueChanges_onDesktop (onDesktop : OnDesktop desktop bitmap) {prev : PrevFrame}
    (inside : ∀ rect ∈ platform.findDifferentRectsSub prev frame,
      rect.InArea bitmap.width.val.toNat bitmap.height.val.toNat)
    (held : ∀ update ∈ pipeline.pending, OnDesktop desktop update) {next : BgraFramePipeline}
    (ran : queueChanges platform pipeline prev frame bitmap = some next) :
    ∀ update ∈ next.pending, OnDesktop desktop update := by
  unfold queueChanges at ran
  dsimp only at ran
  split at ran
  · obtain rfl := Option.some.inj ran
    exact held
  · split at ran
    · obtain rfl := Option.some.inj ran
      exact List.forall_mem_append.mpr ⟨held, List.forall_mem_singleton.mpr onDesktop⟩
    · obtain ⟨queued, looped, rfl⟩ := Option.map_eq_some_iff.mp ran
      exact queueRects_onDesktop onDesktop inside held looped

/-- The frame that a push shows is no larger than the desktop. -/
theorem transform_small (valid : src.Valid) (nonzero : NonZero target) (small : mode = .fit → Small desktop target)
    (stays : StaysOn mode desktop (.pushFrame src)) (fl : Rounding 53) :
    ∃ frame, transformFrame fl mode target src = some frame ∧ frame.Valid ∧
      frame.width ≤ desktop.width.toNat ∧ frame.height ≤ desktop.height.toNat := by
  unfold transformFrame
  cases mode with
  | native => exact ⟨src, by simp [needsCropScale], valid, stays rfl⟩
  | fit =>
    have ⟨smallWidth, smallHeight⟩ := small rfl
    split
    · obtain ⟨image, produced, width, height, _, imageValid, _⟩ :=
        Letterbox.letterbox_image fl target nonzero.1 nonzero.2 src valid.toReadable
      exact ⟨image, produced, imageValid, width ▸ smallWidth, height ▸ smallHeight⟩
    · rename_i same
      simp only [needsCropScale, ne_eq, not_true, if_false, bne_iff_ne, Bool.or_eq_true, not_or, not_not] at same
      exact ⟨src, rfl, valid, same.1 ▸ smallWidth, same.2 ▸ smallHeight⟩

private theorem push_onDesktop (finds : FindsDifferences platform.findDifferentRectsSub)
    (ready : Ready platform.fl mode desktop target last pipeline popped) (valid : src.Valid)
    (stays : StaysOn mode desktop (.pushFrame src)) {next : BgraFramePipeline}
    (ran : pipeline.pushFrame platform src = some next) :
    ∀ update ∈ next.pending, OnDesktop desktop update := by
  obtain ⟨frame, transformed, frameValid, width, height⟩ :=
    transform_small valid ready.nonzero ready.small stays platform.fl
  obtain ⟨bitmap, made, _, _, widthEq, heightEq, _⟩ := makeBitmap_valid frameValid
  have onDesktop := makeBitmap_onDesktop frameValid width height made
  have held := (List.forall_mem_append.mp ready.onDesktop).2
  have whole : ∀ update ∈ pipeline.pending ++ [bitmap], OnDesktop desktop update :=
    List.forall_mem_append.mpr ⟨held, List.forall_mem_singleton.mpr onDesktop⟩
  simp only [pushFrame, ready.mode_eq, ready.target_eq, transformed, Option.bind_some, made] at ran
  cases before : pipeline.prev with
  | none =>
    rw [before] at ran
    obtain rfl := Option.some.inj ran
    exact whole
  | some prev =>
    simp only [before] at ran
    split at ran
    · obtain rfl := Option.some.inj ran
      exact whole
    · rename_i sameSize
      rw [not_or, not_not, not_not] at sameSize
      have prevValid := (ready.toConverging.prev_shown before).1
      obtain ⟨_, inside, _⟩ := finds prev frame prevValid frameValid sameSize.1 sameSize.2
      rw [← widthEq, ← heightEq] at inside
      exact queueChanges_onDesktop onDesktop inside held ran

/-- The target that a call leaves. -/
def targetAfter (target : DesktopSize) : Call → DesktopSize
  | .setTarget size => size
  | _ => target

private theorem step_ready (finds : FindsDifferences platform.findDifferentRectsSub)
    (ready : Ready platform.fl mode desktop target last pipeline popped) {call : Call} (valid : call.Valid)
    (stays : StaysOn mode desktop call) :
    ∃ next events, step platform pipeline call = some (next, events) ∧
      Ready platform.fl mode desktop (targetAfter target call) (lastPush target last [call]) next
        (popped ++ events) := by
  cases call with
  | pushFrame src =>
    obtain ⟨next, pushed, converging⟩ := push_converges finds ready.toConverging valid
    have poppedOn := (List.forall_mem_append.mp ready.onDesktop).1
    refine ⟨next, [], by simp [step, pushed], ?_, ready.small, ?_⟩
    · rw [List.append_nil]
      exact converging
    · rw [List.append_nil]
      exact List.forall_mem_append.mpr ⟨poppedOn, push_onDesktop finds ready valid stays pushed⟩
  | popUpdate =>
    refine ⟨_, _, rfl, pop_converges ready.toConverging, ready.small, ?_⟩
    have onDesktop := ready.onDesktop
    unfold popUpdate
    split
    · simpa using onDesktop
    · rename_i update rest queued
      rw [queued] at onDesktop
      simpa using onDesktop
  | setTarget size =>
    refine ⟨pipeline.setTarget size, [], rfl, ?_, stays, ?_⟩
    · rw [List.append_nil]
      exact ⟨ready.mode_eq, rfl, valid, ready.cleared, ready.shown⟩
    · rw [List.append_nil]
      exact ready.onDesktop
  | reset =>
    refine ⟨pipeline.reset, [], rfl, ?_, ready.small, ?_⟩
    · exact ⟨ready.mode_eq, ready.target_eq, ready.nonzero, fun _ => rfl, fun _ _ never => by cases never⟩
    · have poppedOn := (List.forall_mem_append.mp ready.onDesktop).1
      simpa [BgraFramePipeline.reset] using poppedOn

private theorem run_ready (finds : FindsDifferences platform.findDifferentRectsSub) (calls : List Call)
    (valid : ∀ call ∈ calls, call.Valid ∧ StaysOn mode desktop call)
    (ready : Ready platform.fl mode desktop target last pipeline popped) :
    ∃ final events, run (step platform) pipeline calls = some (final, events) ∧
      ∃ target', Ready platform.fl mode desktop target' (lastPush target last calls) final
        (popped ++ events) := by
  induction calls generalizing target last pipeline popped with
  | nil => exact ⟨pipeline, [], rfl, target, by simpa [lastPush] using ready⟩
  | cons call calls ih =>
    obtain ⟨⟨validCall, staysCall⟩, validRest⟩ := List.forall_mem_cons.mp valid
    obtain ⟨next, first, stepped, held⟩ := step_ready finds ready validCall staysCall
    obtain ⟨final, later, ran, target', ended⟩ := ih validRest held
    have pushes : lastPush (targetAfter target call) (lastPush target last [call]) calls =
        lastPush target last (call :: calls) := by
      cases call <;> rfl
    rw [pushes, List.append_assoc] at ended
    exact ⟨final, first ++ later, run_step stepped ran, target', ended⟩

end Pipeline

section Client
variable {messages : List Message} {sent : List UpdateFragmenter} {parts : List BitmapUpdate}

/-- An update as it is handed to the writer. -/
def message (fragmenter : UpdateFragmenter) : Message := .update fragmenter.code fragmenter.data

/-- Whether a message is a drawing order; pointers and packets are none. -/
def draws : Message → Bool
  | .packet _ => false
  | .update code _ => match code with
    | .orders | .bitmap | .palette | .synchronize | .surfaceCommands => true
    | _ => false

private theorem applyMessage_quiet {message : Message} (quiet : draws message = false) (picture : Picture Bytes) :
    applyMessage picture message = some picture := by
  cases message with
  | packet _ => rfl
  | update code data => cases code <;> first | rfl | cases quiet

/-- A client that gets the drawing orders in order paints the parts they carry. -/
theorem apply_paints (carried : List.Forall₂ Carries sent parts) (drawn : messages.filter draws = sent.map message)
    (picture : Picture Bytes) :
    (messages.filter Message.isSent).foldlM applyMessage picture =
      some (paintAll (parts.map BitmapUpdate.patch) picture) := by
  induction messages generalizing sent parts picture with
  | nil =>
    obtain rfl := List.map_eq_nil_iff.mp drawn.symm
    cases carried
    rfl
  | cons first rest ih =>
    by_cases drawing : draws first = true
    · rw [List.filter_cons_of_pos drawing] at drawn
      cases carried with
      | nil => cases drawn
      | @cons fragmenter part later partsLater carries carriedRest =>
        rw [List.map_cons, List.cons.injEq] at drawn
        obtain ⟨rfl, drawnRest⟩ := drawn
        obtain ⟨nonempty, paints⟩ := carries
        have isSent : Message.isSent (message fragmenter) = true := by
          simpa [message, Message.isSent] using nonempty
        rw [List.filter_cons_of_pos isSent, List.foldlM_cons, message, paints picture]
        exact ih carriedRest drawnRest _
    · rw [List.filter_cons_of_neg drawing] at drawn
      have rest := ih carried drawn picture
      cases isSent : first.isSent with
      | false => rwa [List.filter_cons_of_neg (by rw [isSent]; exact Bool.false_ne_true)]
      | true =>
        rw [List.filter_cons_of_pos isSent, List.foldlM_cons,
          applyMessage_quiet (Bool.eq_false_iff.mpr drawing) picture]
        exact rest

end Client

/-- **The last frame reaches the client.** Captured frames are letterboxed, compared,
queued, cut to what the framebuffer does not show, written in fragments among any
packets and pointers, and read from a stream cut anywhere. Once the queue is drained,
the client shows the transformed last frame over its whole area. -/
theorem last_frame_reaches_the_client (platform : Platform)
    (findsFrames : FindsDifferences platform.findDifferentRectsSub) {find : FindDifferentRectsSub}
    (findsParts : FindsSubDifferences find) {encodeVec : Gfx.EncodeVec} (allocates : Gfx.Allocates encodeVec)
    {desktop : DesktopSize} (pixels : 4 * (desktop.width.toNat * desktop.height.toNat) < UInt32.size)
    (mode : AspectMode) {target : DesktopSize} (nonzero : NonZero target)
    (small : mode = .fit → Small desktop target) (calls : List Call)
    (valid : ∀ call ∈ calls, call.Valid ∧ StaysOn mode desktop call) :
    ∃ pipeline popped encoder sent,
      run (step platform) (BgraFramePipeline.new target mode) calls = some (pipeline, popped) ∧
      run (encode (noneHandle encodeVec) find) (UpdateEncoder.new desktop ()) popped = some (encoder, sent) ∧
      ∀ messages buffer, (∀ message ∈ messages, message.Fits) → messages.filter draws = sent.map message →
        ∃ after written, run send buffer messages = some (after, written) ∧
          ∀ pieces, pieces.flatten = written.flatten → ∃ received, clientReceives pieces = some received ∧
            ∀ blank, ∃ picture, received.foldlM applyMessage blank = some picture ∧
              (pipeline.pending = [] → ∀ size src, lastPush target none calls = some (size, src) →
                ∃ frame, transformFrame platform.fl mode size src = some frame ∧
                  ∀ column < frame.width, ∀ row < frame.height,
                    picture column row = frame.picture column row) := by
  have start : Ready platform.fl mode desktop target none (BgraFramePipeline.new target mode) [] :=
    ⟨⟨rfl, rfl, nonzero, fun _ => rfl, fun _ _ never => by cases never⟩, small, List.forall_mem_nil _⟩
  obtain ⟨pipeline, popped, ran, _, ready⟩ := run_ready findsFrames calls valid start
  have onDesktop := (List.forall_mem_append.mp ready.onDesktop).1
  have follows : EncoderConvergence.Follows desktop (UpdateEncoder.new desktop ()) [] :=
    ⟨rfl, rfl, fun _ never => by cases never⟩
  obtain ⟨encoder, sent, parts, encoded, carried, paints, _⟩ := EncoderConvergence.run_sends
    (SurfaceDelivery.noneHandle_carries allocates pixels) findsParts follows onDesktop
  refine ⟨pipeline, popped, encoder, sent, ran, encoded, fun messages buffer fits drawn => ?_⟩
  obtain ⟨after, frames, written, sendable, completes⟩ := run_send buffer fits
  refine ⟨after, _, written, fun pieces whole =>
    ⟨_, clientReceives_frames sendable completes whole, fun blank => ⟨_, apply_paints carried drawn blank, ?_⟩⟩⟩
  intro drained size src pushed
  obtain ⟨frame, transformed, _, _, shown⟩ := ready.shown size src pushed
  rw [drained, List.append_nil] at shown
  refine ⟨frame, transformed, fun column inColumns row inRows => ?_⟩
  have same := paints blank
  simp only [List.map_nil, Raster.paintAll, List.foldl_nil, List.nil_append] at same
  have shows := shown blank column inColumns row inRows
  rw [Raster.paintAll] at shows ⊢
  rw [same]
  exact shows

/-- A 1×1 frame on a 2×1 desktop, then another once the target follows it. -/
def shrinkingCalls : List Call :=
  [.pushFrame ⟨[1, 2, 3, 255], 4, 1, 1⟩, .popUpdate, .setTarget ⟨1, 1⟩, .pushFrame ⟨[4, 5, 6, 255], 4, 1, 1⟩,
    .popUpdate]

/-- A target that shrinks while updates are queued. -/
theorem shrinking_frame_reaches_the_client :
    ∃ pipeline popped encoder sent,
      run (step exactPlatform) (BgraFramePipeline.new ⟨2, 1⟩ .fit) shrinkingCalls = some (pipeline, popped) ∧
      run (encode (noneHandle Gfx.zeroedBuffer) EncoderConvergence.onePiece) (UpdateEncoder.new ⟨2, 1⟩ ()) popped =
        some (encoder, sent) ∧
      ∀ messages buffer, (∀ message ∈ messages, message.Fits) → messages.filter draws = sent.map message →
        ∃ after written, run send buffer messages = some (after, written) ∧
          ∀ pieces, pieces.flatten = written.flatten → ∃ received, clientReceives pieces = some received ∧
            ∀ blank, ∃ picture, received.foldlM applyMessage blank = some picture ∧
              (pipeline.pending = [] → ∀ size src, lastPush ⟨2, 1⟩ none shrinkingCalls = some (size, src) →
                ∃ frame, transformFrame exactPlatform.fl .fit size src = some frame ∧
                  ∀ column < frame.width, ∀ row < frame.height,
                    picture column row = frame.picture column row) :=
  last_frame_reaches_the_client exactPlatform singleTileDiff_finds EncoderConvergence.onePiece_finds
    Gfx.zeroedBuffer_allocates (by decide) .fit (by simp [NonZero]) (fun _ => by simp [Small]) shrinkingCalls (by
      have small (a b c d : UInt8) : PrevFrame.Valid ⟨[a, b, c, d], 4, 1, 1⟩ := by
        refine ⟨⟨?_, ?_, ?_, ?_⟩, ?_, ?_⟩ <;> simp
      simp [shrinkingCalls, Call.Valid, StaysOn, NonZero, Small, small])

end Osxrdp.FrameDelivery
