import Osxrdp.Display

/-! What each step of the display can do, said once: which fields it may change
and which events it may emit. The results about whole runs start from here. -/
namespace Osxrdp.DisplaySteps
open Display DisplayMode FramePipeline
open Watch (Sender Receiver)

section Streams

/-- Two moments of a stream with the same target and the same receiver. -/
structure SameTarget (before after : MacDisplayUpdates) : Prop where
  targetSize : after.targetSize = before.targetSize
  pipelineTarget : after.bgraPipeline.targetSize = before.bgraPipeline.targetSize
  mode : after.mode = before.mode
  resizeRx : after.resizeRx = before.resizeRx

/-- What a stream shows when it neither resizes nor starts a capture. -/
def Quiet : Event → Prop
  | .update update => update.isResize = false
  | .ended | .failed => True
  | .size _ | .started _ | .createStream | .sent _ | .modeChanged => False

variable {platform : Platform} {avc420Enabled forced flag : Bool} {tx : Sender (Option DesktopSize)}
  {before updates after : MacDisplayUpdates} {capture : Capture} {events : List Event}

theorem SameTarget.refl (updates : MacDisplayUpdates) : SameTarget updates updates :=
  ⟨rfl, rfl, rfl, rfl⟩

theorem SameTarget.trans (first : SameTarget before updates) (second : SameTarget updates after) :
    SameTarget before after :=
  ⟨second.targetSize.trans first.targetSize, second.pipelineTarget.trans first.pipelineTarget,
    second.mode.trans first.mode, second.resizeRx.trans first.resizeRx⟩

/-- What is popped is no resize. -/
theorem popUpdate_same (updates : MacDisplayUpdates) :
    SameTarget updates updates.popUpdate.2 ∧
      ∀ update, updates.popUpdate.1 = some update → update.isResize = false := by
  unfold MacDisplayUpdates.popUpdate BgraFramePipeline.popUpdate
  cases updates.bgraPipeline.pending with
  | nil => exact ⟨⟨rfl, rfl, rfl, rfl⟩, nofun⟩
  | cons update rest =>
    refine ⟨⟨rfl, rfl, rfl, rfl⟩, ?_⟩
    rintro _ ⟨⟩
    rfl

/-- A push only changes the previous frame and the queue. -/
theorem pipeline_pushFrame_keeps {pipeline next : BgraFramePipeline} {src : PrevFrame}
    (pushed : pipeline.pushFrame platform src = some next) :
    next.targetSize = pipeline.targetSize ∧ next.aspectMode = pipeline.aspectMode := by
  obtain ⟨frame, _, pushed⟩ := Option.bind_eq_some_iff.mp pushed
  split at pushed
  · cases pushed
    exact ⟨rfl, rfl⟩
  · split at pushed
    · cases pushed
      exact ⟨rfl, rfl⟩
    · split at pushed
      · cases pushed
        exact ⟨rfl, rfl⟩
      · unfold BgraFramePipeline.queueChanges at pushed
        dsimp only at pushed
        split at pushed
        · cases pushed
          exact ⟨rfl, rfl⟩
        · split at pushed
          · cases pushed
            exact ⟨rfl, rfl⟩
          · obtain ⟨pending, _, rfl⟩ := Option.map_eq_some_iff.mp pushed
            exact ⟨rfl, rfl⟩

/-- What is shown of an update that a stream may return. -/
theorem forall_mem_shown {P : Event → Prop} {update : Option DisplayUpdate}
    (shows : ∀ shown, update = some shown → P (.update shown)) :
    ∀ event ∈ (update.map Event.update).toList, P event := by
  intro event member
  obtain ⟨shown, returned, rfl⟩ := Option.map_eq_some_iff.mp (Option.mem_toList.mp member)
  exact shows shown returned

private theorem pushFrame_same {frame : PrevFrame}
    (pushed : before.pushFrame platform frame = some (after, events)) :
    SameTarget before after ∧ ∀ event ∈ events, Quiet event := by
  obtain ⟨pipeline, queued, shown⟩ := Option.map_eq_some_iff.mp pushed
  obtain ⟨same, bitmaps⟩ := popUpdate_same { before with bgraPipeline := pipeline }
  obtain ⟨rfl, rfl⟩ := Prod.mk.inj shown
  refine ⟨⟨same.targetSize, ?_, same.mode, same.resizeRx⟩, forall_mem_shown bitmaps⟩
  exact same.pipelineTarget.trans (pipeline_pushFrame_keeps queued).1

/-- A stream once its frame may be looked at: as it was, with its capture created
anew for the same mode and its pipeline reset, or with another encoder. -/
structure Prepares (before prepared : MacDisplayUpdates) : Prop where
  target : SameTarget before prepared
  capture : prepared.capture = before.capture ∨ ∃ old new, before.capture = .sckit old ∧
    prepared.capture = .sckit new ∧ (new.mode = old.mode ∨ new.mode = before.mode)
  pipeline : prepared.bgraPipeline = before.bgraPipeline ∨
    prepared.bgraPipeline = before.bgraPipeline.reset

private theorem prepares_of_eq (target : SameTarget before after) (capture : after.capture = before.capture)
    (pipeline : after.bgraPipeline = before.bgraPipeline) : Prepares before after :=
  ⟨target, .inl capture, .inl pipeline⟩

theorem Prepares.refl (updates : MacDisplayUpdates) : Prepares updates updates :=
  prepares_of_eq (.refl updates) rfl rfl

theorem Prepares.trans (first : Prepares before updates) (second : Prepares updates after) :
    Prepares before after := by
  refine ⟨first.target.trans second.target, ?_, ?_⟩
  · rcases second.capture with kept | ⟨middle, new, source, created, mode⟩
    · rw [kept]
      exact first.capture
    · right
      rw [first.target.mode] at mode
      rcases first.capture with kept | ⟨old, recreated, sourceBefore, source', modeBefore⟩
      · exact ⟨middle, new, kept ▸ source, created, mode⟩
      · obtain rfl := CaptureSource.sckit.inj (source.symm.trans source')
        refine ⟨old, new, sourceBefore, created, ?_⟩
        rcases mode with same | same
        · rw [same]
          exact modeBefore
        · exact .inr same
  · rcases second.pipeline with kept | reset
    · rw [kept]
      exact first.pipeline
    · rw [reset]
      rcases first.pipeline with kept | twice
      · exact .inr (congrArg _ kept)
      · rw [twice]
        exact .inr rfl

private theorem resizeStream_prepares (updates : MacDisplayUpdates) (size : DesktopSize)
    (created : Created) : Prepares updates (updates.resizeStream size created).2 := by
  unfold MacDisplayUpdates.resizeStream
  dsimp only
  split
  · split
    · exact ⟨⟨rfl, rfl, rfl, rfl⟩, .inl rfl, .inr rfl⟩
    · exact prepares_of_eq ⟨rfl, rfl, rfl, rfl⟩ rfl rfl
  · exact ⟨⟨rfl, rfl, rfl, rfl⟩, .inl rfl, .inr rfl⟩

/-- A recreation of the stream keeps to the target size and pops nothing. -/
theorem recreateStream_prepares (updates : MacDisplayUpdates) (size : DesktopSize) (created : Created) :
    Prepares updates (updates.recreateStream size created).2.1 ∧
      ∀ event ∈ (updates.recreateStream size created).2.2,
        event = .createStream ∧ ∃ stream, updates.capture = .sckit stream := by
  unfold MacDisplayUpdates.recreateStream
  cases source : updates.capture with
  | cgDisplay => exact ⟨resizeStream_prepares updates size created, nofun⟩
  | sckit stream =>
    dsimp only
    split
    · let new := { stream with width := size.width, height := size.height, mode := updates.mode, running := true }
      have recreated : Prepares updates { updates with capture := .sckit new } :=
        ⟨⟨rfl, rfl, rfl, rfl⟩, .inr ⟨stream, new, source, rfl, .inr rfl⟩, .inl rfl⟩
      exact ⟨recreated.trans (resizeStream_prepares _ size created), by simp⟩
    · exact ⟨⟨⟨rfl, rfl, rfl, rfl⟩, .inr ⟨stream, _, source, rfl, .inl rfl⟩, .inl rfl⟩, by simp⟩

private theorem forceKeyframe_prepares (updates : MacDisplayUpdates) (encoder : VtH264Encoder) (forced : Bool)
    (created : Created) : Prepares updates (updates.forceKeyframe encoder forced created) := by
  unfold MacDisplayUpdates.forceKeyframe
  split
  · exact prepares_of_eq ⟨rfl, rfl, rfl, rfl⟩ rfl rfl
  · exact .refl _

/-- What is shown of a frame that is not pushed. -/
def Unpushed : Event → Prop
  | .update (.avc420 _) | .ended | .failed => True
  | .update (.resize _) | .update (.bitmap _) | .size _ | .started _ | .createStream | .sent _
  | .modeChanged => False

private theorem quiet_of_unpushed {event : Event} (unpushed : Unpushed event) : Quiet event := by
  cases event with
  | update update =>
    cases update with
    | avc420 update => rfl
    | _ => exact nomatch unpushed
  | ended => trivial
  | failed => trivial
  | _ => exact nomatch unpushed

private theorem handleYcbcrFrame_prepares (updates : MacDisplayUpdates) (forced : Bool) (lock : Option PrevFrame)
    (capture : Capture) :
    Prepares updates (updates.handleYcbcrFrame forced lock capture).1 ∧
      ∀ event ∈ (updates.handleYcbcrFrame forced lock capture).2.2, Unpushed event := by
  unfold MacDisplayUpdates.handleYcbcrFrame
  cases updates.h264Encoder with
  | none => exact ⟨.refl _, nofun⟩
  | some encoder =>
    have prepares := forceKeyframe_prepares updates encoder forced capture.created
    cases lock with
    | none => exact ⟨prepares, by simp [Unpushed]⟩
    | some frame =>
      dsimp only
      split
      · exact ⟨prepares, by simp [Unpushed]⟩
      · exact ⟨prepares, nofun⟩
      · exact ⟨prepares, nofun⟩

/-- Whether an iteration of the loop comes to `recreate_stream`. -/
def Recreates (updates : MacDisplayUpdates) : Sample → Prop
  | .ended => False
  | .noImage => updates.missedFrames + 1 ≥ 30
  | .image width height _ => (⟨width.toUInt16, height.toUInt16⟩ : DesktopSize) ≠ updates.streamSize

/-- Following the size of a frame keeps to the target size and pops nothing. -/
theorem followFrameSize_prepares (updates : MacDisplayUpdates) (frameSize : DesktopSize)
    (created : Created) :
    Prepares updates (updates.followFrameSize frameSize created).2.1 ∧
      ∀ event ∈ (updates.followFrameSize frameSize created).2.2,
        event = .createStream ∧ frameSize ≠ updates.streamSize := by
  unfold MacDisplayUpdates.followFrameSize
  split
  · rename_i different
    obtain ⟨prepares, creates⟩ := recreateStream_prepares updates frameSize created
    exact ⟨prepares, fun event member => ⟨(creates event member).1, different⟩⟩
  · exact ⟨.refl _, nofun⟩

/-- A buffer that macOS hands over: a locked sample, or a capture of the display. -/
def Captured (capture : Capture) (frame : PrevFrame) : Prop :=
  capture.displayBgra = some frame ∨ ∃ width height, capture.sample = .image width height (some frame)

/-- What an iteration of the loop does: after its preparations it pushes one
captured buffer, or none. -/
inductive FrameMoves (platform : Platform) (before : MacDisplayUpdates) (capture : Capture) :
    MacDisplayUpdates → List Event → Prop
  | rest (prepared : MacDisplayUpdates) (calls shown : List Event) (prepares : Prepares before prepared)
    (creates : ∀ event ∈ calls, event = .createStream ∧ (∃ stream, before.capture = .sckit stream) ∧
      Recreates before capture.sample)
    (unpushed : ∀ event ∈ shown, Unpushed event) :
    FrameMoves platform before capture prepared (calls ++ shown)
  | push (prepared after : MacDisplayUpdates) (calls shown : List Event) (prepares : Prepares before prepared)
    (creates : ∀ event ∈ calls, event = .createStream ∧ (∃ stream, before.capture = .sckit stream) ∧
      Recreates before capture.sample)
    (frame : PrevFrame) (captured : Captured capture frame)
    (pushed : prepared.pushFrame platform frame = some (after, shown)) :
    FrameMoves platform before capture after (calls ++ shown)

private theorem handleImage_moves {lock : Option PrevFrame} {calls : List Event} {width height : Nat}
    (sample : capture.sample = .image width height lock) (prepares : Prepares before updates)
    (creates : ∀ event ∈ calls, event = .createStream ∧ (∃ stream, before.capture = .sckit stream) ∧
      Recreates before capture.sample)
    (handled : updates.handleImage platform avc420Enabled forced lock capture =
      some (after, flag, events)) : FrameMoves platform before capture after (calls ++ events) := by
  unfold MacDisplayUpdates.handleImage at handled
  split at handled
  · cases lock with
    | none =>
      cases handled
      exact .rest _ calls _ prepares creates (by simp [Unpushed])
    | some frame =>
      obtain ⟨⟨updates, shown⟩, pushed, same⟩ := Option.map_eq_some_iff.mp handled
      cases same
      exact .push _ _ calls _ prepares creates frame (.inr ⟨width, height, sample⟩) pushed
  · obtain ⟨encoded, unpushed⟩ := handleYcbcrFrame_prepares updates forced lock capture
    rw [Option.some.inj handled] at encoded unpushed
    exact .rest _ calls _ (prepares.trans encoded) creates unpushed

private theorem sckitFrame_moves {stream : AsyncSCStream} (source : before.capture = .sckit stream)
    (framed : before.sckitFrame platform avc420Enabled forced capture = some (after, flag, events)) :
    FrameMoves platform before capture after events := by
  unfold MacDisplayUpdates.sckitFrame at framed
  cases sample : capture.sample with
  | ended =>
    simp only [sample, Option.some.injEq, Prod.mk.injEq] at framed
    obtain ⟨rfl, _, rfl⟩ := framed
    exact .rest _ [] _ (.refl _) nofun (by simp [Unpushed])
  | noImage =>
    simp only [sample] at framed
    have missed (missedFrames : UInt32) : Prepares before { before with missedFrames } :=
      prepares_of_eq ⟨rfl, rfl, rfl, rfl⟩ rfl rfl
    split at framed
    · rename_i stalled
      obtain ⟨recreated, creates⟩ := recreateStream_prepares
        { before with missedFrames := before.missedFrames + 1 } before.streamSize capture.created
      have prepares := (missed _).trans recreated
      cases framed
      rw [← List.append_nil (MacDisplayUpdates.recreateStream _ _ _).2.2]
      refine .rest _ _ [] ?_ (fun event member => ⟨(creates event member).1, ⟨stream, source⟩, ?_⟩) nofun
      · split
        · exact prepares.trans (prepares_of_eq ⟨rfl, rfl, rfl, rfl⟩ rfl rfl)
        · exact prepares
      · rw [sample]
        exact stalled
    · cases framed
      exact .rest _ [] [] (missed _) nofun nofun
  | image width height lock =>
    simp only [sample] at framed
    obtain ⟨followed, creates⟩ := followFrameSize_prepares { before with missedFrames := 0 }
      ⟨width.toUInt16, height.toUInt16⟩ capture.created
    have counted : Prepares before { before with missedFrames := 0 } :=
      prepares_of_eq ⟨rfl, rfl, rfl, rfl⟩ rfl rfl
    have prepares := counted.trans followed
    have creates : ∀ event ∈ _, event = Event.createStream ∧ (∃ stream, before.capture = .sckit stream) ∧
        Recreates before capture.sample := fun event member =>
      ⟨(creates event member).1, ⟨stream, source⟩, sample ▸ (creates event member).2⟩
    split at framed
    · obtain ⟨⟨updates, forced, shown⟩, handled, appended⟩ := Option.map_eq_some_iff.mp framed
      cases appended
      exact handleImage_moves sample prepares creates handled
    · cases framed
      rw [← List.append_nil (MacDisplayUpdates.followFrameSize _ _ _).2.2]
      exact .rest _ _ [] prepares creates nofun

private theorem pushCapture_moves (prepares : Prepares before updates)
    (pushed : updates.pushCapture platform forced capture.displayBgra = some (after, flag, events)) :
    FrameMoves platform before capture after events := by
  cases displayBgra : capture.displayBgra with
  | none =>
    rw [displayBgra] at pushed
    cases pushed
    exact .rest _ [] [] prepares nofun nofun
  | some frame =>
    rw [displayBgra] at pushed
    obtain ⟨⟨updates, shown⟩, queued, same⟩ := Option.map_eq_some_iff.mp pushed
    cases same
    exact .push _ _ [] _ prepares nofun frame (.inl displayBgra) queued

private theorem cgDisplayFrame_moves
    (framed : before.cgDisplayFrame platform avc420Enabled forced capture = some (after, flag, events)) :
    FrameMoves platform before capture after events := by
  unfold MacDisplayUpdates.cgDisplayFrame at framed
  split at framed
  · exact pushCapture_moves (.refl _) framed
  · split at framed
    · split at framed
      · exact pushCapture_moves (.refl _) framed
      · rename_i encoder _
        have replaced := forceKeyframe_prepares before encoder forced capture.created
        dsimp only at framed
        split at framed
        · cases framed
          exact .rest _ [] _ replaced nofun (by simp [Unpushed])
        · cases framed
          exact .rest _ [] [] replaced nofun nofun
        · exact pushCapture_moves replaced framed
    · exact pushCapture_moves (.refl _) framed

/-- What one captured frame can do to a stream. -/
theorem frame_moves (framed : before.frame platform avc420Enabled forced capture =
    some (after, flag, events)) : FrameMoves platform before capture after events := by
  unfold MacDisplayUpdates.frame at framed
  split at framed
  · rename_i stream source
    exact sckitFrame_moves source framed
  · exact cgDisplayFrame_moves framed

/-- Waiting for and handling a frame leaves the target alone, and calls
`create_stream` only to recreate a ScreenCaptureKit stream. -/
theorem frame_same (framed : before.frame platform avc420Enabled forced capture =
    some (after, flag, events)) : SameTarget before after ∧ ∀ event ∈ events, Quiet event ∨
      event = .createStream ∧ (∃ stream, before.capture = .sckit stream) ∧
        Recreates before capture.sample := by
  cases frame_moves framed with
  | rest prepared calls shown prepares creates unpushed =>
    refine ⟨prepares.target, fun event member => ?_⟩
    rcases List.mem_append.mp member with call | later
    · exact .inr (creates event call)
    · exact .inl (quiet_of_unpushed (unpushed event later))
  | push prepared after calls shown prepares creates frame captured pushed =>
    obtain ⟨same, quiet⟩ := pushFrame_same pushed
    refine ⟨prepares.target.trans same, fun event member => ?_⟩
    rcases List.mem_append.mp member with call | later
    · exact .inr (creates event call)
    · exact .inl (quiet event later)

/-- The stream once it has taken over a size from the channel. -/
abbrev retargeted (updates : MacDisplayUpdates) (tx : Sender (Option DesktopSize)) (size : DesktopSize) :
    MacDisplayUpdates :=
  { updates with
    resizeRx := ⟨tx.version⟩, targetSize := size, bgraPipeline := updates.bgraPipeline.setTarget size }

/-- The stream once it has seen the channel without a size to take over. -/
abbrev caughtUp (updates : MacDisplayUpdates) (tx : Sender (Option DesktopSize)) : MacDisplayUpdates :=
  { updates with resizeRx := if updates.resizeRx.hasChanged tx then ⟨tx.version⟩ else updates.resizeRx }

private theorem takeResize_cases (updates : MacDisplayUpdates) (avc420Enabled : Bool)
    (tx : Sender (Option DesktopSize)) :
    (∃ size, updates.resizeRx.hasChanged tx = true ∧ tx.value = some size ∧
      updates.takeResize avc420Enabled tx =
        (if updates.mode = .bgra ∨ avc420Enabled = false then some (.resize size) else none,
          retargeted updates tx size)) ∨
    ((updates.resizeRx.hasChanged tx = true → tx.value = none) ∧
      updates.takeResize avc420Enabled tx = (none, caughtUp updates tx)) := by
  by_cases changed : updates.resizeRx.hasChanged tx = true
  · cases value : tx.value with
    | none =>
      refine .inr ⟨fun _ => rfl, ?_⟩
      simp [MacDisplayUpdates.takeResize, changed, Receiver.borrowAndUpdate, value]
    | some size =>
      refine .inl ⟨size, changed, rfl, ?_⟩
      simp only [MacDisplayUpdates.takeResize, changed, ↓reduceIte, Receiver.borrowAndUpdate, value]
      split <;> rfl
  · refine .inr ⟨fun same => (changed same).elim, ?_⟩
    simp [MacDisplayUpdates.takeResize, caughtUp, changed]

/-- A poll takes over a size it has not seen, and returns it unless the client
is served H.264 frames; otherwise it drains the pipeline. -/
theorem poll_cases (updates : MacDisplayUpdates) (avc420Enabled : Bool) (tx : Sender (Option DesktopSize)) :
    (∃ size, updates.resizeRx.hasChanged tx = true ∧ tx.value = some size ∧
      (((updates.mode = .bgra ∨ avc420Enabled = false) ∧
          updates.poll avc420Enabled tx = (some (.resize size), retargeted updates tx size)) ∨
        (¬(updates.mode = .bgra ∨ avc420Enabled = false) ∧
          updates.poll avc420Enabled tx = (retargeted updates tx size).popUpdate))) ∨
    ((updates.resizeRx.hasChanged tx = true → tx.value = none) ∧
      updates.poll avc420Enabled tx = (caughtUp updates tx).popUpdate) := by
  unfold MacDisplayUpdates.poll
  obtain ⟨size, changed, value, taken⟩ | ⟨idle, taken⟩ := takeResize_cases updates avc420Enabled tx
  · refine .inl ⟨size, changed, value, ?_⟩
    rw [taken]
    by_cases bitmaps : updates.mode = .bgra ∨ avc420Enabled = false
    · rw [if_pos bitmaps]
      exact .inl ⟨bitmaps, rfl⟩
    · rw [if_neg bitmaps]
      exact .inr ⟨bitmaps, rfl⟩
  · rw [taken]
    exact .inr ⟨idle, rfl⟩

/-- With nothing unseen, a poll only drains the pipeline. -/
theorem poll_unchanged (avc420Enabled : Bool) (seen : before.resizeRx.hasChanged tx = false) :
    SameTarget before (before.poll avc420Enabled tx).2 ∧
      ∀ update, (before.poll avc420Enabled tx).1 = some update → update.isResize = false := by
  have idle : before.takeResize avc420Enabled tx = (none, before) := by
    simp [MacDisplayUpdates.takeResize, seen]
  simp only [MacDisplayUpdates.poll, idle]
  exact popUpdate_same before

/-- A poll has seen the channel afterwards. -/
theorem poll_resizeRx (before : MacDisplayUpdates) (avc420Enabled : Bool)
    (tx : Sender (Option DesktopSize)) :
    (before.poll avc420Enabled tx).2.resizeRx =
      if before.resizeRx.hasChanged tx then ⟨tx.version⟩ else before.resizeRx := by
  obtain ⟨size, changed, _, ⟨_, polled⟩ | ⟨_, polled⟩⟩ | ⟨_, polled⟩ := poll_cases before avc420Enabled tx
  · rw [polled, changed]
    rfl
  · rw [polled, changed]
    exact (popUpdate_same _).1.resizeRx
  · rw [polled]
    exact (popUpdate_same _).1.resizeRx

/-- What a poll makes of an unseen size: it becomes the target, and is returned
as a resize unless the client is served H.264 frames. -/
theorem poll_changed (avc420Enabled : Bool) (changed : before.resizeRx.hasChanged tx = true)
    {size : DesktopSize} (value : tx.value = some size) :
    (before.poll avc420Enabled tx).2.targetSize = size ∧
      (before.poll avc420Enabled tx).2.bgraPipeline.targetSize = size ∧
      (before.poll avc420Enabled tx).2.mode = before.mode ∧
      (before.poll avc420Enabled tx).2.resizeRx.seen = tx.version ∧
      if before.mode = .bgra ∨ avc420Enabled = false then
        (before.poll avc420Enabled tx).1 = some (.resize size)
      else ∀ update, (before.poll avc420Enabled tx).1 = some update → update.isResize = false := by
  obtain ⟨_, _, same, ⟨bitmaps, polled⟩ | ⟨video, polled⟩⟩ | ⟨idle, _⟩ := poll_cases before avc420Enabled tx
  · cases value.symm.trans same
    rw [polled, if_pos bitmaps]
    exact ⟨rfl, rfl, rfl, rfl, rfl⟩
  · cases value.symm.trans same
    rw [polled, if_neg video]
    obtain ⟨same, quiet⟩ := popUpdate_same (retargeted before tx size)
    exact ⟨same.targetSize, same.pipelineTarget, same.mode, congrArg Receiver.seen same.resizeRx, quiet⟩
  · cases value.symm.trans (idle changed)

end Streams

section Handler
variable {fl : Rounding 53} {host : Host} {display : MacDisplay}
  {monitor : Option (UInt32 × UInt32)} {outcome : SwitchOutcome}

/-- The ways a layout request can leave the handler, with what it sends. -/
inductive LayoutEffect (before : MacDisplay) : MacDisplay → List Event → Prop
  | unchanged (switcher : Option DisplayModeSwitcher) (current : before.currentSize ≠ none) :
    LayoutEffect before { before with modeSwitcher := switcher } []
  | announced (switcher : Option DisplayModeSwitcher) (size : DesktopSize)
    (new : before.currentSize ≠ some size) :
    LayoutEffect before
      { before with
        modeSwitcher := switcher, currentSize := some size,
        resizeTx := before.resizeTx.send (some size) } [.sent size]
  | switched (switcher : Option DisplayModeSwitcher) (size : DesktopSize)
    (new : before.currentSize ≠ some size) :
    LayoutEffect before
      { before with
        modeSwitcher := switcher, nativeSize := none, currentSize := some size,
        modeSwitchPending := some size, cgDisplayForced := true,
        resizeTx := before.resizeTx.send (some size) } [.sent size]

private theorem announce_effect (switcher : Option DisplayModeSwitcher) (size : DesktopSize) :
    LayoutEffect display ({ display with modeSwitcher := switcher }.announce size).1
      ({ display with modeSwitcher := switcher }.announce size).2 := by
  unfold MacDisplay.announce
  split
  · rename_i same
    exact .unchanged switcher (same ▸ Option.some_ne_none size)
  · rename_i new
    exact .announced switcher size new

private theorem announceSwitched_effect (switcher : Option DisplayModeSwitcher) (size : DesktopSize) :
    LayoutEffect display ({ display with modeSwitcher := switcher }.announceSwitched size).1
      ({ display with modeSwitcher := switcher }.announceSwitched size).2 := by
  unfold MacDisplay.announceSwitched
  split
  · rename_i same
    exact .unchanged switcher (same ▸ Option.some_ne_none size)
  · rename_i new
    exact .switched switcher size new

/-- A request with a monitor has one of the effects on the handler, and says
so when it changed the mode of the display. -/
theorem requestLayout_effect (fl : Rounding 53) (host : Host) (display : MacDisplay)
    (client : UInt32 × UInt32) (outcome : SwitchOutcome) :
    ∃ announced,
      LayoutEffect display (display.requestLayout fl host (some client) outcome).2.1 announced ∧
      (display.requestLayout fl host (some client) outcome).2.2 =
        (if (display.requestLayout fl host (some client) outcome).1.active = host.active then []
          else [.modeChanged]) ++ announced := by
  obtain ⟨clientW, clientH⟩ := client
  unfold MacDisplay.requestLayout
  dsimp only
  split
  · rw [if_pos rfl]
    exact ⟨_, announce_effect display.modeSwitcher _, rfl⟩
  · split
    · exact ⟨_, announceSwitched_effect _ _, rfl⟩
    · exact ⟨_, announce_effect _ _, rfl⟩

/-- Besides what it sends, a request shows at most that the mode changed. -/
theorem forall_mem_changes {P : Event → Prop} {active after : CGDisplayMode}
    (changes : P .modeChanged) : ∀ event ∈ (if after = active then [] else [.modeChanged]), P event := by
  intro event member
  split at member
  · exact nomatch member
  · obtain rfl := List.mem_singleton.mp member
    exact changes

/-- The handler's sizes and its channel are left alone. -/
structure SameSizes (before after : MacDisplay) : Prop where
  currentSize : after.currentSize = before.currentSize
  resizeTx : after.resizeTx = before.resizeTx
  resizeRx : after.resizeRx = before.resizeRx
  mode : after.mode = before.mode

/-- The handler adopts a size it did not have, and sends it. -/
structure Announces (size : DesktopSize) (before after : MacDisplay) : Prop where
  new : before.currentSize ≠ some size
  currentSize : after.currentSize = some size
  resizeTx : after.resizeTx = before.resizeTx.send (some size)
  resizeRx : after.resizeRx = before.resizeRx
  mode : after.mode = before.mode

/-- A layout request that announces a size makes it the current one. -/
theorem LayoutEffect.sizes {after : MacDisplay} {announced : List Event}
    (effect : LayoutEffect display after announced) :
    (announced = [] ∧ SameSizes display after) ∨
      ∃ size, announced = [.sent size] ∧ Announces size display after := by
  cases effect with
  | unchanged switcher current => exact .inl ⟨rfl, rfl, rfl, rfl, rfl⟩
  | announced switcher size new => exact .inr ⟨size, rfl, new, rfl, rfl, rfl, rfl⟩
  | switched switcher size new => exact .inr ⟨size, rfl, new, rfl, rfl, rfl, rfl⟩

/-- Asking for the size leaves sizes as they are. -/
theorem size_same (host : Host) (display : MacDisplay) : SameSizes display (display.size host).2 := by
  unfold MacDisplay.size
  split
  · exact ⟨rfl, rfl, rfl, rfl⟩
  · exact ⟨rfl, rfl, rfl, rfl⟩

/-- After a layout request with a monitor some size is current. -/
theorem LayoutEffect.currentSize {after : MacDisplay} {announced : List Event}
    (effect : LayoutEffect display after announced) : after.currentSize ≠ none := by
  cases effect with
  | unchanged switcher current => exact current
  | announced switcher size new => exact Option.some_ne_none size
  | switched switcher size new => exact Option.some_ne_none size

/-- The helper of a request switches the display to another mode. -/
def ChangesMode (host : Host) (display : MacDisplay) (client : UInt32 × UInt32)
    (outcome : SwitchOutcome) (mode : CGDisplayMode) : Prop :=
  display.aspectMode = .fit ∧
    Switches host (clientSize client.1 client.2).width.toUInt32
      (clientSize client.1 client.2).height.toUInt32 outcome mode ∧ mode ≠ host.active

/-- The desktop size that goes with a mode, as read from the helper's output. -/
def modeSize (mode : CGDisplayMode) : DesktopSize :=
  ⟨mode.width.toUInt32.toUInt16, mode.height.toUInt32.toUInt16⟩

/-- A request that changes the mode forces CoreGraphics from then on, unless it
takes the early exit for a size that is already current. -/
theorem requestLayout_changes {client : UInt32 × UInt32}
    (changed : (display.requestLayout fl host (some client) outcome).1.active ≠ host.active) :
    ∃ mode, ChangesMode host display client outcome mode ∧
      (display.currentSize ≠ some (modeSize mode) →
        (display.requestLayout fl host (some client) outcome).2.1.cgDisplayForced = true) := by
  obtain ⟨clientW, clientH⟩ := client
  unfold MacDisplay.requestLayout at changed ⊢
  dsimp only at changed ⊢
  cases aspect : display.aspectMode with
  | native => simp [aspect] at changed
  | fit =>
    simp only [aspect] at changed
    rcases switchToBestMode_cases host (display.modeSwitcher.getD (.new host))
      (clientSize clientW clientH).width.toUInt32 (clientSize clientW clientH).height.toUInt32 outcome with
      ⟨size, unchanged, _⟩ | ⟨mode, switches, switched⟩
    · rw [unchanged] at changed
      exact (changed rfl).elim
    · rw [switched] at changed
      refine ⟨mode, ⟨aspect, switches, changed⟩, fun new => ?_⟩
      unfold modeSize at new
      simp only [switched, MacDisplay.announceSwitched]
      rw [if_neg new]

/-- Capture by copies is not given up again. -/
theorem LayoutEffect.cgDisplayForced {after : MacDisplay} {announced : List Event}
    (effect : LayoutEffect display after announced) (forced : display.cgDisplayForced = true) :
    after.cgDisplayForced = true := by
  cases effect with
  | unchanged switcher current => exact forced
  | announced switcher size new => exact forced
  | switched switcher size new => rfl

/-- What a request does to the host and the switcher. -/
theorem requestLayout_host (fl : Rounding 53) (host : Host) (display : MacDisplay)
    (client : UInt32 × UInt32) (outcome : SwitchOutcome) :
    ((display.requestLayout fl host (some client) outcome).1 = host ∧
      ((display.requestLayout fl host (some client) outcome).2.1.modeSwitcher = display.modeSwitcher ∨
        (display.requestLayout fl host (some client) outcome).2.1.modeSwitcher =
          some (display.modeSwitcher.getD (.new host)))) ∨
    ∃ mode, (display.requestLayout fl host (some client) outcome).1 =
        (host.setMode mode).writePending (display.modeSwitcher.getD (.new host)).pendingText ∧
      (display.requestLayout fl host (some client) outcome).2.1.modeSwitcher =
        some { display.modeSwitcher.getD (.new host) with switched := true } := by
  have announce_switcher : ∀ (display : MacDisplay) (size : DesktopSize),
      (display.announce size).1.modeSwitcher = display.modeSwitcher := by
    intro display size
    unfold MacDisplay.announce
    split <;> rfl
  have announceSwitched_switcher : ∀ (display : MacDisplay) (size : DesktopSize),
      (display.announceSwitched size).1.modeSwitcher = display.modeSwitcher := by
    intro display size
    unfold MacDisplay.announceSwitched
    split <;> rfl
  obtain ⟨clientW, clientH⟩ := client
  unfold MacDisplay.requestLayout
  dsimp only
  split
  · exact .inl ⟨rfl, .inl (announce_switcher _ _)⟩
  · rcases switchToBestMode_cases host (display.modeSwitcher.getD (.new host))
      (clientSize clientW clientH).width.toUInt32 (clientSize clientW clientH).height.toUInt32 outcome with
      ⟨size, unchanged, _⟩ | ⟨mode, _, switched⟩
    · left
      rw [unchanged]
      refine ⟨rfl, .inr ?_⟩
      cases size with
      | none => exact announce_switcher _ _
      | some size => exact announceSwitched_switcher _ _
    · right
      rw [switched]
      exact ⟨mode, rfl, announceSwitched_switcher _ _⟩

/-- A new stream starts at the handler's target, with the handler's receiver,
and is a ScreenCaptureKit stream only when that was allowed. -/
structure Starts (host : Host) (display : MacDisplay) (updates : MacDisplayUpdates) : Prop where
  targetSize : updates.targetSize = display.targetSize host
  pipelineTarget : updates.bgraPipeline.targetSize = display.targetSize host
  mode : updates.mode = display.mode
  resizeRx : updates.resizeRx = display.resizeRx
  capture : ∀ stream, updates.capture = .sckit stream → display.usesCgDisplay = false

/-- The calls of `create_stream` made while a stream starts. -/
def startCalls (display : MacDisplay) : List Event :=
  if display.usesCgDisplay then [] else [.createStream]

theorem forall_mem_startCalls {P : Event → Prop} {last : Event} (creates : P .createStream)
    (ends : P last) : ∀ event ∈ startCalls display ++ [last], P event := by
  intro event member
  rcases List.mem_append.mp member with calls | ending
  · unfold startCalls at calls
    split at calls
    · exact nomatch calls
    · obtain rfl := List.mem_singleton.mp calls
      exact creates
  · obtain rfl := List.mem_singleton.mp ending
    exact ends

/-- The handler after `updates`, before its receiver is advanced. -/
def MacDisplay.readied (host : Host) (display : MacDisplay) : MacDisplay :=
  { display with modeSwitchPending := none, nativeSize := some (display.native host) }

/-- A stream that `updates` returns is one that `start` made. -/
theorem updates_start {created : Created} {updates : MacDisplayUpdates}
    (started : updates ∈ (display.updates host created).1) :
    MacDisplayUpdates.start (display.native host) (display.targetSize host) display.mode
      display.aspectMode display.resizeRx display.usesCgDisplay created = some updates := by
  unfold MacDisplay.updates at started
  dsimp only at started
  split at started
  · cases started
  · rename_i same
    cases started
    exact same

/-- `updates` fails and leaves the handler ready, or returns a stream as `Starts` describes it. -/
theorem updates_cases (host : Host) (display : MacDisplay) (created : Created) :
    display.updates host created =
        (none, MacDisplay.readied host display, startCalls display ++ [.failed]) ∨
      ∃ updates, Starts host display updates ∧ display.updates host created =
        (some updates, { MacDisplay.readied host display with resizeRx := ⟨display.resizeTx.version⟩ },
          startCalls display ++ [.started (display.targetSize host)]) := by
  unfold MacDisplay.updates
  dsimp only
  cases started : MacDisplayUpdates.start (display.native host) (display.targetSize host)
    display.mode display.aspectMode display.resizeRx display.usesCgDisplay created with
  | none => exact .inl rfl
  | some updates =>
    refine .inr ⟨updates, ?_, rfl⟩
    obtain ⟨capture, captured, started⟩ := Option.bind_eq_some_iff.mp started
    obtain ⟨encoder, _, rfl⟩ := Option.map_eq_some_iff.mp started
    refine ⟨rfl, rfl, rfl, rfl, ?_⟩
    rintro stream rfl
    cases forced : display.usesCgDisplay with
    | false => rfl
    | true => simp [MacDisplayUpdates.startCapture, forced] at captured

end Handler

section Positions
variable {α : Type} {P : α → Prop} {l : List α} {i : Nat} {x y : α}

/-- A property of all entries survives replacing one by an entry that has it. -/
theorem forall_mem_set (all : ∀ z ∈ l, P z) (new : P y) : ∀ z ∈ l.set i y, P z := by
  intro z member
  rcases List.mem_or_eq_of_mem_set member with old | rfl
  · exact all z old
  · exact new

/-- The only entry of a list is replaced. -/
theorem eq_of_mem_set (one : l.length ≤ 1) (found : l[i]? = some x) : ∀ z ∈ l.set i y, z = y := by
  have inside := (List.getElem?_eq_some_iff.mp found).choose
  obtain rfl : i = 0 := by omega
  obtain ⟨only, single⟩ := List.length_eq_one_iff.mp (Nat.le_antisymm one (by omega))
  simp [single]

/-- An entry with a property is still there after another one was replaced, or
was replaced itself by an entry that has it. -/
theorem exists_mem_set (found : l[i]? = some x) (kept : P x → P y) (holds : ∃ z ∈ l, P z) :
    ∃ z ∈ l.set i y, P z := by
  obtain ⟨z, member, held⟩ := holds
  obtain ⟨j, at_j⟩ := List.mem_iff_getElem?.mp member
  by_cases here : i = j
  · subst here
    obtain rfl := Option.some.inj (found.symm.trans at_j)
    have inside := (List.getElem?_eq_some_iff.mp found).choose
    exact ⟨y, List.mem_iff_getElem?.mpr ⟨i, List.getElem?_set_self inside⟩, kept held⟩
  · exact ⟨z, List.mem_iff_getElem?.mpr ⟨j, by rwa [List.getElem?_set_ne here]⟩, held⟩

theorem exists_mem_eraseIdx (found : l[i]? = some x) (other : ¬ P x) (holds : ∃ z ∈ l, P z) :
    ∃ z ∈ l.eraseIdx i, P z := by
  obtain ⟨z, member, held⟩ := holds
  obtain ⟨j, at_j⟩ := List.mem_iff_getElem?.mp member
  refine ⟨z, List.mem_eraseIdx_iff_getElem?.mpr ⟨j, ?_, at_j⟩, held⟩
  rintro rfl
  obtain rfl := Option.some.inj (found.symm.trans at_j)
  exact other held

end Positions

section Transitions
variable {platform : Platform}

/-- The operations of one connection. -/
def SameConnection : Op → Prop
  | .clientDisconnected _ => False
  | _ => True

/-- What each operation does to the world, and what it shows. -/
inductive Transition (platform : Platform) (world : World) : Op → World → List Event → Prop
  | size : Transition platform world .size
      { world with display := (world.display.size world.host).2 }
      [.size (world.display.size world.host).1]
  | noMonitor (outcome : SwitchOutcome) :
    Transition platform world (.requestLayout none outcome) world []
  | requestLayout (client : UInt32 × UInt32) (outcome : SwitchOutcome) :
    Transition platform world (.requestLayout (some client) outcome)
      { world with
        host := (world.display.requestLayout platform.fl world.host (some client) outcome).1,
        display := (world.display.requestLayout platform.fl world.host (some client) outcome).2.1 }
      (world.display.requestLayout platform.fl world.host (some client) outcome).2.2
  | updates (created : Created) : Transition platform world (.updates created)
      { world with
        display := (world.display.updates world.host created).2.1,
        streams := world.streams ++ (world.display.updates world.host created).1.toList.map
          fun updates => { updates, native := world.display.native world.host, resized := false } }
      (world.display.updates world.host created).2.2
  | poll (index : Nat) (live : Live) (found : world.streams[index]? = some live) :
    Transition platform world (.poll index)
      { world with streams :=
          world.streams.set index (live.poll world.avc420Enabled world.display.resizeTx).2 }
      ((live.poll world.avc420Enabled world.display.resizeTx).1.map .update).toList
  | frame (index : Nat) (capture : Capture) (live : Live) (updates : MacDisplayUpdates)
    (forceKeyframe : Bool) (events : List Event) (found : world.streams[index]? = some live)
    (framed : live.updates.frame platform world.avc420Enabled world.forceKeyframe capture =
      some (updates, forceKeyframe, events)) :
    Transition platform world (.frame index capture)
      { world with streams := world.streams.set index { live with updates }, forceKeyframe } events
  | drop (index : Nat) (live : Live) (found : world.streams[index]? = some live) :
    Transition platform world (.drop index)
      { world with streams := world.streams.eraseIdx index } []
  | clientDisconnected (outcome : RestoreOutcome) :
    Transition platform world (.clientDisconnected outcome) (world.disconnect outcome) []
  | setAvc420Enabled (avc420Enabled : Bool) :
    Transition platform world (.setAvc420Enabled avc420Enabled) { world with avc420Enabled } []
  | setForceKeyframe (forceKeyframe : Bool) :
    Transition platform world (.setForceKeyframe forceKeyframe) { world with forceKeyframe } []

/-- All that a step can do. -/
theorem step_transition {world next : World} {op : Op} {events : List Event}
    (stepped : Display.step platform world op = some (next, events)) :
    Transition platform world op next events := by
  cases op with
  | size =>
    cases stepped
    exact .size
  | requestLayout monitor outcome =>
    cases stepped
    cases monitor with
    | none => exact .noMonitor outcome
    | some client => exact .requestLayout client outcome
  | updates created =>
    cases stepped
    exact .updates created
  | poll index =>
    obtain ⟨live, found, polled⟩ := Option.map_eq_some_iff.mp stepped
    cases polled
    exact .poll index live found
  | frame index capture =>
    obtain ⟨live, found, framed⟩ := Option.bind_eq_some_iff.mp stepped
    obtain ⟨⟨updates, forceKeyframe, shown⟩, framed, same⟩ := Option.map_eq_some_iff.mp framed
    cases same
    exact .frame index capture live _ _ _ found framed
  | drop index =>
    obtain ⟨live, found, dropped⟩ := Option.map_eq_some_iff.mp stepped
    cases dropped
    exact .drop index live found
  | clientDisconnected outcome =>
    cases stepped
    exact .clientDisconnected outcome
  | setAvc420Enabled enabled =>
    cases stepped
    exact .setAvc420Enabled enabled
  | setForceKeyframe forced =>
    cases stepped
    exact .setForceKeyframe forced

end Transitions
end Osxrdp.DisplaySteps
