import Osxrdp.NativeDesktop

/-! `AspectMode::Fit`: every frame is scaled to the target, so that an update
fits the target it was queued under. `set_target` keeps the queue, unlike
`reset`: updates of the old target are popped under the new one, and stay
inside it only if they happened to fit when it was set. -/
namespace Osxrdp.TargetBounds
open Display DisplaySteps FramePipeline NativeDesktop
open BgraFramePipeline
open FrameConvergence (Call)

/-- An update popped under a target. -/
abbrev Painted := DesktopSize × BitmapUpdate

/-- The update is inside the target in force. -/
def Painted.Fits (painted : Painted) : Prop := Inside painted.2 painted.1

instance : DecidablePred Painted.Fits := fun _ => inferInstanceAs (Decidable (Inside _ _))

/-- A pipeline in Fit mode. -/
def Fit (pipeline : BgraFramePipeline) : Prop := pipeline.aspectMode = .fit

/-- Whatever is popped next fits the target. -/
def QueueFits (pipeline : BgraFramePipeline) : Prop :=
  ∀ update ∈ pipeline.pending, Inside update pipeline.targetSize

/-- The pipeline under its four calls; the events are the popped updates, each
with the target it is popped under. -/
def painting (platform : Platform) : Runs.System BgraFramePipeline Call Painted := fun pipeline call =>
  (FrameConvergence.step platform pipeline call).map fun (next, popped) =>
    (next, popped.map (next.targetSize, ·))

/-- A new target is only set when every queued update fits it. -/
def RetargetsFitting (pipeline : BgraFramePipeline) : Call → Prop
  | .setTarget size => ∀ update ∈ pipeline.pending, Inside update size
  | .pushFrame _ | .popUpdate | .reset => True

instance (pipeline : BgraFramePipeline) : DecidablePred (RetargetsFitting pipeline)
  | .setTarget size => inferInstanceAs (Decidable (∀ update ∈ pipeline.pending, Inside update size))
  | .pushFrame _ | .popUpdate | .reset => isTrue trivial

section Pipeline
variable {platform : Platform} {pipeline next : BgraFramePipeline} {src frame : PrevFrame}

/-- In Fit mode a frame has the size of the target after its transform. -/
theorem transform_fills {fl : Rounding 53} {target : DesktopSize}
    (transformed : transformFrame fl .fit target src = some frame) : Fills target frame := by
  unfold transformFrame at transformed
  by_cases scaled : needsCropScale .fit target src.width src.height = true
  · rw [if_pos scaled] at transformed
    obtain ⟨data, _, produced⟩ := Option.bind_eq_some_iff.mp transformed
    cases produced
    exact ⟨rfl, rfl⟩
  · rw [if_neg scaled] at transformed
    cases transformed
    simp only [needsCropScale, ne_eq, not_true_eq_false, ↓reduceIte, Bool.or_eq_true, bne_iff_ne,
      not_or, not_not] at scaled
    exact scaled

private theorem pushFrame_fits (stays : StaysInside platform.findDifferentRectsSub) (fit : Fit pipeline)
    (fits : QueueFits pipeline) (pushed : pipeline.pushFrame platform src = some next) : QueueFits next := by
  obtain ⟨frame, transformed, _⟩ := Option.bind_eq_some_iff.mp pushed
  have fills : Fills pipeline.targetSize frame := by
    rw [fit] at transformed
    exact transform_fills transformed
  obtain ⟨prev, pending, rfl, _, inside⟩ := pushFrame_inside stays transformed fills fits pushed
  exact inside

/-- The queue fits exactly when what is popped does and what is left. -/
theorem queueFits_iff_popUpdate (pipeline : BgraFramePipeline) :
    QueueFits pipeline ↔ QueueFits pipeline.popUpdate.2 ∧
      ∀ update ∈ pipeline.popUpdate.1, Inside update pipeline.targetSize := by
  unfold QueueFits BgraFramePipeline.popUpdate
  cases queued : pipeline.pending with
  | nil => simp [queued]
  | cons update rest => simp [and_comm]

private theorem popUpdate_keeps (pipeline : BgraFramePipeline) :
    pipeline.popUpdate.2.targetSize = pipeline.targetSize ∧
      pipeline.popUpdate.2.aspectMode = pipeline.aspectMode := by
  unfold BgraFramePipeline.popUpdate
  split
  · exact ⟨rfl, rfl⟩
  · exact ⟨rfl, rfl⟩

section Steps
variable {call : Call} {emitted : List Painted}

/-- A call keeps the target, with what it has painted. -/
theorem painting_keeps (fit : Fit pipeline) (stepped : painting platform pipeline call = some (next, emitted)) :
    Fit next := by
  obtain ⟨⟨_, popped⟩, called, same⟩ := Option.map_eq_some_iff.mp stepped
  cases same
  cases call with
  | pushFrame src =>
    obtain ⟨_, pushed, same⟩ := Option.map_eq_some_iff.mp called
    cases same
    exact (pipeline_pushFrame_keeps pushed).2.trans fit
  | popUpdate =>
    cases called
    exact (popUpdate_keeps pipeline).2.trans fit
  | setTarget size =>
    cases called
    exact fit
  | reset =>
    cases called
    exact fit

/-- A call keeps every queued update inside the target and pops only such ones,
unless it sets a target that a queued update does not fit. -/
theorem painting_fits (stays : StaysInside platform.findDifferentRectsSub) (fit : Fit pipeline)
    (fits : QueueFits pipeline) (stepped : painting platform pipeline call = some (next, emitted)) :
    (QueueFits next ∧ ∀ painted ∈ emitted, painted.Fits) ↔ RetargetsFitting pipeline call := by
  obtain ⟨⟨_, popped⟩, called, same⟩ := Option.map_eq_some_iff.mp stepped
  cases same
  cases call with
  | pushFrame src =>
    obtain ⟨_, pushed, same⟩ := Option.map_eq_some_iff.mp called
    cases same
    exact iff_of_true ⟨pushFrame_fits stays fit fits pushed, List.forall_mem_nil _⟩ trivial
  | popUpdate =>
    cases called
    obtain ⟨kept, first⟩ := (queueFits_iff_popUpdate pipeline).mp fits
    refine iff_of_true ⟨kept, ?_⟩ trivial
    intro painted member
    obtain ⟨update, shown, rfl⟩ := List.mem_map.mp member
    unfold Painted.Fits
    rw [(popUpdate_keeps pipeline).1]
    exact first update (Option.mem_toList.mp shown)
  | setTarget size =>
    cases called
    exact and_iff_left (List.forall_mem_nil _)
  | reset =>
    cases called
    exact iff_of_true ⟨List.forall_mem_nil _, List.forall_mem_nil _⟩ trivial

/-- Popping until the queue is empty returns all of it. -/
theorem painting_drains (platform : Platform) (pending : List BitmapUpdate) (queued : pipeline.pending = pending) :
    Runs.run (painting platform) pipeline (List.replicate pending.length .popUpdate) =
      some ({ pipeline with pending := [] }, pending.map (pipeline.targetSize, ·)) := by
  induction pending generalizing pipeline with
  | nil =>
    obtain ⟨targetSize, aspectMode, prev, _⟩ := pipeline
    cases queued
    rfl
  | cons update rest ih =>
    have popped : painting platform pipeline .popUpdate =
        some ({ pipeline with pending := rest }, [(pipeline.targetSize, update)]) := by
      simp [painting, FrameConvergence.step, BgraFramePipeline.popUpdate, queued]
    exact Runs.run_step popped (ih rfl)

end Steps
end Pipeline

/-- One turn of the loop of `next_update`: up to the wait for a frame, or the rest. -/
inductive Turn where
  | poll (avc420Enabled : Bool) (tx : Watch.Sender (Option DesktopSize))
  | frame (avc420Enabled forced : Bool) (capture : Capture)

/-- The bitmap that is returned. -/
def shownBitmap : Event → Option BitmapUpdate
  | .update (.bitmap bitmap) => some bitmap
  | _ => none

/-- The bitmaps among what is shown, each with the target it is returned under. -/
def paintedOn (target : DesktopSize) (events : List Event) : List Painted :=
  (events.filterMap shownBitmap).map (target, ·)

/-- An update stream under the turns of its loop. -/
def streaming (platform : Platform) : Runs.System MacDisplayUpdates Turn Painted
  | updates, .poll avc420Enabled tx =>
    let (update, next) := updates.poll avc420Enabled tx
    some (next, paintedOn next.bgraPipeline.targetSize (update.map Event.update).toList)
  | updates, .frame avc420Enabled forced capture =>
    (updates.frame platform avc420Enabled forced capture).map fun (next, _, events) =>
      (next, paintedOn next.bgraPipeline.targetSize events)

/-- A new size is only taken over when every queued update fits it. -/
def TakesFitting (updates : MacDisplayUpdates) : Turn → Prop
  | .poll _ tx => updates.resizeRx.hasChanged tx = true → ∀ size ∈ tx.value,
      ∀ update ∈ updates.bgraPipeline.pending, Inside update size
  | .frame _ _ _ => True

section Stream
variable {platform : Platform} {updates next : MacDisplayUpdates} {turn : Turn} {emitted : List Painted}

/-- What a stream pops is what its pipeline pops, under the same target. -/
theorem popUpdate_painted (updates : MacDisplayUpdates) :
    (QueueFits updates.popUpdate.2.bgraPipeline ∧
      ∀ painted ∈ paintedOn updates.popUpdate.2.bgraPipeline.targetSize
        (updates.popUpdate.1.map Event.update).toList, painted.Fits) ↔ QueueFits updates.bgraPipeline := by
  rw [queueFits_iff_popUpdate updates.bgraPipeline]
  refine and_congr_right fun _ => ?_
  unfold MacDisplayUpdates.popUpdate
  dsimp only
  rw [(popUpdate_keeps updates.bgraPipeline).1]
  cases updates.bgraPipeline.popUpdate.1 with
  | none => exact iff_of_true (List.forall_mem_nil _) nofun
  | some update => simp [paintedOn, shownBitmap, Painted.Fits]

private theorem poll_painted (avc420Enabled : Bool) (tx : Watch.Sender (Option DesktopSize))
    (fits : QueueFits updates.bgraPipeline) :
    (QueueFits (updates.poll avc420Enabled tx).2.bgraPipeline ∧
      ∀ painted ∈ paintedOn (updates.poll avc420Enabled tx).2.bgraPipeline.targetSize
        ((updates.poll avc420Enabled tx).1.map Event.update).toList, painted.Fits) ↔
      TakesFitting updates (.poll avc420Enabled tx) := by
  obtain ⟨size, changed, value, polled⟩ | ⟨idle, polled⟩ := poll_cases updates avc420Enabled tx
  · have condition : TakesFitting updates (.poll avc420Enabled tx) ↔
        QueueFits (updates.bgraPipeline.setTarget size) := by
      simp [TakesFitting, changed, value, QueueFits, BgraFramePipeline.setTarget]
    rw [condition]
    obtain ⟨_, polled⟩ | ⟨_, polled⟩ := polled
    · rw [polled]
      exact and_iff_left (List.forall_mem_nil _)
    · rw [polled]
      exact popUpdate_painted _
  · rw [polled]
    refine (popUpdate_painted _).trans (iff_of_true fits ?_)
    intro changed size value
    rw [idle changed] at value
    cases value

private theorem paintedOn_append {target : DesktopSize} {calls events : List Event}
    (silent : ∀ event ∈ calls, shownBitmap event = none) :
    paintedOn target (calls ++ events) = paintedOn target events := by
  have none : calls.filterMap shownBitmap = [] := List.filterMap_eq_nil_iff.mpr silent
  rw [paintedOn, List.filterMap_append, none, List.nil_append, paintedOn]

private theorem prepares_fit {before prepared : MacDisplayUpdates} (prepares : Prepares before prepared) :
    prepared.bgraPipeline.aspectMode = before.bgraPipeline.aspectMode ∧
      (QueueFits before.bgraPipeline → QueueFits prepared.bgraPipeline) := by
  rcases prepares.pipeline with kept | reset
  · rw [kept]
    exact ⟨rfl, id⟩
  · rw [reset]
    exact ⟨rfl, fun _ => List.forall_mem_nil _⟩

private theorem frame_painted {avc420Enabled forced flag : Bool} {capture : Capture} {events : List Event}
    (stays : StaysInside platform.findDifferentRectsSub) (fit : Fit updates.bgraPipeline)
    (fits : QueueFits updates.bgraPipeline)
    (framed : updates.frame platform avc420Enabled forced capture = some (next, flag, events)) :
    QueueFits next.bgraPipeline ∧ ∀ painted ∈ paintedOn next.bgraPipeline.targetSize events, painted.Fits := by
  cases frame_moves framed with
  | rest prepared calls shown prepares creates unpushed =>
    refine ⟨(prepares_fit prepares).2 fits, ?_⟩
    have silent : ∀ event ∈ calls ++ shown, shownBitmap event = none := by
      intro event member
      rcases List.mem_append.mp member with call | later
      · rw [(creates event call).1]
        rfl
      · have encoded := unpushed event later
        cases event with
        | update update =>
          cases update with
          | bitmap bitmap => exact encoded.elim
          | resize size => rfl
          | avc420 update => rfl
        | _ => rfl
    rw [← List.append_nil (calls ++ shown), paintedOn_append silent]
    exact List.forall_mem_nil _
  | push prepared after calls shown prepares creates frame captured pushed =>
    obtain ⟨sameMode, kept⟩ := prepares_fit prepares
    obtain ⟨pipeline, queued, popped⟩ := Option.map_eq_some_iff.mp pushed
    have silent : ∀ event ∈ calls, shownBitmap event = none := by
      intro event call
      rw [(creates event call).1]
      rfl
    have ready := pushFrame_fits stays (sameMode.trans fit) (kept fits) queued
    cases popped
    rw [paintedOn_append silent]
    exact (popUpdate_painted { prepared with bgraPipeline := pipeline }).mpr ready

private theorem poll_keeps (updates : MacDisplayUpdates) (avc420Enabled : Bool)
    (tx : Watch.Sender (Option DesktopSize)) :
    (updates.poll avc420Enabled tx).2.bgraPipeline.aspectMode = updates.bgraPipeline.aspectMode := by
  obtain ⟨size, _, _, ⟨_, polled⟩ | ⟨_, polled⟩⟩ | ⟨_, polled⟩ := poll_cases updates avc420Enabled tx
  · rw [polled]
    rfl
  · rw [polled]
    exact (popUpdate_keeps (updates.bgraPipeline.setTarget size)).2
  · rw [polled]
    exact (popUpdate_keeps updates.bgraPipeline).2

/-- A turn keeps the stream, with what it has shown. -/
theorem streaming_keeps (fit : Fit updates.bgraPipeline)
    (stepped : streaming platform updates turn = some (next, emitted)) : Fit next.bgraPipeline := by
  cases turn with
  | poll avc420Enabled tx =>
    cases stepped
    exact (poll_keeps updates avc420Enabled tx).trans fit
  | frame avc420Enabled forced capture =>
    obtain ⟨⟨_, _, events⟩, framed, same⟩ := Option.map_eq_some_iff.mp stepped
    cases same
    cases frame_moves framed with
    | rest prepared calls shown prepares creates unpushed => exact (prepares_fit prepares).1.trans fit
    | push prepared after calls shown prepares creates frame captured pushed =>
      obtain ⟨pipeline, queued, popped⟩ := Option.map_eq_some_iff.mp pushed
      cases popped
      exact (popUpdate_keeps pipeline).2.trans
        ((pipeline_pushFrame_keeps queued).2.trans ((prepares_fit prepares).1.trans fit))

private theorem streaming_fits (stays : StaysInside platform.findDifferentRectsSub) (fit : Fit updates.bgraPipeline)
    (fits : QueueFits updates.bgraPipeline)
    (stepped : streaming platform updates turn = some (next, emitted)) :
    (QueueFits next.bgraPipeline ∧ ∀ painted ∈ emitted, painted.Fits) ↔ TakesFitting updates turn := by
  cases turn with
  | poll avc420Enabled tx =>
    cases stepped
    exact poll_painted avc420Enabled tx fits
  | frame avc420Enabled forced capture =>
    obtain ⟨⟨_, _, events⟩, framed, same⟩ := Option.map_eq_some_iff.mp stepped
    cases same
    exact iff_of_true (frame_painted stays fit fits framed) trivial

/-- A poll while no size has been sent. -/
def idlePoll : Turn := .poll true (Watch.channel none).1

/-- Polling until the queue is empty returns all of it. -/
theorem streaming_drains (platform : Platform) (pending : List BitmapUpdate)
    (queued : updates.bgraPipeline.pending = pending) :
    ∃ final, Runs.run (streaming platform) updates (List.replicate pending.length idlePoll) =
      some (final, pending.map (updates.bgraPipeline.targetSize, ·)) := by
  induction pending generalizing updates with
  | nil => exact ⟨updates, rfl⟩
  | cons update rest ih =>
    obtain ⟨size, _, value, _⟩ | ⟨_, polls⟩ := poll_cases updates true (Watch.channel none).1
    · cases value
    · obtain ⟨next, left⟩ : ∃ next : MacDisplayUpdates, next = { caughtUp updates (Watch.channel none).1 with
          bgraPipeline := { updates.bgraPipeline with pending := rest } } := ⟨_, rfl⟩
      have polled : streaming platform updates idlePoll =
        some (next, [(updates.bgraPipeline.targetSize, update)]) := by
        simp [streaming, idlePoll, polls, MacDisplayUpdates.popUpdate,
          BgraFramePipeline.popUpdate, queued, paintedOn, shownBitmap, left]
      have sameTarget : next.bgraPipeline.targetSize = updates.bgraPipeline.targetSize := by rw [left]
      obtain ⟨final, ran⟩ := ih (show next.bgraPipeline.pending = rest by rw [left])
      rw [sameTarget] at ran
      exact ⟨final, Runs.run_step polled ran⟩

end Stream

/-- Every update that the calls pop fits the target in force. -/
def PaintsInside (platform : Platform) (target : DesktopSize) (calls : List Call) : Prop :=
  ∀ final events, Runs.run (painting platform) (.new target .fit) calls = some (final, events) →
    ∀ painted ∈ events, painted.Fits

/-- Every bitmap that a stream returns fits the target in force. -/
def ReturnsInside (platform : Platform) (updates : MacDisplayUpdates) (turns : List Turn) : Prop :=
  ∀ final events, Runs.run (streaming platform) updates turns = some (final, events) →
    ∀ painted ∈ events, painted.Fits

private theorem exists_outside {target : DesktopSize} {pending : List BitmapUpdate}
    (misfits : ¬∀ update ∈ pending, Inside update target) :
    ∃ painted ∈ pending.map (target, ·), ¬Painted.Fits painted := by
  push Not at misfits
  obtain ⟨update, member, outside⟩ := misfits
  exact ⟨(target, update), List.mem_map_of_mem member, outside⟩

/-- **Nothing is painted outside the target exactly when no target is set that a
queued update does not fit**: by a pipeline under any calls, and by the stream
that owns it under any turns, however far each is drained at any point. -/
theorem nothing_painted_outside_iff (platform : Platform) (stays : StaysInside platform.findDifferentRectsSub)
    (target : DesktopSize) :
    (∀ calls, (∀ count drains, PaintsInside platform target
        (calls.take count ++ List.replicate drains .popUpdate)) ↔
      Runs.Meets (painting platform) (fun _ => RetargetsFitting) [] (.new target .fit) calls) ∧
    ∀ streamSize mode resizeRx useCgDisplay created updates,
      MacDisplayUpdates.start streamSize target mode .fit resizeRx useCgDisplay created = some updates →
      ∀ turns, (∀ count drains, ReturnsInside platform updates
          (turns.take count ++ List.replicate drains idlePoll)) ↔
        Runs.Meets (streaming platform) (fun _ => TakesFitting) [] updates turns := by
  constructor
  · intro calls
    apply Runs.drained_iff_meets QueueFits Fit
    · exact fun _ _ _ _ _ fits fit stepped => painting_fits stays fit fits stepped
    · exact fun _ _ _ _ fit stepped => painting_keeps fit stepped
    · exact fun _ _ => trivial
    · intro pipeline _ misfits
      exact ⟨_, _, _, painting_drains platform pipeline.pending rfl, exists_outside misfits⟩
    · exact List.forall_mem_nil _
    · rfl
  · intro streamSize mode resizeRx useCgDisplay created updates started turns
    obtain ⟨capture, _, started⟩ := Option.bind_eq_some_iff.mp started
    obtain ⟨encoder, _, rfl⟩ := Option.map_eq_some_iff.mp started
    apply Runs.drained_iff_meets (fun updates => QueueFits updates.bgraPipeline)
      (fun updates => Fit updates.bgraPipeline)
    · exact fun _ _ _ _ _ fits fit stepped => streaming_fits stays fit fits stepped
    · exact fun _ _ _ _ fit stepped => streaming_keeps fit stepped
    · exact fun _ _ _ _ => nofun
    · intro updates _ misfits
      obtain ⟨final, ran⟩ := streaming_drains platform updates.bgraPipeline.pending rfl
      exact ⟨_, final, _, ran, exists_outside misfits⟩
    · exact List.forall_mem_nil _
    · rfl

/-- Four pixels, or one. -/
def fourPixels : PrevFrame := ⟨List.replicate 16 255, 8, 2, 2⟩

/-- A frame of one pixel. -/
def onePixel : PrevFrame := ⟨[1, 2, 3, 255], 4, 1, 1⟩

/-- A smaller target that is set once the queue is empty. -/
def drainedThenShrunk : List Call :=
  [.pushFrame fourPixels, .popUpdate, .setTarget ⟨1, 1⟩, .pushFrame onePixel, .popUpdate]

/-- A queue that is drained before the target shrinks. -/
theorem drained_then_shrunk_stays_inside :
    PaintsInside exactPlatform ⟨2, 2⟩ (drainedThenShrunk.take 5 ++ List.replicate 1 .popUpdate) := by
  have inside := (nothing_painted_outside_iff exactPlatform singleTileDiff_staysInside ⟨2, 2⟩).1 drainedThenShrunk
  exact inside.mpr (by decide) 5 1

/-- A smaller target that is set while the first frame is still queued. -/
theorem queued_then_shrunk_paints_outside :
    ¬PaintsInside exactPlatform ⟨2, 2⟩ [.pushFrame fourPixels, .setTarget ⟨1, 1⟩, .popUpdate] := by
  intro inside
  exact absurd (inside _ _ rfl) (by decide)

end Osxrdp.TargetBounds
