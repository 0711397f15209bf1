import Osxrdp.Letterbox

/-! Whatever the order of pushes, pops, target changes and resets, a client
that has painted everything the pipeline handed out sees the last frame. The
invariant adds what is still queued to what was already painted. -/
namespace Osxrdp.FrameConvergence
open FramePipeline FramePipeline.BgraFramePipeline
open Raster (Rect Patch Picture paintAll paintAll_append paintAll_shows)

/-- A size with an area. -/
def NonZero (size : DesktopSize) : Prop := size.width ≠ 0 ∧ size.height ≠ 0

/-- What is relied on of `find_different_rects_sub::<4>`: on two images of one
size its rectangles are disjoint, lie inside the image and cover every pixel
in which the images differ. -/
def FindsDifferences (findDifferentRectsSub : PrevFrame → PrevFrame → List Rect) : Prop :=
  ∀ before after : PrevFrame, before.Valid → after.Valid →
    before.width = after.width → before.height = after.height →
    (findDifferentRectsSub before after).Pairwise Rect.Disjoint ∧
    (∀ rect ∈ findDifferentRectsSub before after, rect.InArea after.width after.height) ∧
    ∀ column < after.width, ∀ row < after.height,
      before.picture column row ≠ after.picture column row →
        ∃ rect ∈ findDifferentRectsSub before after, rect.Contains column row

private theorem transform_valid (fl : Rounding 53) (mode : AspectMode) {target : DesktopSize}
    (nonzero : NonZero target) {src : PrevFrame} (valid : src.Valid) :
    ∃ frame, transformFrame fl mode target src = some frame ∧ frame.Valid := by
  unfold transformFrame
  split
  · obtain ⟨image, produced, _, _, _, imageValid, _⟩ :=
      Letterbox.letterbox_image fl target nonzero.1 nonzero.2 src valid.toReadable
    exact ⟨image, produced, imageValid⟩
  · exact ⟨src, rfl, valid⟩

section Bitmaps

/-- A number that fits keeps its value. -/
theorem toUInt16_toNat {n : Nat} (small : n ≤ 65535) : n.toUInt16.toNat = n :=
  UInt16.toNat_ofNat_of_lt' (Nat.lt_succ_of_le small)

/-- A positive number that fits makes a `NonZeroU16`. -/
theorem nonZeroU16_new {n : Nat} (positive : 0 < n) (small : n ≤ 65535) :
    ∃ value, NonZeroU16.new n.toUInt16 = some value ∧ value.val.toNat = n := by
  have nonzero : n.toUInt16 ≠ 0 := by
    intro zero
    have := congrArg UInt16.toNat zero
    rw [toUInt16_toNat small] at this
    exact Nat.ne_of_gt positive this
  exact ⟨⟨n.toUInt16, nonzero⟩, dif_pos nonzero, toUInt16_toNat small⟩

/-- What it was made of is its value. -/
theorem toNat_of_nonZeroU16 {n : Nat} {value : NonZeroU16} (made : NonZeroU16.new n.toUInt16 = some value)
    (small : n ≤ 65535) : value.val.toNat = n := by
  unfold NonZeroU16.new at made
  split at made
  · cases made
    exact toUInt16_toNat small
  · cases made

/-- `make_bitmap` cannot fail on a valid frame. -/
theorem makeBitmap_valid {frame : PrevFrame} (valid : frame.Valid) :
    ∃ bitmap, makeBitmap frame = some bitmap ∧ bitmap.x = 0 ∧ bitmap.y = 0 ∧
      bitmap.width.val.toNat = frame.width ∧ bitmap.height.val.toNat = frame.height ∧
      bitmap.data = frame.data ∧ bitmap.stride.val = frame.stride := by
  obtain ⟨width, madeWidth, widthEq⟩ := nonZeroU16_new valid.width_pos valid.width_le
  obtain ⟨height, madeHeight, heightEq⟩ := nonZeroU16_new valid.height_pos valid.height_le
  have stride : frame.stride ≠ 0 := by
    have := valid.width_pos
    have := valid.stride_le
    omega
  refine ⟨⟨0, 0, width, height, frame.data, ⟨frame.stride, stride⟩⟩, ?_, rfl, rfl, widthEq, heightEq,
    rfl, rfl⟩
  simp [makeBitmap, madeWidth, madeHeight, NonZeroUsize.new, stride]

variable {frame : PrevFrame} {bitmap : BitmapUpdate}

/-- Reading a slice that starts at a pixel reads the same pixels, as long as
they end before the slice does. -/
theorem slice_pixel {data : Bytes} {stride start stop column row : Nat}
    (within : start + (row * stride + column * 4) + 4 ≤ stop) :
    pixelAt ((data.take stop).drop start) stride column row =
      (data.drop (start + (row * stride + column * 4))).take 4 := by
  rw [pixelAt, List.drop_drop, List.drop_take, List.take_take, Nat.min_eq_left (by omega)]

/-- A dirty rectangle inside the frame becomes one update that paints exactly
that rectangle, with the frame's own pixels. -/
theorem queueRect_spec (valid : frame.Valid) (made : makeBitmap frame = some bitmap)
    (pending : List BitmapUpdate) {rect : Rect} (inside : rect.InArea frame.width frame.height) :
    ∃ update, queueRect bitmap pending rect = some (pending ++ [update]) ∧
      update.patch.rect = rect ∧ update.patch.Shows frame.picture := by
  obtain ⟨_, remade, originX, originY, widthEq, heightEq, dataEq, strideEq⟩ := makeBitmap_valid valid
  obtain rfl := Option.some.inj (made.symm.trans remade)
  obtain ⟨widthPos, heightPos, right, bottom⟩ := inside
  have widthLe := valid.width_le
  have heightLe := valid.height_le
  obtain ⟨rw', madeWidth, rwEq⟩ := nonZeroU16_new widthPos (by omega : rect.width ≤ 65535)
  obtain ⟨rh, madeHeight, rhEq⟩ := nonZeroU16_new heightPos (by omega : rect.height ≤ 65535)
  have xEq : rect.x.toUInt16.toNat = rect.x := toUInt16_toNat (by omega)
  have yEq : rect.y.toUInt16.toNat = rect.y := toUInt16_toNat (by omega)
  have accepted : ¬ (rect.x.toUInt16 + rw'.val > bitmap.width.val ∨
      rect.y.toUInt16 + rh.val > bitmap.height.val) := by
    simp only [gt_iff_lt, UInt16.lt_iff_toNat_lt, UInt16.toNat_add, xEq, yEq, rwEq, rhEq, widthEq,
      heightEq, not_or, not_lt]
    omega
  have lastRow : rect.y * frame.stride + (rect.height - 1) * frame.stride ≤
      frame.stride * (frame.height - 1) := by
    rw [← Nat.add_mul, Nat.mul_comm frame.stride]
    exact Nat.mul_le_mul_right _ (by omega)
  have room := valid.data_le
  obtain ⟨start, startEq⟩ : ∃ start, start = rect.y * frame.stride + rect.x * 4 := ⟨_, rfl⟩
  obtain ⟨stop, stopEq⟩ : ∃ stop,
      stop = start + (rect.height - 1) * frame.stride + rect.width * 4 := ⟨_, rfl⟩
  have sliced : stop ≤ frame.data.length := by omega
  refine ⟨⟨rect.x.toUInt16, rect.y.toUInt16, rw', rh, (frame.data.take stop).drop start,
    bitmap.stride⟩, ?_, ?_, ?_⟩
  · simp only [queueRect, madeWidth, madeHeight, BitmapUpdate.sub, accepted, ↓reduceIte,
      BitmapUpdate.slice, BitmapUpdate.bytesPerPixel, xEq, yEq, rwEq, rhEq, dataEq, strideEq, originX,
      originY, UInt16.zero_add, ← startEq, ← stopEq]
    rw [if_pos ⟨by omega, sliced⟩]
    rfl
  · simp only [BitmapUpdate.patch, xEq, yEq, rwEq, rhEq]
  · intro column row covered
    simp only [BitmapUpdate.patch, xEq, yEq, rwEq, rhEq, Rect.Contains] at covered
    simp only [BitmapUpdate.patch, xEq, yEq, strideEq]
    have rowEq : rect.y * frame.stride + (row - rect.y) * frame.stride = row * frame.stride := by
      rw [← Nat.add_mul, Nat.add_sub_cancel' covered.2.2.1]
    have rowLe : (row - rect.y) * frame.stride ≤ (rect.height - 1) * frame.stride :=
      Nat.mul_le_mul_right _ (by omega)
    rw [slice_pixel (by omega), PrevFrame.picture, pixelAt]
    congr 2
    omega

/-- The loop over the dirty rectangles queues one update for each of them. -/
theorem queueRects_spec (valid : frame.Valid) (made : makeBitmap frame = some bitmap)
    (rects : List Rect) (inside : ∀ rect ∈ rects, rect.InArea frame.width frame.height)
    (pending : List BitmapUpdate) :
    ∃ updates : List BitmapUpdate, rects.foldlM (queueRect bitmap) pending = some (pending ++ updates) ∧
      updates.map (fun update => update.patch.rect) = rects ∧
      ∀ update ∈ updates, update.patch.Shows frame.picture := by
  induction rects generalizing pending with
  | nil => exact ⟨[], by simp, rfl, by simp⟩
  | cons rect rest ih =>
    obtain ⟨update, queued, same, shows⟩ := queueRect_spec valid made pending (inside rect (by simp))
    obtain ⟨updates, looped, sameRest, showsRest⟩ :=
      ih (fun later member => inside later (List.mem_cons_of_mem _ member)) (pending ++ [update])
    refine ⟨update :: updates, ?_, by simp [same, sameRest], ?_⟩
    · simp [List.foldlM_cons, queued, looped]
    · simpa using ⟨shows, showsRest⟩

/-- The full-frame update paints every pixel of the frame. -/
theorem full_update_spec (valid : frame.Valid) (made : makeBitmap frame = some bitmap) :
    bitmap.patch.rect = ⟨0, 0, frame.width, frame.height⟩ ∧ bitmap.patch.Shows frame.picture := by
  obtain ⟨_, remade, originX, originY, widthEq, heightEq, dataEq, strideEq⟩ := makeBitmap_valid valid
  obtain rfl := Option.some.inj (made.symm.trans remade)
  constructor
  · simp [BitmapUpdate.patch, originX, originY, widthEq, heightEq]
  · intro column row _
    simp [BitmapUpdate.patch, originX, originY, dataEq, strideEq, PrevFrame.picture]

end Bitmaps

section Pushing
variable {platform : Platform} {pipeline : BgraFramePipeline} {src frame : PrevFrame}

/-- What one push queues: updates with the frame's own pixels, covering every
pixel that the previous frame did not already show. -/
def Refreshes (pipeline : BgraFramePipeline) (frame : PrevFrame) (updates : List BitmapUpdate) :
    Prop :=
  (∀ update ∈ updates, update.patch.Shows frame.picture) ∧
  ∀ column < frame.width, ∀ row < frame.height,
    (∃ prev, pipeline.prev = some prev ∧ prev.width = frame.width ∧ prev.height = frame.height ∧
      prev.picture column row = frame.picture column row) ∨
    ∃ update ∈ updates, update.patch.rect.Contains column row

private theorem full_refreshes (valid : frame.Valid) {bitmap : BitmapUpdate}
    (made : makeBitmap frame = some bitmap) : Refreshes pipeline frame [bitmap] := by
  obtain ⟨whole, shows⟩ := full_update_spec valid made
  refine ⟨by simpa using shows, fun column inColumns row inRows => .inr ⟨bitmap, by simp, ?_⟩⟩
  rw [whole]
  simpa [Rect.Contains] using And.intro inColumns inRows

/-- What a comparison with the previous frame queues: nothing, the whole frame,
or one update for each dirty rectangle. -/
inductive Queues (diffs : List Rect) (frame : PrevFrame) (bitmap : BitmapUpdate) : List BitmapUpdate → Prop
  | nothing (unchanged : diffs = []) : Queues diffs frame bitmap []
  | whole (changed : diffs ≠ []) (large : totalDirty diffs > frame.width * frame.height / 2) :
    Queues diffs frame bitmap [bitmap]
  | parts (updates : List BitmapUpdate) (changed : diffs ≠ [])
    (small : totalDirty diffs ≤ frame.width * frame.height / 2)
    (same : updates.map (fun update => update.patch.rect) = diffs)
    (shows : ∀ update ∈ updates, update.patch.Shows frame.picture) : Queues diffs frame bitmap updates

/-- The changes of a frame are queued, and paint it over what was shown. -/
theorem queueChanges_queues (pipeline : BgraFramePipeline) {prev : PrevFrame} (valid : frame.Valid)
    (inside : ∀ rect ∈ platform.findDifferentRectsSub prev frame, rect.InArea frame.width frame.height)
    {bitmap : BitmapUpdate} (made : makeBitmap frame = some bitmap) :
    ∃ updates, queueChanges platform pipeline prev frame bitmap =
        some { pipeline with prev := some frame, pending := pipeline.pending ++ updates } ∧
      Queues (platform.findDifferentRectsSub prev frame) frame bitmap updates := by
  unfold queueChanges
  dsimp only
  split
  · rename_i unchanged
    exact ⟨[], by simp, .nothing (List.isEmpty_iff.mp unchanged)⟩
  · rename_i changed
    rw [List.isEmpty_iff] at changed
    split
    · rename_i large
      exact ⟨[bitmap], rfl, .whole changed large⟩
    · rename_i small
      obtain ⟨updates, looped, same, shows⟩ := queueRects_spec valid made _ inside pipeline.pending
      exact ⟨updates, by simp [looped], .parts updates changed (Nat.le_of_not_gt small) same shows⟩

private theorem queueChanges_spec (finds : FindsDifferences platform.findDifferentRectsSub)
    {prev : PrevFrame} (held : pipeline.prev = some prev) (prevValid : prev.Valid)
    (valid : frame.Valid) (width : prev.width = frame.width) (height : prev.height = frame.height)
    {bitmap : BitmapUpdate} (made : makeBitmap frame = some bitmap) :
    ∃ updates, queueChanges platform pipeline prev frame bitmap =
        some { pipeline with prev := some frame, pending := pipeline.pending ++ updates } ∧
      Refreshes pipeline frame updates := by
  obtain ⟨_, inside, covers⟩ := finds prev frame prevValid valid width height
  have unchangedOrDirty : ∀ column < frame.width, ∀ row < frame.height,
      prev.picture column row = frame.picture column row ∨
        ∃ rect ∈ platform.findDifferentRectsSub prev frame, rect.Contains column row := by
    intro column inColumns row inRows
    by_cases same : prev.picture column row = frame.picture column row
    · exact .inl same
    · exact .inr (covers column inColumns row inRows same)
  obtain ⟨updates, queued, queues⟩ := queueChanges_queues pipeline valid inside made
  refine ⟨updates, queued, ?_⟩
  cases queues with
  | nothing unchanged =>
    refine ⟨List.forall_mem_nil _, fun column inColumns row inRows => .inl ?_⟩
    have := unchangedOrDirty column inColumns row inRows
    rw [unchanged] at this
    exact ⟨prev, held, width, height, by simpa using this⟩
  | whole changed large => exact full_refreshes valid made
  | parts _ changed small same shows =>
    refine ⟨shows, fun column inColumns row inRows => ?_⟩
    rcases unchangedOrDirty column inColumns row inRows with unchanged | ⟨rect, member, contains⟩
    · exact .inl ⟨prev, held, width, height, unchanged⟩
    · rw [← same] at member
      obtain ⟨update, queued, rfl⟩ := List.mem_map.mp member
      exact .inr ⟨update, queued, contains⟩

/-- A push of a valid frame makes the transformed frame the previous one and
queues a refresh for it; nothing else changes. -/
theorem pushFrame_spec (finds : FindsDifferences platform.findDifferentRectsSub)
    (nonzero : NonZero pipeline.targetSize) (prevValid : ∀ prev, pipeline.prev = some prev → prev.Valid)
    (srcValid : src.Valid) :
    ∃ frame updates, transformFrame platform.fl pipeline.aspectMode pipeline.targetSize src =
        some frame ∧ frame.Valid ∧
      pipeline.pushFrame platform src =
        some { pipeline with prev := some frame, pending := pipeline.pending ++ updates } ∧
      Refreshes pipeline frame updates := by
  obtain ⟨frame, transformed, valid⟩ :=
    transform_valid platform.fl pipeline.aspectMode nonzero srcValid
  obtain ⟨bitmap, made, _⟩ := makeBitmap_valid valid
  suffices pushed : ∃ updates, pipeline.pushFrame platform src =
      some { pipeline with prev := some frame, pending := pipeline.pending ++ updates } ∧
        Refreshes pipeline frame updates by
    obtain ⟨updates, pushed, refreshes⟩ := pushed
    exact ⟨frame, updates, transformed, valid, pushed, refreshes⟩
  simp only [pushFrame, transformed, Option.bind_some, made]
  cases held : pipeline.prev with
  | none => exact ⟨[bitmap], rfl, full_refreshes valid made⟩
  | some prev =>
    dsimp only
    split
    · exact ⟨[bitmap], rfl, full_refreshes valid made⟩
    · rename_i sameSize
      rw [not_or, not_not, not_not] at sameSize
      exact queueChanges_spec finds held (prevValid prev held) valid sameSize.1 sameSize.2 made

end Pushing

section Runs

/-- A call of the pipeline. -/
inductive Call where
  | pushFrame (src : PrevFrame)
  | popUpdate
  | setTarget (size : DesktopSize)
  | reset

/-- The calls considered: captured frames are valid, targets non-zero. -/
def Call.Valid : Call → Prop
  | .pushFrame src => src.Valid
  | .popUpdate => True
  | .setTarget size => NonZero size
  | .reset => True

/-- The pipeline under its four calls; the events are the popped updates. -/
def step (platform : Platform) : Runs.System BgraFramePipeline Call BitmapUpdate
  | pipeline, .pushFrame src => (pipeline.pushFrame platform src).map (·, [])
  | pipeline, .popUpdate => some (pipeline.popUpdate.2, pipeline.popUpdate.1.toList)
  | pipeline, .setTarget size => some (pipeline.setTarget size, [])
  | pipeline, .reset => some (pipeline.reset, [])

/-- The last frame pushed with no reset since, and the target it was pushed
under; `last` is the answer before the first call. -/
def lastPush (target : DesktopSize) (last : Option (DesktopSize × PrevFrame)) :
    List Call → Option (DesktopSize × PrevFrame)
  | [] => last
  | .pushFrame src :: calls => lastPush target (some (target, src)) calls
  | .popUpdate :: calls => lastPush target last calls
  | .setTarget size :: calls => lastPush size last calls
  | .reset :: calls => lastPush target none calls

/-- A client that has painted these updates shows the whole frame, whatever it
showed before. -/
def Shown (updates : List BitmapUpdate) (frame : PrevFrame) : Prop :=
  ∀ (blank : Picture Bytes), ∀ column < frame.width, ∀ row < frame.height,
    paintAll (updates.map BitmapUpdate.patch) blank column row = frame.picture column row

/-- What has been painted together with what is queued shows `prev`, and
`prev` is the transformed last push. -/
structure Converging (fl : Rounding 53) (mode : AspectMode) (target : DesktopSize)
    (last : Option (DesktopSize × PrevFrame)) (pipeline : BgraFramePipeline)
    (popped : List BitmapUpdate) : Prop where
  mode_eq : pipeline.aspectMode = mode
  target_eq : pipeline.targetSize = target
  nonzero : NonZero target
  cleared : last = none → pipeline.prev = none
  shown : ∀ size src, last = some (size, src) → ∃ frame, transformFrame fl mode size src = some frame ∧
    pipeline.prev = some frame ∧ frame.Valid ∧ Shown (popped ++ pipeline.pending) frame

variable {platform : Platform} {mode : AspectMode} {target : DesktopSize}
  {last : Option (DesktopSize × PrevFrame)} {pipeline : BgraFramePipeline}
  {popped : List BitmapUpdate}

private theorem refreshed_shown {frame : PrevFrame} {updates : List BitmapUpdate}
    (refreshes : Refreshes pipeline frame updates)
    (before : ∀ prev, pipeline.prev = some prev → Shown (popped ++ pipeline.pending) prev) :
    Shown (popped ++ (pipeline.pending ++ updates)) frame := by
  intro blank column inColumns row inRows
  rw [← List.append_assoc, List.map_append, Raster.paintAll_append]
  apply Raster.paintAll_shows
  · simpa using refreshes.1
  · rcases refreshes.2 column inColumns row inRows with
      ⟨prev, held, width, height, same⟩ | ⟨update, member, contains⟩
    · left
      rw [before prev held blank column (width ▸ inColumns) row (height ▸ inRows), same]
    · exact .inr ⟨update.patch, List.mem_map_of_mem member, contains⟩

/-- The frame that is compared with is the one that is shown once all is popped. -/
theorem Converging.prev_shown (converging : Converging platform.fl mode target last pipeline popped)
    {prev : PrevFrame} (held : pipeline.prev = some prev) :
    prev.Valid ∧ Shown (popped ++ pipeline.pending) prev := by
  cases pushed : last with
  | none =>
    rw [converging.cleared pushed] at held
    cases held
  | some push =>
    obtain ⟨frame, _, heldFrame, valid, shown⟩ := converging.shown push.1 push.2 pushed
    rw [heldFrame] at held
    cases held
    exact ⟨valid, shown⟩

/-- A captured frame keeps the pipeline converging, and no push fails. -/
theorem push_converges (finds : FindsDifferences platform.findDifferentRectsSub)
    (converging : Converging platform.fl mode target last pipeline popped) {src : PrevFrame}
    (valid : src.Valid) :
    ∃ next, pipeline.pushFrame platform src = some next ∧
      Converging platform.fl mode target (some (target, src)) next popped := by
  obtain ⟨frame, updates, transformed, frameValid, pushed, refreshes⟩ := pushFrame_spec finds
    (converging.target_eq ▸ converging.nonzero) (fun prev held => (converging.prev_shown held).1) valid
  rw [converging.mode_eq, converging.target_eq] at transformed
  refine ⟨_, pushed, converging.mode_eq, converging.target_eq, converging.nonzero, nofun, ?_⟩
  rintro size src' pushedLast
  cases pushedLast
  exact ⟨frame, transformed, rfl, frameValid,
    refreshed_shown refreshes fun prev held => (converging.prev_shown held).2⟩

/-- What is popped moves from the queue to the client. -/
theorem pop_converges (converging : Converging platform.fl mode target last pipeline popped) :
    Converging platform.fl mode target last pipeline.popUpdate.2
      (popped ++ pipeline.popUpdate.1.toList) := by
  unfold popUpdate
  split
  · simpa using converging
  · rename_i update rest queued
    refine ⟨converging.mode_eq, converging.target_eq, converging.nonzero, converging.cleared, ?_⟩
    intro size src pushed
    simpa [queued] using converging.shown size src pushed

/-- Every call keeps the invariant, and none of them panics. -/
theorem run_converges (finds : FindsDifferences platform.findDifferentRectsSub) (calls : List Call)
    (valid : ∀ call ∈ calls, call.Valid)
    (converging : Converging platform.fl mode target last pipeline popped) :
    ∃ final events, Runs.run (step platform) pipeline calls = some (final, events) ∧
      ∃ target', Converging platform.fl mode target' (lastPush target last calls) final
        (popped ++ events) := by
  induction calls generalizing target last pipeline popped with
  | nil => exact ⟨pipeline, [], rfl, target, by simpa [lastPush] using converging⟩
  | cons call calls ih =>
    have validRest := fun later member => valid later (List.mem_cons_of_mem call member)
    have validCall := valid call (by simp)
    cases call with
    | pushFrame src =>
      obtain ⟨next, pushed, held⟩ := push_converges finds converging validCall
      obtain ⟨final, events, ran, ended⟩ := ih validRest held
      exact ⟨final, [] ++ events, Runs.run_step (by simp [step, pushed]) ran, ended⟩
    | popUpdate =>
      obtain ⟨final, events, ran, ended⟩ := ih validRest (pop_converges converging)
      refine ⟨final, _, Runs.run_step rfl ran, ?_⟩
      rwa [List.append_assoc] at ended
    | setTarget size =>
      have held : Converging platform.fl mode size last (pipeline.setTarget size) popped :=
        ⟨converging.mode_eq, rfl, validCall, converging.cleared, converging.shown⟩
      obtain ⟨final, events, ran, ended⟩ := ih validRest held
      exact ⟨final, [] ++ events, Runs.run_step rfl ran, ended⟩
    | reset =>
      have held : Converging platform.fl mode target none pipeline.reset popped :=
        ⟨converging.mode_eq, converging.target_eq, converging.nonzero, fun _ => rfl, nofun⟩
      obtain ⟨final, events, ran, ended⟩ := ih validRest held
      exact ⟨final, [] ++ events, Runs.run_step rfl ran, ended⟩

end Runs

/-- **Client picture convergence.** Once the queue is drained, a client that
painted every popped update in order shows exactly the transformed last frame
pushed since the last reset, over its whole area. No call panics on the way. -/
theorem client_picture_converges (platform : Platform)
    (finds : FindsDifferences platform.findDifferentRectsSub) (mode : AspectMode)
    (target : DesktopSize) (nonzero : NonZero target) (calls : List Call)
    (valid : ∀ call ∈ calls, call.Valid) :
    ∃ pipeline popped,
      Runs.run (step platform) (BgraFramePipeline.new target mode) calls = some (pipeline, popped) ∧
      (pipeline.pending = [] → ∀ size src, lastPush target none calls = some (size, src) →
        ∃ frame, transformFrame platform.fl mode size src = some frame ∧ Shown popped frame) := by
  have start : Converging platform.fl mode target none (BgraFramePipeline.new target mode) [] :=
    ⟨rfl, rfl, nonzero, fun _ => rfl, nofun⟩
  obtain ⟨final, events, ran, _, converging⟩ := run_converges finds calls valid start
  refine ⟨final, events, ran, fun drained size src pushed => ?_⟩
  obtain ⟨frame, transformed, _, _, shown⟩ := converging.shown size src pushed
  exact ⟨frame, transformed, by simpa [drained] using shown⟩

/-- A difference that takes the whole frame finds every difference. -/
theorem singleTileDiff_finds : FindsDifferences singleTileDiff := by
  intro before after _ valid _ _
  unfold singleTileDiff
  split
  · rename_i same
    exact ⟨.nil, nofun, fun column inColumns row inRows different =>
      (different (same row inRows column inColumns)).elim⟩
  · refine ⟨List.pairwise_singleton _ _, ?_, fun column inColumns row inRows _ => ?_⟩
    · simpa [Rect.InArea] using And.intro valid.width_pos valid.height_pos
    · exact ⟨_, List.mem_singleton_self _, by simpa [Rect.Contains] using And.intro inColumns inRows⟩

/-- A 1×1 frame on a 2×1 target, repainted after the target follows it. -/
theorem client_picture_converges_after_retarget :
    ∃ pipeline popped,
      Runs.run (step exactPlatform) (BgraFramePipeline.new ⟨2, 1⟩ .fit)
        [.pushFrame ⟨[1, 2, 3, 255], 4, 1, 1⟩, .popUpdate, .setTarget ⟨1, 1⟩,
          .pushFrame ⟨[4, 5, 6, 255], 4, 1, 1⟩, .popUpdate] = some (pipeline, popped) ∧
      (pipeline.pending = [] → ∀ size src,
        lastPush ⟨2, 1⟩ none [.pushFrame ⟨[1, 2, 3, 255], 4, 1, 1⟩, .popUpdate, .setTarget ⟨1, 1⟩,
          .pushFrame ⟨[4, 5, 6, 255], 4, 1, 1⟩, .popUpdate] = some (size, src) →
        ∃ frame, transformFrame exactPlatform.fl .fit size src = some frame ∧ Shown popped frame) :=
  client_picture_converges exactPlatform singleTileDiff_finds .fit ⟨2, 1⟩ (by simp [NonZero])
    _ (by
      have small (a b c d : UInt8) : PrevFrame.Valid ⟨[a, b, c, d], 4, 1, 1⟩ := by
        refine ⟨⟨?_, ?_, ?_, ?_⟩, ?_, ?_⟩ <;> simp
      simp [Call.Valid, NonZero, small])

end Osxrdp.FrameConvergence
