import Osxrdp.DisplaySteps

/-! What one connection leaves behind for the next. `client_disconnected` forgets
the sizes and the switcher's mode, but not the channel: the next connection is
like one on an unused handler exactly when nothing on it was left unseen. -/
namespace Osxrdp.ConnectionIsolation
open Display DisplayMode DisplaySteps FramePipeline
open Watch (Sender Receiver Shifted)

section Streams
variable {platform : Platform} {offset : Nat} {tx base : Sender (Option DesktopSize)}

/-- The same stream on a channel that has more versions behind it. -/
def shift (offset : Nat) (updates : MacDisplayUpdates) : MacDisplayUpdates :=
  { updates with resizeRx := ⟨updates.resizeRx.seen + offset⟩ }

section Fields
variable (offset : Nat) (updates : MacDisplayUpdates)

@[simp] theorem shift_capture : (shift offset updates).capture = updates.capture := rfl
@[simp] theorem shift_mode : (shift offset updates).mode = updates.mode := rfl
@[simp] theorem shift_streamSize : (shift offset updates).streamSize = updates.streamSize := rfl
@[simp] theorem shift_h264Encoder : (shift offset updates).h264Encoder = updates.h264Encoder := rfl
@[simp] theorem shift_missedFrames : (shift offset updates).missedFrames = updates.missedFrames := rfl

/-- The count of missed frames does not depend on the channel. -/
theorem shift_setMissedFrames (missedFrames : UInt32) :
    { shift offset updates with missedFrames } = shift offset { updates with missedFrames } := rfl

end Fields

private theorem takeResize_shift (channel : Shifted offset tx base) {updates : MacDisplayUpdates}
    (behind : updates.resizeRx.Behind base) (avc420Enabled : Bool) :
    (shift offset updates).takeResize avc420Enabled tx =
      ((updates.takeResize avc420Enabled base).1, shift offset (updates.takeResize avc420Enabled base).2) := by
  have same : (shift offset updates).resizeRx.hasChanged tx = updates.resizeRx.hasChanged base :=
    channel.hasChanged_eq rfl
  unfold MacDisplayUpdates.takeResize
  rw [same]
  cases changed : updates.resizeRx.hasChanged base with
  | false => rfl
  | true =>
    have value := channel.value (Nat.zero_lt_of_lt (behind.lt changed))
    simp only [↓reduceIte, Receiver.borrowAndUpdate, value, channel.version]
    cases base.value with
    | none => rfl
    | some size =>
      dsimp only
      unfold shift
      split <;> rfl

private theorem poll_shift (channel : Shifted offset tx base) {updates : MacDisplayUpdates}
    (behind : updates.resizeRx.Behind base) (avc420Enabled : Bool) :
    (shift offset updates).poll avc420Enabled tx =
      ((updates.poll avc420Enabled base).1, shift offset (updates.poll avc420Enabled base).2) := by
  unfold MacDisplayUpdates.poll
  rw [takeResize_shift channel behind]
  rcases updates.takeResize avc420Enabled base with ⟨update, taken⟩
  cases update with
  | some update => rfl
  | none => rfl

private theorem pushFrame_shift (updates : MacDisplayUpdates) (frame : PrevFrame) :
    (shift offset updates).pushFrame platform frame =
      (updates.pushFrame platform frame).map fun (updates, shown) => (shift offset updates, shown) := by
  unfold MacDisplayUpdates.pushFrame
  rw [Option.map_map]
  rfl

private theorem resizeStream_shift (updates : MacDisplayUpdates) (size : DesktopSize) (created : Created) :
    (shift offset updates).resizeStream size created =
      ((updates.resizeStream size created).1, shift offset (updates.resizeStream size created).2) := by
  unfold MacDisplayUpdates.resizeStream shift
  dsimp only
  split
  · split <;> rfl
  · rfl

private theorem recreateStream_shift (offset : Nat) (updates : MacDisplayUpdates) (size : DesktopSize)
    (created : Created) :
    (shift offset updates).recreateStream size created =
      ((updates.recreateStream size created).1, shift offset (updates.recreateStream size created).2.1,
        (updates.recreateStream size created).2.2) := by
  unfold MacDisplayUpdates.recreateStream
  rw [shift_capture]
  cases updates.capture with
  | cgDisplay =>
    dsimp only
    rw [resizeStream_shift]
  | sckit stream =>
    dsimp only
    split
    · exact congrArg (fun result => (result.1, result.2, [Event.createStream])) (resizeStream_shift
        { updates with capture := .sckit { stream with
            width := size.width, height := size.height, mode := updates.mode, running := true } }
        size created)
    · rfl

private theorem followFrameSize_shift (updates : MacDisplayUpdates) (frameSize : DesktopSize)
    (created : Created) : (shift offset updates).followFrameSize frameSize created =
      ((updates.followFrameSize frameSize created).1,
        shift offset (updates.followFrameSize frameSize created).2.1,
        (updates.followFrameSize frameSize created).2.2) := by
  unfold MacDisplayUpdates.followFrameSize
  rw [shift_streamSize]
  split
  · exact recreateStream_shift offset updates frameSize created
  · rfl

private theorem forceKeyframe_shift (updates : MacDisplayUpdates) (encoder : VtH264Encoder) (forced : Bool)
    (created : Created) : (shift offset updates).forceKeyframe encoder forced created =
      shift offset (updates.forceKeyframe encoder forced created) := by
  unfold MacDisplayUpdates.forceKeyframe
  split <;> rfl

private theorem pushCapture_shift (updates : MacDisplayUpdates) (forced : Bool) (frame : Option PrevFrame) :
    (shift offset updates).pushCapture platform forced frame =
      (updates.pushCapture platform forced frame).map
        fun (updates, flag, shown) => (shift offset updates, flag, shown) := by
  cases frame with
  | none => rfl
  | some frame =>
    simp only [MacDisplayUpdates.pushCapture, pushFrame_shift, Option.map_map]
    rfl

private theorem handleYcbcrFrame_shift (updates : MacDisplayUpdates) (forced : Bool) (lock : Option PrevFrame)
    (capture : Capture) : (shift offset updates).handleYcbcrFrame forced lock capture =
      (shift offset (updates.handleYcbcrFrame forced lock capture).1,
        (updates.handleYcbcrFrame forced lock capture).2) := by
  unfold MacDisplayUpdates.handleYcbcrFrame
  rw [shift_h264Encoder]
  cases updates.h264Encoder with
  | none => rfl
  | some encoder =>
    dsimp only
    rw [forceKeyframe_shift]
    cases lock with
    | none => rfl
    | some frame =>
      dsimp only
      split <;> rfl

private theorem handleImage_shift (avc420Enabled forced : Bool) (updates : MacDisplayUpdates)
    (lock : Option PrevFrame) (capture : Capture) :
    (shift offset updates).handleImage platform avc420Enabled forced lock capture =
      (updates.handleImage platform avc420Enabled forced lock capture).map
        fun (updates, flag, shown) => (shift offset updates, flag, shown) := by
  unfold MacDisplayUpdates.handleImage
  rw [shift_mode]
  split
  · cases lock with
    | none => rfl
    | some frame =>
      simp only [pushFrame_shift, Option.map_map]
      rfl
  · rw [handleYcbcrFrame_shift]
    rfl

private theorem sckitFrame_shift (avc420Enabled forced : Bool) (updates : MacDisplayUpdates) (capture : Capture) :
    (shift offset updates).sckitFrame platform avc420Enabled forced capture =
      (updates.sckitFrame platform avc420Enabled forced capture).map
        fun (updates, flag, shown) => (shift offset updates, flag, shown) := by
  unfold MacDisplayUpdates.sckitFrame
  cases capture.sample with
  | ended => rfl
  | noImage =>
    by_cases stalled : updates.missedFrames + 1 ≥ 30
    · have counted : (shift offset updates).missedFrames + 1 ≥ 30 := stalled
      have recreated := recreateStream_shift offset
        { updates with missedFrames := updates.missedFrames + 1 } updates.streamSize capture.created
      simp only [if_pos stalled, if_pos counted]
      refine (congrArg (fun result => some (if result.1 then { result.2.1 with missedFrames := 0 }
        else result.2.1, forced, result.2.2)) recreated).trans ?_
      generalize MacDisplayUpdates.recreateStream _ updates.streamSize capture.created = result
      obtain ⟨ok, after, events⟩ := result
      cases ok <;> rfl
    · have counted : ¬ (shift offset updates).missedFrames + 1 ≥ 30 := stalled
      dsimp only
      rw [if_neg stalled, if_neg counted]
      rfl
  | image width height lock =>
    dsimp only
    rw [shift_setMissedFrames, followFrameSize_shift]
    split
    · simp only [handleImage_shift, Option.map_map]
      rfl
    · rfl

private theorem cgDisplayFrame_shift (avc420Enabled forced : Bool) (updates : MacDisplayUpdates)
    (capture : Capture) : (shift offset updates).cgDisplayFrame platform avc420Enabled forced capture =
      (updates.cgDisplayFrame platform avc420Enabled forced capture).map
        fun (updates, flag, shown) => (shift offset updates, flag, shown) := by
  unfold MacDisplayUpdates.cgDisplayFrame
  rw [shift_mode]
  split
  · exact pushCapture_shift updates forced _
  · split
    · rw [shift_h264Encoder]
      cases updates.h264Encoder with
      | none => exact pushCapture_shift updates forced _
      | some encoder =>
        dsimp only
        rw [forceKeyframe_shift]
        split
        · rfl
        · rfl
        · exact pushCapture_shift _ _ _
    · exact pushCapture_shift updates forced _

/-- Waiting for and handling a frame never looks at the channel. -/
theorem frame_shift (avc420Enabled forced : Bool) (updates : MacDisplayUpdates) (capture : Capture) :
    (shift offset updates).frame platform avc420Enabled forced capture =
      (updates.frame platform avc420Enabled forced capture).map
        fun (updates, flag, shown) => (shift offset updates, flag, shown) := by
  unfold MacDisplayUpdates.frame
  rw [shift_capture]
  cases updates.capture with
  | sckit stream => exact sckitFrame_shift avc420Enabled forced updates capture
  | cgDisplay => exact cgDisplayFrame_shift avc420Enabled forced updates capture

end Streams

section Worlds

/-- Two handlers that look alike, except that one may remember a switcher and
has more versions behind it on its channel. -/
structure HandlersAlike (offset : Nat) (display base : MacDisplay) : Prop where
  currentSize : display.currentSize = base.currentSize
  nativeSize : display.nativeSize = base.nativeSize
  mode : display.mode = base.mode
  aspectMode : display.aspectMode = base.aspectMode
  modeSwitchPending : display.modeSwitchPending = base.modeSwitchPending
  cgDisplayForced : display.cgDisplayForced = base.cgDisplayForced
  channel : Shifted offset display.resizeTx base.resizeTx
  receiver : display.resizeRx.Shifted offset base.resizeRx
  behind : base.resizeRx.Behind base.resizeTx

/-- A stream with its receiver ahead. -/
def shiftLive (offset : Nat) (live : Live) : Live := { live with updates := shift offset live.updates }

/-- Two worlds that look alike, down to the mode of the display. -/
structure WorldsAlike (offset : Nat) (world base : World) : Prop where
  active : world.host.active = base.host.active
  display : HandlersAlike offset world.display base.display
  streams : world.streams = base.streams.map (shiftLive offset)
  behind : ∀ live ∈ base.streams, live.updates.resizeRx.Behind base.display.resizeTx
  avc420Enabled : world.avc420Enabled = base.avc420Enabled
  forceKeyframe : world.forceKeyframe = base.forceKeyframe

variable {platform : Platform} {fl : Rounding 53} {offset : Nat} {host baseHost : Host}
  {display baseDisplay : MacDisplay} {world base : World} {op : Op}

private theorem native_alike (active : host.active = baseHost.active)
    (alike : HandlersAlike offset display baseDisplay) :
    display.native host = baseDisplay.native baseHost := by
  unfold MacDisplay.native cgDisplaySize
  rw [alike.nativeSize, active]

private theorem size_alike (active : host.active = baseHost.active)
    (alike : HandlersAlike offset display baseDisplay) :
    (display.size host).1 = (baseDisplay.size baseHost).1 ∧
      HandlersAlike offset (display.size host).2 (baseDisplay.size baseHost).2 := by
  unfold MacDisplay.size
  rw [alike.currentSize]
  split
  · exact ⟨rfl, alike⟩
  · exact ⟨native_alike active alike,
      { alike with nativeSize := congrArg some (native_alike active alike) }⟩

private theorem announce_alike (alike : HandlersAlike offset display baseDisplay) (size : DesktopSize) :
    (display.announce size).2 = (baseDisplay.announce size).2 ∧
      HandlersAlike offset (display.announce size).1 (baseDisplay.announce size).1 := by
  unfold MacDisplay.announce
  rw [alike.currentSize]
  split
  · exact ⟨rfl, alike⟩
  · exact ⟨rfl, { alike with
      currentSize := rfl, channel := alike.channel.send _, behind := alike.behind.send _ }⟩

private theorem announceSwitched_alike (alike : HandlersAlike offset display baseDisplay)
    (size : DesktopSize) :
    (display.announceSwitched size).2 = (baseDisplay.announceSwitched size).2 ∧
      HandlersAlike offset (display.announceSwitched size).1 (baseDisplay.announceSwitched size).1 := by
  unfold MacDisplay.announceSwitched
  rw [alike.currentSize]
  split
  · exact ⟨rfl, alike⟩
  · exact ⟨rfl, { alike with
      currentSize := rfl, nativeSize := rfl, modeSwitchPending := rfl, cgDisplayForced := rfl,
      channel := alike.channel.send _, behind := alike.behind.send _ }⟩

/-- The result of a switch does not depend on what the switcher would restore. -/
theorem switchToBestMode_alike (active : host.active = baseHost.active)
    (switcher baseSwitcher : DisplayModeSwitcher) (targetW targetH : UInt32) (outcome : SwitchOutcome) :
    (switcher.switchToBestMode host targetW targetH outcome).1 =
        (baseSwitcher.switchToBestMode baseHost targetW targetH outcome).1 ∧
      (switcher.switchToBestMode host targetW targetH outcome).2.2.active =
        (baseSwitcher.switchToBestMode baseHost targetW targetH outcome).2.2.active := by
  unfold DisplayModeSwitcher.switchToBestMode DisplayModeSwitcher.atTarget
  rw [active]
  split
  · exact ⟨rfl, active⟩
  · cases outcome with
    | spawnFailed => exact ⟨rfl, active⟩
    | failed => exact ⟨rfl, active⟩
    | completed mode => exact ⟨rfl, rfl⟩

private theorem requestLayout_alike (fl : Rounding 53) (active : host.active = baseHost.active)
    (alike : HandlersAlike offset display baseDisplay) (monitor : Option (UInt32 × UInt32))
    (outcome : SwitchOutcome) :
    (display.requestLayout fl host monitor outcome).1.active =
        (baseDisplay.requestLayout fl baseHost monitor outcome).1.active ∧
      HandlersAlike offset (display.requestLayout fl host monitor outcome).2.1
        (baseDisplay.requestLayout fl baseHost monitor outcome).2.1 ∧
      (display.requestLayout fl host monitor outcome).2.2 =
        (baseDisplay.requestLayout fl baseHost monitor outcome).2.2 := by
  cases monitor with
  | none => exact ⟨active, alike, rfl⟩
  | some client =>
    obtain ⟨clientW, clientH⟩ := client
    unfold MacDisplay.requestLayout
    dsimp only
    rw [alike.aspectMode, native_alike active alike]
    split
    · obtain ⟨events, same⟩ := announce_alike alike
        (nativeModeSize fl (baseDisplay.native baseHost) clientW clientH)
      exact ⟨active, same, events⟩
    · have switched := switchToBestMode_alike active
        (display.modeSwitcher.getD (.new host)) (baseDisplay.modeSwitcher.getD (.new baseHost))
        (clientSize clientW clientH).width.toUInt32 (clientSize clientW clientH).height.toUInt32 outcome
      revert switched
      generalize DisplayModeSwitcher.switchToBestMode host _ _ _ outcome = switched
      generalize DisplayModeSwitcher.switchToBestMode baseHost _ _ _ outcome = baseSwitched
      obtain ⟨result, switcher, after⟩ := switched
      obtain ⟨baseResult, baseSwitcher, baseAfter⟩ := baseSwitched
      dsimp only
      rintro ⟨rfl, after⟩
      have kept : HandlersAlike offset
          { display with modeSwitcher := some switcher, aspectMode := baseDisplay.aspectMode }
          { baseDisplay with modeSwitcher := some baseSwitcher } := { alike with aspectMode := rfl }
      rw [after, active]
      cases result with
      | none =>
        obtain ⟨events, same⟩ := announce_alike kept (clientSize clientW clientH)
        exact ⟨rfl, same, congrArg _ events⟩
      | some size =>
        obtain ⟨events, same⟩ := announceSwitched_alike kept ⟨size.1.toUInt16, size.2.toUInt16⟩
        exact ⟨rfl, same, congrArg _ events⟩

private theorem updates_alike (active : host.active = baseHost.active)
    (alike : HandlersAlike offset display baseDisplay) (created : Created) :
    (display.updates host created).1 = (baseDisplay.updates baseHost created).1.map (shift offset) ∧
      HandlersAlike offset (display.updates host created).2.1
        (baseDisplay.updates baseHost created).2.1 ∧
      (display.updates host created).2.2 = (baseDisplay.updates baseHost created).2.2 := by
  have forced : display.usesCgDisplay = baseDisplay.usesCgDisplay := by
    unfold MacDisplay.usesCgDisplay
    rw [alike.modeSwitchPending, alike.cgDisplayForced]
  have native := native_alike active alike
  have target : display.targetSize host = baseDisplay.targetSize baseHost := by
    unfold MacDisplay.targetSize
    rw [alike.currentSize, native]
  have started : MacDisplayUpdates.start (display.native host) (display.targetSize host) display.mode
        display.aspectMode display.resizeRx display.usesCgDisplay created =
      (MacDisplayUpdates.start (baseDisplay.native baseHost) (baseDisplay.targetSize baseHost)
        baseDisplay.mode baseDisplay.aspectMode baseDisplay.resizeRx baseDisplay.usesCgDisplay
        created).map (shift offset) := by
    rw [native, target, alike.mode, alike.aspectMode, forced,
      show display.resizeRx = ⟨baseDisplay.resizeRx.seen + offset⟩ from congrArg Receiver.mk alike.receiver]
    unfold MacDisplayUpdates.start
    rw [Option.map_bind]
    simp only [Function.comp_def, Option.map_map]
    rfl
  unfold MacDisplay.updates
  dsimp only
  rw [started, forced, target]
  cases MacDisplayUpdates.start (baseDisplay.native baseHost) (baseDisplay.targetSize baseHost)
      baseDisplay.mode baseDisplay.aspectMode baseDisplay.resizeRx baseDisplay.usesCgDisplay created with
  | none =>
    refine ⟨rfl, ?_, rfl⟩
    exact { alike with nativeSize := congrArg some native, modeSwitchPending := rfl }
  | some updates =>
    refine ⟨rfl, ?_, rfl⟩
    exact { alike with
      nativeSize := congrArg some native, modeSwitchPending := rfl,
      receiver := alike.channel.version, behind := Nat.le_refl _ }

private theorem streams_get (alike : WorldsAlike offset world base) (index : Nat) :
    world.streams[index]? = base.streams[index]?.map (shiftLive offset) := by
  rw [alike.streams, List.getElem?_map]

private theorem set_alike (alike : WorldsAlike offset world base) (index : Nat) (live : Live) :
    world.streams.set index (shiftLive offset live) =
      (base.streams.set index live).map (shiftLive offset) := by
  rw [alike.streams, List.map_set]

private theorem requestLayout_behind {rx : Receiver} (behind : rx.Behind display.resizeTx)
    (monitor : Option (UInt32 × UInt32)) (outcome : SwitchOutcome) :
    rx.Behind (display.requestLayout fl host monitor outcome).2.1.resizeTx := by
  cases monitor with
  | none => exact behind
  | some client =>
    obtain ⟨_, effect, _⟩ := requestLayout_effect fl host display client outcome
    rcases effect.sizes with ⟨_, same⟩ | ⟨size, _, announces⟩
    · rw [same.resizeTx]
      exact behind
    · rw [announces.resizeTx]
      exact behind.send _

private theorem updates_behind (behind : ∀ live ∈ world.streams,
      live.updates.resizeRx.Behind world.display.resizeTx)
    (display : world.display.resizeRx.Behind world.display.resizeTx) (created : Created) :
    ∀ live ∈ world.streams ++ (world.display.updates world.host created).1.toList.map
        (fun updates => { updates, native := world.display.native world.host, resized := false }),
      live.updates.resizeRx.Behind (world.display.updates world.host created).2.1.resizeTx := by
  rcases updates_cases world.host world.display created with failed | ⟨updates, starts, started⟩
  · simpa [failed, MacDisplay.readied] using behind
  · simp only [started, Option.toList_some, List.map_cons, List.map_nil]
    intro live member
    rcases List.mem_append.mp member with old | new
    · exact behind live old
    · obtain rfl := List.mem_singleton.mp new
      rw [starts.resizeRx]
      exact display

private theorem poll_alike {tx baseTx : Sender (Option DesktopSize)} (channel : Shifted offset tx baseTx)
    {live : Live} (behind : live.updates.resizeRx.Behind baseTx) (avc420Enabled : Bool) :
    (shiftLive offset live).poll avc420Enabled tx =
        ((live.poll avc420Enabled baseTx).1, shiftLive offset (live.poll avc420Enabled baseTx).2) ∧
      (live.poll avc420Enabled baseTx).2.updates.resizeRx.Behind baseTx := by
  constructor
  · unfold Live.poll shiftLive
    dsimp only
    rw [poll_shift channel behind]
  · change (live.updates.poll avc420Enabled baseTx).2.resizeRx.Behind baseTx
    rw [poll_resizeRx]
    split
    · exact Nat.le_refl _
    · exact behind

/-- No operation of a connection tells two worlds that look alike apart. -/
theorem step_alike (alike : WorldsAlike offset world base) (same : SameConnection op) :
    Runs.Alike (WorldsAlike offset) (Display.step platform world op) (Display.step platform base op) := by
  cases op with
  | size =>
    obtain ⟨size, handlers⟩ := size_alike alike.active alike.display
    unfold Display.step
    dsimp only
    rw [size]
    exact .move _ { alike with
      display := handlers
      behind := (size_same base.host base.display).resizeTx ▸ alike.behind }
  | requestLayout monitor outcome =>
    obtain ⟨active, handlers, events⟩ :=
      requestLayout_alike platform.fl alike.active alike.display monitor outcome
    unfold Display.step
    dsimp only
    rw [events]
    exact .move _ { alike with
      active := active
      display := handlers
      behind := fun live member => requestLayout_behind (alike.behind live member) monitor outcome }
  | updates created =>
    obtain ⟨started, handlers, events⟩ := updates_alike alike.active alike.display created
    have native := native_alike alike.active alike.display
    unfold Display.step
    dsimp only
    rw [events]
    refine .move _ { alike with
      display := handlers
      behind := updates_behind alike.behind alike.display.behind created
      streams := ?_ }
    dsimp only
    rw [started, native, alike.streams]
    cases (base.display.updates base.host created).1 with
    | none => simp
    | some updates => simp [shiftLive]
  | poll index =>
    unfold Display.step
    dsimp only
    rw [streams_get alike]
    cases found : base.streams[index]? with
    | none => exact .abort
    | some live =>
      obtain ⟨polled, behind⟩ := poll_alike alike.display.channel
        (alike.behind live (List.mem_of_getElem? found)) base.avc420Enabled
      simp only [Option.map_some]
      rw [alike.avc420Enabled, polled]
      exact .move _ { alike with
        avc420Enabled := rfl
        streams := set_alike alike index _
        behind := forall_mem_set alike.behind behind }
  | frame index capture =>
    unfold Display.step
    dsimp only
    rw [streams_get alike]
    cases found : base.streams[index]? with
    | none => exact .abort
    | some live =>
      have behind := alike.behind live (List.mem_of_getElem? found)
      simp only [Option.map_some, Option.bind_some]
      rw [show (shiftLive offset live).updates = shift offset live.updates from rfl, frame_shift,
        alike.avc420Enabled, alike.forceKeyframe]
      cases framed : live.updates.frame platform base.avc420Enabled base.forceKeyframe capture with
      | none => exact .abort
      | some result =>
        obtain ⟨updates, forceKeyframe, events⟩ := result
        obtain ⟨same, _⟩ := frame_same framed
        exact .move _ { alike with
          streams := set_alike alike index { live with updates }
          behind := forall_mem_set alike.behind (same.resizeRx ▸ behind)
          avc420Enabled := rfl
          forceKeyframe := rfl }
  | drop index =>
    unfold Display.step
    dsimp only
    rw [streams_get alike]
    cases found : base.streams[index]? with
    | none => exact .abort
    | some live =>
      exact .move _ { alike with
        streams := by rw [alike.streams, List.eraseIdx_map]
        behind := fun live member => alike.behind live (List.mem_of_mem_eraseIdx member) }
  | clientDisconnected outcome => exact same.elim
  | setAvc420Enabled enabled => exact .move _ { alike with avc420Enabled := rfl }
  | setForceKeyframe forced => exact .move _ { alike with forceKeyframe := rfl }

end Worlds

section Connections

/-- The same display with a handler that never served a connection, except that
it keeps the choice of capture backend. -/
def unused (world : World) : World :=
  { world with display :=
      { MacDisplay.withMode world.display.mode world.display.aspectMode with
        cgDisplayForced := world.display.cgDisplayForced } }

/-- The sizes returned by `size`, the target sizes of new streams, and the resizes. -/
def observed : Event → Bool
  | .size _ | .started _ | .update (.resize _) => true
  | _ => false

/-- What is seen of a run. -/
def observations (platform : Platform) (world : World) (ops : List Op) : Option (List Event) :=
  (Runs.run (Display.step platform) world ops).map fun (_, events) => events.filter observed

/-- The handler's receiver is not ahead, and every version but the first has a size. -/
structure Numbered (world : World) : Prop where
  behind : world.display.resizeRx.Behind world.display.resizeTx
  sized : 0 < world.display.resizeTx.version → ∃ size, world.display.resizeTx.value = some size

variable {platform : Platform} {world next : World} {op : Op} {events : List Event}

/-- A step leaves no stream ahead of the channel. -/
theorem step_numbered (numbered : Numbered world) (transition : Transition platform world op next events) :
    Numbered next := by
  cases transition with
  | size =>
    have same := size_same world.host world.display
    constructor
    · rw [same.resizeRx, same.resizeTx]
      exact numbered.behind
    · rw [same.resizeTx]
      exact numbered.sized
  | noMonitor outcome => exact numbered
  | requestLayout client outcome =>
    obtain ⟨_, effect, _⟩ := requestLayout_effect platform.fl world.host world.display client outcome
    rcases effect.sizes with ⟨_, same⟩ | ⟨size, _, announces⟩
    · constructor
      · rw [same.resizeRx, same.resizeTx]
        exact numbered.behind
      · rw [same.resizeTx]
        exact numbered.sized
    · constructor
      · rw [announces.resizeRx, announces.resizeTx]
        exact numbered.behind.send _
      · rw [announces.resizeTx]
        exact fun _ => ⟨size, rfl⟩
  | updates created =>
    rcases updates_cases world.host world.display created with failed | ⟨updates, _, started⟩
    · constructor <;> rw [failed]
      · exact numbered.behind
      · exact numbered.sized
    · constructor <;> rw [started]
      · exact Nat.le_refl _
      · exact numbered.sized
  | poll index live found => exact ⟨numbered.behind, numbered.sized⟩
  | frame index capture live updates forceKeyframe events found framed =>
    exact ⟨numbered.behind, numbered.sized⟩
  | drop index live found => exact ⟨numbered.behind, numbered.sized⟩
  | clientDisconnected outcome => exact ⟨numbered.behind, numbered.sized⟩
  | setAvc420Enabled enabled => exact ⟨numbered.behind, numbered.sized⟩
  | setForceKeyframe forced => exact ⟨numbered.behind, numbered.sized⟩

/-- When nothing was left unseen, the next connection's world looks unused. -/
theorem endConnection_alike (outcome : RestoreOutcome)
    (seen : world.display.resizeRx.hasChanged world.display.resizeTx = false) :
    WorldsAlike world.display.resizeTx.version (world.endConnection outcome)
      (unused (world.endConnection outcome)) where
  active := rfl
  display :=
    { currentSize := rfl
      nativeSize := rfl
      mode := rfl
      aspectMode := rfl
      modeSwitchPending := rfl
      cgDisplayForced := rfl
      channel := ⟨(Nat.zero_add _).symm, fun positive => (Nat.lt_irrefl 0 positive).elim⟩
      receiver := (Receiver.not_hasChanged_iff.mp seen).trans (Nat.zero_add _).symm
      behind := Nat.le_refl _ }
  streams := rfl
  behind := List.forall_mem_nil _
  avc420Enabled := rfl
  forceKeyframe := rfl

private theorem start_created (streamSize targetSize : DesktopSize) (mode : CaptureMode)
    (aspectMode : AspectMode) (rx : Receiver) (useCgDisplay : Bool) :
    ∃ updates, MacDisplayUpdates.start streamSize targetSize mode aspectMode rx useCgDisplay
      ⟨true, true⟩ = some updates := by
  cases useCgDisplay <;> cases mode <;> exact ⟨_, rfl⟩

private theorem updates_created (host : Host) (display : MacDisplay) :
    ∃ updates, Starts host display updates ∧ display.updates host ⟨true, true⟩ =
      (some updates, { MacDisplay.readied host display with resizeRx := ⟨display.resizeTx.version⟩ },
        startCalls display ++ [.started (display.targetSize host)]) := by
  rcases updates_cases host display ⟨true, true⟩ with failed | started
  · exfalso
    obtain ⟨updates, started⟩ := start_created (display.native host) (display.targetSize host)
      display.mode display.aspectMode display.resizeRx display.usesCgDisplay
    simp [MacDisplay.updates, started] at failed
  · exact started

/-- The first poll of a connection whose client has no H.264: whatever the
handler's receiver has not seen comes out as a resize. -/
theorem first_poll (platform : Platform) (alone : world.streams = []) :
    ∃ final events, Runs.run (Display.step platform) world
        [.setAvc420Enabled false, .updates ⟨true, true⟩, .poll 0] = some (final, events) ∧
      (∀ size, world.display.resizeRx.hasChanged world.display.resizeTx = true →
        world.display.resizeTx.value = some size → .update (.resize size) ∈ events) ∧
      (world.display.resizeRx.hasChanged world.display.resizeTx = false →
        ∀ size, .update (.resize size) ∉ events) := by
  obtain ⟨updates, starts, started⟩ := updates_created world.host world.display
  have calls : ∀ event ∈ startCalls world.display ++ [.started (world.display.targetSize world.host)],
      ∀ size, event ≠ .update (.resize size) := forall_mem_startCalls nofun nofun
  have created : Display.step platform { world with avc420Enabled := false } (.updates ⟨true, true⟩) =
      some ({ world with
          display := { MacDisplay.readied world.host world.display with
            resizeRx := ⟨world.display.resizeTx.version⟩ },
          streams := [⟨updates, world.display.native world.host, false⟩], avc420Enabled := false },
        startCalls world.display ++ [.started (world.display.targetSize world.host)]) := by
    simp [Display.step, started, alone]
  refine ⟨_, _, Runs.run_step rfl (Runs.run_step created (Runs.run_step rfl Runs.run_nil)), ?_, ?_⟩
  · intro size changed value
    rw [← starts.resizeRx] at changed
    obtain ⟨_, _, _, _, returned⟩ := poll_changed false changed value
    rw [if_pos (.inr rfl)] at returned
    refine List.mem_append_right _ (List.mem_append_right _ (List.mem_append_left _ ?_))
    exact Option.mem_toList.mpr (Option.map_eq_some_iff.mpr ⟨_, returned, rfl⟩)
  · intro seen size member
    rw [← starts.resizeRx] at seen
    obtain ⟨_, quiet⟩ := poll_unchanged false seen
    rw [List.nil_append, List.append_nil] at member
    rcases List.mem_append.mp member with call | shown
    · exact calls _ call size rfl
    · obtain ⟨update, polled, same⟩ := Option.map_eq_some_iff.mp (Option.mem_toList.mp shown)
      cases same
      exact nomatch quiet _ polled

private theorem observations_mem {ops : List Op} {final : World}
    (ran : Runs.run (Display.step platform) world ops = some (final, events)) (size : DesktopSize) :
    (∃ shown, observations platform world ops = some shown ∧ .update (.resize size) ∈ shown) ↔
      .update (.resize size) ∈ events := by
  unfold observations
  rw [ran]
  simp [List.mem_filter, observed]

/-- **Connection isolation.** After any history, whatever the next connection
does, it observes the sizes an unused handler would show it, exactly when the
handler's receiver had seen the last size sent as the connection before ended. -/
theorem next_connection_unaffected_iff (platform : Platform) (host : Host) (mode : CaptureMode)
    (aspectMode : AspectMode) {history : List Op} {before : World} {past : List Event}
    (ran : Runs.run (Display.step platform) (World.fresh host mode aspectMode) history =
      some (before, past)) (outcome : RestoreOutcome) :
    (∀ ops, (∀ op ∈ ops, SameConnection op) →
      observations platform (before.endConnection outcome) ops =
        observations platform (unused (before.endConnection outcome)) ops) ↔
    before.display.resizeRx.hasChanged before.display.resizeTx = false := by
  constructor
  · intro unaffected
    have kept : ∀ world (_ : List Event) op next emitted, Numbered world →
        Display.step platform world op = some (next, emitted) → Numbered next :=
      fun _ _ _ _ _ numbered stepped => step_numbered numbered (step_transition stepped)
    have start : Numbered (World.fresh host mode aspectMode) :=
      ⟨Nat.le_refl _, fun positive => (Nat.lt_irrefl 0 positive).elim⟩
    have numbered := Runs.invariant_of_step (fun world _ => Numbered world) kept [] start ran
    cases changed : before.display.resizeRx.hasChanged before.display.resizeTx with
    | false => rfl
    | true =>
      exfalso
      obtain ⟨size, value⟩ := numbered.sized (Nat.zero_lt_of_lt (numbered.behind.lt changed))
      obtain ⟨_, shown, ranHere, leaks, _⟩ := first_poll platform
        (rfl : (before.endConnection outcome).streams = [])
      obtain ⟨_, unusedShown, ranUnused, _, quiet⟩ := first_poll platform
        (rfl : (unused (before.endConnection outcome)).streams = [])
      have same := unaffected [.setAvc420Enabled false, .updates ⟨true, true⟩, .poll 0]
        (by simp [SameConnection])
      have leaked := (observations_mem ranHere size).mpr (leaks size changed value)
      rw [same] at leaked
      exact quiet rfl size ((observations_mem ranUnused size).mp leaked)
  · intro seen ops one
    have alike : Runs.Alike (WorldsAlike before.display.resizeTx.version)
        (Runs.run (Display.step platform) (before.endConnection outcome) ops)
        (Runs.run (Display.step platform) (unused (before.endConnection outcome)) ops) :=
      Runs.run_alike SameConnection (fun _ _ _ => step_alike) (endConnection_alike outcome seen) one
    have events := congrArg (Option.map (List.filter observed)) alike.events_eq
    rwa [Option.map_map, Option.map_map] at events

/-- The client's size was seen when its last stream was asked for, and the next
connection starts afresh. -/
theorem settled_connection_leaves_nothing :
    ∃ before past, Runs.run (Display.step exactPlatform) (World.fresh laptop .bgra .fit)
        [.requestLayout (some (1280, 800)) .failed, .updates ⟨true, true⟩, .poll 0, .drop 0,
          .updates ⟨true, true⟩] = some (before, past) ∧
      before.display.currentSize = some ⟨1280, 800⟩ ∧
      ∀ ops, (∀ op ∈ ops, SameConnection op) →
        observations exactPlatform (before.endConnection .completed) ops =
          observations exactPlatform (unused (before.endConnection .completed)) ops := by
  have runs : ∃ result, Runs.run (Display.step exactPlatform) (World.fresh laptop .bgra .fit)
      [.requestLayout (some (1280, 800)) .failed, .updates ⟨true, true⟩, .poll 0, .drop 0,
        .updates ⟨true, true⟩] = some result ∧
      result.1.display.currentSize = some ⟨1280, 800⟩ ∧
      result.1.display.resizeRx.hasChanged result.1.display.resizeTx = false := ⟨_, rfl, rfl, rfl⟩
  obtain ⟨⟨before, past⟩, ran, current, seen⟩ := runs
  exact ⟨before, past, ran, current,
    (next_connection_unaffected_iff exactPlatform laptop .bgra .fit ran .completed).mpr seen⟩

/-- The client's layout arrives while its first stream is live, and it leaves.
The next client asks for nothing, and is resized to the size of the last. -/
theorem next_connection_is_resized :
    ∃ before past, Runs.run (Display.step exactPlatform) (World.fresh laptop .bgra .fit)
        [.updates ⟨true, true⟩, .requestLayout (some (1280, 800)) .failed] = some (before, past) ∧
      observations exactPlatform (before.endConnection .completed) [.updates ⟨true, true⟩, .poll 0] =
        some [.started ⟨1440, 900⟩, .update (.resize ⟨1280, 800⟩)] ∧
      observations exactPlatform (World.fresh laptop .bgra .fit) [.updates ⟨true, true⟩, .poll 0] =
        some [.started ⟨1440, 900⟩] :=
  ⟨_, _, rfl, rfl, rfl⟩

end Connections

end Osxrdp.ConnectionIsolation
