import Osxrdp.DisplaySteps

/-! ScreenCaptureKit must not be started once the display mode was switched. The
handler forces CoreGraphics for the streams it creates after a switch, except
where a request returns early; a stream that runs already is not told. -/
namespace Osxrdp.CaptureSafety
open Display DisplayMode DisplaySteps FramePipeline

/-- No call of `create_stream` comes after a change of the display mode. -/
def NoLateCapture (events : List Event) : Prop :=
  events.Pairwise fun earlier later => earlier = .modeChanged → later ≠ .createStream

instance (events : List Event) : Decidable (NoLateCapture events) :=
  inferInstanceAs (Decidable (events.Pairwise _))

/-- A request that changes the mode asks for a size that is not current yet,
unless CoreGraphics is forced already; and a ScreenCaptureKit stream that is
live after a change is given no frame that makes it recreate its capture. -/
def Guarded (past : List Event) (world : World) : Op → Prop
  | .requestLayout (some client) outcome => ∀ mode,
    ChangesMode world.host world.display client outcome mode →
      world.display.cgDisplayForced = true ∨ world.display.currentSize ≠ some (modeSize mode)
  | .frame index capture => .modeChanged ∈ past → ∀ live, world.streams[index]? = some live →
    ∀ stream, live.updates.capture = .sckit stream → ¬ Recreates live.updates capture.sample
  | _ => True

section Events
variable {past emitted : List Event}

/-- A run has no late capture when its parts have none, and the later part no capture
after a change in the first. -/
theorem noLateCapture_append : NoLateCapture (past ++ emitted) ↔
    NoLateCapture past ∧ NoLateCapture emitted ∧ (.modeChanged ∈ past → .createStream ∉ emitted) := by
  unfold NoLateCapture
  rw [List.pairwise_append]
  refine and_congr_right fun _ => and_congr_right fun _ => ?_
  constructor
  · exact fun cross changed created => cross _ changed _ created rfl rfl
  · rintro apart _ changed _ created rfl rfl
    exact apart changed created

private theorem noLateCapture_of_no_change (unchanged : .modeChanged ∉ emitted) : NoLateCapture emitted :=
  List.pairwise_of_forall_mem_list fun _ member _ _ same => (unchanged (same ▸ member)).elim

private theorem noLateCapture_of_no_capture (idle : .createStream ∉ emitted) : NoLateCapture emitted :=
  List.pairwise_of_forall_mem_list fun _ _ _ member _ same => idle (same ▸ member)

end Events

/-- After a change of the mode CoreGraphics is forced, and no capture was started. -/
structure Safe (world : World) (past : List Event) : Prop where
  forced : .modeChanged ∈ past → world.display.cgDisplayForced = true
  noLate : NoLateCapture past

section Steps
variable {platform : Platform} {world next : World} {op : Op} {past events : List Event}

/-- A step without a change of the mode, which starts no capture after one. -/
theorem safe_unchanged (safe : Safe world past) (unchanged : .modeChanged ∉ events)
    (forced : world.display.cgDisplayForced = true → next.display.cgDisplayForced = true)
    (idle : .modeChanged ∈ past → .createStream ∉ events) : Safe next (past ++ events) := by
  refine ⟨fun changed => ?_, ?_⟩
  · rcases List.mem_append.mp changed with before | now
    · exact forced (safe.forced before)
    · exact (unchanged now).elim
  · exact noLateCapture_append.mpr ⟨safe.noLate, noLateCapture_of_no_change unchanged, idle⟩

private theorem safe_silent (safe : Safe world past)
    (forced : world.display.cgDisplayForced = true → next.display.cgDisplayForced = true) :
    Safe next (past ++ []) :=
  safe_unchanged safe List.not_mem_nil forced fun _ => List.not_mem_nil

private theorem not_mem_announced {before after : MacDisplay} {announced : List Event}
    (effect : LayoutEffect before after announced) :
    .modeChanged ∉ announced ∧ .createStream ∉ announced := by
  cases effect with
  | unchanged switcher current => simp
  | announced switcher size new => simp
  | switched switcher size new => simp

private theorem safe_requestLayout (safe : Safe world past) {client : UInt32 × UInt32}
    {outcome : SwitchOutcome} (guarded : Guarded past world (.requestLayout (some client) outcome)) :
    Safe
      { world with
        host := (world.display.requestLayout platform.fl world.host (some client) outcome).1,
        display := (world.display.requestLayout platform.fl world.host (some client) outcome).2.1 }
      (past ++ (world.display.requestLayout platform.fl world.host (some client) outcome).2.2) := by
  obtain ⟨announced, effect, shown⟩ :=
    requestLayout_effect platform.fl world.host world.display client outcome
  obtain ⟨noChange, noCapture⟩ := not_mem_announced effect
  by_cases same : (world.display.requestLayout platform.fl world.host (some client) outcome).1.active =
      world.host.active
  · rw [if_pos same] at shown
    rw [shown]
    exact safe_unchanged safe noChange effect.cgDisplayForced fun _ => noCapture
  · rw [if_neg same] at shown
    obtain ⟨mode, changes, forces⟩ := requestLayout_changes same
    have forced : (world.display.requestLayout platform.fl world.host (some client)
        outcome).2.1.cgDisplayForced = true := by
      rcases guarded mode changes with before | new
      · exact effect.cgDisplayForced before
      · exact forces new
    rw [shown]
    have idle : .createStream ∉ [.modeChanged] ++ announced := by simpa using noCapture
    exact ⟨fun _ => forced,
      noLateCapture_append.mpr ⟨safe.noLate, noLateCapture_of_no_capture idle, fun _ => idle⟩⟩

private theorem safe_updates (safe : Safe world past) (created : Created) {streams : List Live} :
    Safe { world with display := (world.display.updates world.host created).2.1, streams }
      (past ++ (world.display.updates world.host created).2.2) := by
  -- After a change CoreGraphics is forced, so that no capture is started at all.
  have idle : .modeChanged ∈ past → .createStream ∉ startCalls world.display := by
    intro changed
    simp [startCalls, MacDisplay.usesCgDisplay, safe.forced changed]
  have quiet : .modeChanged ∉ startCalls world.display := by
    unfold startCalls
    split <;> simp
  rcases updates_cases world.host world.display created with failed | ⟨updates, _, started⟩
  · rw [failed]
    exact safe_unchanged safe (by simpa using quiet) id fun changed => by simpa using idle changed
  · rw [started]
    exact safe_unchanged safe (by simpa using quiet) id fun changed => by simpa using idle changed

/-- A step whose captures are guarded keeps the run safe. -/
theorem step_safe (safe : Safe world past) (guarded : Guarded past world op)
    (transition : Transition platform world op next events) : Safe next (past ++ events) := by
  cases transition with
  | size =>
    refine safe_unchanged safe (by simp) (fun forced => ?_) fun _ => by simp
    dsimp only
    unfold MacDisplay.size
    split
    · exact forced
    · exact forced
  | noMonitor outcome => exact safe_silent safe id
  | requestLayout client outcome => exact safe_requestLayout safe guarded
  | updates created => exact safe_updates safe created
  | poll index live found =>
    refine safe_unchanged safe (by simp) id fun _ => by simp
  | frame index capture live updates forceKeyframe events found framed =>
    obtain ⟨_, quiet⟩ := frame_same framed
    refine safe_unchanged safe (fun changed => ?_) id fun changed created => ?_
    · rcases quiet _ changed with quiet | ⟨created, _⟩
      · exact quiet
      · exact nomatch created
    · rcases quiet _ created with quiet | ⟨_, ⟨stream, source⟩, recreates⟩
      · exact quiet
      · exact guarded changed live found stream source recreates
  | drop index live found => exact safe_silent safe id
  | clientDisconnected outcome => exact safe_silent safe id
  | setAvc420Enabled enabled => exact safe_silent safe id
  | setForceKeyframe forced => exact safe_silent safe id

end Steps

/-- **Capture safety.** In every run whose mode-changing requests ask for a new
size, and whose live ScreenCaptureKit streams are given no frame to recreate
their capture for after a change, no capture is started after a change. -/
theorem never_captures_after_switch (platform : Platform) (host : Host) (mode : CaptureMode)
    (aspectMode : AspectMode) {ops : List Op} {final : World} {events : List Event}
    (guarded : Runs.Meets (Display.step platform) Guarded [] (World.fresh host mode aspectMode) ops)
    (ran : Runs.run (Display.step platform) (World.fresh host mode aspectMode) ops =
      some (final, events)) : NoLateCapture events := by
  have kept : ∀ world past op next emitted, Safe world past → Guarded past world op →
      Display.step platform world op = some (next, emitted) → Safe next (past ++ emitted) :=
    fun _ _ _ _ _ safe guarded stepped => step_safe safe guarded (step_transition stepped)
  have start : Safe (World.fresh host mode aspectMode) [] :=
    ⟨fun changed => (List.not_mem_nil changed).elim, List.Pairwise.nil⟩
  exact (Runs.invariant_of_meets Safe kept start guarded ran).noLate

/-- A switch before the first stream: the stream is created with CoreGraphics. -/
theorem early_switch_captures_safely :
    ∃ final events, Runs.run (Display.step exactPlatform) (World.fresh laptop .h264 .fit)
        [.requestLayout (some (1280, 720)) (.completed ⟨1280, 720, 0⟩), .updates ⟨true, true⟩] =
          some (final, events) ∧ .modeChanged ∈ events ∧ NoLateCapture events := by
  have runs : ∃ result, Runs.run (Display.step exactPlatform) (World.fresh laptop .h264 .fit)
      [.requestLayout (some (1280, 720)) (.completed ⟨1280, 720, 0⟩), .updates ⟨true, true⟩] =
        some result ∧ .modeChanged ∈ result.2 := ⟨_, rfl, by decide⟩
  obtain ⟨⟨final, events⟩, ran, changed⟩ := runs
  refine ⟨final, events, ran, changed, never_captures_after_switch exactPlatform laptop .h264 .fit ?_ ran⟩
  refine fun _ _ _ => ⟨fun mode _ => .inr (by simp [World.fresh, MacDisplay.withMode]), fun _ _ _ => ?_⟩
  exact ⟨trivial, trivial⟩

/-- Two ways past the guard: a switch that succeeds only when its size is
current already, from an earlier letterboxed request, does not force
CoreGraphics; and a stream from before the switch recreates its capture when
the size of its frames changes. -/
theorem switch_then_capture :
    (∃ final events, Runs.run (Display.step exactPlatform) (World.fresh laptop .bgra .fit)
        [.requestLayout (some (1280, 720)) .failed,
          .requestLayout (some (1280, 720)) (.completed ⟨1280, 720, 0⟩), .updates ⟨true, true⟩] =
            some (final, events) ∧ ¬ NoLateCapture events) ∧
    ∃ final events, Runs.run (Display.step exactPlatform) (World.fresh laptop .h264 .fit)
        [.updates ⟨true, true⟩, .requestLayout (some (1280, 720)) (.completed ⟨1280, 720, 0⟩),
          .frame 0 ⟨.image 1280 720 none, none, false, ⟨true, true⟩, .nothing⟩] =
            some (final, events) ∧ ¬ NoLateCapture events :=
  ⟨⟨_, _, rfl, by decide⟩, ⟨_, _, rfl, by decide⟩⟩

end Osxrdp.CaptureSafety
