import Osxrdp.DisplaySteps

/-! The streams of a first connection and the handler agree on the desktop
size. A stream that has seen every size is at the current one; and when the
bitmap stream the server reads has nothing left to see, the last resize it was
given is the current size, whatever was sent, merged or recreated on the way. -/
namespace Osxrdp.DesktopAgreement
open Display DisplaySteps FramePipeline
open Watch (Sender Receiver)

/-- The stream has an unseen size, or its target, its pipeline's target and the
handler's size are one, the handler's being native while it has none. -/
def Agrees (display : MacDisplay) (live : Live) : Prop :=
  live.updates.resizeRx.hasChanged display.resizeTx = true ∨
    (live.updates.targetSize = live.updates.bgraPipeline.targetSize ∧
      live.updates.targetSize = display.currentSize.getD live.native)

/-- The size of a resize, if the event is one. -/
def resizeOf : Event → Option DesktopSize
  | .update (.resize size) => some size
  | _ => none

/-- The size of the last resize among the events. -/
def lastResize (events : List Event) : Option DesktopSize := (events.filterMap resizeOf).getLast?

/-- The server drops a stream only after the stream has returned a resize. -/
def DropsResized (_ : List Event) (world : World) : Op → Prop
  | .drop index => ∀ live, world.streams[index]? = some live → live.resized = true
  | _ => True

section Events

/-- A quiet event is no resize. -/
theorem resizeOf_quiet {event : Event} (quiet : Quiet event) : resizeOf event = none := by
  cases event with
  | update update =>
    cases update with
    | resize size => exact nomatch quiet
    | bitmap update => rfl
    | avc420 update => rfl
  | size size => rfl
  | started size => rfl
  | ended => rfl
  | failed => rfl
  | createStream => rfl
  | sent size => rfl
  | modeChanged => rfl

/-- The last resize is the last of the later events, where they have one. -/
theorem lastResize_append {past emitted : List Event} (none' : ∀ event ∈ emitted, resizeOf event = none) :
    lastResize (past ++ emitted) = lastResize past := by
  have silent : emitted.filterMap resizeOf = [] := List.filterMap_eq_nil_iff.mpr none'
  simp [lastResize, List.filterMap_append, silent]

private theorem lastResize_resize (past : List Event) (size : DesktopSize) :
    lastResize (past ++ [.update (.resize size)]) = some size := by
  simp [lastResize, List.filterMap_append, resizeOf]

end Events

section Agreement

/-- The channel carries the current size, and every stream is at it or behind. -/
structure Consistent (world : World) : Prop where
  behind : world.display.resizeRx.Behind world.display.resizeTx
  streamsBehind : ∀ live ∈ world.streams, live.updates.resizeRx.Behind world.display.resizeTx
  sent : 0 < world.display.resizeTx.version → ∃ size,
    world.display.resizeTx.value = some size ∧ world.display.currentSize = some size
  agrees : ∀ live ∈ world.streams, Agrees world.display live

variable {platform : Platform} {world next : World} {op : Op} {events : List Event}

private theorem consistent_same (consistent : Consistent world) {host : DisplayMode.Host}
    {display : MacDisplay} (same : SameSizes world.display display) :
    Consistent { world with host, display } := by
  refine ⟨?_, fun live member => ?_, fun positive => ?_, fun live member => ?_⟩
  · rw [same.resizeRx, same.resizeTx]
    exact consistent.behind
  · rw [same.resizeTx]
    exact consistent.streamsBehind live member
  · rw [same.resizeTx] at positive ⊢
    rw [same.currentSize]
    exact consistent.sent positive
  · unfold Agrees
    rw [same.resizeTx, same.currentSize]
    exact consistent.agrees live member

private theorem consistent_announces (consistent : Consistent world) {host : DisplayMode.Host}
    {display : MacDisplay} {size : DesktopSize} (announces : Announces size world.display display) :
    Consistent { world with host, display } := by
  refine ⟨?_, fun live member => ?_, fun _ => ⟨size, ?_, announces.currentSize⟩, fun live member => .inl ?_⟩
  · rw [announces.resizeRx, announces.resizeTx]
    exact consistent.behind.send _
  · rw [announces.resizeTx]
    exact (consistent.streamsBehind live member).send _
  · rw [announces.resizeTx]
    rfl
  · rw [announces.resizeTx]
    exact (consistent.streamsBehind live member).hasChanged_send _

private theorem consistent_setStream (index : Nat) (consistent : Consistent world) {live : Live}
    (behind : live.updates.resizeRx.Behind world.display.resizeTx)
    (agrees : Agrees world.display live) :
    Consistent { world with streams := world.streams.set index live } :=
  ⟨consistent.behind, forall_mem_set consistent.streamsBehind behind, consistent.sent,
    forall_mem_set consistent.agrees agrees⟩

/-- A poll leaves the stream at the current size. -/
theorem poll_agrees (consistent : Consistent world) {live : Live} (member : live ∈ world.streams) :
    (live.poll world.avc420Enabled world.display.resizeTx).2.updates.resizeRx.Behind
        world.display.resizeTx ∧
      Agrees world.display (live.poll world.avc420Enabled world.display.resizeTx).2 := by
  cases changed : live.updates.resizeRx.hasChanged world.display.resizeTx with
  | false =>
    obtain ⟨same, _⟩ := poll_unchanged world.avc420Enabled changed
    have agrees := consistent.agrees live member
    refine ⟨?_, ?_⟩
    · change (live.updates.poll _ _).2.resizeRx.Behind _
      rw [same.resizeRx]
      exact consistent.streamsBehind live member
    · change _ ∨ _ at agrees
      change (live.updates.poll _ _).2.resizeRx.hasChanged _ = true ∨
        ((live.updates.poll _ _).2.targetSize = (live.updates.poll _ _).2.bgraPipeline.targetSize ∧
          (live.updates.poll _ _).2.targetSize = _)
      rw [same.resizeRx, same.targetSize, same.pipelineTarget]
      exact agrees
  | true =>
    have newer := (consistent.streamsBehind live member).lt changed
    obtain ⟨size, value, current⟩ := consistent.sent (Nat.zero_lt_of_lt newer)
    obtain ⟨target, pipeline, _, seen, _⟩ :=
      poll_changed world.avc420Enabled changed value
    refine ⟨Nat.le_of_eq seen, .inr ⟨target.trans pipeline.symm, ?_⟩⟩
    rw [current]
    exact target

/-- A step keeps the size that was sent last the current one. -/
theorem step_consistent (consistent : Consistent world) (same : SameConnection op)
    (transition : Transition platform world op next events) : Consistent next := by
  cases transition with
  | size => exact consistent_same consistent (size_same world.host world.display)
  | noMonitor outcome => exact consistent
  | requestLayout client outcome =>
    obtain ⟨announced, effect, _⟩ :=
      requestLayout_effect platform.fl world.host world.display client outcome
    rcases effect.sizes with ⟨_, same⟩ | ⟨size, _, announces⟩
    · exact consistent_same consistent same
    · exact consistent_announces consistent announces
  | updates created =>
    rcases updates_cases world.host world.display created with
      failed | ⟨updates, starts, started⟩
    · simp only [failed, Option.toList_none, List.map_nil, List.append_nil]
      exact consistent_same consistent ⟨rfl, rfl, rfl, rfl⟩
    · simp only [started, Option.toList_some, List.map_cons, List.map_nil]
      refine ⟨Nat.le_refl _, fun live member => ?_, consistent.sent, fun live member => ?_⟩
      · rcases List.mem_append.mp member with old | new
        · exact consistent.streamsBehind live old
        · obtain rfl := List.mem_singleton.mp new
          rw [starts.resizeRx]
          exact consistent.behind
      · rcases List.mem_append.mp member with old | new
        · exact consistent.agrees live old
        · obtain rfl := List.mem_singleton.mp new
          exact .inr ⟨starts.targetSize.trans starts.pipelineTarget.symm, starts.targetSize⟩
  | poll index live found =>
    obtain ⟨behind, agrees⟩ := poll_agrees consistent (List.mem_of_getElem? found)
    exact consistent_setStream index consistent behind agrees
  | frame index capture live updates forceKeyframe events found framed =>
    obtain ⟨same, _⟩ := frame_same framed
    have member := List.mem_of_getElem? found
    have agrees := consistent.agrees live member
    have behind : updates.resizeRx.Behind world.display.resizeTx := by
      rw [same.resizeRx]
      exact consistent.streamsBehind live member
    have kept : Agrees world.display { live with updates } := by
      unfold Agrees at agrees ⊢
      rw [same.resizeRx, same.targetSize, same.pipelineTarget]
      exact agrees
    have held := consistent_setStream index consistent behind kept
    exact ⟨held.behind, held.streamsBehind, held.sent, held.agrees⟩
  | drop index live found =>
    exact ⟨consistent.behind,
      fun live member => consistent.streamsBehind live (List.mem_of_mem_eraseIdx member),
      consistent.sent, fun live member => consistent.agrees live (List.mem_of_mem_eraseIdx member)⟩
  | clientDisconnected outcome => exact same.elim
  | setAvc420Enabled enabled => exact ⟨consistent.behind, consistent.streamsBehind, consistent.sent,
      consistent.agrees⟩
  | setForceKeyframe forced => exact ⟨consistent.behind, consistent.streamsBehind, consistent.sent,
      consistent.agrees⟩

end Agreement

section LastResize

/-- What is known of the last resize returned, while only bitmaps are served. A
stream that polled since the handler's own receiver was advanced has returned
the current size; and at a level receiver either that has happened, or a stream
that has not returned a resize yet still has the size unseen. -/
structure Settled (world : World) (past : List Event) : Prop where
  mode : world.display.mode = .bgra
  modes : ∀ live ∈ world.streams, live.updates.mode = .bgra
  ahead : ∀ live ∈ world.streams,
    live.updates.resizeRx.seen = world.display.resizeTx.version →
    world.display.resizeRx.seen < world.display.resizeTx.version →
    lastResize past = world.display.currentSize
  level : world.display.resizeRx.seen = world.display.resizeTx.version →
    lastResize past = none ∨ lastResize past = world.display.currentSize ∨
      ∃ live ∈ world.streams,
        live.updates.resizeRx.seen ≠ world.display.resizeTx.version ∧ live.resized = false

variable {platform : Platform} {world next : World} {op : Op} {past events : List Event}

private theorem settled_same (settled : Settled world past) {host : DisplayMode.Host}
    {display : MacDisplay} (same : SameSizes world.display display)
    (silent : ∀ event ∈ events, resizeOf event = none) :
    Settled { world with host, display } (past ++ events) := by
  refine ⟨same.mode.trans settled.mode, settled.modes, ?_, ?_⟩
  · dsimp only
    rw [same.resizeRx, same.resizeTx, same.currentSize, lastResize_append silent]
    exact settled.ahead
  · dsimp only
    rw [same.resizeRx, same.resizeTx, same.currentSize, lastResize_append silent]
    exact settled.level

private theorem settled_announces (consistent : Consistent world) (settled : Settled world past)
    {host : DisplayMode.Host} {display : MacDisplay} {size : DesktopSize}
    (announces : Announces size world.display display) (events : List Event) :
    Settled { world with host, display } (past ++ events) := by
  have version : display.resizeTx.version = world.display.resizeTx.version + 1 := by
    rw [announces.resizeTx]
    rfl
  refine ⟨announces.mode.trans settled.mode, settled.modes, fun live member seen => ?_, fun seen => ?_⟩
  · have behind := consistent.streamsBehind live member
    unfold Receiver.Behind at behind
    dsimp only at seen
    omega
  · have behind := consistent.behind
    unfold Receiver.Behind at behind
    dsimp only at seen
    rw [announces.resizeRx] at seen
    omega

private theorem settled_setStream (settled : Settled world past) {index : Nat} {live after : Live}
    {forceKeyframe : Bool} (found : world.streams[index]? = some live)
    (mode : after.updates.mode = live.updates.mode)
    (seen : after.updates.resizeRx.seen = live.updates.resizeRx.seen)
    (resized : live.updates.resizeRx.seen ≠ world.display.resizeTx.version → after.resized = live.resized)
    (silent : ∀ event ∈ events, resizeOf event = none) :
    Settled { world with streams := world.streams.set index after, forceKeyframe } (past ++ events) := by
  have member := List.mem_of_getElem? found
  refine ⟨settled.mode, forall_mem_set settled.modes (mode.trans (settled.modes live member)), ?_, ?_⟩
  · rw [lastResize_append silent]
    refine forall_mem_set settled.ahead fun caughtUp behind => ?_
    exact settled.ahead live member (seen ▸ caughtUp) behind
  · rw [lastResize_append silent]
    intro level
    refine (settled.level level).imp_right (Or.imp_right fun waiting => ?_)
    refine exists_mem_set found (fun ⟨unseen, fresh⟩ => ?_) waiting
    exact ⟨seen ▸ unseen, (resized unseen).trans fresh⟩

private theorem settled_poll (consistent : Consistent world) (settled : Settled world past)
    {index : Nat} {live : Live} (found : world.streams[index]? = some live) :
    Settled
      { world with streams :=
          world.streams.set index (live.poll world.avc420Enabled world.display.resizeTx).2 }
      (past ++ ((live.poll world.avc420Enabled world.display.resizeTx).1.map .update).toList) := by
  have member := List.mem_of_getElem? found
  cases changed : live.updates.resizeRx.hasChanged world.display.resizeTx with
  | false =>
    obtain ⟨same, quiet⟩ := poll_unchanged world.avc420Enabled changed
    refine settled_setStream settled found same.mode (congrArg Receiver.seen same.resizeRx) ?_ ?_
    · intro unseen
      exact (unseen (Receiver.not_hasChanged_iff.mp changed)).elim
    · exact forall_mem_shown fun update polled => resizeOf_quiet (quiet update polled)
  | true =>
    have newer := (consistent.streamsBehind live member).lt changed
    obtain ⟨size, value, current⟩ := consistent.sent (Nat.zero_lt_of_lt newer)
    obtain ⟨_, _, mode, _, returned⟩ :=
      poll_changed world.avc420Enabled changed value
    rw [if_pos (.inl (settled.modes live member))] at returned
    have last : lastResize (past ++ ((live.poll world.avc420Enabled world.display.resizeTx).1.map
        .update).toList) = world.display.currentSize := by
      rw [current]
      change lastResize (past ++ ((live.updates.poll _ _).1.map Event.update).toList) = _
      rw [returned]
      exact lastResize_resize past size
    exact ⟨settled.mode, forall_mem_set settled.modes (mode.trans (settled.modes live member)),
      fun _ _ _ _ => last, fun _ => .inr (.inl last)⟩

/-- A step keeps a settled stream at the current size. -/
theorem step_settled (consistent : Consistent world) (settled : Settled world past)
    (same : SameConnection op) (drops : DropsResized past world op)
    (transition : Transition platform world op next events) : Settled next (past ++ events) := by
  cases transition with
  | size =>
    refine settled_same settled (size_same world.host world.display) ?_
    simp [resizeOf]
  | noMonitor outcome => simpa using settled
  | requestLayout client outcome =>
    obtain ⟨announced, effect, shown⟩ :=
      requestLayout_effect platform.fl world.host world.display client outcome
    rcases effect.sizes with ⟨rfl, same⟩ | ⟨size, _, announces⟩
    · rw [shown, List.append_nil]
      exact settled_same settled same (forall_mem_changes rfl)
    · exact settled_announces consistent settled announces _
  | updates created =>
    rcases updates_cases world.host world.display created with failed | ⟨updates, starts, started⟩
    · simp only [failed, Option.toList_none, List.map_nil, List.append_nil]
      exact settled_same settled ⟨rfl, rfl, rfl, rfl⟩ (forall_mem_startCalls rfl rfl)
    · simp only [started, Option.toList_some, List.map_cons, List.map_nil]
      have silent : lastResize (past ++ (startCalls world.display ++
          [.started (world.display.targetSize world.host)])) = lastResize past :=
        lastResize_append (forall_mem_startCalls rfl rfl)
      refine ⟨settled.mode, fun live member => ?_, ?_, ?_⟩
      · rcases List.mem_append.mp member with old | new
        · exact settled.modes live old
        · obtain rfl := List.mem_singleton.mp new
          exact starts.mode.trans settled.mode
      · intro live member seen level
        exact (Nat.lt_irrefl _ level).elim
      · intro _
        rw [silent]
        by_cases level : world.display.resizeRx.seen = world.display.resizeTx.version
        · refine (settled.level level).imp_right (Or.imp_right ?_)
          rintro ⟨live, member, waiting⟩
          exact ⟨live, List.mem_append_left _ member, waiting⟩
        · refine .inr (.inr ⟨_, List.mem_append_right _ (List.mem_singleton_self _), ?_, rfl⟩)
          rw [starts.resizeRx]
          exact level
  | poll index live found => exact settled_poll consistent settled found
  | frame index capture live updates forceKeyframe events found framed =>
    obtain ⟨same, quiet⟩ := frame_same framed
    refine settled_setStream settled found same.mode (congrArg Receiver.seen same.resizeRx)
      (fun _ => rfl) fun event member => ?_
    rcases quiet event member with shown | ⟨rfl, _⟩
    · exact resizeOf_quiet shown
    · rfl
  | drop index live found =>
    refine ⟨settled.mode, fun live member => settled.modes live (List.mem_of_mem_eraseIdx member),
      ?_, ?_⟩
    · rw [List.append_nil]
      exact fun live member => settled.ahead live (List.mem_of_mem_eraseIdx member)
    · rw [List.append_nil]
      intro level
      refine (settled.level level).imp_right (Or.imp_right fun waiting => ?_)
      refine exists_mem_eraseIdx found (fun ⟨_, fresh⟩ => ?_) waiting
      exact Bool.false_ne_true (fresh.symm.trans (drops live found))
  | clientDisconnected outcome => exact same.elim
  | setAvc420Enabled enabled =>
    rw [List.append_nil]
    exact ⟨settled.mode, settled.modes, settled.ahead, settled.level⟩
  | setForceKeyframe forced =>
    rw [List.append_nil]
    exact ⟨settled.mode, settled.modes, settled.ahead, settled.level⟩

end LastResize

private theorem fresh_consistent (host : DisplayMode.Host) (mode : CaptureMode) (aspectMode : AspectMode) :
    Consistent (World.fresh host mode aspectMode) :=
  ⟨Nat.le_refl _, List.forall_mem_nil _, fun positive => (Nat.lt_irrefl 0 positive).elim,
    List.forall_mem_nil _⟩

/-- **Agreement on the desktop size.** However the calls of a first connection
interleave, every live stream has a size left to see or is at the current one.
In bitmap mode, once the live streams have seen everything, the last resize
returned, if any, was the current size. -/
theorem stream_and_display_agree (platform : Platform) (host : DisplayMode.Host) (mode : CaptureMode)
    (aspectMode : AspectMode) {ops : List Op} (one : ∀ op ∈ ops, SameConnection op) {final : World}
    {events : List Event}
    (ran : Runs.run (Display.step platform) (World.fresh host mode aspectMode) ops =
      some (final, events)) :
    (∀ live ∈ final.streams, Agrees final.display live) ∧
    (mode = .bgra →
      Runs.Meets (Display.step platform) DropsResized [] (World.fresh host mode aspectMode) ops →
      final.streams ≠ [] →
      (∀ live ∈ final.streams, live.updates.resizeRx.hasChanged final.display.resizeTx = false) →
      ∀ size, lastResize events = some size → final.display.currentSize = some size) := by
  have first : Runs.Meets (Display.step platform) (fun _ _ => SameConnection) []
      (World.fresh host mode aspectMode) ops := Runs.meets_of_forall one
  constructor
  · have kept : ∀ world (_ : List Event) op next emitted, Consistent world → SameConnection op →
        Display.step platform world op = some (next, emitted) → Consistent next :=
      fun _ _ _ _ _ consistent same stepped =>
        step_consistent consistent same (step_transition stepped)
    have consistent := Runs.invariant_of_meets (fun world _ => Consistent world) kept
      (fresh_consistent host mode aspectMode) first ran
    exact consistent.agrees
  · rintro rfl drops nonempty seen size last
    have start : Settled (World.fresh host .bgra aspectMode) [] :=
      ⟨rfl, List.forall_mem_nil _, List.forall_mem_nil _, fun _ => .inl rfl⟩
    have kept : ∀ world past op next emitted, Consistent world ∧ Settled world past →
        SameConnection op ∧ DropsResized past world op →
        Display.step platform world op = some (next, emitted) →
        Consistent next ∧ Settled next (past ++ emitted) :=
      fun _ _ _ _ _ ⟨consistent, settled⟩ ⟨same, drops⟩ stepped =>
        ⟨step_consistent consistent same (step_transition stepped),
          step_settled consistent settled same drops (step_transition stepped)⟩
    obtain ⟨consistent, settled⟩ := Runs.invariant_of_meets
      (fun world past => Consistent world ∧ Settled world past) kept
      ⟨fresh_consistent host .bgra aspectMode, start⟩ (Runs.meets_and first drops) ran
    rw [List.nil_append] at settled
    obtain ⟨live, member⟩ := List.exists_mem_of_ne_nil _ nonempty
    rcases Nat.lt_or_eq_of_le consistent.behind with behind | level
    · have current := settled.ahead live member (Receiver.not_hasChanged_iff.mp (seen live member)) behind
      exact current.symm.trans last
    · rcases settled.level level with none' | current | ⟨waiting, member, unseen, _⟩
      · exact nomatch none'.symm.trans last
      · exact current.symm.trans last
      · exact (unseen (Receiver.not_hasChanged_iff.mp (seen waiting member))).elim

/-- A stream starts at the native size and is told of a layout that no mode
matches. -/
theorem letterboxed_layout_agrees :
    ∃ final events, Runs.run (Display.step exactPlatform) (World.fresh DisplayMode.laptop .bgra .fit)
        [.size, .updates ⟨true, true⟩, .requestLayout (some (1280, 800)) .failed, .poll 0] =
          some (final, events) ∧
      (∀ live ∈ final.streams, Agrees final.display live) ∧
      lastResize events = some ⟨1280, 800⟩ ∧ final.display.currentSize = some ⟨1280, 800⟩ := by
  have runs : ∃ result, Runs.run (Display.step exactPlatform)
      (World.fresh DisplayMode.laptop .bgra .fit)
      [.size, .updates ⟨true, true⟩, .requestLayout (some (1280, 800)) .failed, .poll 0] =
        some result ∧ result.1.streams ≠ [] ∧
      (∀ live ∈ result.1.streams, live.updates.resizeRx.hasChanged result.1.display.resizeTx = false) ∧
      lastResize result.2 = some ⟨1280, 800⟩ :=
    ⟨_, rfl, by decide, by decide, rfl⟩
  obtain ⟨⟨final, events⟩, ran, nonempty, seen, last⟩ := runs
  obtain ⟨agrees, settled⟩ := stream_and_display_agree exactPlatform DisplayMode.laptop .bgra .fit
    (by simp [SameConnection]) ran
  exact ⟨final, events, ran, agrees, last,
    settled rfl (by simp [Runs.Meets, DropsResized]) nonempty seen _ last⟩

end Osxrdp.DesktopAgreement
