import Osxrdp.DisplaySteps

/-! How many resizes one connection is sent, against how many sizes its layout
requests sent on the channel. A stream inherits what the handler's receiver has
not seen; when that was announced by a resize before, it is announced again. -/
namespace Osxrdp.ResizeCount
open Display DisplaySteps FramePipeline
open Watch (Sender Receiver)

/-- What has been counted along a run: the sizes sent, those of them sent before
the last resize was returned, and the resizes returned. -/
structure Tally where
  sent : Nat
  announced : Nat
  resizes : Nat
  deriving DecidableEq, Repr

namespace Tally

/-- What an event counts for. -/
def count (tally : Tally) : Event → Tally
  | .sent _ => { tally with sent := tally.sent + 1 }
  | .update (.resize _) => { tally with announced := tally.sent, resizes := tally.resizes + 1 }
  | _ => tally

/-- The tally of a run. -/
def ofEvents (events : List Event) : Tally := events.foldl count ⟨0, 0, 0⟩

/-- An event that is not counted. -/
def Silent (event : Event) : Prop := ∀ tally, count tally event = tally

variable {past emitted : List Event}

/-- The tally goes on from the events before. -/
theorem ofEvents_append (past emitted : List Event) :
    ofEvents (past ++ emitted) = emitted.foldl count (ofEvents past) := by
  simp [ofEvents, List.foldl_append]

private theorem foldl_silent {tally : Tally} (silent : ∀ event ∈ emitted, Silent event) :
    emitted.foldl count tally = tally := by
  induction emitted with
  | nil => rfl
  | cons event rest ih =>
    rw [List.foldl_cons, silent event (by simp)]
    exact ih fun later member => silent later (List.mem_cons_of_mem _ member)

private theorem ofEvents_silent (silent : ∀ event ∈ emitted, Silent event) :
    ofEvents (past ++ emitted) = ofEvents past :=
  (ofEvents_append past emitted).trans (foldl_silent silent)

private theorem silent_quiet {event : Event} (quiet : Quiet event) : Silent event := by
  cases event with
  | update update =>
    cases update with
    | resize size => exact nomatch quiet
    | bitmap update => exact fun _ => rfl
    | avc420 update => exact fun _ => rfl
  | ended => exact fun _ => rfl
  | failed => exact fun _ => rfl
  | size size => exact quiet.elim
  | started size => exact quiet.elim
  | createStream => exact quiet.elim
  | sent size => exact quiet.elim
  | modeChanged => exact quiet.elim

end Tally

/-- The operations of one connection. The server holds one stream at a time: it
asks for a new one once it has dropped the last. -/
def Serves (_ : List Event) (world : World) : Op → Prop
  | .clientDisconnected _ => False
  | .updates _ => world.streams = []
  | _ => True

/-- When a stream is asked for, the handler's receiver has seen the sizes that
were announced by the last resize, and those from before the connection. -/
def CaughtUp (base : Nat) (past : List Event) (world : World) : Op → Prop
  | .updates _ => base + (Tally.ofEvents past).announced ≤ world.display.resizeRx.seen
  | _ => True

instance : ∀ past world op, Decidable (Serves past world op)
  | _, _, .clientDisconnected _ => isFalse id
  | _, world, .updates _ => inferInstanceAs (Decidable (world.streams = []))
  | _, _, .size | _, _, .requestLayout _ _ | _, _, .poll _ | _, _, .frame _ _ | _, _, .drop _
  | _, _, .setAvc420Enabled _ | _, _, .setForceKeyframe _ => isTrue trivial

instance (base : Nat) : ∀ past world op, Decidable (CaughtUp base past world op)
  | past, world, .updates _ => inferInstanceAs
      (Decidable (base + (Tally.ofEvents past).announced ≤ world.display.resizeRx.seen))
  | _, _, .size | _, _, .requestLayout _ _ | _, _, .poll _ | _, _, .frame _ _ | _, _, .drop _
  | _, _, .clientDisconnected _ | _, _, .setAvc420Enabled _ | _, _, .setForceKeyframe _ => isTrue trivial

/-- No stream is behind what was announced already, so that each resize returned
announces a size for the first time. -/
structure Counted (base : Nat) (world : World) (past : List Event) : Prop where
  version : world.display.resizeTx.version = base + (Tally.ofEvents past).sent
  behind : world.display.resizeRx.Behind world.display.resizeTx
  one : world.streams.length ≤ 1
  streamsBehind : ∀ live ∈ world.streams, live.updates.resizeRx.Behind world.display.resizeTx
  streams : ∀ live ∈ world.streams,
    base + (Tally.ofEvents past).announced ≤ live.updates.resizeRx.seen
  resizes : (Tally.ofEvents past).resizes ≤ (Tally.ofEvents past).announced
  announced : (Tally.ofEvents past).announced ≤ (Tally.ofEvents past).sent

section Steps
variable {platform : Platform} {world next : World} {op : Op} {base : Nat} {past events : List Event}

private theorem counted_same (counted : Counted base world past) {host : DisplayMode.Host}
    {display : MacDisplay} {avc420Enabled forceKeyframe : Bool} (same : SameSizes world.display display)
    (silent : ∀ event ∈ events, Tally.Silent event) :
    Counted base { world with host, display, avc420Enabled, forceKeyframe } (past ++ events) := by
  constructor <;> simp only [Tally.ofEvents_silent silent, same.resizeTx, same.resizeRx]
  · exact counted.version
  · exact counted.behind
  · exact counted.one
  · exact counted.streamsBehind
  · exact counted.streams
  · exact counted.resizes
  · exact counted.announced

private theorem counted_announces (counted : Counted base world past) {host : DisplayMode.Host}
    {display : MacDisplay} {size : DesktopSize} (announces : Announces size world.display display)
    {changes : List Event} (silent : ∀ event ∈ changes, Tally.Silent event) :
    Counted base { world with host, display } (past ++ (changes ++ [.sent size])) := by
  have tally : Tally.ofEvents (past ++ (changes ++ [.sent size])) =
      { Tally.ofEvents past with sent := (Tally.ofEvents past).sent + 1 } := by
    rw [Tally.ofEvents_append, List.foldl_append, Tally.foldl_silent silent]
    rfl
  constructor <;> simp only [tally, announces.resizeTx, announces.resizeRx]
  · rw [Sender.send_version, counted.version]
    omega
  · exact counted.behind.send _
  · exact counted.one
  · exact fun live member => (counted.streamsBehind live member).send _
  · exact counted.streams
  · exact counted.resizes
  · exact Nat.le_succ_of_le counted.announced

private theorem counted_setStream (counted : Counted base world past) {index : Nat} {live after : Live}
    {forceKeyframe : Bool} (found : world.streams[index]? = some live)
    (seen : after.updates.resizeRx = live.updates.resizeRx)
    (silent : ∀ event ∈ events, Tally.Silent event) :
    Counted base { world with streams := world.streams.set index after, forceKeyframe }
      (past ++ events) := by
  have member := List.mem_of_getElem? found
  constructor <;> simp only [Tally.ofEvents_silent silent]
  · exact counted.version
  · exact counted.behind
  · exact (List.length_set).trans_le counted.one
  · exact forall_mem_set counted.streamsBehind (seen ▸ counted.streamsBehind live member)
  · exact forall_mem_set counted.streams (seen ▸ counted.streams live member)
  · exact counted.resizes
  · exact counted.announced

/-- The one stream takes over the newest size, and may return it as a resize. -/
theorem counted_resize (counted : Counted base world past) {index : Nat} {live after : Live}
    (found : world.streams[index]? = some live)
    (newer : live.updates.resizeRx.seen < world.display.resizeTx.version)
    (seen : after.updates.resizeRx = ⟨world.display.resizeTx.version⟩) {update : Option DisplayUpdate} :
    Counted base { world with streams := world.streams.set index after }
      (past ++ (update.map .update).toList) := by
  have member := List.mem_of_getElem? found
  have fresh := counted.streams live member
  have version := counted.version
  have resizes := counted.resizes
  have announced := counted.announced
  have caughtUp : after.updates.resizeRx.seen = world.display.resizeTx.version :=
    congrArg Receiver.seen seen
  have alone : ∀ other ∈ world.streams.set index after, other = after :=
    eq_of_mem_set counted.one found
  by_cases shown : ∃ size, update = some (.resize size)
  · obtain ⟨size, rfl⟩ := shown
    have tally : Tally.ofEvents (past ++ [.update (.resize size)]) =
        { Tally.ofEvents past with
          announced := (Tally.ofEvents past).sent, resizes := (Tally.ofEvents past).resizes + 1 } := by
      rw [Tally.ofEvents_append]
      rfl
    constructor <;> simp only [Option.map_some, Option.toList_some, tally]
    · exact version
    · exact counted.behind
    · exact (List.length_set).trans_le counted.one
    · rintro other among
      rw [alone other among]
      exact Nat.le_of_eq caughtUp
    · rintro other among
      rw [alone other among]
      omega
    · omega
    · exact Nat.le_refl _
  · have silent : ∀ event ∈ (update.map Event.update).toList, Tally.Silent event := by
      refine forall_mem_shown fun update returned => ?_
      subst returned
      cases update with
      | resize size => exact (shown ⟨size, rfl⟩).elim
      | bitmap update => exact fun _ => rfl
      | avc420 update => exact fun _ => rfl
    constructor <;> simp only [Tally.ofEvents_silent silent]
    · exact version
    · exact counted.behind
    · exact (List.length_set).trans_le counted.one
    · rintro other among
      rw [alone other among]
      exact Nat.le_of_eq caughtUp
    · rintro other among
      rw [alone other among]
      omega
    · exact resizes
    · exact announced

private theorem counted_updates (counted : Counted base world past) (alone : world.streams = [])
    (caughtUp : base + (Tally.ofEvents past).announced ≤ world.display.resizeRx.seen)
    (created : Created) :
    Counted base
      { world with
        display := (world.display.updates world.host created).2.1,
        streams := world.streams ++ (world.display.updates world.host created).1.toList.map
          fun updates => { updates, native := world.display.native world.host, resized := false } }
      (past ++ (world.display.updates world.host created).2.2) := by
  rcases updates_cases world.host world.display created with failed | ⟨updates, starts, started⟩
  · simp only [failed, Option.toList_none, List.map_nil, List.append_nil]
    exact counted_same counted ⟨rfl, rfl, rfl, rfl⟩ (forall_mem_startCalls (fun _ => rfl) fun _ => rfl)
  · simp only [started, alone, Option.toList_some, List.map_cons, List.map_nil, List.nil_append]
    have silent : ∀ event ∈ startCalls world.display ++
        [.started (world.display.targetSize world.host)], Tally.Silent event :=
      forall_mem_startCalls (fun _ => rfl) fun _ => rfl
    constructor <;> simp only [Tally.ofEvents_silent silent, List.mem_singleton, forall_eq,
      List.length_singleton, starts.resizeRx]
    · exact counted.version
    · exact Nat.le_refl _
    · exact Nat.le_refl _
    · exact counted.behind
    · exact caughtUp
    · exact counted.resizes
    · exact counted.announced

/-- A step is counted, and leaves no stream behind what was announced. -/
theorem step_counted (counted : Counted base world past) (serves : Serves past world op)
    (caughtUp : CaughtUp base past world op) (transition : Transition platform world op next events) :
    Counted base next (past ++ events) := by
  cases transition with
  | size =>
    refine counted_same counted (size_same world.host world.display) fun event member => ?_
    obtain rfl := List.mem_singleton.mp member
    exact fun _ => rfl
  | noMonitor outcome => simpa using counted
  | requestLayout client outcome =>
    obtain ⟨announced, effect, shown⟩ :=
      requestLayout_effect platform.fl world.host world.display client outcome
    have silent : ∀ event ∈ (if (world.display.requestLayout platform.fl world.host (some client)
        outcome).1.active = world.host.active then [] else [Event.modeChanged]), Tally.Silent event :=
      forall_mem_changes fun _ => rfl
    rw [shown]
    rcases effect.sizes with ⟨rfl, same⟩ | ⟨size, rfl, announces⟩
    · rw [List.append_nil]
      exact counted_same counted same silent
    · exact counted_announces counted announces silent
  | updates created => exact counted_updates counted serves caughtUp created
  | poll index live found =>
    have seen := poll_resizeRx live.updates world.avc420Enabled world.display.resizeTx
    cases changed : live.updates.resizeRx.hasChanged world.display.resizeTx with
    | false =>
      obtain ⟨same, quiet⟩ := poll_unchanged world.avc420Enabled changed
      refine counted_setStream counted found same.resizeRx (forall_mem_shown fun update polled => ?_)
      exact Tally.silent_quiet (quiet update polled)
    | true =>
      rw [if_pos changed] at seen
      have newer := (counted.streamsBehind live (List.mem_of_getElem? found)).lt changed
      exact counted_resize counted found newer seen
  | frame index capture live updates forceKeyframe events found framed =>
    obtain ⟨same, quiet⟩ := frame_same framed
    refine counted_setStream counted found same.resizeRx fun event member => ?_
    rcases quiet event member with shown | ⟨rfl, _⟩
    · exact Tally.silent_quiet shown
    · exact fun _ => rfl
  | drop index live found =>
    rw [List.append_nil]
    exact ⟨counted.version, counted.behind, (List.length_eraseIdx_le ..).trans counted.one,
      fun live member => counted.streamsBehind live (List.mem_of_mem_eraseIdx member),
      fun live member => counted.streams live (List.mem_of_mem_eraseIdx member),
      counted.resizes, counted.announced⟩
  | clientDisconnected outcome => exact serves.elim
  | setAvc420Enabled enabled => exact counted_same counted ⟨rfl, rfl, rfl, rfl⟩ nofun
  | setForceKeyframe forced => exact counted_same counted ⟨rfl, rfl, rfl, rfl⟩ nofun

end Steps

/-- **One resize per layout change.** In a connection each of whose streams is
asked for when the handler's receiver has caught up, no more resizes are
returned than sizes were sent. -/
theorem resizes_le_sent (platform : Platform) {start final : World} {ops : List Op}
    {events : List Event} (alone : start.streams = [])
    (behind : start.display.resizeRx.Behind start.display.resizeTx)
    (serves : Runs.Meets (Display.step platform) Serves [] start ops)
    (caughtUp : Runs.Meets (Display.step platform) (CaughtUp start.display.resizeTx.version) [] start ops)
    (ran : Runs.run (Display.step platform) start ops = some (final, events)) :
    (Tally.ofEvents events).resizes ≤ (Tally.ofEvents events).sent := by
  have begins : Counted start.display.resizeTx.version start [] :=
    ⟨rfl, behind, by simp [alone], by simp [alone], by simp [alone], Nat.le_refl _, Nat.le_refl _⟩
  have kept : ∀ world past op next emitted, Counted start.display.resizeTx.version world past →
      Serves past world op ∧ CaughtUp start.display.resizeTx.version past world op →
      Display.step platform world op = some (next, emitted) →
      Counted start.display.resizeTx.version next (past ++ emitted) :=
    fun _ _ _ _ _ counted ⟨serves, caughtUp⟩ stepped =>
      step_counted counted serves caughtUp (step_transition stepped)
  have counted := Runs.invariant_of_meets (Counted start.display.resizeTx.version) kept begins
    (Runs.meets_and serves caughtUp) ran
  exact counted.resizes.trans counted.announced

/-- A layout that arrives before the first stream is asked for costs one resize;
the next stream has nothing left to announce. -/
theorem early_layout_resizes_once :
    ∃ final events, Runs.run (Display.step exactPlatform) (World.fresh DisplayMode.laptop .bgra .fit)
        [.requestLayout (some (1280, 800)) .failed, .updates ⟨true, true⟩, .poll 0, .drop 0,
          .updates ⟨true, true⟩, .poll 0] = some (final, events) ∧
      (Tally.ofEvents events).sent = 1 ∧
      (Tally.ofEvents events).resizes ≤ (Tally.ofEvents events).sent := by
  have runs : ∃ result, Runs.run (Display.step exactPlatform)
      (World.fresh DisplayMode.laptop .bgra .fit)
      [.requestLayout (some (1280, 800)) .failed, .updates ⟨true, true⟩, .poll 0, .drop 0,
        .updates ⟨true, true⟩, .poll 0] = some result ∧ (Tally.ofEvents result.2).sent = 1 :=
    ⟨_, rfl, rfl⟩
  obtain ⟨⟨final, events⟩, ran, sent⟩ := runs
  refine ⟨final, events, ran, sent, resizes_le_sent exactPlatform rfl (Nat.le_refl _) ?_ ?_ ran⟩
  · decide
  · decide

/-- A layout that arrives while a stream is live is returned by that stream and
again by the stream asked for next, which inherits it unseen. -/
theorem late_layout_resizes_twice :
    Runs.Meets (Display.step exactPlatform) Serves [] (World.fresh DisplayMode.laptop .bgra .fit)
      [.updates ⟨true, true⟩, .requestLayout (some (1280, 800)) .failed, .poll 0, .drop 0,
        .updates ⟨true, true⟩, .poll 0] ∧
    ∃ final events, Runs.run (Display.step exactPlatform) (World.fresh DisplayMode.laptop .bgra .fit)
        [.updates ⟨true, true⟩, .requestLayout (some (1280, 800)) .failed, .poll 0, .drop 0,
          .updates ⟨true, true⟩, .poll 0] = some (final, events) ∧
      (Tally.ofEvents events).sent = 1 ∧ (Tally.ofEvents events).resizes = 2 :=
  ⟨by decide, _, _, rfl, rfl, rfl⟩

end Osxrdp.ResizeCount
