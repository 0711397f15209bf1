import Osxrdp.LayoutEcho
import Osxrdp.Mutex

/-! `server.rs`: the client loop awaits `updates` with the display locked, while
tasks of the blocking pool wait for the same mutex to request a layout. What the
wait in `updates` can see of them. -/
namespace Osxrdp.LayoutWait
open Display DisplayMode DisplaySteps FramePipeline LayoutEcho

/-- The tasks that lock the display. -/
inductive Task where
  | clientLoop
  | layout (index : Nat)
  deriving DecidableEq, Repr

/-- How far the client loop is with `self.display.lock().await.updates().await`. -/
inductive LoopPhase where
  | locking
  | waiting (polled : UInt32)
  | ready
  | streaming (stream : MacDisplayUpdates)
  | failed
  deriving DecidableEq, Repr

/-- A task of `monitor_layout` that has a thread of the pool, with the first
monitor of its layout. -/
structure LayoutTask where
  monitor : Option (UInt32 × UInt32)
  locked : Bool
  deriving DecidableEq, Repr

/-- The display behind its mutex, and the tasks that want it. -/
structure Server where
  display : Mutex Task (Host × MacDisplay)
  loop : LoopPhase
  layouts : List LayoutTask
  deriving DecidableEq, Repr

/-- What runs next: the client loop between two awaits, or a task of the pool. No
message is read while `updates` is awaited, so a task that begins then was spawned
before. -/
inductive Turn where
  | lock
  | poll
  | start (created : Created)
  | begin (monitor : Option (UInt32 × UInt32))
  | lockLayout (index : Nat)
  | requestLayout (index : Nat) (outcome : SwitchOutcome)
  deriving DecidableEq, Repr

/-- A client loop that is about to lock the display. -/
def Server.initial (host : Host) (display : MacDisplay) : Server where
  display := { value := (host, display), holder := none }
  loop := .locking
  layouts := []

/-- One iteration of the loop in `updates`; it is left, or sleeps 10 ms. -/
def pollLayout (display : MacDisplay) (polled : UInt32) : LoopPhase :=
  if display.currentSize.isSome ∨ polled ≥ 50 then .ready else .waiting (polled + 1)

/-- The guard of the client loop is dropped when `updates` has returned. -/
def startUpdates (server : Server) (created : Created) (host : Host) (display : MacDisplay) :
    Server × List Event :=
  let (started, display, events) := display.updates host created
  let loop := match started with
    | some stream => .streaming stream
    | none => .failed
  ({ server with display := server.display.unlock (host, display), loop }, events)

/-- `display.blocking_lock().request_layout(layout)`, once it has the lock. -/
def runLayout (fl : Rounding 53) (server : Server) (task : LayoutTask) (outcome : SwitchOutcome)
    (host : Host) (display : MacDisplay) : Server × List Event :=
  let (host, display, events) := display.requestLayout fl host task.monitor outcome
  ({ server with display := server.display.unlock (host, display) }, events)

/-- `self.display.lock().await`, when it returns. -/
def lockLoop (server : Server) : Option (Server × List Event) :=
  match server.loop with
  | .locking => (server.display.lock .clientLoop).map fun display =>
      ({ server with display, loop := .waiting 0 }, [])
  | _ => none

/-- The loop looks whether a size has come. -/
def pollLoop (server : Server) : Option (Server × List Event) :=
  match server.loop with
  | .waiting polled => (server.display.access .clientLoop).map fun (_, display) =>
      ({ server with loop := pollLayout display polled }, [])
  | _ => none

/-- The wait is over, and the stream is started. -/
def startLoop (server : Server) (created : Created) : Option (Server × List Event) :=
  match server.loop with
  | .ready => (server.display.access .clientLoop).map fun (host, display) =>
      startUpdates server created host display
  | _ => none

/-- `display.blocking_lock()`, when it returns. -/
def lockLayout (server : Server) (index : Nat) : Option (Server × List Event) :=
  server.layouts[index]?.bind fun task =>
    if task.locked then none
    else (server.display.lock (.layout index)).map fun display =>
      ({ server with display, layouts := server.layouts.set index { task with locked := true } }, [])

/-- A task that holds the display runs to its end. -/
def layoutTurn (fl : Rounding 53) (server : Server) (index : Nat) (outcome : SwitchOutcome) :
    Option (Server × List Event) :=
  server.layouts[index]?.bind fun task =>
    (server.display.access (.layout index)).map fun (host, display) =>
      runLayout fl server task outcome host display

/-- One turn of what runs next. -/
def turn (fl : Rounding 53) : Runs.System Server Turn Event
  | server, .lock => lockLoop server
  | server, .poll => pollLoop server
  | server, .start created => startLoop server created
  | server, .begin monitor =>
    some ({ server with layouts := server.layouts ++ [{ monitor, locked := false }] }, [])
  | server, .lockLayout index => lockLayout server index
  | server, .requestLayout index outcome => layoutTurn fl server index outcome

section Turns
variable {fl : Rounding 53} {server next : Server} {input : Turn} {events : List Event}

/-- What a turn does, and who holds the display as it does it. -/
inductive Effect (fl : Rounding 53) (server : Server) : Turn → Server → List Event → Prop
  | lock (loop : server.loop = .locking) (free : server.display.holder = none) :
    Effect fl server .lock
      { server with
        display := { server.display with holder := some .clientLoop }, loop := .waiting 0 } []
  | poll (polled : UInt32) (loop : server.loop = .waiting polled)
    (holds : server.display.holder = some .clientLoop) :
    Effect fl server .poll { server with loop := pollLayout server.display.value.2 polled } []
  | start (created : Created) (loop : server.loop = .ready)
    (holds : server.display.holder = some .clientLoop) :
    Effect fl server (.start created)
      (startUpdates server created server.display.value.1 server.display.value.2).1
      (startUpdates server created server.display.value.1 server.display.value.2).2
  | begin (monitor : Option (UInt32 × UInt32)) : Effect fl server (.begin monitor)
      { server with layouts := server.layouts ++ [{ monitor, locked := false }] } []
  | lockLayout (index : Nat) (task : LayoutTask) (free : server.display.holder = none) :
    Effect fl server (.lockLayout index)
      { server with
        display := { server.display with holder := some (.layout index) },
        layouts := server.layouts.set index { task with locked := true } } []
  | requestLayout (index : Nat) (outcome : SwitchOutcome) (task : LayoutTask)
    (found : server.layouts[index]? = some task) (holds : server.display.holder = some (.layout index)) :
    Effect fl server (.requestLayout index outcome)
      (runLayout fl server task outcome server.display.value.1 server.display.value.2).1
      (runLayout fl server task outcome server.display.value.1 server.display.value.2).2

/-- All that a turn can do. -/
theorem turn_effect (turned : turn fl server input = some (next, events)) :
    Effect fl server input next events := by
  cases input with
  | lock =>
    change lockLoop server = some (next, events) at turned
    unfold lockLoop at turned
    split at turned
    · rename_i loop
      obtain ⟨display, locked, same⟩ := Option.map_eq_some_iff.mp turned
      obtain ⟨free, rfl⟩ := Mutex.lock_eq_some.mp locked
      cases same
      exact .lock loop free
    · cases turned
  | poll =>
    change pollLoop server = some (next, events) at turned
    unfold pollLoop at turned
    split at turned
    · rename_i polled loop
      obtain ⟨value, accessed, same⟩ := Option.map_eq_some_iff.mp turned
      obtain ⟨holds, rfl⟩ := Mutex.access_eq_some.mp accessed
      cases same
      exact .poll polled loop holds
    · cases turned
  | start created =>
    change startLoop server created = some (next, events) at turned
    unfold startLoop at turned
    split at turned
    · rename_i loop
      obtain ⟨value, accessed, same⟩ := Option.map_eq_some_iff.mp turned
      obtain ⟨holds, rfl⟩ := Mutex.access_eq_some.mp accessed
      cases same
      exact .start created loop holds
    · cases turned
  | begin monitor =>
    cases turned
    exact .begin monitor
  | lockLayout index =>
    obtain ⟨task, found, turned⟩ := Option.bind_eq_some_iff.mp turned
    split at turned
    · cases turned
    · obtain ⟨display, locked, same⟩ := Option.map_eq_some_iff.mp turned
      obtain ⟨free, rfl⟩ := Mutex.lock_eq_some.mp locked
      cases same
      exact .lockLayout index task free
  | requestLayout index outcome =>
    obtain ⟨task, found, turned⟩ := Option.bind_eq_some_iff.mp turned
    obtain ⟨value, accessed, same⟩ := Option.map_eq_some_iff.mp turned
    obtain ⟨holds, rfl⟩ := Mutex.access_eq_some.mp accessed
    cases same
    exact .requestLayout index outcome task found holds

end Turns

section Waiting
variable {fl : Rounding 53} {server next waiting final : Server} {input : Turn} {turns : List Turn}
  {events : List Event} {host : Host} {display : MacDisplay}

/-- The client loop awaits `updates`. -/
def LoopPhase.Awaits : LoopPhase → Prop
  | .waiting _ | .ready => True
  | .locking | .streaming _ | .failed => False

private theorem pollLayout_awaits (display : MacDisplay) (polled : UInt32) : (pollLayout display polled).Awaits := by
  unfold pollLayout
  split <;> trivial

/-- What is left of `updates` returns a stream, or fails. -/
theorem startUpdates_loop (server : Server) (created : Created) (host : Host) (display : MacDisplay) :
    (startUpdates server created host display).1.loop = .failed ∨
      ∃ stream, (startUpdates server created host display).1.loop = .streaming stream ∧
        stream.targetSize = display.targetSize host := by
  unfold startUpdates
  rcases updates_cases host display created with failed | ⟨stream, starts, started⟩
  · rw [failed]
    exact .inl rfl
  · rw [started]
    exact .inr ⟨stream, rfl, starts.targetSize⟩

/-- While it awaits `updates`, the client loop holds the display. -/
def Holds (server : Server) : Prop := server.loop.Awaits → server.display.holder = some .clientLoop

/-- A turn leaves the display with a client loop that awaits `updates`. -/
theorem turn_holds (holding : Holds server) (turned : turn fl server input = some (next, events)) :
    Holds next := by
  intro awaits
  cases turn_effect turned with
  | lock loop free => rfl
  | poll polled loop holds => exact holds
  | start created loop holds =>
    rcases startUpdates_loop server created server.display.value.1 server.display.value.2 with
      failed | ⟨stream, streaming, _⟩
    · rw [failed] at awaits
      exact awaits.elim
    · rw [streaming] at awaits
      exact awaits.elim
  | begin monitor => exact holding awaits
  | lockLayout index task free => cases free.symm.trans (holding awaits)
  | requestLayout index outcome task found holds => cases holds.symm.trans (holding awaits)

/-- It holds the display in every state of a run. -/
theorem run_holds (ran : Runs.run (turn fl) (.initial host display) turns = some (server, events)) :
    Holds server := by
  have start : Holds (.initial host display) := fun awaits => (show False from awaits).elim
  refine Runs.invariant_of_step (fun server _ => Holds server) ?_ [] start ran
  exact fun _ _ _ _ _ holding turned => turn_holds holding turned

/-- As long as the client loop awaits `updates`, `blocking_lock` returns to no
task, and none requests a layout. -/
theorem layouts_wait (holding : Holds server) (awaits : server.loop.Awaits) (index : Nat)
    (outcome : SwitchOutcome) : turn fl server (.lockLayout index) = none ∧
      turn fl server (.requestLayout index outcome) = none := by
  have holds := holding awaits
  constructor
  · change lockLayout server index = none
    unfold lockLayout
    cases server.layouts[index]? with
    | none => rfl
    | some task => simp [Mutex.lock_of_held holds]
  · change layoutTurn fl server index outcome = none
    unfold layoutTurn
    rw [Mutex.access_of_held holds fun same => by cases same]
    cases server.layouts[index]? <;> rfl

/-- `updates` has the display as it found it, or has returned a stream at the
target size of that display. -/
inductive Unaware (host : Host) (display : MacDisplay) (server : Server) : Prop
  | inside (awaits : server.loop.Awaits) (holds : server.display.holder = some .clientLoop)
    (value : server.display.value = (host, display))
  | returned (stream : MacDisplayUpdates) (loop : server.loop = .streaming stream)
    (target : stream.targetSize = display.targetSize host)
  | failed (loop : server.loop = .failed)

private theorem Unaware.loop_ne_locking (unaware : Unaware host display server) : server.loop ≠ .locking := by
  intro locking
  cases unaware with
  | inside awaits holds value =>
    rw [locking] at awaits
    exact awaits.elim
  | returned stream loop target => cases loop.symm.trans locking
  | failed loop => cases loop.symm.trans locking

theorem Unaware.value_of_awaits (unaware : Unaware host display server) (awaits : server.loop.Awaits) :
    server.display.value = (host, display) := by
  cases unaware with
  | inside _ holds value => exact value
  | returned stream loop target =>
    rw [loop] at awaits
    exact awaits.elim
  | failed loop =>
    rw [loop] at awaits
    exact awaits.elim

/-- Where the client loop does not hold the display, `updates` has returned. -/
theorem Unaware.of_unheld (unaware : Unaware host display server)
    (unheld : server.display.holder ≠ some .clientLoop) (loop : next.loop = server.loop) :
    Unaware host display next := by
  cases unaware with
  | inside awaits holds value => exact absurd holds unheld
  | returned stream streaming target => exact .returned stream (loop.trans streaming) target
  | failed failed => exact .failed (loop.trans failed)

/-- No task changes what `updates` works on, and none changes what it returned. -/
theorem turn_unaware (unaware : Unaware host display server)
    (turned : turn fl server input = some (next, events)) : Unaware host display next := by
  cases turn_effect turned with
  | lock locking free => exact absurd locking unaware.loop_ne_locking
  | poll polled waiting holds =>
    have value := unaware.value_of_awaits (by rw [waiting]; trivial)
    exact .inside (pollLayout_awaits _ _) holds value
  | start created ready holds =>
    have value := unaware.value_of_awaits (by rw [ready]; trivial)
    rcases startUpdates_loop server created server.display.value.1 server.display.value.2 with
      failed | ⟨stream, streaming, target⟩
    · exact .failed failed
    · rw [value] at target
      exact .returned stream streaming target
  | begin monitor =>
    cases unaware with
    | inside awaits holds value => exact .inside awaits holds value
    | returned stream loop target => exact .returned stream loop target
    | failed loop => exact .failed loop
  | lockLayout index task free => exact unaware.of_unheld (by rw [free]; simp) rfl
  | requestLayout index outcome task found holds => exact unaware.of_unheld (by rw [holds]; simp) rfl

/-- Whatever runs during the wait, the stream starts at the size that the
display had when it began. -/
theorem stream_starts_as_waited {stream : MacDisplayUpdates} (holding : Holds waiting)
    (awaits : waiting.loop.Awaits) (ran : Runs.run (turn fl) waiting turns = some (final, events))
    (streams : final.loop = .streaming stream) :
    stream.targetSize = waiting.display.value.2.targetSize waiting.display.value.1 := by
  have unaware : Unaware waiting.display.value.1 waiting.display.value.2 final := by
    refine Runs.invariant_of_step (fun server _ => Unaware _ _ server) ?_ []
      (.inside awaits (holding awaits) rfl) ran
    exact fun _ _ _ _ _ unaware turned => turn_unaware unaware turned
  cases unaware with
  | inside awaiting holds value =>
    rw [streams] at awaiting
    exact awaiting.elim
  | returned returned loop target =>
    cases streams.symm.trans loop
    exact target
  | failed loop => cases streams.symm.trans loop

/-- The checks that are left to a loop that finds no size. -/
def LoopPhase.remaining : LoopPhase → Nat
  | .waiting polled => 50 - polled.toNat + 1
  | .locking | .ready | .streaming _ | .failed => 0

private theorem remaining_pollLayout (unset : display.currentSize = none) (polled : UInt32) :
    (pollLayout display polled).remaining + 1 = (LoopPhase.waiting polled).remaining := by
  have sizeless : display.currentSize.isSome = false := by rw [unset]; rfl
  have last : polled ≥ 50 ↔ 50 ≤ polled.toNat := UInt32.le_iff_toNat_le
  unfold pollLayout
  by_cases expired : polled ≥ 50
  · rw [if_pos (.inr expired)]
    have := last.mp expired
    simp only [LoopPhase.remaining]
    omega
  · rw [if_neg (by simp [sizeless, expired])]
    have few : polled.toNat < 50 := Nat.lt_of_not_le (mt last.mpr expired)
    have next : (polled + 1).toNat = polled.toNat + 1 := by
      rw [UInt32.toNat_add]
      exact Nat.mod_eq_of_lt (by simp; omega)
    simp only [LoopPhase.remaining, next]
    omega

/-- A check uses up one, and nothing else that runs does. -/
theorem turn_remaining (unaware : Unaware host display server) (unset : display.currentSize = none)
    (turned : turn fl server input = some (next, events)) :
    next.loop.remaining + [input].count .poll = server.loop.remaining := by
  cases turn_effect turned with
  | lock locking free => exact absurd locking unaware.loop_ne_locking
  | poll polled waiting holds =>
    rw [List.count_singleton_self, waiting, unaware.value_of_awaits (by rw [waiting]; trivial)]
    exact remaining_pollLayout unset polled
  | start created ready holds =>
    rw [ready]
    rcases startUpdates_loop server created server.display.value.1 server.display.value.2 with
      failed | ⟨stream, streaming, _⟩
    · rw [failed]
      rfl
    · rw [streaming]
      rfl
  | begin monitor => rfl
  | lockLayout index task free => rfl
  | requestLayout index outcome task found holds => rfl

/-- The checks are used up by polls alone. -/
theorem run_remaining (unaware : Unaware host display server) (unset : display.currentSize = none)
    (ran : Runs.run (turn fl) server turns = some (final, events)) :
    final.loop.remaining + turns.count .poll = server.loop.remaining := by
  induction turns generalizing server events with
  | nil =>
    cases ran
    rfl
  | cons input rest ih =>
    obtain ⟨next, emitted, later, turned, continued, rfl⟩ := Runs.run_cons.mp ran
    have first := turn_remaining unaware unset turned
    have others := ih (turn_unaware unaware turned) continued
    rw [← List.singleton_append, List.count_append]
    omega

/-- **No layout ends the wait.** It goes on to its last check, whatever runs
meanwhile. -/
theorem wait_is_whole {stream : MacDisplayUpdates} (holding : Holds waiting)
    (polling : waiting.loop = .waiting 0) (unset : waiting.display.value.2.currentSize = none)
    (ran : Runs.run (turn fl) waiting turns = some (final, events))
    (streams : final.loop = .streaming stream) : turns.count .poll = 51 := by
  have awaits : waiting.loop.Awaits := by
    rw [polling]
    trivial
  have spent := run_remaining (.inside awaits (holding awaits) rfl) unset ran
  rw [streams, polling] at spent
  exact (Nat.zero_add _).symm.trans spent

/-- The size that a layout request makes the current one. -/
def effectiveSize (fl : Rounding 53) (host : Host) (display : MacDisplay) (client : UInt32 × UInt32)
    (outcome : SwitchOutcome) : DesktopSize :=
  let target := clientSize client.1 client.2
  match display.aspectMode, outcome with
  | .native, _ => nativeModeSize fl (display.native host) client.1 client.2
  | .fit, .completed mode =>
    if DisplayModeSwitcher.atTarget host target.width.toUInt32 target.height.toUInt32 then target
    else modeSize mode
  | .fit, .spawnFailed | .fit, .failed => target

/-- The size current after a request with a monitor. -/
theorem requestLayout_currentSize (fl : Rounding 53) (host : Host) (display : MacDisplay)
    (client : UInt32 × UInt32) (outcome : SwitchOutcome) :
    (display.requestLayout fl host (some client) outcome).2.1.currentSize =
      some (effectiveSize fl host display client outcome) := by
  unfold effectiveSize
  cases aspectMode : display.aspectMode with
  | native =>
    simp only [MacDisplay.requestLayout, aspectMode]
    exact announce_currentSize _ _
  | fit =>
    cases already : DisplayModeSwitcher.atTarget host (clientSize client.1 client.2).width.toUInt32
        (clientSize client.1 client.2).height.toUInt32 with
    | true =>
      rw [fit_at_target fl aspectMode already]
      cases outcome with
      | spawnFailed => exact announceSwitched_currentSize _ _
      | failed => exact announceSwitched_currentSize _ _
      | completed mode =>
        simp only [already, if_true]
        exact announceSwitched_currentSize _ _
    | false =>
      cases outcome with
      | spawnFailed =>
        rw [fit_failed fl aspectMode already fun _ same => by cases same]
        exact announce_currentSize _ _
      | failed =>
        rw [fit_failed fl aspectMode already fun _ same => by cases same]
        exact announce_currentSize _ _
      | completed mode =>
        simp only [already, Bool.false_eq_true, if_false]
        exact (fit_completed fl aspectMode already mode).2

/-- In Native mode that is the native size for a window that has one of its
sides and covers the other, when the arithmetic is read as exact. -/
theorem effectiveSize_eq_native_iff {client : UInt32 × UInt32} (aspectMode : display.aspectMode = .native)
    (sized : Sized display) (window : Dimensions client) (outcome : SwitchOutcome) :
    effectiveSize (.exact 53) host display client outcome = display.native host ↔
      client.1.toNat = (display.native host).width.toNat ∧
          (display.native host).height.toNat ≤ client.2.toNat ∨
        (display.native host).width.toNat ≤ client.1.toNat ∧
          client.2.toNat = (display.native host).height.toNat := by
  have nonempty := sized.native host
  have chosen : effectiveSize (.exact 53) host display client outcome =
      nativeModeSize (.exact 53) (display.native host) client.1 client.2 := by
    simp only [effectiveSize, aspectMode]
  have whole := AspectFit.fit_eq_shape_iff
    ((display.native host).width.toNat, (display.native host).height.toNat)
    (client.1.toNat, client.2.toNat) nonempty.1 nonempty.2
  rw [← nativeModeSize_eq_fit nonempty window, Prod.mk.injEq, UInt16.toNat_inj, UInt16.toNat_inj] at whole
  rw [chosen, size_eq_iff]
  exact whole

/-- A layout that comes after the wait is sent as a resize, when no other came
before it. -/
theorem late_layout_is_sent {index : Nat} {outcome : SwitchOutcome} {client : UInt32 × UInt32} {locked : Bool}
    (turned : turn fl server (.requestLayout index outcome) = some (next, events))
    (found : server.layouts[index]? = some ⟨some client, locked⟩)
    (unset : server.display.value.2.currentSize = none) :
    ∃ size, next.display.value.2.currentSize = some size ∧ .sent size ∈ events := by
  cases turn_effect turned with
  | requestLayout _ _ task other holds =>
    cases found.symm.trans other
    obtain ⟨announced, effect, shown⟩ :=
      requestLayout_effect fl server.display.value.1 server.display.value.2 client outcome
    rcases effect.sizes with ⟨_, same⟩ | ⟨size, rfl, announces⟩
    · exact absurd (same.currentSize.trans unset) effect.currentSize
    · refine ⟨size, announces.currentSize, ?_⟩
      change .sent size ∈ (server.display.value.2.requestLayout fl server.display.value.1 (some client)
        outcome).2.2
      rw [shown]
      exact List.mem_append_right _ (List.mem_singleton_self _)

/-- A task for the layout waits for the display, or begins to. -/
def Comes (server : Server) (turns : List Turn) (client : UInt32 × UInt32) : Prop :=
  ⟨some client, false⟩ ∈ server.layouts ∨ .begin (some client) ∈ turns

/-- **The wait for a layout cannot see one.** A stream whose wait began without a
size starts at the effective size of a layout whose task waits for the display
meanwhile exactly when the layout is for the native size, at which it starts anyway. -/
theorem layout_in_the_wait_is_seen_iff (fl : Rounding 53) (host : Host) (display : MacDisplay)
    {before after : List Turn} {waiting final : Server} {past events : List Event} {polled : UInt32}
    (ran : Runs.run (turn fl) (.initial host display) before = some (waiting, past))
    (polling : waiting.loop = .waiting polled) (unset : waiting.display.value.2.currentSize = none)
    {stream : MacDisplayUpdates} (continued : Runs.run (turn fl) waiting after = some (final, events))
    (streams : final.loop = .streaming stream) :
    ∀ client, Comes waiting after client → ∀ outcome,
      ((waiting.display.value.2.requestLayout fl waiting.display.value.1 (some client)
          outcome).2.1.currentSize = some stream.targetSize ↔
        effectiveSize fl waiting.display.value.1 waiting.display.value.2 client outcome =
          waiting.display.value.2.native waiting.display.value.1) := by
  intro client _ outcome
  have awaits : waiting.loop.Awaits := by
    rw [polling]
    trivial
  rw [stream_starts_as_waited (run_holds ran) awaits continued streams, MacDisplay.targetSize, unset,
    requestLayout_currentSize, Option.some_inj]
  rfl

end Waiting

/-- A layout comes as the wait begins, and the wait goes on to its last check. -/
def layoutAtOnce (client : UInt32 × UInt32) : List Turn :=
  .begin (some client) :: (List.replicate 51 .poll ++ [.start ⟨true, true⟩])

/-- A client loop that has just begun to wait, on a new handler. -/
def waitingLaptop : Server where
  display := { value := (laptop, .withMode .bgra .native), holder := some .clientLoop }
  loop := .waiting 0
  layouts := []

/-- The stream that was returned. -/
def LoopPhase.stream : LoopPhase → Option MacDisplayUpdates
  | .streaming stream => some stream
  | .locking | .waiting _ | .ready | .failed => none

private theorem LoopPhase.stream_eq_some {loop : LoopPhase} {stream : MacDisplayUpdates}
    (returned : loop.stream = some stream) : loop = .streaming stream := by
  cases loop with
  | streaming other =>
    cases returned
    rfl
  | locking => cases returned
  | waiting polled => cases returned
  | ready => cases returned
  | failed => cases returned

private theorem layoutAtOnce_streams (client : UInt32 × UInt32)
    (streams : (((Runs.run (turn (.exact 53)) waitingLaptop (layoutAtOnce client)).bind
      fun (final, _) => final.loop.stream).isSome = true)) :
    ∃ final events stream, Runs.run (turn (.exact 53)) waitingLaptop (layoutAtOnce client) =
      some (final, events) ∧ final.loop = .streaming stream := by
  obtain ⟨stream, found⟩ := Option.isSome_iff_exists.mp streams
  obtain ⟨⟨final, events⟩, ran, returned⟩ := Option.bind_eq_some_iff.mp found
  exact ⟨final, events, stream, ran, LoopPhase.stream_eq_some returned⟩

/-- A layout of the native size is seen. -/
theorem native_layout_is_seen : ∃ final events stream,
    Runs.run (turn (.exact 53)) waitingLaptop (layoutAtOnce (1440, 900)) = some (final, events) ∧
      final.loop = .streaming stream ∧
      ((MacDisplay.withMode .bgra .native).requestLayout (.exact 53) laptop (some (1440, 900))
        .spawnFailed).2.1.currentSize = some stream.targetSize := by
  obtain ⟨final, events, stream, continued, streams⟩ := layoutAtOnce_streams (1440, 900) (by decide +kernel)
  have began : Runs.run (turn (.exact 53)) (.initial laptop (.withMode .bgra .native)) [.lock] =
      some (waitingLaptop, []) := rfl
  refine ⟨final, events, stream, continued, streams, ?_⟩
  exact (layout_in_the_wait_is_seen_iff (.exact 53) laptop (.withMode .bgra .native) began rfl rfl continued
    streams (1440, 900) (.inr (List.mem_cons_self ..)) .spawnFailed).mpr (by decide +kernel)

/-- A layout of 1024 by 768 comes as the wait begins, and is not seen: the stream
starts at 1440 by 900, not at 1024 by 640. -/
theorem layout_at_once_is_missed :
    Runs.run (turn (.exact 53)) (.initial laptop (.withMode .bgra .native)) [.lock] =
        some (waitingLaptop, []) ∧
      ∃ final events stream,
        Runs.run (turn (.exact 53)) waitingLaptop (layoutAtOnce (1024, 768)) = some (final, events) ∧
          final.loop = .streaming stream ∧
          ((MacDisplay.withMode .bgra .native).requestLayout (.exact 53) laptop (some (1024, 768))
            .spawnFailed).2.1.currentSize ≠ some stream.targetSize := by
  obtain ⟨final, events, stream, continued, streams⟩ := layoutAtOnce_streams (1024, 768) (by decide +kernel)
  refine ⟨rfl, final, events, stream, continued, streams, ?_⟩
  have awaits : waitingLaptop.loop.Awaits := trivial
  have holding : Holds waitingLaptop := fun _ => rfl
  rw [stream_starts_as_waited holding awaits continued streams]
  decide +kernel

end Osxrdp.LayoutWait
