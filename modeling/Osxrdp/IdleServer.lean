import Osxrdp.DisplaySteps
import Osxrdp.Restorability

/-! The server between connections. A layout PDU hands its request to the
blocking pool, and the task is not tied to the connection that queued it: the
display stays as it was left exactly when no task runs with nobody connected. -/
namespace Osxrdp.IdleServer
open Display DisplayMode DisplaySteps FramePipeline

/-- `RdpServer` as far as the display goes: whether a connection is being
served, and the layout tasks that the pool has still to run. -/
structure Server where
  world : World
  connected : Bool
  tasks : List (Option (UInt32 × UInt32))
  deriving DecidableEq, Repr

/-- What happens to the server. A task is run by the pool at any time and in
any order, under the display mutex; the connection acts on the display itself. -/
inductive Input where
  | accept
  | monitorLayout (monitor : Option (UInt32 × UInt32))
  | runTask (task : Nat) (outcome : SwitchOutcome)
  | display (op : Op)
  | clientDisconnected (outcome : RestoreOutcome)
  deriving DecidableEq, Repr

/-- A step that only a connection takes. -/
def Server.whileConnected (server : Server) (result : Option (Server × List Event)) :
    Option (Server × List Event) :=
  if server.connected then result else none

/-- An operation that ends a connection. -/
def endsConnection : Op → Bool
  | .clientDisconnected _ => true
  | _ => false

/-- One step of the server, with the handler it serves. A layout task may run when nobody is
connected any more. -/
def step (platform : Platform) : Runs.System Server Input Event
  | server, .accept =>
    if server.connected then none else some ({ server with connected := true }, [])
  | server, .monitorLayout monitor =>
    server.whileConnected (some ({ server with tasks := server.tasks ++ [monitor] }, []))
  | server, .runTask index outcome => server.tasks[index]?.bind fun monitor =>
    (Display.step platform server.world (.requestLayout monitor outcome)).map fun (world, events) =>
      ({ server with world, tasks := server.tasks.eraseIdx index }, events)
  | server, .display op => server.whileConnected <|
    if endsConnection op then none
    else (Display.step platform server.world op).map fun (world, events) => ({ server with world }, events)
  | server, .clientDisconnected outcome => server.whileConnected <|
    some ({ server with world := server.world.endConnection outcome, connected := false }, [])

/-- A server that has served nobody. -/
def Server.fresh (host : Host) (mode : CaptureMode) (aspectMode : AspectMode) : Server :=
  { world := .fresh host mode aspectMode, connected := false, tasks := [] }

/-- Nobody connected means no size of a client is kept. -/
def SizeForgotten (server : Server) : Prop :=
  server.connected = false → server.world.display.currentSize = none

/-- Nobody connected means that and the display in its original mode. -/
def LeftAlone (original : CGDisplayMode) (server : Server) : Prop :=
  server.connected = false →
    server.world.display.currentSize = none ∧ server.world.host.active = original

/-- No task that has a monitor to lay out is run with nobody connected. -/
def Attended (server : Server) : Input → Prop
  | .runTask index _ => server.connected = false →
    ∀ client, server.tasks[index]? ≠ some (some client)
  | _ => True

/-- The restore at the end of a connection returns the display. -/
def Returned (original : CGDisplayMode) (server : Server) : Input → Prop
  | .clientDisconnected outcome => ∀ switcher, server.world.display.modeSwitcher = some switcher →
    Restorability.Returns original (server.world.host, switcher) (.restore outcome)
  | _ => True

/-- Away from the original mode, the handler's switcher remembers that it switched. -/
def Remembered (original : CGDisplayMode) (world : World) : Prop :=
  Restorability.Restorable original (world.host, world.display.modeSwitcher.getD (.new world.host))

section Steps
variable {platform : Platform} {original : CGDisplayMode} {server next : Server} {input : Input}
  {world after : World} {op : Op} {events : List Event}

/-- The ways a step can go. -/
inductive Moves (platform : Platform) (server : Server) : Input → Server → Prop
  | accept : Moves platform server .accept { server with connected := true }
  | monitorLayout (monitor : Option (UInt32 × UInt32)) (serving : server.connected = true) :
    Moves platform server (.monitorLayout monitor) { server with tasks := server.tasks ++ [monitor] }
  | runTask (index : Nat) (outcome : SwitchOutcome) (monitor : Option (UInt32 × UInt32))
    (queued : server.tasks[index]? = some monitor) (world : World) (events : List Event)
    (requested : Transition platform server.world (.requestLayout monitor outcome) world events) :
    Moves platform server (.runTask index outcome)
      { server with world, tasks := server.tasks.eraseIdx index }
  | display (op : Op) (serving : server.connected = true) (same : SameConnection op) (world : World)
    (events : List Event) (transition : Transition platform server.world op world events) :
    Moves platform server (.display op) { server with world }
  | clientDisconnected (outcome : RestoreOutcome) (serving : server.connected = true) :
    Moves platform server (.clientDisconnected outcome)
      { server with world := server.world.endConnection outcome, connected := false }

private theorem whileConnected_some {result : Option (Server × List Event)}
    (stepped : server.whileConnected result = some (next, events)) :
    server.connected = true ∧ result = some (next, events) := by
  unfold Server.whileConnected at stepped
  split at stepped
  · rename_i serving
    exact ⟨serving, stepped⟩
  · exact nomatch stepped

/-- All that a step can do. -/
theorem step_moves (stepped : step platform server input = some (next, events)) :
    Moves platform server input next := by
  cases input with
  | accept =>
    change (if server.connected then none else some (_, [])) = _ at stepped
    split at stepped
    · exact nomatch stepped
    · cases stepped
      exact .accept
  | monitorLayout monitor =>
    obtain ⟨serving, queued⟩ := whileConnected_some stepped
    cases queued
    exact .monitorLayout monitor serving
  | runTask index outcome =>
    obtain ⟨monitor, queued, ran⟩ := Option.bind_eq_some_iff.mp stepped
    obtain ⟨⟨world, shown⟩, requested, moved⟩ := Option.map_eq_some_iff.mp ran
    cases moved
    exact .runTask index outcome monitor queued world _ (step_transition requested)
  | display op =>
    obtain ⟨serving, acted⟩ := whileConnected_some stepped
    split at acted
    · exact nomatch acted
    · rename_i stays
      obtain ⟨⟨world, shown⟩, acted, moved⟩ := Option.map_eq_some_iff.mp acted
      cases moved
      have same : SameConnection op := by
        cases op with
        | clientDisconnected outcome => exact stays rfl
        | _ => trivial
      exact .display op serving same world _ (step_transition acted)
  | clientDisconnected outcome =>
    obtain ⟨serving, ended⟩ := whileConnected_some stepped
    cases ended
    exact .clientDisconnected outcome serving

private theorem requestLayout_size {monitor : Option (UInt32 × UInt32)} {outcome : SwitchOutcome}
    (requested : Transition platform world (.requestLayout monitor outcome) after events) :
    (monitor = none ∧ after = world) ∨ ∃ client, monitor = some client ∧
      after.display.currentSize ≠ none := by
  cases requested with
  | noMonitor outcome => exact .inl ⟨rfl, rfl⟩
  | requestLayout client outcome =>
    obtain ⟨_, effect, _⟩ := requestLayout_effect platform.fl world.host world.display client outcome
    exact .inr ⟨client, rfl, effect.currentSize⟩

/-- Only tasks and the end of a connection decide about an idle server. -/
theorem idle_survives_iff (Idle : World → Prop) (Ends : RestoreOutcome → Prop)
    (sized : ∀ world, Idle world → world.display.currentSize = none)
    (ends : ∀ outcome, Idle (server.world.endConnection outcome) ↔ Ends outcome)
    (holds : server.connected = false → Idle server.world) (moves : Moves platform server input next) :
    (next.connected = false → Idle next.world) ↔
      Attended server input ∧ ∀ outcome, input = .clientDisconnected outcome → Ends outcome := by
  cases moves with
  | accept => exact iff_of_true nofun ⟨trivial, nofun⟩
  | monitorLayout monitor serving =>
    exact iff_of_true (fun idle => nomatch serving.symm.trans idle) ⟨trivial, nofun⟩
  | runTask index outcome monitor queued world events requested =>
    by_cases idle : server.connected = false
    · rcases requestLayout_size requested with ⟨rfl, rfl⟩ | ⟨client, rfl, kept⟩
      · refine iff_of_true (fun _ => holds idle) ⟨fun _ client same => ?_, nofun⟩
        exact nomatch queued.symm.trans same
      · refine iff_of_false (fun left => kept (sized _ (left idle))) fun ⟨attended, _⟩ => ?_
        exact attended idle client queued
    · exact iff_of_true (fun ended => (idle ended).elim) ⟨fun ended => (idle ended).elim, nofun⟩
  | display op serving same world events transition =>
    exact iff_of_true (fun idle => nomatch serving.symm.trans idle) ⟨trivial, nofun⟩
  | clientDisconnected outcome serving =>
    constructor
    · refine fun idle => ⟨trivial, ?_⟩
      rintro _ ⟨⟩
      exact (ends outcome).mp (idle rfl)
    · exact fun ⟨_, ended⟩ _ => (ends outcome).mpr (ended outcome rfl)

/-- The end of a connection leaves the original mode exactly when the restore returns it. -/
theorem endConnection_active_iff (remembered : Remembered original world)
    (outcome : RestoreOutcome) : (world.endConnection outcome).host.active = original ↔
      ∀ switcher, world.display.modeSwitcher = some switcher →
        Restorability.Returns original (world.host, switcher) (.restore outcome) := by
  unfold World.endConnection World.disconnect MacDisplay.clientDisconnected
  unfold Remembered at remembered
  cases present : world.display.modeSwitcher with
  | none =>
    rw [present] at remembered
    refine iff_of_true (by_contra fun away => ?_) nofun
    exact Bool.false_ne_true (remembered away)
  | some switcher =>
    rw [present] at remembered
    refine (Restorability.restore_returns_iff remembered).trans ?_
    simp

private theorem requestLayout_remembered (remembered : Remembered original world)
    {monitor : Option (UInt32 × UInt32)} {outcome : SwitchOutcome}
    (requested : Transition platform world (.requestLayout monitor outcome) after events) :
    Remembered original after := by
  cases requested with
  | noMonitor outcome => exact remembered
  | requestLayout client outcome =>
    unfold Remembered at remembered ⊢
    rcases requestLayout_host platform.fl world.host world.display client outcome with
      ⟨host, same | created⟩ | ⟨mode, _, switched⟩
    · dsimp only
      rw [host, same]
      exact remembered
    · dsimp only
      rw [host, created]
      exact remembered
    · dsimp only
      rw [switched]
      exact fun _ => rfl

private theorem display_remembered (remembered : Remembered original world) (same : SameConnection op)
    (transition : Transition platform world op after events) : Remembered original after := by
  cases transition with
  | size =>
    unfold Remembered at remembered ⊢
    have kept : (world.display.size world.host).2.modeSwitcher = world.display.modeSwitcher := by
      unfold MacDisplay.size
      split <;> rfl
    dsimp only
    rw [kept]
    exact remembered
  | noMonitor outcome => exact remembered
  | requestLayout client outcome =>
    exact requestLayout_remembered remembered (.requestLayout client outcome)
  | updates created =>
    unfold Remembered at remembered ⊢
    rcases updates_cases world.host world.display created with failed | ⟨updates, _, started⟩
    · rw [failed]
      exact remembered
    · rw [started]
      exact remembered
  | poll index live found => exact remembered
  | frame index capture live updates forceKeyframe events found framed => exact remembered
  | drop index live found => exact remembered
  | clientDisconnected outcome => exact same.elim
  | setAvc420Enabled enabled => exact remembered
  | setForceKeyframe forced => exact remembered

private theorem step_remembered (remembered : Remembered original server.world)
    (returned : Returned original server input) (moves : Moves platform server input next) :
    Remembered original next.world := by
  cases moves with
  | accept => exact remembered
  | monitorLayout monitor serving => exact remembered
  | runTask index outcome monitor queued world events requested =>
    exact requestLayout_remembered remembered requested
  | display op serving same world events transition =>
    exact display_remembered remembered same transition
  | clientDisconnected outcome serving =>
    exact fun away => (away ((endConnection_active_iff remembered outcome).mpr returned)).elim

end Steps

/-- **An idle server.** With nobody connected, no size of a client is kept
exactly when no layout task with a monitor runs then; and the display is in its
original mode as well exactly when besides every restore returns it. -/
theorem left_alone_iff (platform : Platform) (host : Host) (mode : CaptureMode)
    (aspectMode : AspectMode) (inputs : List Input) :
    (Runs.Always (step platform) SizeForgotten (Server.fresh host mode aspectMode) inputs ↔
      Runs.Meets (step platform) (fun _ => Attended) [] (Server.fresh host mode aspectMode) inputs) ∧
    (Runs.Always (step platform) (LeftAlone host.active) (Server.fresh host mode aspectMode) inputs ↔
      Runs.Meets (step platform)
        (fun _ server input => Attended server input ∧ Returned host.active server input) []
        (Server.fresh host mode aspectMode) inputs) := by
  constructor
  · have survives : ∀ server (_ : List Event) input next emitted, SizeForgotten server → True →
        step platform server input = some (next, emitted) →
        (SizeForgotten next ↔ Attended server input) := by
      intro server _ input next emitted holds _ stepped
      have survived := idle_survives_iff (fun world => world.display.currentSize = none)
        (fun _ => True) (fun _ => id) (fun _ => iff_of_true rfl trivial) holds (step_moves stepped)
      exact survived.trans (and_iff_left fun _ _ => trivial)
    exact Runs.always_iff_meets SizeForgotten (fun _ => True) survives
      (fun _ _ _ _ _ _ _ _ _ => trivial) (fun _ => rfl) trivial
  · have survives : ∀ server (_ : List Event) input next emitted, LeftAlone host.active server →
        Remembered host.active server.world → step platform server input = some (next, emitted) →
        (LeftAlone host.active next ↔ Attended server input ∧ Returned host.active server input) := by
      intro server _ input next emitted holds remembered stepped
      have survived := idle_survives_iff
        (fun world => world.display.currentSize = none ∧ world.host.active = host.active)
        (fun outcome => Returned host.active server (.clientDisconnected outcome)) (fun _ => And.left)
        (fun outcome => (and_iff_right rfl).trans (endConnection_active_iff remembered outcome))
        holds (step_moves stepped)
      refine survived.trans (and_congr_right fun _ => ?_)
      cases input <;> simp [Returned]
    have kept : ∀ server (_ : List Event) input next emitted, LeftAlone host.active server →
        Remembered host.active server.world → Attended server input ∧ Returned host.active server input →
        step platform server input = some (next, emitted) → Remembered host.active next.world :=
      fun _ _ _ _ _ _ remembered ⟨_, returned⟩ stepped =>
        step_remembered remembered returned (step_moves stepped)
    exact Runs.always_iff_meets (LeftAlone host.active)
      (fun server => Remembered host.active server.world) survives kept
      (fun _ => ⟨rfl, rfl⟩) (fun away => (away rfl).elim)

/-- A task queued by a connection runs after it has ended: the display is
switched with nobody connected, and the size is kept for the next client. -/
theorem late_task_switches_idle_display :
    (∃ final events, Runs.run (step exactPlatform) (Server.fresh laptop .bgra .fit)
        [.accept, .monitorLayout (some (1280, 720)), .clientDisconnected .completed,
          .runTask 0 (.completed ⟨1280, 720, 0⟩)] = some (final, events) ∧
      final.connected = false ∧ final.world.display.currentSize = some ⟨1280, 720⟩ ∧
      final.world.host.active = ⟨1280, 720, 0⟩) ∧
    ¬ Runs.Always (step exactPlatform) SizeForgotten (Server.fresh laptop .bgra .fit)
      [.accept, .monitorLayout (some (1280, 720)), .clientDisconnected .completed,
        .runTask 0 (.completed ⟨1280, 720, 0⟩)] := by
  refine ⟨⟨_, _, rfl, rfl, rfl, rfl⟩, fun always => ?_⟩
  have forgotten := Runs.always_final always rfl rfl
  exact nomatch forgotten

end Osxrdp.IdleServer
