import Osxrdp.Handshake

/-! The quit event from the signal task to the end of `RdpServer::run`. One
channel is read by two loops: `run` reads it while no client is connected, and
the dispatcher of `client_loop` while one is. -/
namespace Osxrdp.Shutdown
open Handshake (Credentials NamedChannels)

/-- A message for the sound channel. The samples are the processor's business. -/
inductive RdpsndServerMessage where
  | wave
  | setVolume
  | close
  | error
  deriving DecidableEq, Repr

/-- What the clipboard sends to a client. -/
inductive ClipboardMessage where
  | sendInitiateCopy
  | sendFormatData
  | sendInitiatePaste
  | error
  deriving DecidableEq, Repr

/-- An event that other parts of the program send to the server. -/
inductive ServerEvent where
  | quit (reason : String)
  | clipboard (message : ClipboardMessage)
  | rdpsnd (message : RdpsndServerMessage)
  | setCredentials (creds : Credentials)
  | getLocalAddr
  deriving DecidableEq, Repr

/-- How a client's loop ends. -/
inductive RunState where
  | «continue»
  | disconnect
  | deactivationReactivation (desktopSize : DesktopSize)
  deriving DecidableEq, Repr

/-- An error with its contexts, the outermost first. -/
abbrev Error := List String

/-- What a message comes to: the processor may refuse it, and encoding or
writing its PDUs may fail. -/
inductive Sent where
  | written
  | refused (error : Error)
  | failed (error : Error)
  deriving DecidableEq, Repr

/-- Where `run` is. `clientLoop` holds the events that the dispatcher has taken
off the channel and not gone through, and its wave limit. -/
inductive Phase where
  | select (accepting : Bool)
  | connection
  | clientLoop (events : List ServerEvent) (waveLimit : Nat)
  | returned
  deriving DecidableEq, Repr

/-- `channel` is what the senders have put on the event channel and nobody has
taken, and `signalled` the state of the signal task. -/
structure RdpServer where
  phase : Phase
  channel : List ServerEvent
  signalled : Bool
  creds : Option Credentials
  staticChannels : NamedChannels
  localAddr : Option String
  deriving DecidableEq, Repr

/-- What is seen of a run. -/
inductive Event where
  | accepted
  | quitTaken (reason : String)
  | localAddr (addr : Option String)
  | connectionError (error : Error)
  | clientDisconnected
  | returned
  deriving DecidableEq, Repr

/-- What happens next. `select!` takes whichever branch is ready, and the tasks
of a client loop run in any order until one of them ends it. -/
inductive Input where
  | signal
  | send (event : ServerEvent)
  | recv
  | accept
  | acceptFailed
  | clientLoop (staticChannels : NamedChannels)
  | connectionEnds (error : Option Error)
  | recvMany
  | dispatch (sent : Sent)
  | loopEnds (result : Except Error RunState)
  deriving DecidableEq, Repr

/-- The event is a quit. -/
def isQuit : ServerEvent → Bool
  | .quit _ => true
  | _ => false

/-- The quits among events that are taken off the channel. -/
def quitsTaken (events : List ServerEvent) : List Event :=
  events.filterMap fun
    | .quit reason => some (.quitTaken reason)
    | _ => none

namespace RdpServer

/-- `run_connection` returns to `run`, with an error or without. -/
def endConnection (server : RdpServer) (error : Option Error) : RdpServer × List Event :=
  ({ server with phase := .select true, staticChannels := [] },
    (error.map Event.connectionError).toList ++ [.clientDisconnected])

/-- The arm of `run` for an event. -/
def handleEvent (server : RdpServer) : ServerEvent → RdpServer × List Event
  | .quit reason => ({ server with phase := .returned }, [.quitTaken reason, .returned])
  | .getLocalAddr => ({ server with phase := .select true }, [.localAddr server.localAddr])
  | .setCredentials creds => ({ server with phase := .select true, creds := some creds }, [])
  | .clipboard _ | .rdpsnd _ => ({ server with phase := .select true }, [])

/-- One branch of the `select!` in `run`. A failing `accept` only disables its branch. -/
def select (server : RdpServer) (accepting : Bool) : Input → Option (RdpServer × List Event)
  | .recv => match server.channel with
    | [] => none
    | event :: channel => some ({ server with channel }.handleEvent event)
  | .accept => if accepting then some ({ server with phase := .connection }, [.accepted]) else none
  | .acceptFailed => if accepting then some ({ server with phase := .select false }, []) else none
  | _ => none

/-- `run_connection` while no client loop runs. -/
def connection (server : RdpServer) : Input → Option (RdpServer × List Event)
  | .clientLoop staticChannels => some ({ server with phase := .clientLoop [] 4, staticChannels }, [])
  | .connectionEnds error => some (server.endConnection error)
  | _ => none

/-- The messages of a processor go out on the channel that was found for it. -/
def sendMessages (server : RdpServer) (channel context : String) : Sent → Except Error Unit
  | .refused error => .error (context :: error)
  | .failed error => match server.staticChannels.lookup channel with
    | none | some none => .error ["SVC channel not found"]
    | some (some _) => .error error
  | .written => match server.staticChannels.lookup channel with
    | none | some none => .error ["SVC channel not found"]
    | some (some _) => .ok ()

/-- One turn of the loop in `dispatch_server_events`, with the wave limit. -/
def dispatchServerEvent (server : RdpServer) (waveLimit : Nat) (sent : Sent) :
    ServerEvent → Except Error (RunState × Nat × RdpServer × List Event)
  | .quit _ => .ok (.disconnect, waveLimit, server, [])
  | .getLocalAddr => .ok (.continue, waveLimit, server, [.localAddr server.localAddr])
  | .setCredentials creds => .ok (.continue, waveLimit, { server with creds := some creds }, [])
  | .rdpsnd message =>
    if (server.staticChannels.lookup "rdpsnd").isNone then .ok (.continue, waveLimit, server, [])
    else match message with
    | .error => .ok (.continue, waveLimit, server, [])
    | .wave =>
      if waveLimit = 0 then .ok (.continue, waveLimit, server, [])
      else do
        server.sendMessages "rdpsnd" "failed to send rdpsnd event" sent
        return (.continue, waveLimit - 1, server, [])
    | .setVolume | .close => do
      server.sendMessages "rdpsnd" "failed to send rdpsnd event" sent
      return (.continue, waveLimit, server, [])
  | .clipboard message =>
    if (server.staticChannels.lookup "cliprdr").isNone then .ok (.continue, waveLimit, server, [])
    else match message with
    | .error => .ok (.continue, waveLimit, server, [])
    | .sendInitiateCopy | .sendFormatData | .sendInitiatePaste => do
      server.sendMessages "cliprdr" "failed to send clipboard event" sent
      return (.continue, waveLimit, server, [])

/-- `client_loop` returns to `accept_finalize`, which goes on only with a
reactivation. The events not gone through are dropped with the task. -/
def endLoop (server : RdpServer) : Except Error RunState → Option (RdpServer × List Event)
  | .error error => some (server.endConnection (some ("client loop failure" :: error)))
  | .ok .disconnect => some (server.endConnection none)
  | .ok (.deactivationReactivation _) => some ({ server with phase := .connection, staticChannels := [] }, [])
  | .ok .continue => none

/-- One step of the tasks of `client_loop`. -/
def clientLoop (server : RdpServer) (events : List ServerEvent) (waveLimit : Nat) :
    Input → Option (RdpServer × List Event)
  | .recvMany => match events, server.channel with
    | [], event :: channel =>
      some ({ server with phase := .clientLoop (event :: channel) 4, channel := [] },
        quitsTaken (event :: channel))
    | _, _ => none
  | .dispatch sent => match events with
    | [] => none
    | event :: rest => match server.dispatchServerEvent waveLimit sent event with
      | .ok (.continue, waveLimit, server, shown) =>
        some ({ server with phase := .clientLoop rest waveLimit }, shown)
      | .ok (state, _, server, shown) => (server.endLoop (.ok state)).map fun (server, later) =>
        (server, shown ++ later)
      | .error error => server.endLoop (.error error)
  | .loopEnds result => server.endLoop result
  | _ => none

/-- `run` has bound its listener and sits in the first `select!`. -/
def listening (addr : String) (creds : Option Credentials) : RdpServer where
  phase := .select true
  channel := []
  signalled := false
  creds := creds
  staticChannels := []
  localAddr := some addr

/-- A client is being served. -/
def connected (server : RdpServer) : Bool :=
  match server.phase with
  | .connection | .clientLoop _ _ => true
  | .select _ | .returned => false

end RdpServer

/-- The signal task sends its quit once, and the other senders send no quit. -/
def step : Runs.System RdpServer Input Event
  | server, .signal =>
    if server.signalled then none
    else some ({ server with signalled := true, channel := server.channel ++ [.quit "signal"] }, [])
  | server, .send event =>
    if isQuit event then none else some ({ server with channel := server.channel ++ [event] }, [])
  | server, input => match server.phase with
    | .select accepting => server.select accepting input
    | .connection => server.connection input
    | .clientLoop events waveLimit => server.clientLoop events waveLimit input
    | .returned => none

/-- Once the quit is taken off the channel no connection is accepted, and with
no client served `run` has returned. -/
def Stops (server : RdpServer) (past : List Event) : Prop :=
  ∀ before reason after, past = before ++ .quitTaken reason :: after →
    Event.accepted ∉ after ∧ (server.connected = false → server.phase = .returned)

/-- The dispatcher of a client loop finds no quit on the channel. -/
def LeavesQuit (server : RdpServer) : Input → Prop
  | .recvMany => ∀ event ∈ server.channel, isQuit event = false
  | _ => True

instance : ∀ server input, Decidable (LeavesQuit server input)
  | server, .recvMany => inferInstanceAs (Decidable (∀ event ∈ server.channel, isQuit event = false))
  | _, .signal | _, .send _ | _, .recv | _, .accept | _, .acceptFailed | _, .clientLoop _
  | _, .connectionEnds _ | _, .dispatch _ | _, .loopEnds _ => isTrue trivial

/-- Only the signal task puts a quit on the channel. -/
def Signalled (server : RdpServer) : Prop :=
  ∀ event ∈ server.channel, isQuit event = true → server.signalled = true

/-- The quit is taken and gone, and `run` goes on. -/
structure Deaf (server : RdpServer) (past : List Event) : Prop where
  signalled : server.signalled = true
  gone : ∀ event ∈ server.channel, isQuit event = false
  running : server.phase ≠ .returned
  taken : ∃ reason, Event.quitTaken reason ∈ past

/-- Events that neither take the quit nor accept. -/
def Quiet (events : List Event) : Prop :=
  Event.accepted ∉ events ∧ ∀ reason, Event.quitTaken reason ∉ events

section Steps
variable {server next : RdpServer} {input : Input} {emitted past : List Event}

/-- `next` has taken at most unimportant events off the channel. -/
structure Keeps (server next : RdpServer) : Prop where
  signalled : next.signalled = server.signalled
  channel : ∀ event ∈ next.channel, event ∈ server.channel
  running : next.phase ≠ .returned

/-- The ways a step can go. -/
inductive Moves (server : RdpServer) : Input → RdpServer → List Event → Prop
  | signal (unsent : server.signalled = false) : Moves server .signal
      { server with signalled := true, channel := server.channel ++ [.quit "signal"] } []
  | send (event : ServerEvent) (other : isQuit event = false) : Moves server (.send event)
      { server with channel := server.channel ++ [event] } []
  | stop (reason : String) (channel : List ServerEvent) (accepting : Bool)
      (idle : server.phase = .select accepting) (first : server.channel = .quit reason :: channel) :
      Moves server .recv { server with channel, phase := .returned } [.quitTaken reason, .returned]
  | accept (idle : server.phase = .select true) :
      Moves server .accept { server with phase := .connection } [.accepted]
  | recvMany (waveLimit : Nat) (event : ServerEvent) (channel : List ServerEvent)
      (waiting : server.phase = .clientLoop [] waveLimit) (held : server.channel = event :: channel) :
      Moves server .recvMany { server with phase := .clientLoop (event :: channel) 4, channel := [] }
        (quitsTaken (event :: channel))
  | other (input : Input) (next : RdpServer) (emitted : List Event) (leaves : input ≠ .recvMany)
      (running : server.phase ≠ .returned) (keeps : Keeps server next) (quiet : Quiet emitted) :
      Moves server input next emitted

private theorem quiet_nil : Quiet [] := ⟨nofun, nofun⟩

private theorem quiet_append {first second : List Event} (quietFirst : Quiet first)
    (quietSecond : Quiet second) : Quiet (first ++ second) := by
  constructor
  · rw [List.mem_append, not_or]
    exact ⟨quietFirst.1, quietSecond.1⟩
  · intro reason
    rw [List.mem_append, not_or]
    exact ⟨quietFirst.2 reason, quietSecond.2 reason⟩

private theorem endConnection_quiet (server : RdpServer) (error : Option Error) :
    Quiet (server.endConnection error).2 := by
  cases error with
  | none => exact ⟨by simp [RdpServer.endConnection], by simp [RdpServer.endConnection]⟩
  | some error => exact ⟨by simp [RdpServer.endConnection], by simp [RdpServer.endConnection]⟩

private theorem endLoop_keeps {result : Except Error RunState}
    (ended : server.endLoop result = some (next, emitted)) : Keeps server next ∧ Quiet emitted := by
  match result with
  | .error error =>
    cases ended
    exact ⟨⟨rfl, fun _ held => held, nofun⟩, endConnection_quiet server _⟩
  | .ok .disconnect =>
    cases ended
    exact ⟨⟨rfl, fun _ held => held, nofun⟩, endConnection_quiet server _⟩
  | .ok (.deactivationReactivation _) =>
    cases ended
    exact ⟨⟨rfl, fun _ held => held, nofun⟩, quiet_nil⟩
  | .ok .continue => exact nomatch ended

/-- An event of the dispatcher leaves channel and phase alone. -/
theorem dispatchServerEvent_effect {waveLimit left : Nat} {sent : Sent} {event : ServerEvent}
    {state : RunState}
    (dispatched : server.dispatchServerEvent waveLimit sent event = .ok (state, left, next, emitted)) :
    (∃ creds, next = { server with creds }) ∧ Quiet emitted := by
  have unchanged {context name : String} {limit : Nat}
      (sends : (do
        server.sendMessages name context sent
        return (.continue, limit, server, [])) = Except.ok (state, left, next, emitted)) :
      (∃ creds, next = { server with creds }) ∧ Quiet emitted := by
    cases outcome : server.sendMessages name context sent with
    | error error => rw [outcome] at sends; exact nomatch sends
    | ok _ =>
      rw [outcome] at sends
      cases sends
      exact ⟨⟨server.creds, rfl⟩, quiet_nil⟩
  cases event with
  | quit reason =>
    cases dispatched
    exact ⟨⟨server.creds, rfl⟩, quiet_nil⟩
  | getLocalAddr =>
    cases dispatched
    exact ⟨⟨server.creds, rfl⟩, by simp [Quiet]⟩
  | setCredentials creds =>
    cases dispatched
    exact ⟨⟨some creds, rfl⟩, quiet_nil⟩
  | rdpsnd message =>
    rw [RdpServer.dispatchServerEvent.eq_def] at dispatched
    dsimp only at dispatched
    split at dispatched
    · cases dispatched
      exact ⟨⟨server.creds, rfl⟩, quiet_nil⟩
    · cases message with
      | error =>
        cases dispatched
        exact ⟨⟨server.creds, rfl⟩, quiet_nil⟩
      | wave =>
        change (if waveLimit = 0 then _ else _) = _ at dispatched
        split at dispatched
        · cases dispatched
          exact ⟨⟨server.creds, rfl⟩, quiet_nil⟩
        · exact unchanged dispatched
      | setVolume => exact unchanged dispatched
      | close => exact unchanged dispatched
  | clipboard message =>
    rw [RdpServer.dispatchServerEvent.eq_def] at dispatched
    dsimp only at dispatched
    split at dispatched
    · cases dispatched
      exact ⟨⟨server.creds, rfl⟩, quiet_nil⟩
    · cases message with
      | error =>
        cases dispatched
        exact ⟨⟨server.creds, rfl⟩, quiet_nil⟩
      | sendInitiateCopy => exact unchanged dispatched
      | sendFormatData => exact unchanged dispatched
      | sendInitiatePaste => exact unchanged dispatched

private theorem dispatch_moves {event : ServerEvent} {rest : List ServerEvent} {waveLimit : Nat}
    {sent : Sent} (running : server.phase ≠ .returned)
    (dispatched : server.clientLoop (event :: rest) waveLimit (.dispatch sent) = some (next, emitted)) :
    Moves server (.dispatch sent) next emitted := by
  change (match server.dispatchServerEvent waveLimit sent event with
    | .ok (.continue, waveLimit, server, shown) => _
    | .ok (state, _, server, shown) => _
    | .error error => _) = _ at dispatched
  split at dispatched
  · rename_i left after shown outcome
    obtain ⟨⟨creds, rfl⟩, quiet⟩ := dispatchServerEvent_effect outcome
    cases dispatched
    exact .other _ _ _ nofun running ⟨rfl, fun _ held => held, nofun⟩ quiet
  · rename_i state left after shown outcome
    obtain ⟨⟨creds, rfl⟩, quiet⟩ := dispatchServerEvent_effect outcome
    obtain ⟨⟨ended, later⟩, left, same⟩ := Option.map_eq_some_iff.mp dispatched
    cases same
    obtain ⟨keeps, quietLater⟩ := endLoop_keeps left
    exact .other _ _ _ nofun running ⟨keeps.signalled, keeps.channel, keeps.running⟩ (quiet_append quiet quietLater)
  · obtain ⟨keeps, quiet⟩ := endLoop_keeps dispatched
    exact .other _ _ _ nofun running keeps quiet

private theorem select_moves {accepting : Bool} (idle : server.phase = .select accepting)
    (selected : server.select accepting input = some (next, emitted)) :
    Moves server input next emitted := by
  have running : server.phase ≠ .returned := by simp [idle]
  cases input with
  | recv =>
    cases held : server.channel with
    | nil =>
      rw [RdpServer.select, held] at selected
      exact nomatch selected
    | cons event channel =>
      rw [RdpServer.select, held] at selected
      have kept : ∀ later ∈ channel, later ∈ server.channel := fun later member =>
        held ▸ List.mem_cons_of_mem event member
      cases event with
      | quit reason =>
        cases selected
        exact .stop reason channel accepting idle held
      | getLocalAddr =>
        cases selected
        exact .other _ _ _ nofun running ⟨rfl, kept, nofun⟩ (by simp [Quiet])
      | setCredentials creds =>
        cases selected
        exact .other _ _ _ nofun running ⟨rfl, kept, nofun⟩ quiet_nil
      | clipboard message =>
        cases selected
        exact .other _ _ _ nofun running ⟨rfl, kept, nofun⟩ quiet_nil
      | rdpsnd message =>
        cases selected
        exact .other _ _ _ nofun running ⟨rfl, kept, nofun⟩ quiet_nil
  | accept =>
    cases accepting with
    | true =>
      cases selected
      exact .accept idle
    | false => exact nomatch selected
  | acceptFailed =>
    cases accepting with
    | true =>
      cases selected
      exact .other _ _ _ nofun running ⟨rfl, fun _ held => held, nofun⟩ quiet_nil
    | false => exact nomatch selected
  | _ => exact nomatch selected

private theorem connection_moves (running : server.phase ≠ .returned)
    (connected : server.connection input = some (next, emitted)) : Moves server input next emitted := by
  cases input with
  | clientLoop staticChannels =>
    cases connected
    exact .other _ _ _ nofun running ⟨rfl, fun _ held => held, nofun⟩ quiet_nil
  | connectionEnds error =>
    cases connected
    exact .other _ _ _ nofun running ⟨rfl, fun _ held => held, nofun⟩ (endConnection_quiet server error)
  | _ => exact nomatch connected

private theorem clientLoop_moves {events : List ServerEvent} {waveLimit : Nat}
    (looping : server.phase = .clientLoop events waveLimit)
    (stepped : server.clientLoop events waveLimit input = some (next, emitted)) :
    Moves server input next emitted := by
  have running : server.phase ≠ .returned := by simp [looping]
  cases input with
  | recvMany =>
    rw [RdpServer.clientLoop.eq_def] at stepped
    dsimp only at stepped
    split at stepped
    · rename_i event channel held
      cases stepped
      exact .recvMany waveLimit event channel looping held
    · exact nomatch stepped
  | dispatch sent =>
    cases events with
    | nil => exact nomatch stepped
    | cons event rest => exact dispatch_moves running stepped
  | loopEnds result =>
    obtain ⟨keeps, quiet⟩ := endLoop_keeps stepped
    exact .other _ _ _ nofun running keeps quiet
  | _ => exact nomatch stepped

/-- All that a step can do. -/
theorem step_moves (stepped : step server input = some (next, emitted)) :
    Moves server input next emitted := by
  have serving (phased : step server input = match server.phase with
      | .select accepting => server.select accepting input
      | .connection => server.connection input
      | .clientLoop events waveLimit => server.clientLoop events waveLimit input
      | .returned => none) : Moves server input next emitted := by
    rw [phased] at stepped
    cases phase : server.phase with
    | select accepting =>
      rw [phase] at stepped
      exact select_moves phase stepped
    | connection =>
      rw [phase] at stepped
      exact connection_moves (by simp [phase]) stepped
    | clientLoop events waveLimit =>
      rw [phase] at stepped
      exact clientLoop_moves phase stepped
    | returned =>
      rw [phase] at stepped
      exact nomatch stepped
  cases input with
  | signal =>
    change (if server.signalled then none else some (_, [])) = _ at stepped
    split at stepped
    · exact nomatch stepped
    · rename_i unsent
      cases stepped
      exact .signal (by simpa using unsent)
  | send event =>
    change (if isQuit event then none else some (_, [])) = _ at stepped
    split at stepped
    · exact nomatch stepped
    · rename_i other
      cases stepped
      exact .send event (by simpa using other)
  | _ => exact serving rfl

/-- The quit is still to be taken, or `run` has taken it itself. -/
def Obedient (server : RdpServer) (past : List Event) : Prop :=
  Signalled server ∧
    ((∀ reason, Event.quitTaken reason ∉ past) ∨ (server.phase = .returned ∧ Stops server past))

private theorem stops_of_untaken (untaken : ∀ reason, Event.quitTaken reason ∉ past) :
    Stops server past := by
  rintro before reason after rfl
  exact (untaken reason (by simp)).elim

/-- What follows the first quit taken is all that counts. -/
theorem stops_append (untaken : ∀ reason, Event.quitTaken reason ∉ past)
    (stops : Stops server emitted) : Stops server (past ++ emitted) := by
  intro before reason after split
  obtain ⟨more, rfl, shown⟩ | ⟨more, held, shown⟩ := List.append_eq_append_iff.mp split
  · exact stops more reason after shown
  · cases more with
    | nil => exact stops [] reason after shown.symm
    | cons first more =>
      cases shown
      exact (untaken reason (held ▸ by simp)).elim

private theorem quitsTaken_eq_nil {events : List ServerEvent}
    (none : ∀ event ∈ events, isQuit event = false) : quitsTaken events = [] := by
  apply List.filterMap_eq_nil_iff.mpr
  intro event member
  cases event with
  | quit reason => exact nomatch none _ member
  | _ => rfl

private theorem obedient_moves (obedient : Obedient server past) (leaves : LeavesQuit server input)
    (moves : Moves server input next emitted) : Obedient next (past ++ emitted) := by
  obtain ⟨signalled, state⟩ := obedient
  have untaken (running : server.phase ≠ .returned) : ∀ reason, Event.quitTaken reason ∉ past :=
    state.resolve_right fun stopped => running stopped.1
  cases moves with
  | signal unsent =>
    refine ⟨fun _ _ _ => rfl, ?_⟩
    rw [List.append_nil]
    exact state
  | send event other =>
    refine ⟨fun held member quits => ?_, ?_⟩
    · rcases List.mem_append.mp member with before | added
      · exact signalled held before quits
      · rw [List.mem_singleton.mp added, other] at quits
        exact nomatch quits
    · rw [List.append_nil]
      exact state
  | stop reason channel accepting idle first =>
    refine ⟨fun held member => signalled held (first ▸ List.mem_cons_of_mem _ member), .inr ⟨rfl, ?_⟩⟩
    apply stops_append (untaken (by simp [idle]))
    intro before reason after split
    refine ⟨fun accepted => ?_, fun _ => rfl⟩
    cases before with
    | nil =>
      cases split
      simp at accepted
    | cons _ before =>
      obtain ⟨_, rest⟩ := List.cons_eq_cons.mp split
      cases before with
      | nil => exact nomatch (List.cons_eq_cons.mp rest).1
      | cons _ before =>
        have empty := (List.cons_eq_cons.mp rest).2
        simp at empty
  | accept idle =>
    refine ⟨signalled, .inl fun reason => ?_⟩
    rw [List.mem_append, not_or]
    exact ⟨untaken (by simp [idle]) reason, by simp⟩
  | recvMany waveLimit event channel waiting held =>
    refine ⟨List.forall_mem_nil _, .inl fun reason => ?_⟩
    rw [quitsTaken_eq_nil (fun event member => leaves event (held ▸ member)), List.append_nil]
    exact untaken (by simp [waiting]) reason
  | other _ _ _ _ running keeps quiet =>
    refine ⟨fun event member quits => ?_, .inl fun reason => ?_⟩
    · rw [keeps.signalled]
      exact signalled event (keeps.channel event member) quits
    · rw [List.mem_append, not_or]
      exact ⟨untaken running reason, quiet.2 reason⟩

/-- A client loop that takes the quit leaves nothing on the channel that could end `run`. -/
theorem taken_deaf (obedient : Obedient server past) (takes : ¬ LeavesQuit server input)
    (moves : Moves server input next emitted) : Deaf next (past ++ emitted) := by
  cases moves with
  | recvMany waveLimit event channel waiting held =>
    simp only [LeavesQuit, not_forall, Bool.not_eq_false] at takes
    obtain ⟨quit, member, quits⟩ := takes
    refine ⟨obedient.1 quit member quits, List.forall_mem_nil _, nofun, ?_⟩
    rw [held] at member
    cases quit with
    | quit reason =>
      exact ⟨reason, List.mem_append_right _ (List.mem_filterMap.mpr ⟨_, member, rfl⟩)⟩
    | _ => exact nomatch quits
  | other input _ _ leaves =>
    cases input with
    | recvMany => exact (leaves rfl).elim
    | _ => exact (takes trivial).elim
  | _ => exact (takes trivial).elim

private theorem deaf_moves (deaf : Deaf server past) (moves : Moves server input next emitted) :
    Deaf next (past ++ emitted) := by
  obtain ⟨reason, taken⟩ := deaf.taken
  have taken : ∃ reason, Event.quitTaken reason ∈ past ++ emitted :=
    ⟨reason, List.mem_append_left _ taken⟩
  cases moves with
  | signal unsent => exact nomatch unsent.symm.trans deaf.signalled
  | send event other =>
    refine ⟨deaf.signalled, fun held member => ?_, deaf.running, taken⟩
    rcases List.mem_append.mp member with before | added
    · exact deaf.gone held before
    · rw [List.mem_singleton.mp added]
      exact other
  | stop reason channel accepting idle first =>
    have quit := deaf.gone (.quit reason) (by simp [first])
    exact nomatch quit
  | accept idle => exact ⟨deaf.signalled, deaf.gone, nofun, taken⟩
  | recvMany waveLimit event channel waiting held =>
    exact ⟨deaf.signalled, List.forall_mem_nil _, nofun, taken⟩
  | other _ _ _ _ running keeps quiet =>
    refine ⟨keeps.signalled.trans deaf.signalled, ?_, keeps.running, taken⟩
    exact fun event member => deaf.gone event (keeps.channel event member)

end Steps

/-- **The quit stops the server exactly when `run` takes it itself.** -/
theorem quit_stops_server_iff (addr : String) (creds : Option Credentials) {inputs : List Input}
    {final : RdpServer} {events : List Event}
    (ran : Runs.run step (.listening addr creds) inputs = some (final, events)) :
    (Runs.Meets step (fun _ => LeavesQuit) [] (.listening addr creds) inputs → Stops final events) ∧
      (final.connected = false → Stops final events →
        Runs.Meets step (fun _ => LeavesQuit) [] (.listening addr creds) inputs) := by
  have start : Obedient (.listening addr creds) [] := ⟨nofun, .inl nofun⟩
  have kept (server : RdpServer) (past : List Event) (input : Input) (next : RdpServer)
      (emitted : List Event) (obedient : Obedient server past) (leaves : LeavesQuit server input)
      (stepped : step server input = some (next, emitted)) : Obedient next (past ++ emitted) :=
    obedient_moves obedient leaves (step_moves stepped)
  constructor
  · intro meets
    obtain ⟨_, untaken | stopped⟩ := Runs.invariant_of_meets Obedient kept start meets ran
    · exact stops_of_untaken untaken
    · exact stopped.2
  · intro alone stops
    refine Runs.meets_of_escape Obedient Deaf kept ?_ ?_ start ran fun deaf => ?_
    · exact fun _ _ _ _ _ obedient takes stepped => taken_deaf obedient takes (step_moves stepped)
    · exact fun _ _ _ _ _ deaf stepped => deaf_moves deaf (step_moves stepped)
    · obtain ⟨reason, taken⟩ := deaf.taken
      obtain ⟨before, after, split⟩ := List.append_of_mem taken
      exact deaf.running ((stops before reason after split).2 alone)

/-- A client is turned away before its loop, and then `run` takes the quit. -/
theorem quit_stops_idle_server : ∃ final events,
    Runs.run step (.listening "0.0.0.0:3389" none)
      [.accept, .connectionEnds (some ["accept_begin failed"]), .signal, .recv] = some (final, events) ∧
      final.phase = .returned ∧ Stops final events := by
  have ran : Runs.run step (.listening "0.0.0.0:3389" none)
      [.accept, .connectionEnds (some ["accept_begin failed"]), .signal, .recv] =
      some ({ RdpServer.listening "0.0.0.0:3389" none with phase := .returned, signalled := true },
        [.accepted, .connectionError ["accept_begin failed"], .clientDisconnected, .quitTaken "signal",
          .returned]) := rfl
  exact ⟨_, _, ran, rfl, (quit_stops_server_iff "0.0.0.0:3389" none ran).1 (by decide)⟩

/-- A connected client's dispatcher takes the quit, and `run` accepts the next client. -/
theorem quit_in_client_loop_is_lost : ∃ final events,
    Runs.run step (.listening "0.0.0.0:3389" none)
      [.accept, .clientLoop [], .signal, .recvMany, .dispatch .written, .accept] = some (final, events) ∧
      ¬ Stops final events := by
  refine ⟨_, _, rfl, fun stops => ?_⟩
  have accepted := (stops [.accepted] "signal" [.clientDisconnected, .accepted] rfl).1
  exact accepted (by simp)

end Osxrdp.Shutdown
